import StreamStore.Proofs.StoreCalls
import StreamStore.Proofs.TextPieces

/-!
# What a call does to a table

Three things can happen to a table in one call: nothing, some families are added to
it, or a list of cells is written to it, each of which has a family that the table
has.  `TableStep` lists them, `Call.tableStep` is the proof that there are no others,
and what holds of tables in every run is derived from it.

A write is refused as a whole or done as a whole.  Which of the two it is depends on
the families of the table and on nothing else in the store (`putCells_fst_congr`), so
it does not matter what other writes come first.
-/

namespace StreamStore

/-! ### Families -/

/-- The family of a cell: what stands in its qualifier before the first colon. -/
def Cell.family (c : Cell) : String :=
  String.ofList (c.qualifier.toList.takeWhile (· != ':'))

theorem familyOf_qualifier (c : Cell) : familyOf c.qualifier = c.family := by
  rw [Cell.family, Text.takeWhile_ne_eq, familyOf]
  cases Text.cutOnce ':' c.qualifier.toList with
  | none => exact (String.ofList_toList).symm
  | some cut => rfl

namespace Table

variable {t : Table}

theorem hasFamily_iff {c : Cell} : t.hasFamily c.qualifier = true ↔ c.family ∈ t.families := by
  rw [hasFamily, familyOf_qualifier, List.contains_iff_mem]

theorem addFamily_of_mem {family : String} (h : family ∈ t.families) : t.addFamily family = t := by
  rw [addFamily, if_pos (List.contains_iff_mem.2 h)]

theorem addFamily_of_notMem {family : String} (h : family ∉ t.families) :
    t.addFamily family = { t with families := t.families ++ [family] } := by
  rw [addFamily, if_neg (mt List.contains_iff_mem.1 h)]

@[simp] theorem rows_addFamily (t : Table) (family : String) :
    (t.addFamily family).rows = t.rows := by
  rw [addFamily]
  split <;> rfl

theorem families_prefix_addFamily (t : Table) (family : String) :
    t.families <+: (t.addFamily family).families := by
  rw [addFamily]
  split
  · exact List.prefix_rfl
  · exact List.prefix_append _ _

theorem mem_families_addFamily (t : Table) (family : String) :
    family ∈ (t.addFamily family).families := by
  by_cases h : family ∈ t.families
  · rwa [addFamily_of_mem h]
  · rw [addFamily_of_notMem h]
    exact List.mem_append_right _ (List.mem_singleton_self family)

theorem nodup_families_addFamily (h : t.families.Nodup) (family : String) :
    (t.addFamily family).families.Nodup := by
  by_cases hmem : family ∈ t.families
  · rwa [addFamily_of_mem hmem]
  · rw [addFamily_of_notMem hmem]
    refine List.nodup_append.2 ⟨h, List.pairwise_singleton _ family, ?_⟩
    rintro a ha b hb rfl
    exact hmem (List.mem_singleton.1 hb ▸ ha)

variable (t) (families : List String)

@[simp] theorem rows_addFamilies : (families.foldl addFamily t).rows = t.rows := by
  induction families generalizing t with
  | nil => rfl
  | cons family families ih => rw [List.foldl_cons, ih, rows_addFamily]

theorem families_prefix_addFamilies : t.families <+: (families.foldl addFamily t).families := by
  induction families generalizing t with
  | nil => exact List.prefix_rfl
  | cons family families ih => exact (families_prefix_addFamily t family).trans (ih _)

theorem mem_families_addFamilies {family : String} (h : family ∈ families) :
    family ∈ (families.foldl addFamily t).families := by
  induction families generalizing t with
  | nil => exact absurd h List.not_mem_nil
  | cons first families ih =>
      rcases List.mem_cons.1 h with rfl | h
      · exact (families_prefix_addFamilies _ families).subset (mem_families_addFamily t family)
      · exact ih _ h

theorem nodup_families_addFamilies (h : t.families.Nodup) :
    (families.foldl addFamily t).families.Nodup := by
  induction families generalizing t with
  | nil => exact h
  | cons family families ih => exact ih _ (nodup_families_addFamily h family)

/-- A table is not changed by families that it has. -/
theorem addFamilies_of_subset (h : ∀ family ∈ families, family ∈ t.families) :
    families.foldl addFamily t = t := by
  induction families with
  | nil => rfl
  | cons family families ih =>
      obtain ⟨hfamily, hfamilies⟩ := List.forall_mem_cons.1 h
      rw [List.foldl_cons, addFamily_of_mem hfamily, ih hfamilies]

/-- Writing adds no family. -/
@[simp] theorem families_writes (cells : List Cell) :
    (cells.foldl write t).families = t.families := by
  induction cells generalizing t with
  | nil => rfl
  | cons c cells ih =>
      rw [List.foldl_cons, ih]
      rfl

end Table

/-! ### Writes -/

namespace Store

variable {s s' : Store} {table table' : String} {cells : List Cell}

theorem putCells_of_none (cells : List Cell) (h : s.tables.get? table = none) :
    s.putCells table cells = (.error (tableMissing "put_cells" table), s) := by
  rw [putCells, h]

/-- A write of cells whose families the table has is done. -/
theorem putCells_of_families {t : Table} (h : s.tables.get? table = some t)
    (hcells : ∀ c ∈ cells, c.family ∈ t.families) :
    s.putCells table cells =
      (.ok (), { s with tables := s.tables.insert table (cells.foldl Table.write t) }) := by
  have hfind : cells.find? (fun c => !t.hasFamily c.qualifier) = none := by
    rw [List.find?_eq_none]
    intro c hc
    simp [Table.hasFamily_iff.2 (hcells c hc)]
  rw [putCells, h]
  simp only [hfind]

/-- A write with one cell of no family of the table is refused. -/
theorem putCells_of_stray {t : Table} (h : s.tables.get? table = some t) {c : Cell} (hc : c ∈ cells)
    (hstray : c.family ∉ t.families) : ∃ e, s.putCells table cells = (.error e, s) := by
  have hfind : (cells.find? fun c => !t.hasFamily c.qualifier).isSome = true := by
    rw [List.find?_isSome]
    exact ⟨c, hc, by simpa using mt Table.hasFamily_iff.1 hstray⟩
  obtain ⟨first, hfirst⟩ := Option.isSome_iff_exists.1 hfind
  rw [putCells, h]
  simp only [hfirst]
  exact ⟨_, rfl⟩

/-- A write is refused for want of the table or of a family, and changes nothing, or it is
done. -/
theorem putCells_cases (s : Store) (table : String) (cells : List Cell) :
    ((s.tables.get? table = none ∨
        ∃ t, s.tables.get? table = some t ∧ ∃ c ∈ cells, c.family ∉ t.families) ∧
      ∃ e, s.putCells table cells = (.error e, s)) ∨
    ∃ t, s.tables.get? table = some t ∧ (∀ c ∈ cells, c.family ∈ t.families) ∧
      s.putCells table cells =
        (.ok (), { s with tables := s.tables.insert table (cells.foldl Table.write t) }) := by
  cases h : s.tables.get? table with
  | none => exact .inl ⟨.inl rfl, _, putCells_of_none cells h⟩
  | some t =>
      by_cases hcells : ∀ c ∈ cells, c.family ∈ t.families
      · exact .inr ⟨t, rfl, hcells, putCells_of_families h hcells⟩
      · have hstray : ∃ c ∈ cells, c.family ∉ t.families := by simpa using hcells
        obtain ⟨c, hc, hfamily⟩ := hstray
        exact .inl ⟨.inr ⟨t, rfl, c, hc, hfamily⟩, putCells_of_stray h hc hfamily⟩

theorem putCells_eq_ok_iff : (s.putCells table cells).1 = .ok () ↔
    ∃ t, s.tables.get? table = some t ∧ ∀ c ∈ cells, c.family ∈ t.families := by
  constructor
  · intro hok
    rcases putCells_cases s table cells with ⟨-, e, he⟩ | ⟨t, ht, hcells, -⟩
    · rw [he] at hok
      cases hok
    · exact ⟨t, ht, hcells⟩
  · rintro ⟨t, ht, hcells⟩
    rw [putCells_of_families ht hcells]

theorem putCells_fails_iff : (∃ e, (s.putCells table cells).1 = .error e) ↔
    s.tables.get? table = none ∨
      ∃ t, s.tables.get? table = some t ∧ ∃ c ∈ cells, c.family ∉ t.families := by
  constructor
  · rintro ⟨e, he⟩
    rcases putCells_cases s table cells with ⟨hreason, -⟩ | ⟨t, -, -, hput⟩
    · exact hreason
    · rw [hput] at he
      cases he
  · rintro (h | ⟨t, ht, c, hc, hstray⟩)
    · exact ⟨_, congrArg Prod.fst (putCells_of_none cells h)⟩
    · obtain ⟨e, he⟩ := putCells_of_stray ht hc hstray
      exact ⟨e, congrArg Prod.fst he⟩

/-- The answer to a write depends on the families of the table only. -/
theorem putCells_fst_congr
    (h : (s.tables.get? table).map Table.families = (s'.tables.get? table).map Table.families) :
    (s.putCells table cells).1 = (s'.putCells table cells).1 := by
  rw [putCells, putCells]
  cases ht : s.tables.get? table with
  | none =>
      rw [ht] at h
      rw [Option.map_eq_none_iff.1 h.symm]
  | some t =>
      rw [ht] at h
      obtain ⟨t', ht', hfamilies⟩ := Option.map_eq_some_iff.1 h.symm
      have hhas : t.hasFamily = t'.hasFamily := by
        ext qualifier
        rw [Table.hasFamily, Table.hasFamily, hfamilies]
      rw [ht']
      dsimp only
      rw [hhas]
      split <;> rfl

theorem tables_putCells_of_ne (h : table ≠ table') :
    (s.putCells table cells).2.tables.get? table' = s.tables.get? table' := by
  rcases putCells_cases s table cells with ⟨-, e, he⟩ | ⟨t, -, -, hput⟩
  · rw [he]
  · rw [hput]
    exact SortedMap.get?_insert_of_ne _ (Ne.symm h) _

/-- A write leaves the families of all tables as they are. -/
theorem families_putCells (s : Store) (table table' : String) (cells : List Cell) :
    ((s.putCells table cells).2.tables.get? table').map Table.families =
      (s.tables.get? table').map Table.families := by
  rcases putCells_cases s table cells with ⟨-, e, he⟩ | ⟨t, ht, -, hput⟩
  · rw [he]
  · rw [hput, SortedMap.get?_insert]
    split
    · next heq => rw [heq, ht, Option.map_some, Option.map_some, Table.families_writes]
    · rfl

/-! ### Other operations -/

@[simp] theorem tables_openScanner (s : Store) (table : String) (spec : ScanSpec) :
    (s.openScanner table spec).2.tables = s.tables := by
  rw [openScanner]
  split <;> rfl

@[simp] theorem tables_fetch (s : Store) (table id : String) :
    (s.fetch table id).2.tables = s.tables := by
  rw [fetch]
  split
  · rfl
  · split <;> rfl

@[simp] theorem tables_deleteScanner (s : Store) (table id : String) :
    (s.deleteScanner table id).2.tables = s.tables := by
  rw [deleteScanner]
  split <;> rfl

theorem tables_createTable (s : Store) (schema : TableSchema) (table : String) :
    (s.createTable schema).tables.get? table =
      if table = schema.name then
        some (schema.families.foldl Table.addFamily ((s.tables.get? table).getD .empty))
      else s.tables.get? table := by
  show (s.tables.insert _ _).get? table = _
  rw [SortedMap.get?_insert]
  split
  · next h => rw [h]
  · rfl

end Store

/-! ### Calls -/

/-- What one call can make of a table, and which cells it writes to it. -/
inductive TableStep (before after : Option Table) (written : List Cell) : Prop where
  /-- The table is left alone, or it does not exist. -/
  | kept (same : after = before) (none : written = [])
  /-- The table gets families, and it is created if it did not exist. -/
  | extended (families : List String)
      (made : after = some (families.foldl Table.addFamily (before.getD .empty)))
      (none : written = [])
  /-- Cells of its families are written to the table. -/
  | wrote (t : Table) (found : before = some t) (filed : ∀ c ∈ written, c.family ∈ t.families)
      (made : after = some (written.foldl Table.write t))

namespace Call

variable {s : Store}

/-- The cells that a call writes to a table: those of a write to it that succeeds. -/
def written (s : Store) (table : String) : Call → List Cell
  | putCells t cells =>
      match (s.putCells t cells).1 with
      | .ok _ => if t = table then cells else []
      | .error _ => []
  | _ => []

/-- **Every call is one of the three.** -/
theorem tableStep (s : Store) (table : String) (call : Call) :
    TableStep (s.tables.get? table) ((call.after s).tables.get? table) (call.written s table) := by
  cases call with
  | createTable schema =>
      have hmade := s.tables_createTable schema table
      by_cases hname : table = schema.name
      · rw [if_pos hname] at hmade
        exact .extended _ hmade rfl
      · rw [if_neg hname] at hmade
        exact .kept hmade rfl
  | putCells t cells =>
      rcases s.putCells_cases t cells with ⟨-, e, he⟩ | ⟨u, hu, hfiled, hput⟩
      · refine .kept ?_ ?_
        · show (s.putCells t cells).2.tables.get? table = _
          rw [he]
        · rw [written, he]
      · by_cases hname : t = table
        · subst hname
          have hwritten : (putCells t cells).written s t = cells := by
            rw [written, hput]
            exact if_pos rfl
          rw [hwritten]
          refine .wrote u hu hfiled ?_
          show (s.putCells t cells).2.tables.get? t = _
          rw [hput]
          exact SortedMap.get?_insert_self _ _ _
        · refine .kept (Store.tables_putCells_of_ne hname) ?_
          rw [written, hput]
          exact if_neg hname
  | getRow t key columns => exact .kept rfl rfl
  | openScanner t spec => exact .kept (congrArg (·.get? table) (s.tables_openScanner t spec)) rfl
  | fetch t id => exact .kept (congrArg (·.get? table) (s.tables_fetch t id)) rfl
  | deleteScanner t id => exact .kept (congrArg (·.get? table) (s.tables_deleteScanner t id)) rfl

end Call

namespace TableStep

variable {before after : Option Table} {written : List Cell}

/-- The rows of a table change by what is written to it. -/
theorem rows (h : TableStep before after written) :
    (after.getD .empty).rows = (written.foldl Table.write (before.getD .empty)).rows := by
  cases h with
  | kept same none => rw [same, none, List.foldl_nil]
  | extended families made none =>
      rw [made, none, List.foldl_nil]
      exact Table.rows_addFamilies _ families
  | wrote t found filed made => rw [made, found, Option.getD_some, Option.getD_some]

/-- A table does not go away, and neither do its families. -/
theorem families (h : TableStep before after written) {t : Table} (ht : before = some t) :
    ∃ t', after = some t' ∧ t.families <+: t'.families := by
  subst ht
  cases h with
  | kept same none => exact ⟨t, same, List.prefix_rfl⟩
  | extended families made none => exact ⟨_, made, Table.families_prefix_addFamilies t families⟩
  | wrote u found filed made =>
      cases found
      exact ⟨_, made, by simp⟩

end TableStep

/-- No run takes back a table or a family. -/
theorem Call.families_afterAll (calls : List Call) {table : String} {s : Store} {t : Table}
    (h : s.tables.get? table = some t) :
    ∃ t', (afterAll s calls).tables.get? table = some t' ∧ t.families <+: t'.families := by
  induction calls generalizing s t with
  | nil => exact ⟨t, h, List.prefix_rfl⟩
  | cons call calls ih =>
      obtain ⟨t', ht', hprefix⟩ := (call.tableStep s table).families h
      obtain ⟨t'', ht'', hprefix'⟩ := ih ht'
      exact ⟨t'', ht'', hprefix.trans hprefix'⟩

namespace Store

/-- Creating a table removes nothing from any table. -/
theorem createTable_keeps (s : Store) (schema : TableSchema) {table : String} {t : Table}
    (h : s.tables.get? table = some t) :
    ∃ t', (s.createTable schema).tables.get? table = some t' ∧ t'.rows = t.rows ∧
      t.families <+: t'.families := by
  rw [tables_createTable, h]
  split
  · exact ⟨_, rfl, Table.rows_addFamilies t _, Table.families_prefix_addFamilies t _⟩
  · exact ⟨t, rfl, rfl, List.prefix_rfl⟩

/-- A table that has the families of a layout is not changed by creating it. -/
theorem createTable_of_families {s : Store} {schema : TableSchema} {t : Table}
    (h : s.tables.get? schema.name = some t)
    (hfamilies : ∀ family ∈ schema.families, family ∈ t.families) : s.createTable schema = s := by
  have htables : s.tables.alter schema.name (fun t =>
      schema.families.foldl Table.addFamily (t.getD .empty)) = s.tables := by
    rw [SortedMap.alter, h]
    exact SortedMap.insert_of_get? (h.trans
      (congrArg some (Table.addFamilies_of_subset t _ hfamilies).symm))
  rw [createTable, htables]

/-- A table that was created once is created again without effect, whatever came in between. -/
theorem createTable_again (s : Store) (schema : TableSchema) (calls : List Call) :
    (Call.afterAll (s.createTable schema) calls).createTable schema =
      Call.afterAll (s.createTable schema) calls := by
  have hcreated := s.tables_createTable schema schema.name
  rw [if_pos rfl] at hcreated
  obtain ⟨t, ht, hprefix⟩ := Call.families_afterAll calls hcreated
  exact createTable_of_families ht fun family hfamily =>
    hprefix.subset (Table.mem_families_addFamilies _ _ hfamily)

end Store

end StreamStore
