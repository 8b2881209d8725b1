import StreamStore.Proofs.ResultRows

/-!
# What two lists of columns resolve to

A list of columns names the entries between its commas, without their blanks and without
the empty ones, each where it first appears.  `ListsColumns` says this without cutting
anything: entries are whatever has no commas and gives the list when it is joined with
them.  A list names one list of columns only (`listsColumns_iff`), and a list that is
joined from columns names them again (`columnsOf_intercalate`).

A projection is made from two such lists, of which the second one keeps what the first
one does not have.  `Projection.Projects` is the whole of what is known about it: which
qualifiers are fetched in which order, that their places number them, which of them are
hidden, and which column each of them stands for.  The last is possible because no family
has a colon, so a qualifier is cut behind its family also when the column has colons
(`column?_eq_some_iff`).
-/

namespace StreamStore

/-! ### The columns of a list -/

/-- Whether entries are what stands between the commas of a list. -/
structure CutAtCommas (list : String) (entries : List String) : Prop where
  /-- There is always an entry, if only an empty one. -/
  ne_nil : entries ≠ []
  /-- No entry goes on behind a comma. -/
  comma_free : ∀ entry ∈ entries, ',' ∉ entry.toList
  /-- The entries, with commas between them, are the list. -/
  joined : ",".intercalate entries = list

/-- A text without its blanks, also without those in its middle. -/
def withoutBlanks (entry : String) : String :=
  String.ofList (entry.toList.filter fun c => !Text.isBlank c)

/-- Whether names are the columns of a list: its entries without blanks, as far as they
are not empty, each where it first appears. -/
def ListsColumns (list : String) (names : List String) : Prop :=
  ∃ entries, CutAtCommas list entries ∧
    FirstAppearances ((entries.map withoutBlanks).filter fun name => !name.isEmpty) names

section Lists

variable {list : String} {entries names : List String}

theorem CutAtCommas.pieces_eq (h : CutAtCommas list entries) :
    Text.pieces ',' list.toList = entries.map String.toList := by
  have hfree : ∀ cs ∈ entries.map String.toList, ',' ∉ cs := List.forall_mem_map.2 h.comma_free
  have hne : entries.map String.toList ≠ [] := fun hnil => h.ne_nil (List.map_eq_nil_iff.1 hnil)
  rw [← h.joined, String.toList_intercalate, Text.pieces_eq_splitOn]
  exact List.splitOn_intercalate ',' hfree hne

/-- Every list can be cut. -/
theorem cutAtCommas_pieces (list : String) :
    CutAtCommas list ((Text.pieces ',' list.toList).map String.ofList) where
  ne_nil := fun hnil => Text.pieces_ne_nil ',' list.toList (List.map_eq_nil_iff.1 hnil)
  comma_free := by
    refine List.forall_mem_map.2 fun cs hcs => ?_
    rw [String.toList_ofList]
    exact Text.notMem_of_mem_pieces hcs
  joined := by
    have hchars : ((Text.pieces ',' list.toList).map String.ofList).map String.toList =
        Text.pieces ',' list.toList := by
      rw [List.map_map]
      exact List.map_id'' (fun _ => String.toList_ofList) _
    rw [← String.toList_inj, String.toList_intercalate, hchars, Text.pieces_eq_splitOn]
    exact List.intercalate_splitOn ','

theorem CutAtCommas.columnsOf_eq (h : CutAtCommas list entries) :
    columnsOf list = (entries.map withoutBlanks).filter fun name => !name.isEmpty := by
  rw [columnsOf, h.pieces_eq, List.map_map]
  rfl

/-- **A list names its columns in one way.** -/
theorem listsColumns_iff : ListsColumns list names ↔ names = firstOccurrences (columnsOf list) := by
  constructor
  · rintro ⟨entries, hcut, hnames⟩
    rw [← hcut.columnsOf_eq] at hnames
    exact hnames.unique (firstAppearances_firstOccurrences _)
  · rintro rfl
    refine ⟨_, cutAtCommas_pieces list, ?_⟩
    rw [← (cutAtCommas_pieces list).columnsOf_eq]
    exact firstAppearances_firstOccurrences _

/-- Columns that are joined with commas are named again. -/
theorem columnsOf_intercalate (h : ∀ name ∈ names, isPlain name = true) :
    columnsOf (",".intercalate names) = names := by
  induction names with
  | nil => rfl
  | cons name names ih =>
      obtain ⟨hname, hnames⟩ := List.forall_mem_cons.1 h
      cases names with
      | nil => rw [String.intercalate_singleton, columnsOf_of_isPlain hname]
      | cons next names =>
          rw [String.intercalate_cons_cons, columnsOf_append, columnsOf_of_isPlain hname,
            ih hnames]
          rfl

end Lists

/-! ### Resolving -/

namespace Projection

variable {columns queryOnly family : String} {p : Projection}

theorem resolve_eq_ok_iff : resolve columns queryOnly family = .ok p ↔
    p.family = family ∧ p.output = firstOccurrences (columnsOf columns) ∧
      p.hidden = (firstOccurrences (columnsOf queryOnly)).filter fun c => !p.output.contains c := by
  rw [resolve]
  constructor
  · intro h
    split at h
    · cases h
    · cases h
      exact ⟨rfl, rfl, rfl⟩
  · obtain ⟨_, output, hidden, hne, _⟩ := p
    dsimp only
    rintro ⟨rfl, rfl, rfl⟩
    exact dif_neg hne

/-- Resolving fails when no output column is named, and in no other case. -/
theorem resolve_eq_error_iff {fault : RequestFault} :
    resolve columns queryOnly family = .error fault ↔
      firstOccurrences (columnsOf columns) = [] ∧ fault = .noOutputColumn := by
  rw [resolve]
  split
  · next hnil => exact ⟨fun h => ⟨hnil, (Except.error.inj h).symm⟩, fun h => congrArg _ h.2.symm⟩
  · next hne =>
      refine iff_of_false (fun h => ?_) fun h => hne h.1
      cases h

theorem isPlain_of_mem_fetched (h : resolve columns queryOnly family = .ok p) {column : String}
    (hmem : column ∈ p.fetched) : isPlain column = true :=
  ((mem_fetched h).1 hmem).elim isPlain_of_mem_columnsOf isPlain_of_mem_columnsOf

/-- The columns of a projection, joined with commas, resolve to it. -/
theorem resolve_intercalate (h : resolve columns queryOnly family = .ok p) :
    resolve (",".intercalate p.output) (",".intercalate p.hidden) family = .ok p := by
  have houtput : ∀ column ∈ p.output, isPlain column = true := fun column hcolumn =>
    isPlain_of_mem_fetched h (List.mem_append_left _ hcolumn)
  have hhidden : ∀ column ∈ p.hidden, isPlain column = true := fun column hcolumn =>
    isPlain_of_mem_fetched h (List.mem_append_right _ hcolumn)
  obtain ⟨hnodup, hnodup', hapart⟩ := List.nodup_append.1 p.distinct
  refine resolve_eq_ok_iff.2 ⟨resolve_family h, ?_, ?_⟩
  · rw [columnsOf_intercalate houtput, firstOccurrences_of_nodup hnodup]
  · rw [columnsOf_intercalate hhidden, firstOccurrences_of_nodup hnodup', List.filter_eq_self.2]
    -- a hidden column is no output column, so nothing is taken away a second time
    intro column hcolumn
    have hout : column ∉ p.output := fun hmem => hapart column hmem column hcolumn rfl
    simpa using hout

/-! ### Places and columns of qualifiers -/

/-- The place of a qualifier is where it stands. -/
theorem position?_eq_some_iff {qualifier : String} {i : Nat} :
    p.position? qualifier = some i ↔ p.qualifiers[i]? = some qualifier := by
  rw [position?, List.findIdx?_eq_some_iff_getElem, List.getElem?_eq_some_iff]
  constructor
  · rintro ⟨hi, heq, -⟩
    exact ⟨hi, eq_of_beq heq⟩
  · rintro ⟨hi, rfl⟩
    refine ⟨hi, beq_self_eq_true _, fun j hj heq => ?_⟩
    -- the qualifiers before it are others
    exact Nat.ne_of_lt hj ((List.getElem_inj p.nodup_qualifiers).1 (eq_of_beq heq))

/-- A qualifier stands for the column that it was made of, and other texts for none. -/
theorem column?_eq_some_iff (hfamily : ':' ∉ p.family.toList) {qualifier column : String} :
    p.column? qualifier = some column ↔ column ∈ p.fetched ∧ p.qualify column = qualifier := by
  have hcut : ∀ column, Text.cutOnce ':' (p.qualify column).toList =
      some (p.family.toList, column.toList) := by
    intro column
    rw [qualify, String.toList_append, String.toList_append, List.append_assoc]
    exact Text.cutOnce_append hfamily column.toList
  have hcolumn : ∀ column ∈ p.fetched, p.column? (p.qualify column) = some column := by
    intro column hmem
    rw [column?, if_pos (position?_isSome_iff.2 (mem_qualifiers.2 hmem)), hcut, Option.map_some]
    exact congrArg some String.ofList_toList
  constructor
  · intro h
    have hfetched : qualifier ∈ p.qualifiers := by
      rw [← position?_isSome_iff]
      by_contra hnone
      rw [column?, if_neg hnone] at h
      cases h
    obtain ⟨column', hmem, rfl⟩ := List.mem_map.1 hfetched
    obtain rfl : column' = column := Option.some.inj ((hcolumn column' hmem).symm.trans h)
    exact ⟨hmem, rfl⟩
  · rintro ⟨hmem, rfl⟩
    exact hcolumn column hmem

end Projection

/-- No family has a colon. -/
theorem RecordType.colon_notMem_family (t : RecordType) : ':' ∉ t.family.toList := by
  cases t <;> decide

/-! ### Main result -/

/-- Whether a projection fetches some output columns and some hidden ones of a record
type. -/
structure Projection.Projects (p : Projection) (t : RecordType) (output hidden : List String) :
    Prop where
  /-- The output columns are those that results show. -/
  output_eq : p.output = output
  /-- What is fetched: the output columns and then the hidden ones. -/
  qualifiers_eq : p.qualifiers = (output ++ hidden).map t.qualifier
  /-- Nothing is fetched twice. -/
  nodup : p.qualifiers.Nodup
  /-- The place of a qualifier is where it stands, and other texts have none. -/
  position_iff : ∀ qualifier i,
    p.position? qualifier = some i ↔ p.qualifiers[i]? = some qualifier
  /-- Every number below the number of qualifiers is the place of one of them. -/
  places : ∀ i, i < p.qualifiers.length ↔ ∃! qualifier, p.position? qualifier = some i
  /-- What is hidden are the hidden columns. -/
  isHidden_iff : ∀ qualifier,
    p.isHidden qualifier = true ↔ ∃ column ∈ hidden, t.qualifier column = qualifier
  /-- A qualifier stands for the column that it was made of, and other texts for none. -/
  column_iff : ∀ qualifier column,
    p.column? qualifier = some column ↔ column ∈ output ++ hidden ∧ t.qualifier column = qualifier

/-- A projection of a family projects its own columns. -/
theorem Projection.projects {p : Projection} {t : RecordType} (h : p.family = t.family) :
    p.Projects t p.output p.hidden := by
  have hqualify : p.qualify = t.qualifier := qualify_eq h
  refine ⟨rfl, ?_, p.nodup_qualifiers, fun _ _ => position?_eq_some_iff, fun i => ?_, fun q => ?_,
    fun q column => ?_⟩
  · rw [qualifiers, fetched, hqualify]
  · simp only [position?_eq_some_iff]
    constructor
    · intro hi
      refine ⟨p.qualifiers[i], List.getElem?_eq_getElem hi, fun q hq => ?_⟩
      exact Option.some.inj (hq.symm.trans (List.getElem?_eq_getElem hi))
    · rintro ⟨q, hq, -⟩
      exact (List.getElem?_eq_some_iff.1 hq).1
  · rw [isHidden, List.contains_iff_mem, List.mem_map, hqualify]
  · rw [column?_eq_some_iff (h ▸ t.colon_notMem_family), fetched, hqualify]

/-- **What two lists resolve to.**  The lists name output columns and further ones, of
which those that are no output columns are hidden.  Resolving fails when there is no output
column and in no other case.  Otherwise the projection fetches the output columns and then
the hidden ones, numbers them, tells them apart and knows the column of each; and the
columns, joined with commas, resolve to the same projection. -/
theorem resolve_follows_lists (t : RecordType) (columns queryOnly : String) :
    ∃ output further hidden, ListsColumns columns output ∧ ListsColumns queryOnly further ∧
      hidden = further.filter (fun column => !output.contains column) ∧
      (∀ fault, Projection.resolve columns queryOnly t.family = .error fault ↔
        output = [] ∧ fault = .noOutputColumn) ∧
      (output ≠ [] → ∃ p, Projection.resolve columns queryOnly t.family = .ok p ∧
        p.Projects t output hidden ∧
        Projection.resolve (",".intercalate output) (",".intercalate hidden) t.family = .ok p) := by
  refine ⟨_, _, _, listsColumns_iff.2 rfl, listsColumns_iff.2 rfl, rfl,
    fun _ => Projection.resolve_eq_error_iff, fun hne => ?_⟩
  obtain ⟨p, hp⟩ : ∃ p, Projection.resolve columns queryOnly t.family = .ok p := by
    rw [Projection.resolve, dif_neg hne]
    exact ⟨_, rfl⟩
  obtain ⟨hfamily, houtput, hhidden⟩ := Projection.resolve_eq_ok_iff.1 hp
  rw [← houtput, ← hhidden]
  exact ⟨p, hp, Projection.projects hfamily, Projection.resolve_intercalate hp⟩

/-- Blanks and repetitions fall away, a column of both lists is an output column, and a
column may have a colon. -/
example : (Projection.resolve "temp, p:in ,t emp," "state,temp" "DF").map
    (fun p => (p.qualifiers, p.position? "DF:p:in", p.column? "DF:p:in", p.isHidden "DF:temp")) =
    .ok (["DF:temp", "DF:p:in", "DF:state"], some 1, some "p:in", false) := by
  rfl

end StreamStore
