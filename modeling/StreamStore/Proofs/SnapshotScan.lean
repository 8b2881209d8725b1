import StreamStore.Proofs.KeyRange
import StreamStore.Proofs.MapOrder
import StreamStore.Store

/-!
# What a scan of a table is

`Table.IsScan` describes the scan of a table without saying how it is computed:
which cells it has (`Table.Shows`) and in which order they stand (`Cell.Before`).
A table has at most one such list (`IsScan.unique`), and `Table.scan` is it
(`isScan_scan`).

Keys and qualifiers are compared by their bytes.  The filter of a scan looks at
the columns the scan asks for and at no others, which is why a row is passed or
left out as a whole before its cells are listed.
-/

namespace StreamStore

/-! ### Rows as a scan sees them -/

/-- Whether a scan asks for a qualifier; a scan that names none asks for all. -/
def ScanSpec.Asks (spec : ScanSpec) (qualifier : String) : Prop :=
  spec.columns = [] ∨ qualifier ∈ spec.columns

/-- Whether a row passes the filter of a scan, if it has one. -/
def ScanSpec.passes (spec : ScanSpec) (row : Row) : Bool :=
  spec.filter.all fun f => f.accepts (row.visible spec.columns)

namespace Row

variable {row : Row} {columns : List String}

theorem mem_project {e : String × Stored} :
    e ∈ row.project columns ↔ e ∈ row.entries ∧ (columns = [] ∨ e.1 ∈ columns) := by
  rw [project, List.mem_filter, Bool.or_eq_true, List.isEmpty_iff, List.contains_iff_mem]

theorem ascending_project : (row.project columns).Pairwise (fun a b => a.1 < b.1) :=
  row.ascending.filter _

theorem entries_visible : (row.visible columns).entries =
    (row.project columns).map fun e => (e.1, e.2.value) :=
  SortedMap.entries_ofList (List.pairwise_map.2 ascending_project)

/-- What the filter of a scan finds under a qualifier. -/
theorem get?_visible_eq_some_iff {qualifier value : String} :
    (row.visible columns).get? qualifier = some value ↔
      (columns = [] ∨ qualifier ∈ columns) ∧
        ∃ stored, row.get? qualifier = some stored ∧ stored.value = value := by
  rw [SortedMap.get?_eq_some_iff, entries_visible, List.mem_map]
  constructor
  · rintro ⟨⟨q, stored⟩, he, heq⟩
    cases heq
    obtain ⟨hmem, hasked⟩ := mem_project.1 he
    exact ⟨hasked, stored, SortedMap.get?_eq_some_iff.2 hmem, rfl⟩
  · rintro ⟨hasked, stored, hget, rfl⟩
    exact ⟨(qualifier, stored), mem_project.2 ⟨SortedMap.get?_eq_some_iff.1 hget, hasked⟩, rfl⟩

theorem mem_cells {key : String} {c : Cell} :
    c ∈ row.cells key columns ↔ c.rowKey = key ∧
      row.get? c.qualifier = some ⟨c.timestamp, c.value⟩ ∧
        (columns = [] ∨ c.qualifier ∈ columns) := by
  rw [cells, List.mem_map, SortedMap.get?_eq_some_iff]
  constructor
  · rintro ⟨e, he, rfl⟩
    exact ⟨rfl, mem_project.1 he⟩
  · rintro ⟨rfl, hmem⟩
    exact ⟨_, mem_project.2 hmem, rfl⟩

/-- What is read of a row does not depend on the order in which columns are asked for. -/
theorem project_congr {columns' : List String}
    (h : ∀ qualifier, qualifier ∈ columns ↔ qualifier ∈ columns') :
    row.project columns = row.project columns' := by
  have hempty : columns = [] ↔ columns' = [] := by
    simp only [List.eq_nil_iff_forall_not_mem, h]
  refine List.filter_congr fun e _ => ?_
  rw [Bool.eq_iff_iff, Bool.or_eq_true, Bool.or_eq_true, List.isEmpty_iff, List.isEmpty_iff,
    List.contains_iff_mem, List.contains_iff_mem, hempty, h]

/-- A row without cells to show has no values for a filter either. -/
theorem cells_eq_nil {key : String} (h : (row.visible columns).entries.isEmpty = true) :
    row.cells key columns = [] := by
  rw [entries_visible, List.isEmpty_iff, List.map_eq_nil_iff] at h
  rw [cells, h, List.map_nil]

end Row

/-! ### The cells of a scan -/

/-- Whether a cell stands before another one in a scan: by row, then by qualifier. -/
def Cell.Before (a b : Cell) : Prop :=
  Text.bytesOf a.rowKey < Text.bytesOf b.rowKey ∨
    a.rowKey = b.rowKey ∧ Text.bytesOf a.qualifier < Text.bytesOf b.qualifier

theorem Cell.before_iff {a b : Cell} :
    a.Before b ↔ a.rowKey < b.rowKey ∨ a.rowKey = b.rowKey ∧ a.qualifier < b.qualifier :=
  or_congr Text.bytesOf_lt_iff (and_congr_right fun _ => Text.bytesOf_lt_iff)

theorem Cell.Before.asymm {a b : Cell} (h : a.Before b) : ¬b.Before a := by
  rw [before_iff] at h ⊢
  rintro (h' | ⟨h', hq'⟩) <;> rcases h with h | ⟨h, hq⟩
  · exact String.lt_irrefl _ (String.lt_trans h h')
  · exact String.lt_irrefl _ (h ▸ h')
  · exact String.lt_irrefl _ (h' ▸ h)
  · exact String.lt_irrefl _ (String.lt_trans hq hq')

namespace Row

variable {row : Row} {columns : List String}

theorem ascending_cells {key : String} : (row.cells key columns).Pairwise Cell.Before := by
  refine List.pairwise_map.2 (ascending_project.imp fun {a b} hab => ?_)
  exact Cell.before_iff.2 (.inr ⟨rfl, hab⟩)

/-- Cells that are listed row by row stand in order when the rows do and the cells of each
row do. -/
theorem ascending_flatMap {rows : List (String × Row)} {cellsOf : String × Row → List Cell}
    (hrows : rows.Pairwise fun a b => a.1 < b.1) (hcells : ∀ e, (cellsOf e).Pairwise Cell.Before)
    (hkey : ∀ e, ∀ c ∈ cellsOf e, c.rowKey = e.1) :
    (rows.flatMap cellsOf).Pairwise Cell.Before := by
  refine List.pairwise_flatMap.2 ⟨fun e _ => hcells e, hrows.imp fun {a b} hab x hx y hy => ?_⟩
  rw [Cell.before_iff, hkey a x hx, hkey b y hy]
  exact .inl hab

end Row

namespace ScanSpec

variable {spec : ScanSpec}

/-- What a scan shows of a row in its range. -/
def shown (spec : ScanSpec) (key : String) (row : Row) : List Cell :=
  if spec.passes row then row.cells key spec.columns else []

theorem mem_shown {key : String} {row : Row} {c : Cell} :
    c ∈ spec.shown key row ↔ spec.passes row = true ∧ c ∈ row.cells key spec.columns := by
  rw [shown, List.mem_ite_nil_right]

theorem shown_congr {columns : List String}
    (h : ∀ qualifier, qualifier ∈ columns ↔ qualifier ∈ spec.columns) (key : String) (row : Row) :
    { spec with columns := columns }.shown key row = spec.shown key row := by
  have hproject : row.project columns = row.project spec.columns := Row.project_congr h
  have hpasses : { spec with columns := columns }.passes row = spec.passes row := by
    rw [passes, passes, Row.visible, Row.visible, hproject]
  rw [shown, shown, hpasses, Row.cells, Row.cells, hproject]

theorem ascending_shown (key : String) (row : Row) :
    (spec.shown key row).Pairwise Cell.Before := by
  rw [shown]
  split
  · exact Row.ascending_cells
  · exact List.Pairwise.nil

end ScanSpec

namespace Table

variable {t : Table} {spec : ScanSpec}

/-- Whether a scan of a table shows a cell: the cell is stored in a row that lies in
the range and passes the filter, and the scan asks for its qualifier. -/
structure Shows (t : Table) (spec : ScanSpec) (c : Cell) : Prop where
  covered : RowRange.Covers ⟨spec.first, spec.stop⟩ c.rowKey
  asked : spec.Asks c.qualifier
  stored : ∃ row, t.rows.get? c.rowKey = some row ∧
    row.get? c.qualifier = some ⟨c.timestamp, c.value⟩ ∧ spec.passes row = true

/-- Whether a list of cells is the scan of a table: the cells that the scan shows,
in their order. -/
structure IsScan (t : Table) (spec : ScanSpec) (cells : List Cell) : Prop where
  ascending : cells.Pairwise Cell.Before
  mem_iff : ∀ c, c ∈ cells ↔ t.Shows spec c

/-- A table has one scan of a kind. -/
theorem IsScan.unique {xs ys : List Cell} (hx : t.IsScan spec xs) (hy : t.IsScan spec ys) :
    xs = ys := by
  have hasymm : Std.Asymm Cell.Before := ⟨fun _ _ => Cell.Before.asymm⟩
  exact hx.ascending.eq_of_mem_iff hy.ascending fun c => (hx.mem_iff c).trans (hy.mem_iff c).symm

/-- A scan lists, one after the other, what it shows of the rows in its range. -/
theorem scan_eq (t : Table) (spec : ScanSpec) :
    t.scan spec = (t.rows.between spec.first spec.stop).flatMap fun e => spec.shown e.1 e.2 := by
  refine congrArg (fun f => List.flatMap f (t.rows.between spec.first spec.stop))
    (funext fun e => ?_)
  show (if _ then [] else e.2.cells e.1 spec.columns) = spec.shown e.1 e.2
  by_cases hempty : (e.2.visible spec.columns).entries.isEmpty = true
  · -- whatever the filter says of such a row, there is nothing to show
    rw [hempty, Bool.true_or, if_pos rfl, ScanSpec.shown, Row.cells_eq_nil hempty, ite_self]
  · rw [Bool.eq_false_iff.2 hempty, Bool.false_or, ScanSpec.shown, ScanSpec.passes]
    cases spec.filter with
    | none => rfl
    | some f =>
        show (if (!f.accepts (e.2.visible spec.columns)) = true then _ else _) =
          if f.accepts (e.2.visible spec.columns) = true then _ else _
        cases f.accepts (e.2.visible spec.columns) <;> rfl

/-- A scan does not depend on the order in which it names its columns. -/
theorem scan_congr {columns : List String}
    (h : ∀ qualifier, qualifier ∈ columns ↔ qualifier ∈ spec.columns) :
    t.scan { spec with columns := columns } = t.scan spec := by
  rw [scan_eq, scan_eq]
  congr 1
  funext e
  exact ScanSpec.shown_congr h e.1 e.2

/-- A row belongs to the range of a scan when its key does. -/
theorem mem_between_iff {e : String × Row} :
    e ∈ t.rows.between spec.first spec.stop ↔
      t.rows.get? e.1 = some e.2 ∧ RowRange.Covers ⟨spec.first, spec.stop⟩ e.1 := by
  rw [SortedMap.mem_between_iff, SortedMap.get?_eq_some_iff, RowRange.covers_iff]
  exact Iff.rfl

theorem mem_scan_iff {c : Cell} : c ∈ t.scan spec ↔ t.Shows spec c := by
  rw [scan_eq, List.mem_flatMap]
  constructor
  · rintro ⟨⟨key, row⟩, he, hc⟩
    obtain ⟨hrow, hcovered⟩ := mem_between_iff.1 he
    obtain ⟨hpass, hcells⟩ := ScanSpec.mem_shown.1 hc
    obtain ⟨rfl, hget, hasked⟩ := Row.mem_cells.1 hcells
    exact ⟨hcovered, hasked, row, hrow, hget, hpass⟩
  · rintro ⟨hcovered, hasked, row, hrow, hget, hpass⟩
    exact ⟨(c.rowKey, row), mem_between_iff.2 ⟨hrow, hcovered⟩,
      ScanSpec.mem_shown.2 ⟨hpass, Row.mem_cells.2 ⟨rfl, hget, hasked⟩⟩⟩

theorem ascending_scan (t : Table) (spec : ScanSpec) :
    (t.scan spec).Pairwise Cell.Before := by
  rw [scan_eq]
  refine Row.ascending_flatMap (SortedMap.ascending_between _ _ _) (fun e => ?_) fun e c hc => ?_
  · exact ScanSpec.ascending_shown e.1 e.2
  · exact (Row.mem_cells.1 (ScanSpec.mem_shown.1 hc).2).1

/-- **What a scan computes** is the scan of the table. -/
theorem isScan_scan (t : Table) (spec : ScanSpec) : t.IsScan spec (t.scan spec) :=
  ⟨ascending_scan t spec, fun _ => mem_scan_iff⟩

end Table

end StreamStore
