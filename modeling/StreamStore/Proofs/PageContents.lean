import StreamStore.Proofs.ResolvedColumns

/-!
# What a page holds

A page shows some of the cells that were fetched, by row and column.  `ResultSet.Presents`
says what it holds in terms of the cells alone: the rows are those of the cells that the
projection sees, in the order in which they first appear; so are the columns of each row;
and a value is that of the last cell in its place.  It says nothing about how a page is
built, and still there is one such page only (`Presents.unique`), which is the page that
is built from the cells (`page_presents_cells`).

A page is built by collecting the cells that are seen by their rows (`data_ofCells_eq`), and
the cells of a row are collected by their columns (`keys_row_writeCells`); the law of collected
items says both times that the keys are the first appearances.
-/

namespace StreamStore

/-- Whether a projection sees a cell: its qualifier is fetched, and not for filters only. -/
def Projection.sees (p : Projection) (c : Cell) : Bool :=
  p.qualifiers.contains c.qualifier && !p.isHidden c.qualifier

/-- The cells that a projection sees, in their order. -/
def Projection.seen (p : Projection) (cells : List Cell) : List Cell :=
  cells.filter p.sees

/-- The column of a cell: its qualifier without the family and the colon. -/
def RecordType.columnOf (t : RecordType) (c : Cell) : String :=
  String.ofList (c.qualifier.toList.drop (t.family.length + 1))

theorem RecordType.columnOf_eq {t : RecordType} {c : Cell} {column : String}
    (h : t.qualifier column = c.qualifier) : t.columnOf c = column := by
  have hchars : c.qualifier.toList = t.family.toList ++ ':' :: column.toList := by
    rw [← h, qualifier, String.toList_append, String.toList_append, List.append_assoc]
    rfl
  rw [columnOf, hchars, ← String.length_toList, List.drop_append, List.drop_of_length_le (by omega),
    Nat.add_sub_cancel_left]
  exact String.ofList_toList

/-! ### Cells that a projection sees -/

section Seen

variable {t : RecordType} {p : Projection} {c : Cell}

/-- What is seen belongs to an output column of the family. -/
theorem Projection.sees_iff (h : p.family = t.family) : p.sees c = true ↔
    ∃ column ∈ p.output, t.qualifier column = c.qualifier := by
  have hapart : ∀ column ∈ p.output, column ∉ p.hidden := fun column hout hmem =>
    (List.nodup_append.1 p.distinct).2.2 column hout column hmem rfl
  rw [sees, Bool.and_eq_true, List.contains_iff_mem, Bool.not_eq_true', ← qualify_eq h]
  constructor
  · rintro ⟨hfetched, hhidden⟩
    obtain ⟨column, hcolumn, hq⟩ := List.mem_map.1 hfetched
    rw [← hq, ← Bool.not_eq_true, isHidden_eq_true_iff] at hhidden
    exact ⟨column, (List.mem_append.1 hcolumn).resolve_right hhidden, hq⟩
  · rintro ⟨column, hcolumn, hq⟩
    rw [← hq, mem_qualifiers, ← Bool.not_eq_true, isHidden_eq_true_iff]
    exact ⟨List.mem_append_left _ hcolumn, hapart column hcolumn⟩

/-- A cell shows under its column when it is seen, and else it does not show. -/
theorem ResultSet.shownColumn?_eq (h : p.family = t.family) :
    shownColumn? p c = if p.sees c = true then some (t.columnOf c) else none := by
  by_cases hhidden : p.isHidden c.qualifier = true
  · have hsees : ¬p.sees c = true := by simp [Projection.sees, hhidden]
    rw [shownColumn?, if_pos hhidden, if_neg hsees]
  · rw [shownColumn?, if_neg hhidden]
    by_cases hfetched : c.qualifier ∈ p.qualifiers
    · have hsees : p.sees c = true := by simp [Projection.sees, hhidden, hfetched]
      obtain ⟨column, hcolumn, hq⟩ := List.mem_map.1 hfetched
      have hcolumnOf : t.columnOf c = column := t.columnOf_eq (Projection.qualify_eq h ▸ hq)
      rw [if_pos hsees, hcolumnOf, Projection.column?_eq_some_iff (h ▸ t.colon_notMem_family)]
      exact ⟨hcolumn, hq⟩
    · have hsees : ¬p.sees c = true := by simp [Projection.sees, hfetched]
      rw [if_neg hsees, Projection.column?, if_neg]
      rwa [Projection.position?_isSome_iff]

end Seen

/-! ### Writing cells -/

/-- The rows that cells are written into, each value under the row and column of its cell. -/
def writeCells (t : RecordType) (split : Bool) (cells : List Cell) :
    ArrivalMap (ArrivalMap String) :=
  .collect (rowIdentity split) (fun c row => row.insert (t.columnOf c) c.value) .empty cells

/-- A page is written from the cells that are seen, and from no others. -/
theorem data_ofCells_eq {t : RecordType} {p : Projection} (h : p.family = t.family) (split : Bool)
    (cells : List Cell) (cursor : Cursor) :
    (ResultSet.ofCells cells p split cursor).data = writeCells t split (p.seen cells) := by
  rw [writeCells, ArrivalMap.collect, Projection.seen, List.foldl_filter]
  show cells.foldl (ResultSet.addCell p split) .empty = _
  congr 1
  funext data c
  rw [ResultSet.addCell, ResultSet.shownColumn?_eq h]
  by_cases hsees : p.sees c = true
  · rw [if_pos hsees, if_pos hsees]
  · rw [if_neg hsees, if_neg hsees]

/-- The columns of a row are those of its cells, in the order of their first cells. -/
theorem keys_row_writeCells (t : RecordType) (split : Bool) (cells : List Cell) (row : String) :
    (((writeCells t split cells).get? row).getD .empty).keys =
      firstOccurrences ((cells.filter fun c => rowIdentity split c == row).map t.columnOf) := by
  let own : List Cell := cells.filter fun c => rowIdentity split c == row
  have hrow : ((writeCells t split cells).get? row).getD .empty =
      .collect t.columnOf (fun c _ => c.value) "" own := ArrivalMap.getD_collect cells row
  rw [hrow, ArrivalMap.keys_collect]

/-- The places of the output columns count from zero. -/
theorem Projection.entries_index (p : Projection) : p.index.entries = p.output.zipIdx := by
  have hkeys : (p.output.zipIdx.map Prod.fst).Nodup := by
    rw [List.zipIdx_map_fst]
    exact (List.nodup_append.1 p.distinct).1
  exact ArrivalMap.entries_insertEach (m := .empty) hkeys

/-! ### Main result -/

/-- Whether a page holds what a projection shows of some cells of a record type. -/
structure ResultSet.Presents (r : ResultSet) (t : RecordType) (p : Projection) (split : Bool)
    (cells : List Cell) : Prop where
  /-- The rows are those of the cells that are seen, as they first appear. -/
  rows : FirstAppearances ((p.seen cells).map (rowIdentity split)) r.data.keys
  /-- The columns of a row are those of its cells that are seen, as they first appear. -/
  columns_of_row : ∀ row values, r.data.get? row = some values →
    FirstAppearances (((p.seen cells).filter fun c => rowIdentity split c == row).map t.columnOf)
      values.keys
  /-- A value is that of the last cell that is seen in its row and column. -/
  value : ∀ row column, r.valueAt? row column =
    ((p.seen cells).filter fun c =>
      rowIdentity split c == row && t.columnOf c == column).getLast?.map Cell.value
  /-- The count is the number of rows. -/
  count : r.count = r.data.keys.length
  /-- The columns are the output columns, with their places from zero on. -/
  columns : r.columns.entries = p.output.zipIdx
  /-- No row is empty, and no row has a column that is not listed. -/
  row_columns : ∀ row values, r.data.get? row = some values →
    values.keys ≠ [] ∧ ∀ column ∈ values.keys, column ∈ r.columns.keys
  /-- Every value comes from a cell of the family and of an output column. -/
  origin : ∀ row column value, r.valueAt? row column = some value →
    ∃ c ∈ cells, rowIdentity split c = row ∧ c.value = value ∧ c.qualifier = t.qualifier column ∧
      column ∈ p.output ∧ p.isHidden c.qualifier = false

namespace ResultSet

variable {t : RecordType} {p : Projection} {split : Bool} {cells : List Cell}

/-- Some cells are presented by one page with a given cursor. -/
theorem Presents.unique {r r' : ResultSet} (h : r.Presents t p split cells)
    (h' : r'.Presents t p split cells) (hcursor : r.cursor = r'.cursor) : r = r' := by
  have hkeys : r.data.keys = r'.data.keys := h.rows.unique h'.rows
  have hdata : r.data = r'.data := by
    refine ArrivalMap.ext_keys hkeys fun row => ?_
    by_cases hrow : row ∈ r.data.keys
    · obtain ⟨values, hvalues⟩ := ArrivalMap.mem_keys_iff.1 hrow
      obtain ⟨values', hvalues'⟩ := ArrivalMap.mem_keys_iff.1 (hkeys ▸ hrow)
      have hsame : values = values' := by
        refine ArrivalMap.ext_keys
          ((h.columns_of_row row values hvalues).unique (h'.columns_of_row row values' hvalues'))
          fun column => ?_
        have hvalue := (h.value row column).trans (h'.value row column).symm
        rwa [valueAt?, valueAt?, valueIn?, valueIn?, hvalues, hvalues'] at hvalue
      rw [hvalues, hvalues', hsame]
    · rw [ArrivalMap.get?_eq_none_iff.2 hrow, ArrivalMap.get?_eq_none_iff.2 (hkeys ▸ hrow)]
  have hcolumns : r.columns = r'.columns := ArrivalMap.ext (h.columns.trans h'.columns.symm)
  have hcount : r.count = r'.count := by rw [h.count, h'.count, hkeys]
  cases r
  cases r'
  cases hdata
  cases hcolumns
  cases hcount
  cases hcursor
  rfl

/-- The cells that show in a place are those that are seen there. -/
theorem shownAt_eq (h : p.family = t.family) (row column : String) :
    shownAt p split cells row column =
      (p.seen cells).filter fun c => rowIdentity split c == row && t.columnOf c == column := by
  rw [shownAt, Projection.seen, List.filter_filter]
  refine List.filter_congr fun c _ => ?_
  rw [shownColumn?_eq h]
  cases p.sees c with
  | true => simp [Bool.and_comm]
  | false => simp

/-- The rows of a page are those of the cells that are seen, as they first appear. -/
theorem rows_ofCells (h : p.family = t.family) (cells : List Cell) (cursor : Cursor) :
    FirstAppearances ((p.seen cells).map (rowIdentity split))
      (ofCells cells p split cursor).data.keys := by
  rw [data_ofCells_eq h, writeCells, ArrivalMap.keys_collect]
  exact firstAppearances_firstOccurrences _

/-- The columns of a row are those of its cells that are seen, as they first appear. -/
theorem columns_of_row_ofCells (h : p.family = t.family) {cursor : Cursor} {row : String}
    {values : ArrivalMap String}
    (hrow : (ofCells cells p split cursor).data.get? row = some values) :
    FirstAppearances (((p.seen cells).filter fun c => rowIdentity split c == row).map t.columnOf)
      values.keys := by
  have hkeys := keys_row_writeCells t split (p.seen cells) row
  rw [← data_ofCells_eq h split cells cursor, hrow, Option.getD_some] at hkeys
  rw [hkeys]
  exact firstAppearances_firstOccurrences _

/-- The page of some cells presents them. -/
theorem presents_ofCells (h : p.family = t.family) (cells : List Cell) (cursor : Cursor) :
    (ofCells cells p split cursor).Presents t p split cells where
  rows := rows_ofCells h cells cursor
  columns_of_row := fun _ _ hrow => columns_of_row_ofCells h hrow
  value := by
    intro row column
    rw [valueAt?_ofCells, shownAt_eq h]
  count := by
    rw [count_ofCells, ArrivalMap.size, ArrivalMap.keys, List.length_map]
  columns := p.entries_index
  row_columns := by
    intro row values hrow
    have hcolumns := columns_of_row_ofCells h hrow
    constructor
    · -- a row is there because of a cell, and the cell has a column
      obtain ⟨c, hseen, hc⟩ := List.mem_map.1
        (((rows_ofCells h cells cursor).mem_iff row).1 (ArrivalMap.mem_keys_iff.2 ⟨values, hrow⟩))
      have hmem : c ∈ (p.seen cells).filter fun c => rowIdentity split c == row :=
        List.mem_filter.2 ⟨hseen, beq_iff_eq.2 hc⟩
      exact List.ne_nil_of_mem ((hcolumns.mem_iff _).2 (List.mem_map_of_mem hmem))
    · intro column hcolumn
      obtain ⟨c, hc, rfl⟩ := List.mem_map.1 ((hcolumns.mem_iff column).1 hcolumn)
      obtain ⟨column', houtput, hqualifier⟩ :=
        (Projection.sees_iff h).1 (List.mem_filter.1 (List.mem_filter.1 hc).1).2
      rw [RecordType.columnOf_eq hqualifier, ofCells, ArrivalMap.keys, p.entries_index,
        List.zipIdx_map_fst]
      exact houtput
  origin := by
    intro row column value hvalue
    rw [valueAt?_ofCells, shownAt_eq h, Option.map_eq_some_iff] at hvalue
    obtain ⟨c, hlast, rfl⟩ := hvalue
    obtain ⟨hseen, hplace⟩ := List.mem_filter.1 (List.mem_of_getLast? hlast)
    obtain ⟨hmem, hsees⟩ := List.mem_filter.1 hseen
    obtain ⟨hrow, hcolumn⟩ := Bool.and_eq_true_iff.1 hplace
    obtain ⟨column', houtput, hqualifier⟩ := (Projection.sees_iff h).1 hsees
    obtain rfl : column' = column :=
      (RecordType.columnOf_eq hqualifier).symm.trans (eq_of_beq hcolumn)
    rw [Projection.sees, Bool.and_eq_true_iff, Bool.not_eq_true'] at hsees
    exact ⟨c, hmem, eq_of_beq hrow, rfl, hqualifier.symm, houtput, hsees.2⟩

end ResultSet

/-- **What a page holds.**  A page presents some cells, and has a given cursor, exactly when
it is the page that is built from them. -/
theorem page_presents_cells (t : RecordType) (columns queryOnly : String) (p : Projection)
    (hp : Projection.resolve columns queryOnly t.family = .ok p) (split : Bool) (cells : List Cell)
    (cursor : Cursor) (r : ResultSet) :
    r.Presents t p split cells ∧ r.cursor = cursor ↔ r = .ofCells cells p split cursor := by
  have hfamily : p.family = t.family := Projection.resolve_family hp
  have hbuilt : (ResultSet.ofCells cells p split cursor).Presents t p split cells :=
    ResultSet.presents_ofCells hfamily cells cursor
  constructor
  · rintro ⟨hpresents, hcursor⟩
    exact hpresents.unique hbuilt hcursor
  · rintro rfl
    exact ⟨hbuilt, rfl⟩

/-- Cells of two records that arrive in turns: a value is replaced, one column is fetched
for filters only, and one cell belongs to another family. -/
def interleavedCells : List Cell :=
  [⟨"42:7:b", "DF:alarm", 9, "on"⟩, ⟨"42:8:a", "DF:temp", 8, "20"⟩, ⟨"42:7:b", "DF:p:in", 7, "3"⟩,
    ⟨"42:8:a", "EF:temp", 8, "99"⟩, ⟨"42:7:b", "DF:temp", 7, "21"⟩, ⟨"42:8:a", "DF:temp", 8, "22"⟩]

/-- The hidden and the foreign value do not show, and rows and columns stand in the order
of the cells and not in that of the request. -/
theorem page_presents_interleaved :
    ∃ p, Projection.resolve "temp,p:in" "alarm" RecordType.data.family = .ok p ∧
      ∃ page : ResultSet, page.Presents .data p true interleavedCells ∧
        page.data.entries.map (fun row => (row.1, row.2.entries)) =
          [("8:a", [("temp", "22")]), ("7:b", [("p:in", "3"), ("temp", "21")])] ∧
        page.count = 2 :=
  ⟨_, rfl, .ofCells interleavedCells _ true .fresh,
    ((page_presents_cells .data "temp,p:in" "alarm" _ rfl true interleavedCells .fresh _).2 rfl).1,
    by decide, rfl⟩

end StreamStore
