import StreamStore.Proofs.ArrivalOrder
import StreamStore.Proofs.FetchedColumns

/-!
# What a page shows

A page is built cell by cell, and a cell shows only when its qualifier belongs to
an output column (`shownColumn?_isSome_iff`).  So the rows of a page are the rows
of its showing cells (`mem_keys_ofCells`): a row of which nothing but hidden
columns was fetched leaves no trace in the result.

What stands in a row and a column is the value of the last cell that shows there
(`valueAt?_ofCells`); the cells before it in that place are lost.
-/

namespace StreamStore

/-! ### Cells that show -/

theorem Projection.isHidden_eq_true_iff {p : Projection} {column : String} :
    p.isHidden (p.qualify column) = true ↔ column ∈ p.hidden := by
  rw [isHidden, List.contains_iff_mem, List.mem_map]
  constructor
  · rintro ⟨c, hc, heq⟩
    exact p.qualify_inj heq ▸ hc
  · intro h
    exact ⟨column, h, rfl⟩

theorem Projection.position?_isSome_iff {p : Projection} {qualifier : String} :
    (p.position? qualifier).isSome = true ↔ qualifier ∈ p.qualifiers := by
  rw [position?, List.findIdx?_isSome, List.any_eq_true]
  constructor
  · rintro ⟨q, hq, heq⟩
    exact beq_iff_eq.1 heq ▸ hq
  · intro h
    exact ⟨qualifier, h, beq_self_eq_true qualifier⟩

theorem Projection.column?_isSome_iff {p : Projection} {column : String} :
    (p.column? (p.qualify column)).isSome = true ↔ column ∈ p.fetched := by
  have hcolon : ':' ∈ (p.qualify column).toList := by
    rw [qualify, String.toList_append, String.toList_append]
    exact List.mem_append_left _ (List.mem_append_right _ (List.mem_singleton_self _))
  rw [column?]
  split
  · next h =>
      rw [Option.isSome_map]
      exact iff_of_true (Text.cutOnce_isSome_of_mem hcolon)
        (mem_qualifiers.1 (position?_isSome_iff.1 h))
  · next h =>
      exact iff_of_false Bool.false_ne_true fun hmem =>
        h (position?_isSome_iff.2 (mem_qualifiers.2 hmem))

namespace ResultSet

/-- A cell shows exactly when its column is an output column. -/
theorem shownColumn?_isSome_iff {p : Projection} {cell : Cell} {column : String}
    (h : cell.qualifier = p.qualify column) :
    (shownColumn? p cell).isSome = true ↔ column ∈ p.output := by
  rw [shownColumn?, h]
  split
  · next hhidden =>
      refine iff_of_false Bool.false_ne_true fun hout => ?_
      exact (List.nodup_append.1 p.distinct).2.2 _ hout _
        (Projection.isHidden_eq_true_iff.1 hhidden) rfl
  · next hhidden =>
      rw [Projection.column?_isSome_iff, Projection.fetched, List.mem_append]
      exact or_iff_left fun hmem => hhidden (Projection.isHidden_eq_true_iff.2 hmem)

theorem mem_keys_addCell {p : Projection} {split : Bool} {data : ArrivalMap (ArrivalMap String)}
    {cell : Cell} {key : String} :
    key ∈ (addCell p split data cell).keys ↔
      key ∈ data.keys ∨ (shownColumn? p cell).isSome = true ∧ rowIdentity split cell = key := by
  rw [addCell]
  cases shownColumn? p cell with
  | none => exact ⟨.inl, fun h => h.resolve_right fun h => absurd h.1 Bool.false_ne_true⟩
  | some column =>
      refine ArrivalMap.mem_keys_insert.trans (or_comm.trans (or_congr_right ?_))
      exact ⟨fun h => ⟨rfl, h.symm⟩, fun h => h.2.symm⟩

theorem mem_keys_foldl_addCell {p : Projection} {split : Bool} {cells : List Cell}
    {data : ArrivalMap (ArrivalMap String)} {key : String} :
    key ∈ (cells.foldl (addCell p split) data).keys ↔ key ∈ data.keys ∨
      ∃ c ∈ cells, (shownColumn? p c).isSome = true ∧ rowIdentity split c = key := by
  induction cells generalizing data with
  | nil => exact ⟨.inl, fun h => h.resolve_right fun ⟨_, hc, _⟩ => nomatch hc⟩
  | cons c cells ih =>
      rw [List.foldl_cons, ih, mem_keys_addCell, or_assoc]
      refine or_congr_right ⟨?_, ?_⟩
      · rintro (hshown | ⟨d, hd, hshown⟩)
        · exact ⟨c, List.mem_cons_self, hshown⟩
        · exact ⟨d, List.mem_cons_of_mem c hd, hshown⟩
      · rintro ⟨d, hd, hshown⟩
        rcases List.mem_cons.1 hd with rfl | hd
        · exact .inl hshown
        · exact .inr ⟨d, hd, hshown⟩

/-- **The rows of a page** are the rows of the cells that show. -/
theorem mem_keys_ofCells {cells : List Cell} {p : Projection} {split : Bool} {cursor : Cursor}
    {key : String} :
    key ∈ (ofCells cells p split cursor).data.keys ↔
      ∃ c ∈ cells, (shownColumn? p c).isSome = true ∧ rowIdentity split c = key :=
  mem_keys_foldl_addCell.trans (or_iff_right List.not_mem_nil)

/-! ### The values of a page -/

/-- What stands in a row and a column of the rows of a page. -/
def valueIn? (data : ArrivalMap (ArrivalMap String)) (row column : String) : Option String :=
  (data.get? row).bind fun values => values.get? column

/-- What stands in a row and a column of a page. -/
def valueAt? (r : ResultSet) (row column : String) : Option String :=
  valueIn? r.data row column

/-- The cells that show in a row and a column, in their order. -/
def shownAt (p : Projection) (split : Bool) (cells : List Cell) (row column : String) : List Cell :=
  cells.filter fun c => shownColumn? p c == some column && rowIdentity split c == row

/-- One more cell changes the value of its own place and no other. -/
theorem valueIn?_addCell {p : Projection} {split : Bool} {data : ArrivalMap (ArrivalMap String)}
    {c : Cell} {row column : String} :
    valueIn? (addCell p split data c) row column =
      if shownColumn? p c = some column ∧ rowIdentity split c = row then some c.value
      else valueIn? data row column := by
  rw [addCell]
  cases hshown : shownColumn? p c with
  | none =>
      rw [if_neg]
      rintro ⟨hnone, -⟩
      cases hnone
  | some shown =>
      dsimp only
      rw [valueIn?, valueIn?, ArrivalMap.alter]
      by_cases hrow : rowIdentity split c = row
      · subst hrow
        rw [ArrivalMap.get?_insert_self, Option.bind_some]
        by_cases hcolumn : shown = column
        · subst hcolumn
          rw [ArrivalMap.get?_insert_self, if_pos ⟨rfl, rfl⟩]
        · have hother : ¬(some shown = some column ∧ rowIdentity split c = rowIdentity split c) :=
            fun h => hcolumn (Option.some.inj h.1)
          rw [ArrivalMap.get?_insert_of_ne _ (Ne.symm hcolumn), if_neg hother]
          cases data.get? (rowIdentity split c) with
          | none => rfl
          | some values => rfl
      · have hother : ¬(some shown = some column ∧ rowIdentity split c = row) :=
          fun h => hrow h.2
        rw [ArrivalMap.get?_insert_of_ne _ (Ne.symm hrow), if_neg hother]

theorem valueIn?_foldl_addCell (cells : List Cell) (data : ArrivalMap (ArrivalMap String))
    {p : Projection} {split : Bool} {row column : String} :
    valueIn? (cells.foldl (addCell p split) data) row column =
      ((shownAt p split cells row column).getLast?.map Cell.value).or
        (valueIn? data row column) := by
  induction cells generalizing data with
  | nil => rfl
  | cons c cells ih =>
      rw [List.foldl_cons, ih, valueIn?_addCell]
      by_cases hc : shownColumn? p c = some column ∧ rowIdentity split c = row
      · have hshown : shownAt p split (c :: cells) row column =
            c :: shownAt p split cells row column :=
          List.filter_cons_of_pos (by simp [hc])
        rw [if_pos hc, hshown, List.getLast?_cons]
        cases (shownAt p split cells row column).getLast? with
        | none => rfl
        | some last => rfl
      · have hshown : shownAt p split (c :: cells) row column = shownAt p split cells row column :=
          List.filter_cons_of_neg (by simpa using hc)
        rw [if_neg hc, hshown]

/-- **The values of a page** are those of the last cells that show in their places. -/
theorem valueAt?_ofCells (cells : List Cell) (p : Projection) (split : Bool) (cursor : Cursor)
    (row column : String) :
    (ofCells cells p split cursor).valueAt? row column =
      (shownAt p split cells row column).getLast?.map Cell.value := by
  rw [valueAt?, ofCells]
  exact (valueIn?_foldl_addCell cells .empty).trans (Option.or_none ..)

end ResultSet

end StreamStore
