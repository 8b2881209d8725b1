import Mathlib.Data.List.Basic
import StreamStore.Proofs.ArrivalOrder
import StreamStore.Proofs.SnapshotScan

/-!
# Rows of a list of cells

A list of cells has rows, in the order of their first cells (`rowsOf`), and can be
grouped by them: the cells of the first row, those of the second, and so on, each in
their own order (`groupedByRow`).  When the cells of each row stand together already,
as they do in a scan, grouping changes nothing (`groupedByRow_of_together`); so the
cells of a scan can be cut behind any number of rows (`exists_rows_split`).
-/

namespace StreamStore

/-- The rows of a list of cells, in the order of their first cells. -/
def rowsOf (cells : List Cell) : List String :=
  firstOccurrences (cells.map Cell.rowKey)

/-- Cells by row: the rows in the order of their first cells, and the cells of a row
in their own order. -/
def groupedByRow (cells : List Cell) : List Cell :=
  (rowsOf cells).flatMap fun key => cells.filter fun c => c.rowKey == key

/-- Between two cells of a row stand only cells of this row. -/
def RowsTogether (cells : List Cell) : Prop :=
  ∀ before c between d after, cells = before ++ c :: (between ++ d :: after) →
    c.rowKey = d.rowKey → ∀ e ∈ between, e.rowKey = c.rowKey

/-- Whether no row has cells in both of two lists. -/
def RowsApart (xs ys : List Cell) : Prop :=
  ∀ c ∈ xs, ∀ d ∈ ys, c.rowKey ≠ d.rowKey

theorem mem_rowsOf {cells : List Cell} {key : String} :
    key ∈ rowsOf cells ↔ ∃ c ∈ cells, c.rowKey = key := by
  rw [rowsOf, mem_firstOccurrences, List.mem_map]

theorem nodup_rowsOf (cells : List Cell) : (rowsOf cells).Nodup :=
  nodup_firstOccurrences _

theorem rowsApart_iff {xs ys : List Cell} :
    RowsApart xs ys ↔ (rowsOf xs).Disjoint (rowsOf ys) := by
  constructor
  · intro h key hxs hys
    obtain ⟨c, hc, rfl⟩ := mem_rowsOf.1 hxs
    obtain ⟨d, hd, heq⟩ := mem_rowsOf.1 hys
    exact h c hc d hd heq.symm
  · intro h c hc d hd heq
    exact h (mem_rowsOf.2 ⟨c, hc, rfl⟩) (mem_rowsOf.2 ⟨d, hd, heq.symm⟩)

/-- The rows after the first one are those of the other cells. -/
theorem rowsOf_cons (c : Cell) (cells : List Cell) :
    rowsOf (c :: cells) = c.rowKey :: rowsOf (cells.filter fun d => d.rowKey != c.rowKey) := by
  rw [rowsOf, List.map_cons, firstOccurrences_cons, firstOccurrences_filter, List.filter_map]
  rfl

theorem rowsOf_append {xs ys : List Cell} (h : RowsApart xs ys) :
    rowsOf (xs ++ ys) = rowsOf xs ++ rowsOf ys := by
  have hnew : ∀ key ∈ firstOccurrences (ys.map Cell.rowKey),
      (!(xs.map Cell.rowKey).contains key) = true := by
    intro key hkey
    obtain ⟨d, hd, rfl⟩ := mem_rowsOf.1 hkey
    have hout : d.rowKey ∉ xs.map Cell.rowKey := by
      intro hmem
      obtain ⟨c, hc, heq⟩ := List.mem_map.1 hmem
      exact h c hc d hd heq
    simpa using hout
  rw [rowsOf, List.map_append, firstOccurrences_append, List.filter_eq_self.2 hnew]
  rfl

/-- Cells of one row have one row. -/
theorem rowsOf_of_forall_eq {cells : List Cell} {key : String} (hne : cells ≠ [])
    (h : ∀ c ∈ cells, c.rowKey = key) : rowsOf cells = [key] := by
  have hmem : ∀ k, k ∈ rowsOf cells ↔ k ∈ [key] := by
    intro k
    rw [mem_rowsOf, List.mem_singleton]
    constructor
    · rintro ⟨c, hc, rfl⟩
      exact h c hc
    · rintro rfl
      obtain ⟨c, hc⟩ := List.exists_mem_of_ne_nil cells hne
      exact ⟨c, hc, h c hc⟩
  have hperm : (rowsOf cells).Perm [key] :=
    (List.perm_ext_iff_of_nodup (nodup_rowsOf cells) (by simp)).2 hmem
  exact List.perm_singleton.1 hperm

/-- Rows put one after the other. -/
theorem rowsOf_flatMap {keys : List String} {row : String → List Cell} (hkeys : keys.Nodup)
    (hne : ∀ key ∈ keys, row key ≠ []) (hrow : ∀ key, ∀ c ∈ row key, c.rowKey = key) :
    rowsOf (keys.flatMap row) = keys := by
  induction keys with
  | nil => rfl
  | cons key keys ih =>
      obtain ⟨hkey, hkeys⟩ := List.nodup_cons.1 hkeys
      obtain ⟨hfirst, hrest⟩ := List.forall_mem_cons.1 hne
      have hapart : RowsApart (row key) (keys.flatMap row) := by
        intro c hc d hd heq
        obtain ⟨k, hk, hd⟩ := List.mem_flatMap.1 hd
        rw [hrow key c hc, hrow k d hd] at heq
        exact hkey (heq ▸ hk)
      rw [List.flatMap_cons, rowsOf_append hapart, rowsOf_of_forall_eq hfirst (hrow key),
        ih hkeys hrest]
      rfl

/-! ### Grouping -/

/-- The first row takes its cells from the list, and the other rows group what is left. -/
theorem groupedByRow_cons (c : Cell) (cells : List Cell) :
    groupedByRow (c :: cells) =
      c :: (cells.filter (fun d => d.rowKey == c.rowKey) ++
        groupedByRow (cells.filter fun d => d.rowKey != c.rowKey)) := by
  have hfirst : (c :: cells).filter (fun d => d.rowKey == c.rowKey) =
      c :: cells.filter fun d => d.rowKey == c.rowKey := by
    simp
  rw [groupedByRow, rowsOf_cons, List.flatMap_cons, hfirst, List.cons_append, groupedByRow]
  congr 2
  apply List.flatMap_congr
  intro key hkey
  have hne : key ≠ c.rowKey := by
    obtain ⟨d, hd, rfl⟩ := mem_rowsOf.1 hkey
    simpa using (List.mem_filter.1 hd).2
  rw [List.filter_filter, List.filter_cons_of_neg (by simpa using hne.symm)]
  apply List.filter_congr
  intro d _
  by_cases hd : d.rowKey = key
  · simp [hd, hne]
  · simp [hd]

theorem RowsTogether.tail {c : Cell} {cells : List Cell} (h : RowsTogether (c :: cells)) :
    RowsTogether cells := by
  intro before a between d after hcells hkey
  exact h (c :: before) a between d after (by rw [hcells]; rfl) hkey

/-- When the cells of each row stand together, grouping changes nothing. -/
theorem groupedByRow_of_together {cells : List Cell} (h : RowsTogether cells) :
    groupedByRow cells = cells := by
  induction cells with
  | nil => rfl
  | cons c cells ih =>
      have hrest : groupedByRow cells = cells := ih h.tail
      cases cells with
      | nil =>
          rw [groupedByRow_cons]
          rfl
      | cons d cells =>
          rw [groupedByRow_cons]
          by_cases hdc : d.rowKey = c.rowKey
          -- the next cell belongs to the same row, so the rows after it are the same
          · rw [groupedByRow_cons, hdc] at hrest
            have hin : (d :: cells).filter (fun e => e.rowKey == c.rowKey) =
                d :: cells.filter fun e => e.rowKey == c.rowKey := by
              simp [hdc]
            have hout : (d :: cells).filter (fun e => e.rowKey != c.rowKey) =
                cells.filter fun e => e.rowKey != c.rowKey := by
              simp [hdc]
            rw [hin, hout, List.cons_append, hrest]
          -- the row of the first cell is over
          · have hother : ∀ e ∈ d :: cells, e.rowKey ≠ c.rowKey := by
              intro e he heq
              obtain ⟨between, after, hsplit⟩ := List.append_of_mem he
              cases between with
              | nil =>
                  obtain rfl := (List.cons.inj hsplit).1
                  exact hdc heq
              | cons b between =>
                  obtain rfl := (List.cons.inj hsplit).1
                  have hsame := h [] c (d :: between) e after (by rw [hsplit]; rfl) heq.symm
                  exact hdc (hsame d List.mem_cons_self)
            have hin : (d :: cells).filter (fun e => e.rowKey == c.rowKey) = [] := by
              refine List.filter_eq_nil_iff.2 fun e he => ?_
              simpa using hother e he
            have hout : (d :: cells).filter (fun e => e.rowKey != c.rowKey) = d :: cells := by
              refine List.filter_eq_self.2 fun e he => ?_
              simpa using hother e he
            rw [hin, hout, List.nil_append, hrest]

/-! ### Cutting between two rows -/

/-- In ascending cells the cells of a row stand together. -/
theorem rowsTogether_of_ascending {cells : List Cell} (h : cells.Pairwise Cell.Before) :
    RowsTogether cells := by
  rintro before c between d after rfl hkey e he
  have htail := (List.pairwise_append.1 h).2.1
  obtain ⟨hfirst, hrest⟩ := List.pairwise_cons.1 htail
  have hce := Cell.before_iff.1 (hfirst e (List.mem_append_left _ he))
  have hed := Cell.before_iff.1
    ((List.pairwise_append.1 hrest).2.2 e he d List.mem_cons_self)
  rcases hce with hlt | ⟨heq, -⟩
  · rcases hed with hlt' | ⟨heq', -⟩
    · exact absurd (hkey ▸ String.lt_trans hlt hlt') (String.lt_irrefl _)
    · exact heq'.trans hkey.symm
  · exact heq.symm

/-- Ascending cells can be cut behind any number of rows. -/
theorem exists_rows_split {cells : List Cell} (h : cells.Pairwise Cell.Before) (n : Nat) :
    ∃ front back, cells = front ++ back ∧ RowsApart front back ∧
      rowsOf front = (rowsOf cells).take n ∧ rowsOf back = (rowsOf cells).drop n := by
  let row : String → List Cell := fun key => cells.filter fun c => c.rowKey == key
  have hrow : ∀ key, ∀ c ∈ row key, c.rowKey = key := fun key c hc =>
    eq_of_beq (List.mem_filter.1 hc).2
  have hne : ∀ key ∈ rowsOf cells, row key ≠ [] := by
    intro key hkey
    obtain ⟨c, hc, rfl⟩ := mem_rowsOf.1 hkey
    exact List.ne_nil_of_mem (List.mem_filter.2 ⟨hc, beq_self_eq_true _⟩)
  have hcells : cells = (rowsOf cells).flatMap row :=
    (groupedByRow_of_together (rowsTogether_of_ascending h)).symm
  have hfront : rowsOf (((rowsOf cells).take n).flatMap row) = (rowsOf cells).take n :=
    rowsOf_flatMap ((nodup_rowsOf cells).sublist (List.take_sublist n _))
      (fun key hkey => hne key (List.mem_of_mem_take hkey)) hrow
  have hback : rowsOf (((rowsOf cells).drop n).flatMap row) = (rowsOf cells).drop n :=
    rowsOf_flatMap ((nodup_rowsOf cells).sublist (List.drop_sublist n _))
      (fun key hkey => hne key (List.mem_of_mem_drop hkey)) hrow
  refine ⟨((rowsOf cells).take n).flatMap row, ((rowsOf cells).drop n).flatMap row, ?_, ?_,
    hfront, hback⟩
  · rw [← List.flatMap_append, List.take_append_drop]
    exact hcells
  · rw [rowsApart_iff, hfront, hback]
    exact List.disjoint_take_drop (nodup_rowsOf cells) (Nat.le_refl n)

end StreamStore
