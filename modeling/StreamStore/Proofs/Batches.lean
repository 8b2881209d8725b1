/-!
# Lists cut into batches

`batches b xs` is what a reader receives who takes `b` elements off a list again
and again until nothing is left.  A batch of zero elements would never end; it is
read as a batch of one.
-/

namespace StreamStore

variable {α : Type}

/-- A list in batches of `b` elements; the last one has the rest. -/
def batches (b : Nat) : List α → List (List α)
  | [] => []
  | x :: xs => (x :: xs.take (b - 1)) :: batches b (xs.drop (b - 1))
termination_by xs => xs.length
decreasing_by
  rw [List.length_drop, List.length_cons]
  omega

@[simp] theorem batches_nil (b : Nat) : batches b ([] : List α) = [] := by
  rw [batches]

/-- The first batch and the batches of what it leaves. -/
theorem batches_of_ne_nil {b : Nat} {xs : List α} (hb : 0 < b) (h : xs ≠ []) :
    batches b xs = xs.take b :: batches b (xs.drop b) := by
  cases xs with
  | nil => exact absurd rfl h
  | cons x xs =>
      obtain ⟨n, rfl⟩ := Nat.exists_eq_add_of_lt hb
      rw [batches, Nat.zero_add, Nat.add_sub_cancel, List.take_succ_cons, List.drop_succ_cons]

theorem flatten_batches (b : Nat) (xs : List α) : (batches b xs).flatten = xs := by
  fun_induction batches b xs with
  | case1 => rfl
  | case2 x xs ih => rw [List.flatten_cons, ih, List.cons_append, List.take_append_drop]

/-- No batch is empty, and none has more than `b` elements. -/
theorem length_of_mem_batches {b : Nat} {xs ys : List α} (hb : 0 < b) (h : ys ∈ batches b xs) :
    ys ≠ [] ∧ ys.length ≤ b := by
  fun_induction batches b xs with
  | case1 => cases h
  | case2 x xs ih =>
      rcases List.mem_cons.1 h with rfl | h
      · refine ⟨List.cons_ne_nil _ _, ?_⟩
        rw [List.length_cons, List.length_take]
        omega
      · exact ih h

/-- Every batch but the last one is full. -/
theorem length_of_mem_dropLast_batches {b : Nat} {xs ys : List α} (hb : 0 < b)
    (h : ys ∈ (batches b xs).dropLast) : ys.length = b := by
  fun_induction batches b xs with
  | case1 => cases h
  | case2 x xs ih =>
      by_cases hrest : xs.drop (b - 1) = []
      · rw [hrest, batches_nil] at h
        cases h
      · have hlong : b - 1 < xs.length := Nat.not_le.1 fun hle =>
          hrest (List.drop_eq_nil_iff.2 hle)
        have hne : batches b (xs.drop (b - 1)) ≠ [] := by
          rw [batches_of_ne_nil hb hrest]
          exact List.cons_ne_nil _ _
        rw [List.dropLast_cons_of_ne_nil hne] at h
        rcases List.mem_cons.1 h with rfl | h
        · rw [List.length_cons, List.length_take]
          omega
        · exact ih h

/-- There are as many batches as are needed. -/
theorem length_batches {b : Nat} (hb : 0 < b) (xs : List α) :
    (batches b xs).length = (xs.length + b - 1) / b := by
  fun_induction batches b xs with
  | case1 => exact (Nat.div_eq_of_lt (by rw [List.length_nil]; omega)).symm
  | case2 x xs ih =>
      rw [List.length_cons, List.length_cons, ih, List.length_drop]
      by_cases hlong : b - 1 ≤ xs.length
      · have hsum : xs.length + 1 + b - 1 = xs.length - (b - 1) + b - 1 + b := by omega
        rw [hsum, Nat.add_div_right _ hb]
      · have hnone : xs.length - (b - 1) + b - 1 < b := by omega
        have hone : xs.length + 1 + b - 1 = xs.length + b := by omega
        rw [Nat.div_eq_of_lt hnone, hone, Nat.add_div_right _ hb, Nat.div_eq_of_lt (by omega)]

end StreamStore
