import StreamStore.Json.Basic

/-!
# How deep a document is

The reader opens a bounded number of arrays and objects inside one another, so what
is said about reading a document back is said about documents up to a depth.  A list
is as deep as its deepest member (`depthItems_le_iff`, `depthFields_le_iff`), and a
member is less deep than the array or object it stands in.
-/

namespace StreamStore.Json

mutual

/-- How many arrays and objects stand inside one another in a document. -/
def depth : Json → Nat
  | .array items => depthItems items + 1
  | .object fields => depthFields fields + 1
  | .null => 0
  | .bool _ => 0
  | .number _ => 0
  | .string _ => 0

/-- The depth of the deepest item of a list. -/
def depthItems : List Json → Nat
  | [] => 0
  | v :: rest => max (depth v) (depthItems rest)

/-- The depth of the deepest field of a list. -/
def depthFields : List (String × Json) → Nat
  | [] => 0
  | (_, v) :: rest => max (depth v) (depthFields rest)

end

/-- A list is within a bound when its members are. -/
theorem depthItems_le_iff {items : List Json} {n : Nat} :
    depthItems items ≤ n ↔ ∀ v ∈ items, v.depth ≤ n := by
  induction items with
  | nil => simp [depthItems]
  | cons v rest ih => rw [depthItems, Nat.max_le, ih, List.forall_mem_cons]

/-- Fields are within a bound when their values are. -/
theorem depthFields_le_iff {fields : List (String × Json)} {n : Nat} :
    depthFields fields ≤ n ↔ ∀ e ∈ fields, e.2.depth ≤ n := by
  induction fields with
  | nil => simp [depthFields]
  | cons e rest ih => rw [depthFields, Nat.max_le, ih, List.forall_mem_cons]

theorem depth_le_depthItems {items : List Json} {v : Json} (h : v ∈ items) :
    v.depth ≤ depthItems items :=
  depthItems_le_iff.1 (Nat.le_refl _) v h

theorem depth_le_depthFields {fields : List (String × Json)} {e : String × Json}
    (h : e ∈ fields) : e.2.depth ≤ depthFields fields :=
  depthFields_le_iff.1 (Nat.le_refl _) e h

theorem depth_ofNat (n : Nat) : (ofNat n).depth = 0 := by
  unfold ofNat
  split
  · rw [depth]
  · rw [depth]

theorem depthFields_append (es ds : List (String × Json)) :
    depthFields (es ++ ds) = max (depthFields es) (depthFields ds) := by
  induction es with
  | nil => simp [depthFields]
  | cons e es ih => rw [List.cons_append, depthFields, depthFields, ih, Nat.max_assoc]

end StreamStore.Json
