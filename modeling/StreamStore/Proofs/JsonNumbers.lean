import StreamStore.Proofs.NumberText

/-!
# The numbers of a document

A text that was written reads back whatever it says, but a number need not
(`JsonNumber.ReadsBack`).  What is said about reading a document back is therefore said
about documents whose numbers do (`NumbersReadBack`).  A list has this property when its
members have it, so that it is shown for a document member by member; a document without
doubles always has it.
-/

namespace StreamStore.Json

mutual

/-- The numbers of a document, in their order. -/
def numbers : Json → List JsonNumber
  | .number n => [n]
  | .array items => numbersItems items
  | .object fields => numbersFields fields
  | .null => []
  | .bool _ => []
  | .string _ => []

/-- The numbers of the items of a list. -/
def numbersItems : List Json → List JsonNumber
  | [] => []
  | v :: rest => numbers v ++ numbersItems rest

/-- The numbers of the fields of a list. -/
def numbersFields : List (String × Json) → List JsonNumber
  | [] => []
  | (_, v) :: rest => numbers v ++ numbersFields rest

end

/-- Whether every number of a document is read from its own text. -/
def NumbersReadBack (v : Json) : Prop :=
  ∀ n ∈ v.numbers, n.ReadsBack

instance (v : Json) : Decidable v.NumbersReadBack :=
  List.decidableBAll JsonNumber.ReadsBack v.numbers

theorem numbersReadBack_number {n : JsonNumber} :
    (number n).NumbersReadBack ↔ n.ReadsBack := by
  rw [NumbersReadBack, numbers, List.forall_mem_singleton]

@[simp] theorem numbersReadBack_null : null.NumbersReadBack := by
  rw [NumbersReadBack, numbers]
  exact List.forall_mem_nil _

@[simp] theorem numbersReadBack_string (s : String) : (string s).NumbersReadBack := by
  rw [NumbersReadBack, numbers]
  exact List.forall_mem_nil _

@[simp] theorem numbersReadBack_ofNat (n : Nat) : (ofNat n).NumbersReadBack := by
  unfold ofNat
  split
  · exact numbersReadBack_number.2 (JsonNumber.readsBack_integer _)
  · exact numbersReadBack_number.2 (JsonNumber.readsBack_integer _)

@[simp] theorem numbersReadBack_array {items : List Json} :
    (array items).NumbersReadBack ↔ ∀ v ∈ items, v.NumbersReadBack := by
  rw [NumbersReadBack, numbers]
  induction items with
  | nil => simp [numbersItems]
  | cons v rest ih =>
      rw [numbersItems, List.forall_mem_append, List.forall_mem_cons, ih, ← NumbersReadBack]

@[simp] theorem numbersReadBack_object {fields : List (String × Json)} :
    (object fields).NumbersReadBack ↔ ∀ e ∈ fields, e.2.NumbersReadBack := by
  rw [NumbersReadBack, numbers]
  induction fields with
  | nil => simp [numbersFields]
  | cons e rest ih =>
      rw [numbersFields, List.forall_mem_append, List.forall_mem_cons, ih, ← NumbersReadBack]

end StreamStore.Json
