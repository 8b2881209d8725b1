import StreamStore.Number.Binary64
import StreamStore.SortedMap

/-!
# JSON documents

A document is a tree of scalars, arrays and objects.  Two decisions:

**Objects keep their fields as written**, in order and with repetitions, because
the readers of this library differ in what they make of them: a constraint takes
the last of several equal keys, a result document refuses a repeated field, and
a map inside it keeps the place of the first.  `canonical` is the form in which
a document is echoed: keys ascend and the last of equal keys is the one kept.

**A number is an integer or a double.**  An integer literal that fits 64 bits,
signed or unsigned, is that integer; every other literal is a double.  The one
exception is `-0`, which is the double with that sign.
-/

namespace StreamStore

/-- The integers that a document keeps exactly: those of 64 bits, signed or unsigned. -/
def fits64 (n : Int) : Prop :=
  -9223372036854775808 ≤ n ∧ n < 18446744073709551616

instance (n : Int) : Decidable (fits64 n) :=
  inferInstanceAs (Decidable (_ ∧ _))

/-- A number of a document. -/
inductive JsonNumber where
  /-- An integer of 64 bits, signed or unsigned. -/
  | integer (value : Int) (fits : fits64 value)
  /-- Any other number. -/
  | double (value : Binary64)
  deriving DecidableEq

/-- A JSON document. -/
inductive Json where
  /-- The document `null`. -/
  | null
  /-- A truth value. -/
  | bool (value : Bool)
  /-- A number. -/
  | number (value : JsonNumber)
  /-- A text. -/
  | string (value : String)
  /-- A list of documents. -/
  | array (items : List Json)
  /-- Named documents, as written: in order and with repetitions. -/
  | object (fields : List (String × Json))

namespace Json

instance : Inhabited Json := ⟨.null⟩

/-- A natural number as a document; one beyond 64 bits becomes the largest integer. -/
def ofNat (n : Nat) : Json :=
  if h : fits64 n then .number (.integer n h)
  else .number (.integer 18446744073709551615 (by decide))

/-- The last value that a list of fields gives to a key. -/
def lastOf? (k : String) : List (String × Json) → Option Json
  | [] => none
  | (l, v) :: rest =>
      match lastOf? k rest with
      | some w => some w
      | none => if l = k then some v else none

/-- The value of a key of an object, the last one when it is repeated. -/
def field? (k : String) : Json → Option Json
  | .object fields => lastOf? k fields
  | _ => none

/-- The text that a document is, if it is one. -/
def string? : Json → Option String
  | .string s => some s
  | _ => none

/-- The list of documents that a document is, if it is one. -/
def array? : Json → Option (List Json)
  | .array items => some items
  | _ => none

/-- The word that a document is: an integer from zero to `2 ^ 64 - 1`. -/
def word? : Json → Option Nat
  | .number (.integer n _) => if 0 ≤ n then some n.toNat else none
  | _ => none

/-- The truth value that a document is, if it is one. -/
def bool? : Json → Option Bool
  | .bool b => some b
  | _ => none

/-- Fields in ascending order of their keys, the last of equal keys kept. -/
def sortFields (fields : List (String × Json)) : List (String × Json) :=
  (SortedMap.ofList fields).entries

mutual

/-- The form in which a document is echoed: in every object the keys ascend, and
the last of equal keys is the one kept. -/
def canonical : Json → Json
  | .array items => .array (canonicalItems items)
  | .object fields => .object (sortFields (canonicalFields fields))
  | .null => .null
  | .bool b => .bool b
  | .number n => .number n
  | .string s => .string s

/-- `canonical` on every item of a list. -/
def canonicalItems : List Json → List Json
  | [] => []
  | v :: rest => canonical v :: canonicalItems rest

/-- `canonical` on every field's value. -/
def canonicalFields : List (String × Json) → List (String × Json)
  | [] => []
  | (k, v) :: rest => (k, canonical v) :: canonicalFields rest

end

@[simp] theorem lastOf?_nil (k : String) : lastOf? k [] = none := rfl

theorem canonicalItems_eq_map (items : List Json) :
    canonicalItems items = items.map canonical := by
  induction items with
  | nil => rfl
  | cons v rest ih => rw [canonicalItems, ih, List.map_cons]

theorem canonicalFields_eq_map (fields : List (String × Json)) :
    canonicalFields fields = fields.map fun e => (e.1, canonical e.2) := by
  induction fields with
  | nil => rfl
  | cons e rest ih => rw [canonicalFields, ih, List.map_cons]

end Json

end StreamStore
