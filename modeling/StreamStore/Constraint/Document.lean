import StreamStore.Constraint
import StreamStore.Json.Parser

/-!
# Constraints as documents

A caller writes a constraint as JSON:

* `{"AND": [...]}` and `{"OR": [...]}`, the only key in any case, combine
  constraints;
* `{"column": c, "op": o, "$": v}` compares a column, where `o` is one of `<`,
  `<=`, `>`, `>=`, `=`, `!=`, and `v` is a text, a number or a truth value;
* with `IN` as `o`, in any case, `v` is an array of such scalars.

Blanks around the operator do not count, a column must not be empty, and keys
beside these three are ignored.  The last of repeated keys counts, so documents
are read in canonical form.  A part that is none of these is reported as it is;
of several such parts it is the first one, the outer before the inner.
-/

namespace StreamStore

/-- The connective that a key names, in any case. -/
def Connective.ofKey? (key : String) : Option Connective :=
  let name := Text.capitals key
  if name = "AND" then some .all
  else if name = "OR" then some .any
  else none

/-- An operator of the language: a relation, or membership. -/
inductive Operator where
  /-- A comparison with one scalar. -/
  | relation (r : Relation)
  /-- Membership in a list of scalars. -/
  | member
  deriving DecidableEq, Repr

/-- The operator that a text names, with blanks around it ignored. -/
def Operator.parse? (s : String) : Option Operator :=
  let name := Text.trim s
  if name = "<" then some (.relation .less)
  else if name = "<=" then some (.relation .lessOrEqual)
  else if name = ">" then some (.relation .greater)
  else if name = ">=" then some (.relation .greaterOrEqual)
  else if name = "=" then some (.relation .equal)
  else if name = "!=" then some (.relation .notEqual)
  else if Text.capitals name = "IN" then some .member
  else none

/-- The scalar that a document is, if it is one. -/
def Scalar.ofJson? : Json → Option Scalar
  | .string s => some (.text s)
  | .number n => some (.number n)
  | .bool b => some (.bool b)
  | _ => none

namespace Constraint

/-- The comparison that the fields of an object describe. -/
def comparison? (fields : List (String × Json)) : Option Constraint := do
  let column ← (← Json.lastOf? "column" fields).string?
  let operator ← Operator.parse? (← (← Json.lastOf? "op" fields).string?)
  let value ← Json.lastOf? "$" fields
  if column.isEmpty then none
  else
    match operator with
    | .relation r => (Scalar.ofJson? value).map (.compare column r)
    | .member => do
        let values ← (← value.array?).mapM Scalar.ofJson?
        some (.member column values)

/-- The comparison that an object describes; the object itself is what is
reported when it describes none. -/
def comparison (fields : List (String × Json)) : Except ConstraintFault Constraint :=
  match comparison? fields with
  | some c => .ok c
  | none => .error (.malformed (.object fields))

mutual

/-- Reads a document in canonical form. -/
def ofCanonical : Json → Except ConstraintFault Constraint
  | .object [(key, .array items)] =>
      match Connective.ofKey? key with
      | some connective =>
          match ofItems items with
          | .ok parts => .ok (.combine connective parts)
          | .error e => .error e
      | none => comparison [(key, .array items)]
  | .object fields => comparison fields
  | .null => .error (.malformed .null)
  | .bool b => .error (.malformed (.bool b))
  | .number n => .error (.malformed (.number n))
  | .string s => .error (.malformed (.string s))
  | .array items => .error (.malformed (.array items))

/-- Reads the members of a combination, the first malformed one being reported. -/
def ofItems : List Json → Except ConstraintFault (List Constraint)
  | [] => .ok []
  | v :: rest =>
      match ofCanonical v with
      | .error e => .error e
      | .ok c =>
          match ofItems rest with
          | .error e => .error e
          | .ok cs => .ok (c :: cs)

end

/-- Reads a document. -/
def ofJson (v : Json) : Except ConstraintFault Constraint :=
  ofCanonical v.canonical

/-- Reads the text of a document. -/
def parse (text : String) : Except ConstraintFault Constraint :=
  match Json.parse text with
  | some v => ofJson v
  | none => .error (.notJson text)

end Constraint

end StreamStore
