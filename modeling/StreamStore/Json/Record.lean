import StreamStore.Json.Basic
import StreamStore.ArrivalMap

/-!
# Records inside documents

Results, cell sets and filters are documents of a fixed shape.  Such a record is
read from an object by the names of its members, or from an array by their
order.  Members that the record does not have are ignored in an object and
refused in an array; a member given twice is refused.

A map inside a record keeps every key at the place where it first stands and
with the value it has last.
-/

namespace StreamStore.Json

/-- The member of an object with a given name: absent, present once, or refused
because it is repeated. -/
def single? (name : String) (fields : List (String × Json)) : Option (Option Json) :=
  match fields.filter (fun e => e.1 == name) with
  | [] => some none
  | [e] => some (some e.2)
  | _ => none

/-- The members of a record, in the order of `names`; an absent one is `none`. -/
def members? (names : List String) : Json → Option (List (Option Json))
  | .object fields => names.mapM fun name => single? name fields
  | .array items =>
      if items.length ≤ names.length then
        some (items.map some ++ List.replicate (names.length - items.length) none)
      else none
  | _ => none

/-- The values of a list of members, if none of them is absent. -/
def allPresent? (values : List (Option Json)) : Option (List Json) :=
  values.mapM id

/-- Reads every value of an object as a map. -/
def map? {β : Type} (read : Json → Option β) : Json → Option (ArrivalMap β)
  | .object fields => do
      let entries ← fields.mapM fun e => (read e.2).map fun v => (e.1, v)
      some (ArrivalMap.ofList entries)
  | _ => none

/-- Reads every item of an array. -/
def list? {β : Type} (read : Json → Option β) : Json → Option (List β)
  | .array items => items.mapM read
  | _ => none

/-- Reads a value or `null`. -/
def nullable? {β : Type} (read : Json → Option β) : Json → Option (Option β)
  | .null => some none
  | v => (read v).map some

/-- A map as an object, in the map's order. -/
def ofMap {β : Type} (write : β → Json) (m : ArrivalMap β) : Json :=
  .object (m.entries.map fun e => (e.1, write e.2))

end StreamStore.Json
