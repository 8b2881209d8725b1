import StreamStore.Filter
import StreamStore.Json.Parser
import StreamStore.Json.Record

/-!
# Filters as documents

The gateway takes a filter as JSON.  A filter is a record whose member `type`
says which kind it is:

* `FilterList` has `op` (`MUST_PASS_ALL` or `MUST_PASS_ONE`) and `filters`;
* `SingleColumnValueFilter` has `op`, `family`, `qualifier` and `comparator`,
  which is a record of a `value` and the `type` `BinaryComparator`.

Writing uses this order of members.  Reading follows the rules for records
(`Json.members?`); in an array the kind stands first.  A name such as
`MUST_PASS_ALL` may also be given as an object with that one key and nothing in
it, and the kind of a filter inside a list also by its number.
-/

namespace StreamStore

/-- The name of a connective in a filter. -/
def Connective.filterName : Connective → String
  | all => "MUST_PASS_ALL"
  | any => "MUST_PASS_ONE"

/-- The name of a relation in a filter. -/
def Relation.filterName : Relation → String
  | less => "LESS"
  | lessOrEqual => "LESS_OR_EQUAL"
  | greater => "GREATER"
  | greaterOrEqual => "GREATER_OR_EQUAL"
  | equal => "EQUAL"
  | notEqual => "NOT_EQUAL"

/-- Every relation. -/
def Relation.every : List Relation :=
  [less, lessOrEqual, greater, greaterOrEqual, equal, notEqual]

namespace Filter

/-- The kind of a filter that is a list. -/
def listKind : String := "FilterList"

/-- The kind of a filter that compares a value. -/
def valueKind : String := "SingleColumnValueFilter"

/-- The kind of comparison: by bytes. -/
def comparatorKind : String := "BinaryComparator"

mutual

/-- A filter as a document. -/
def toJson : Filter → Json
  | .list connective filters =>
      .object [("type", .string listKind), ("op", .string connective.filterName),
        ("filters", .array (toJsons filters))]
  | .value relation family column text =>
      .object [("type", .string valueKind), ("op", .string relation.filterName),
        ("family", .string family), ("qualifier", .string column),
        ("comparator", .object [("value", .string text), ("type", .string comparatorKind)])]

/-- A list of filters as documents. -/
def toJsons : List Filter → List Json
  | [] => []
  | f :: rest => toJson f :: toJsons rest

end

/-- A filter as text. -/
def render (f : Filter) : String :=
  f.toJson.render

/-! ### Reading -/

/-- A name, given as a text or as an object with that one key and nothing in it. -/
def name? : Json → Option String
  | .string s => some s
  | .object [(k, .null)] => some k
  | .object [(k, .object [])] => some k
  | _ => none

/-- The connective that a document names. -/
def connective? (v : Json) : Option Connective := do
  let n ← name? v
  if n = Connective.all.filterName then some .all
  else if n = Connective.any.filterName then some .any
  else none

/-- The relation that a document names. -/
def relation? (v : Json) : Option Relation := do
  let n ← name? v
  Relation.every.find? fun r => r.filterName == n

/-- The text of a comparator. -/
def comparator? (v : Json) : Option String := do
  match ← Json.allPresent? (← Json.members? ["value", "type"] v) with
  | [text, kind] =>
      let text ← text.string?
      if (← name? kind) = comparatorKind then some text else none
  | _ => none

/-- Whether a document is the kind of a list (`true`) or of a comparison (`false`);
inside a list of filters it may also be a number. -/
def kind? (inList : Bool) : Json → Option Bool
  | .string s => if s = listKind then some true else if s = valueKind then some false else none
  | .number (.integer n _) =>
      if inList && n == 0 then some true
      else if inList && n == 1 then some false
      else none
  | _ => none

/-- The kind of a filter and the record without it. -/
def splitKind? (inList : Bool) : Json → Option (Bool × Json)
  | .object fields => do
      let kind ← kind? inList (← (← Json.single? "type" fields))
      some (kind, .object (fields.filter fun e => e.1 != "type"))
  | .array (kind :: rest) => (kind? inList kind).map fun k => (k, .array rest)
  | _ => none

/-- The comparison that a record without its kind describes. -/
def comparison? (v : Json) : Option Filter := do
  match ← Json.allPresent? (← Json.members? ["op", "family", "qualifier", "comparator"] v) with
  | [op, family, column, comparator] =>
      some (.value (← relation? op) (← family.string?) (← column.string?)
        (← comparator? comparator))
  | _ => none

/-- Reads a filter; `depth` bounds how deep lists may be inside one another. -/
def ofJsonWithin : Nat → Bool → Json → Option Filter
  | 0, _, _ => none
  | depth + 1, inList, v => do
      let (isList, record) ← splitKind? inList v
      if isList then
        match ← Json.allPresent? (← Json.members? ["op", "filters"] record) with
        | [op, filters] =>
            let connective ← connective? op
            let items ← filters.array?
            some (.list connective (← items.mapM (ofJsonWithin depth true)))
        | _ => none
      else comparison? record

/-- Reads the text of a filter. -/
def parse (text : String) : Except PayloadFault Filter :=
  match (Json.parse text).bind (ofJsonWithin (Json.maxDepth + 1) false) with
  | some f => .ok f
  | none => .error (.shape "filter")

end Filter

end StreamStore
