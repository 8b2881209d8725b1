import StreamStore.Constraint
import StreamStore.RecordType
import StreamStore.SortedMap

/-!
# Filters

A filter is what the backend evaluates on a row: a comparison of the value under
one qualifier, or a list of filters that must all pass or of which one must.
Filters carry column families and column names in base64, as the gateway wants
them.

* `Filter.accepts` evaluates a filter on a row, which maps qualifiers to values.
  A comparison passes when the row has no value under its qualifier, and a list
  of which one must pass also passes when it is empty.
* `Constraint.compile` turns a constraint into the filter for one record type.
  There is no filter for membership, so it becomes a list of equalities of which
  one must pass.
-/

namespace StreamStore

/-- A condition in the backend's terms. -/
inductive Filter where
  /-- All, or some, of several filters pass. -/
  | list (connective : Connective) (filters : List Filter)
  /-- The value under a qualifier, given by its encoded family and column, stands
  in a relation to a text. -/
  | value (relation : Relation) (family column : String) (text : String)

namespace Filter

/-- Whether the value of one column passes; it does when the row has none, and an
unreadable family or column never does. -/
def acceptsValue (row : SortedMap String) (relation : Relation)
    (family column text : String) : Bool :=
  match decodeIdentifier family, decodeIdentifier column with
  | .ok family, .ok column =>
      match row.get? s!"{family}:{column}" with
      | some stored => relation.holds stored text
      | none => true
  | _, _ => false

mutual

/-- Whether a row passes a filter. -/
def accepts (row : SortedMap String) : Filter → Bool
  | .list .all filters => acceptsAll row filters
  | .list .any filters => filters.isEmpty || acceptsSome row filters
  | .value relation family column text => acceptsValue row relation family column text

/-- Whether a row passes every filter of a list. -/
def acceptsAll (row : SortedMap String) : List Filter → Bool
  | [] => true
  | f :: rest => accepts row f && acceptsAll row rest

/-- Whether a row passes some filter of a list. -/
def acceptsSome (row : SortedMap String) : List Filter → Bool
  | [] => false
  | f :: rest => accepts row f || acceptsSome row rest

end

theorem acceptsAll_eq (row : SortedMap String) (filters : List Filter) :
    acceptsAll row filters = filters.all (accepts row) := by
  induction filters with
  | nil => rfl
  | cons f rest ih => rw [acceptsAll, ih, List.all_cons]

theorem acceptsSome_eq (row : SortedMap String) (filters : List Filter) :
    acceptsSome row filters = filters.any (accepts row) := by
  induction filters with
  | nil => rfl
  | cons f rest ih => rw [acceptsSome, ih, List.any_cons]

end Filter

namespace Constraint

/-- The comparison of a column of a record type. -/
def valueFilter (t : RecordType) (column : String) (relation : Relation) (value : Scalar) :
    Filter :=
  .value relation t.encodedFamily (Base64.encode column) value.spelling

mutual

/-- The filter that a constraint means for a record type. -/
def compile (t : RecordType) : Constraint → Filter
  | .compare column relation value => valueFilter t column relation value
  | .member column values => .list .any (values.map (valueFilter t column .equal))
  | .combine connective parts => .list connective (compileAll t parts)

/-- The filters of a list of constraints. -/
def compileAll (t : RecordType) : List Constraint → List Filter
  | [] => []
  | c :: rest => compile t c :: compileAll t rest

end

theorem compileAll_eq_map (t : RecordType) (parts : List Constraint) :
    compileAll t parts = parts.map (compile t) := by
  induction parts with
  | nil => rfl
  | cons c rest ih => rw [compileAll, ih, List.map_cons]

end Constraint

end StreamStore
