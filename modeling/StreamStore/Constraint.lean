import StreamStore.ArrivalMap
import StreamStore.Error
import StreamStore.Text.Blank

/-!
# Constraints on rows

A caller restricts the rows of a query by a small expression language: a
comparison of one column with a scalar, membership of a column in a list of
scalars, and conjunctions and disjunctions of these.

The values of stored cells are texts, so a comparison is between texts, by code
points.  `Scalar.text` says how a scalar is spelled for that purpose: truth
values by name, numbers so that equal numbers have equal spellings
(`comparatorText`).
-/

namespace StreamStore

/-- How a stored value stands to the text it is compared with. -/
inductive Relation where
  /-- The value comes before the text. -/
  | less
  /-- The value comes before the text or is the text. -/
  | lessOrEqual
  /-- The value comes after the text. -/
  | greater
  /-- The value comes after the text or is the text. -/
  | greaterOrEqual
  /-- The value is the text. -/
  | equal
  /-- The value is another text. -/
  | notEqual
  deriving DecidableEq, Repr

/-- Whether a value stands in a relation to a text. -/
def Relation.holds (r : Relation) (value text : String) : Bool :=
  match r with
  | less => decide (value < text)
  | lessOrEqual => decide (value < text) || value == text
  | greater => decide (text < value)
  | greaterOrEqual => decide (text < value) || value == text
  | equal => value == text
  | notEqual => value != text

/-- How the members of a list of conditions are combined. -/
inductive Connective where
  /-- Every member must hold. -/
  | all
  /-- Some member must hold. -/
  | any
  deriving DecidableEq, Repr

/-- A value that a constraint compares with. -/
inductive Scalar where
  /-- A text. -/
  | text (value : String)
  /-- A number. -/
  | number (value : JsonNumber)
  /-- A truth value. -/
  | bool (value : Bool)
  deriving DecidableEq

/-- The spelling of a double that comparisons use.  Zero has no sign.  While the
first digit of the shortest spelling has a power of ten from -6 to 20, a whole
number is written with every digit of its exact value and any other number
positionally; outside that range the notation is scientific.  A tie between
shortest spellings goes up. -/
def comparatorDouble (x : Binary64) : List Char :=
  if x.isZero then ['0']
  else
    let d := x.shortest .up
    x.signText ++
      if -6 ≤ d.lead ∧ d.lead < 21 then
        if x.isWhole then Nat.toDigits 10 x.wholePart else d.positional false
      else d.scientific

/-- The spelling of a number that comparisons use. -/
def comparatorText : JsonNumber → String
  | .integer n _ => String.ofList (Json.integerText n)
  | .double x => String.ofList (comparatorDouble x)

/-- The text that a scalar is compared as. -/
def Scalar.spelling : Scalar → String
  | text s => s
  | number n => comparatorText n
  | bool b => if b then "true" else "false"

/-- A condition on the columns of a row. -/
inductive Constraint where
  /-- The value of a column stands in a relation to a scalar. -/
  | compare (column : String) (relation : Relation) (value : Scalar)
  /-- The value of a column is one of several scalars. -/
  | member (column : String) (values : List Scalar)
  /-- All, or some, of several conditions hold. -/
  | combine (connective : Connective) (parts : List Constraint)

namespace Constraint

mutual

/-- The columns that a constraint names, in order and with repetitions. -/
def mentions : Constraint → List String
  | .compare column _ _ => [column]
  | .member column _ => [column]
  | .combine _ parts => mentionsAll parts

/-- The columns that a list of constraints names. -/
def mentionsAll : List Constraint → List String
  | [] => []
  | c :: rest => mentions c ++ mentionsAll rest

end

/-- The columns that a constraint names, each where it first stands. -/
def columns (c : Constraint) : List String :=
  firstOccurrences c.mentions

theorem mentionsAll_cons (c : Constraint) (rest : List Constraint) :
    mentionsAll (c :: rest) = mentions c ++ mentionsAll rest := by
  rw [mentionsAll]

end Constraint

end StreamStore
