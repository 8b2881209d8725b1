import StreamStore.Error
import StreamStore.Json.Parser
import StreamStore.Text.Blank

/-!
# Cursors and page sizes

A scan is held open by the backend as a scanner.  Between two pages the caller
holds its id in a `Cursor`; an empty cursor stands for a scan that has not been
started.  `ScanState` is where a scan is in its life:

    notStarted --open--> active --cells--> active
                           |---no more---> exhausted  (scanner deleted)
                           `---failure---> failed     (scanner deleted)

A limit counts rows, at most `maxRows` of them, while backends count cells, so
`batchSize` multiplies by the number of columns.  A limit that comes as text is
read leniently: `limitOf` takes the number at its front and ignores the rest.
-/

namespace StreamStore

/-- The state of a scan. -/
inductive ScanState where
  /-- There is no scanner yet. -/
  | notStarted
  /-- A scanner is open and may hold more cells. -/
  | active
  /-- The scanner had no more cells and was deleted. -/
  | exhausted
  /-- A call failed and the scanner was deleted. -/
  | failed
  deriving DecidableEq, Repr

/-- The name of a state. -/
def ScanState.name : ScanState → String
  | notStarted => "NOT_STARTED"
  | active => "ACTIVE"
  | exhausted => "EXHAUSTED"
  | failed => "FAILED"

/-- Where a scan goes on: the id of an open scanner, or nothing. -/
structure Cursor where
  /-- The scanner, if one is open. -/
  scanner? : Option String
  deriving DecidableEq, Repr

namespace Cursor

/-- The cursor of a scan that has not been started. -/
def fresh : Cursor := ⟨none⟩

/-- The cursor of an open scanner. -/
def resume (id : String) : Cursor := ⟨some id⟩

/-- The cursor a caller sends: an absent or empty id is no scanner. -/
def ofId : Option String → Cursor
  | some id => if id.isEmpty then fresh else resume id
  | none => fresh

/-- The state a cursor describes. -/
def state (c : Cursor) : ScanState :=
  if c.scanner?.isSome then .active else .notStarted

/-- A cursor as a document: a text or `null`. -/
def toJson (c : Cursor) : Json :=
  (c.scanner?.map Json.string).getD .null

/-- The cursor that a document is. -/
def ofJson? : Json → Option Cursor
  | .null => some fresh
  | .string id => some (resume id)
  | _ => none

/-- Reads the text of a cursor. -/
def parse (text : String) : Except PayloadFault Cursor :=
  match (Json.parse text).bind ofJson? with
  | some c => .ok c
  | none => .error (.shape "cursor")

/-- A cursor reads back from its document. -/
theorem ofJson?_toJson (c : Cursor) : ofJson? c.toJson = some c := by
  rcases c with ⟨_ | id⟩ <;> rfl

end Cursor

/-- How many rows a page may have. -/
def maxRows : Nat := 200

/-- How many cells a page asks for: the limit, which counts rows and never more
than `maxRows`, times the number of columns. -/
def batchSize (limit : Option Nat) (columns : Nat) : Nat :=
  min (limit.getD maxRows) maxRows * columns

/-- The limit at the front of a text: blanks, a plus sign or none, and digits.  A
number beyond the range of words means the largest word; a text with no number
at its front has no limit. -/
def limitOf (text : String) : Option Nat :=
  let digits := (Text.withoutPlus (Text.dropLeading text.toList)).takeWhile Char.isDigit
  if digits.isEmpty then none else some (min (Text.valueOf digits) (Text.wordLimit - 1))

/-- A page never asks for more than `maxRows` rows' worth of cells. -/
theorem batchSize_le (limit : Option Nat) (columns : Nat) :
    batchSize limit columns ≤ maxRows * columns :=
  Nat.mul_le_mul_right _ (Nat.min_le_right ..)

end StreamStore
