import StreamStore.ArrivalMap
import StreamStore.Cell
import StreamStore.Json.Parser
import StreamStore.Json.Printer
import StreamStore.Json.Record
import StreamStore.RecordType

/-!
# Cell sets

Cells travel between client and gateway as a document that groups them by row,
with every key, qualifier and value in base64:

    {"Row":[{"key":k,"Cell":[{"column":c,"timestamp":t,"$":v}]}]}

Writing keeps the rows in the order in which they first occur and the cells of a
row in their order.  Reading follows the rules for records (`Json.members?`);
a missing list is empty, and a cell without a timestamp has timestamp zero.
-/

namespace StreamStore

/-- One cell of the document, its texts in base64. -/
structure EncodedCell where
  /-- The qualifier. -/
  column : String
  /-- The timestamp, if it is given. -/
  timestamp : Option Nat
  /-- The value. -/
  value : String
  deriving DecidableEq, Repr

/-- One row of the document. -/
structure EncodedRow where
  /-- The key, in base64. -/
  key : String
  /-- The cells. -/
  cells : List EncodedCell
  deriving DecidableEq, Repr

/-- The rows of the document. -/
abbrev CellSet := List EncodedRow

namespace CellSet

/-- A cell as the document holds it. -/
def encodeCell (c : Cell) : EncodedCell :=
  ⟨Base64.encode c.qualifier, some c.timestamp, Base64.encode c.value⟩

/-- The cells of a list by row, rows and cells in order of arrival. -/
def groups (cells : List Cell) : ArrivalMap (List EncodedCell) :=
  cells.foldl (fun m c => m.alter c.rowKey fun row => row.getD [] ++ [encodeCell c]) .empty

/-- The document of a list of cells. -/
def ofCells (cells : List Cell) : CellSet :=
  (groups cells).entries.map fun e => ⟨Base64.encode e.1, e.2⟩

/-- A cell as JSON. -/
def cellJson (c : EncodedCell) : Json :=
  let stamp : List (String × Json) := match c.timestamp with
    | some t => [("timestamp", Json.ofNat t)]
    | none => []
  .object ([("column", Json.string c.column)] ++ stamp ++ [("$", Json.string c.value)])

/-- The document as JSON. -/
def toJson (rows : CellSet) : Json :=
  .object [("Row", .array (rows.map fun r =>
    .object [("key", .string r.key), ("Cell", .array (r.cells.map cellJson))]))]

/-- The names of the members of a cell. -/
def cellMembers : List String :=
  ["column", "timestamp", "$"]

/-- What is expected of the document. -/
def shape : Json.Shape :=
  .record [("Row", .list (.record [("key", .whole), ("Cell", .list (.ofNames cellMembers))]))]

/-- The cell that a part of a document describes. -/
def cell? (v : Json) : Option EncodedCell := do
  match ← Json.members? cellMembers v with
  | [some column, timestamp, some value] =>
      some ⟨← column.string?, ← Json.nullable? Json.word? (timestamp.getD .null), ← value.string?⟩
  | _ => none

/-- The row that a part of a document describes. -/
def row? (v : Json) : Option EncodedRow := do
  match ← Json.members? ["key", "Cell"] v with
  | [some key, cells] =>
      some ⟨← key.string?, ← Json.list? cell? (cells.getD (.array []))⟩
  | _ => none

/-- The rows that a document describes. -/
def ofJson? (v : Json) : Option CellSet := do
  match ← Json.members? ["Row"] v with
  | [rows] => Json.list? row? (rows.getD (.array []))
  | _ => none

/-- Reads the text of a document. -/
def parse (text : String) : Except PayloadFault CellSet :=
  match (Json.parseAs shape text).bind ofJson? with
  | some rows => .ok rows
  | none => .error (.shape "cell set")

/-- The cell of a row whose key is decoded. -/
def decodeCell (rowKey : String) (c : EncodedCell) : Except PayloadFault Cell := do
  let qualifier ← decodeIdentifier c.column
  let value ← decodeIdentifier c.value
  return ⟨rowKey, qualifier, c.timestamp.getD 0, value⟩

/-- The cells of a row. -/
def decodeRow (r : EncodedRow) : Except PayloadFault (List Cell) := do
  let key ← decodeIdentifier r.key
  r.cells.mapM (decodeCell key)

/-- The cells of a document, row by row. -/
def toCells (rows : CellSet) : Except PayloadFault (List Cell) := do
  return (← rows.mapM decodeRow).flatten

end CellSet

end StreamStore
