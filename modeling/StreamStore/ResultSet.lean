import StreamStore.Cell
import StreamStore.Json.Record
import StreamStore.Projection
import StreamStore.RowKey
import StreamStore.Scan.Cursor

/-!
# Result documents

One page of a query as the caller sees it: the output columns with their places,
the rows with their values, and the cursor of the next page.  Rows, and the
columns of a row, stand in the order in which their cells first arrived; a later
value of the same column of the same row replaces the earlier one.

`ResultSet.ofCells` builds a page from cells in scan order.  A row is named by
its key, or, with `split`, by the timestamp of the cell and the third segment of
the key (`rowIdentity`), so that the rows of one stream read as
`timestamp:nodeId`.  Columns that were fetched for filters only, and qualifiers
outside the projection, never show.
-/

namespace StreamStore

/-- One page of query results. -/
structure ResultSet where
  /-- The output columns with their places. -/
  columns : ArrivalMap Nat
  /-- How many rows there are. -/
  count : Nat
  /-- The rows by name, and the values of each by column. -/
  data : ArrivalMap (ArrivalMap String)
  /-- Where the next page starts. -/
  cursor : Cursor
  deriving DecidableEq

/-- The name of a cell's row: its key, or its timestamp and the third segment of
the key. -/
def rowIdentity (split : Bool) (cell : Cell) : String :=
  if split then
    let node := ((Text.pieces separator cell.rowKey.toList)[2]?).getD []
    s!"{cell.timestamp}:{String.ofList node}"
  else cell.rowKey

namespace ResultSet

/-- The page after the last one. -/
def exhausted : ResultSet :=
  ⟨.empty, 0, .empty, .fresh⟩

/-- The column that a cell shows under, if it shows. -/
def shownColumn? (p : Projection) (cell : Cell) : Option String :=
  if p.isHidden cell.qualifier then none else p.column? cell.qualifier

/-- The rows after one more cell. -/
def addCell (p : Projection) (split : Bool) (data : ArrivalMap (ArrivalMap String))
    (cell : Cell) : ArrivalMap (ArrivalMap String) :=
  match shownColumn? p cell with
  | none => data
  | some column =>
      data.alter (rowIdentity split cell) fun row =>
        (row.getD .empty).insert column cell.value

/-- The page of a list of cells in scan order. -/
def ofCells (cells : List Cell) (p : Projection) (split : Bool) (cursor : Cursor) : ResultSet :=
  let data := cells.foldl (addCell p split) .empty
  ⟨p.index, data.size, data, cursor⟩

/-- Whether another page may follow. -/
def hasMore (r : ResultSet) : Bool :=
  r.cursor.scanner?.isSome

/-- A page as a document. -/
def toJson (r : ResultSet) : Json :=
  .object [("columns", Json.ofMap Json.ofNat r.columns), ("count", Json.ofNat r.count),
    ("data", Json.ofMap (Json.ofMap Json.string) r.data), ("scannerId", r.cursor.toJson)]

/-- A page as text. -/
def render (r : ResultSet) : String :=
  r.toJson.render

/-- The page that the members of a document make up.  Only the cursor may be
absent, and only from an object. -/
def ofMembers? : List (Option Json) → Option ResultSet
  | [some columns, some count, some data, cursor] => do
      let columns ← Json.map? Json.word? columns
      let count ← count.word?
      let data ← Json.map? (Json.map? Json.string?) data
      let cursor ← Cursor.ofJson? (cursor.getD .null)
      some ⟨columns, count, data, cursor⟩
  | _ => none

/-- The names of the members of a page. -/
def memberNames : List String :=
  ["columns", "count", "data", "scannerId"]

/-- The page that a document is. -/
def ofJson? (v : Json) : Option ResultSet := do
  let members ← Json.members? memberNames v
  let members ← if v.array?.isSome then (Json.allPresent? members).map (·.map some)
    else some members
  ofMembers? members

/-- Reads the text of a page. -/
def parse (text : String) : Except PayloadFault ResultSet :=
  match (Json.parseAs (.ofNames memberNames) text).bind ofJson? with
  | some r => .ok r
  | none => .error (.shape "result document")

@[simp] theorem hasMore_exhausted : exhausted.hasMore = false := rfl

/-- The count of a page is the number of its rows. -/
@[simp] theorem count_ofCells (cells : List Cell) (p : Projection) (split : Bool)
    (cursor : Cursor) : (ofCells cells p split cursor).count =
      (ofCells cells p split cursor).data.size := rfl

end ResultSet

end StreamStore
