import StreamStore.Request
import StreamStore.ResultSet
import StreamStore.Scan.Page

/-!
# The client

A `Client` answers queries and performs writes through one backend.  A query is
validated, resolved into a projection, a range of rows and a filter, and run as
one page of a scan; a write is validated as a whole before any cell is sent.

The columns that a constraint names are fetched in addition to the output
columns, so that the filter can look at them, and they count when the limit of
rows is turned into a number of cells.

A write without a timestamp is stamped with the client's clock.
-/

namespace StreamStore

variable {m : Type → Type} [Monad m]

/-- A backend, and how to use it. -/
structure Client (m : Type → Type) where
  /-- The store. -/
  backend : Backend m
  /-- Whether results name rows by timestamp and node instead of by key. -/
  splitIdentity : Bool
  /-- The present time in milliseconds. -/
  clock : m Nat

/-- The row key that stands for every row. -/
def allRows : String := "*"

namespace LoadRequest

/-- The list of columns fetched for filters only: those the request names, and
those its constraint names. -/
def queryOnlyList (r : LoadRequest) : String :=
  match r.constraint with
  | some c => c.columns.foldl (fun list column => list ++ "," ++ column) r.queryOnly
  | none => r.queryOnly

/-- What a valid request fetches. -/
def projection (r : LoadRequest) : Except RequestFault Projection :=
  Projection.resolve r.columns r.queryOnlyList r.type.family

/-- The scan that a request with a given projection describes. -/
def scanSpec (r : LoadRequest) (p : Projection) : Except RequestFault ScanSpec := do
  let range ← rangeOf r.streamId r.oldest r.newest
  return {
    batch := batchSize r.limit p.qualifiers.length
    first := range.first
    stop := range.stop
    columns := p.qualifiers
    filter := r.constraint.map (Constraint.compile r.type)
  }

/-- Checks a request and turns it into a projection and a scan. -/
def plan (r : LoadRequest) : Except RequestFault (Projection × ScanSpec) := do
  r.validate
  let p ← r.projection
  let spec ← r.scanSpec p
  return (p, spec)

end LoadRequest

namespace PutRequest

/-- The cells of a write, stamped with `now` when it has no timestamp. -/
def cells (r : PutRequest) (now : Nat) : List Cell :=
  r.values.map fun v => ⟨r.rowKey, r.type.qualifier v.1, r.timestamp.getD now, v.2⟩

end PutRequest

/-- The cell of a write, stamped with `now` when it has no timestamp. -/
def CellWrite.cell (w : CellWrite) (t : RecordType) (now : Nat) : Cell :=
  ⟨w.rowKey, t.qualifier w.column, w.timestamp.getD now, w.value⟩

namespace Client

/-- Loads one page of a stream's rows.  An exhausted scan answers a page with
nothing in it and no cursor. -/
def loadRange (c : Client m) (r : LoadRequest) : Access m ResultSet := do
  let (p, spec) ← liftFault .request r.plan
  let page ← c.backend.nextPage r.tableName r.cursor spec
  if page.state = .exhausted then
    return .exhausted
  return .ofCells page.cells p c.splitIdentity page.cursor

/-- Loads the pages of a query one after another until there is no more, at most
`pages` of them. -/
def loadPages (c : Client m) : Nat → LoadRequest → Access m (List ResultSet)
  | 0, _ => pure []
  | pages + 1, r => do
      let page ← c.loadRange r
      if page.hasMore then
        let rest ← c.loadPages pages { r with cursor := page.cursor }
        return page :: rest
      return [page]

/-- Deletes the scanner behind a cursor that is no longer needed. -/
def abandonScan (c : Client m) (table : String) (t : RecordType) (cursor : Cursor) :
    Access m Unit :=
  c.backend.abandon (t.tableName table) cursor

/-- Creates the table for records of a type. -/
def createTable (c : Client m) (table : String) (t : RecordType) : Access m Unit := do
  liftFault .request (require "table" table)
  c.backend.createTable (.ofType table t)

/-- Writes several columns of one row. -/
def putValue (c : Client m) (table : String) (r : PutRequest) : Access m Unit := do
  liftFault .request r.validate
  let now ← ExceptT.lift c.clock
  c.backend.putCells (r.type.tableName table) (r.cells now)

/-- Writes cells that may span several rows. -/
def putCells (c : Client m) (table : String) (t : RecordType) (writes : List CellWrite) :
    Access m Unit := do
  liftFault .request (writes.forM CellWrite.validate)
  let now ← ExceptT.lift c.clock
  c.backend.putCells (t.tableName table) (writes.map fun w => w.cell t now)

/-- Reads columns of one row, of the rows that begin with what stands before a
final `*`, or, with no row key, of every row.  Rows are named by timestamp and
node, and there is no cursor. -/
def getRow (c : Client m) (table : String) (t : RecordType) (rowKey : Option String)
    (columns : String) : Access m ResultSet := do
  let p ← liftFault .request (Projection.resolve columns "" t.family)
  let key := (rowKey.filter fun k => !k.isEmpty).getD allRows
  let cells ← c.backend.getRow (t.tableName table) key p.qualifiers
  return .ofCells cells p true .fresh

end Client

end StreamStore
