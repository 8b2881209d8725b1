import StreamStore.Backend
import StreamStore.SortedMap
import StreamStore.Text.Pieces

/-!
# A store in memory

A backend that keeps everything in one value.  A table has column families and
rows, a row has cells, and both are kept in key order, which is the order in
which reads and scans return them.  A cell keeps the last timestamp and value
written to it.

A scanner is a snapshot: the cells it will hand out are computed when it is
opened, and later writes do not show in it.  A scanner belongs to the table it
was opened on and is not found under any other.  Ids of scanners are numbered
from a fixed start, so no id is ever given twice.

Each operation is a pure function from the store to an answer and the next
store; the store is unchanged whenever the answer is an error.  `Store.backend`
packs them as a `Backend`.
-/

namespace StreamStore

/-- What a cell of a row holds. -/
structure Stored where
  /-- The timestamp last written. -/
  timestamp : Nat
  /-- The value last written. -/
  value : String
  deriving DecidableEq, Repr

/-- A row: its cells by qualifier. -/
abbrev Row := SortedMap Stored

/-- A table. -/
structure Table where
  /-- The column families, in the order of their creation. -/
  families : List String
  /-- The rows by key. -/
  rows : SortedMap Row
  deriving DecidableEq

/-- An open scanner. -/
structure Scanner where
  /-- The table it was opened on. -/
  table : String
  /-- How many cells it hands out at a time. -/
  batch : Nat
  /-- The cells it still has. -/
  pending : List Cell
  deriving DecidableEq

/-- All tables and all open scanners. -/
structure Store where
  /-- The tables by full name. -/
  tables : SortedMap Table
  /-- The open scanners by id. -/
  scanners : SortedMap Scanner
  /-- How many scanners have been opened so far. -/
  opened : Nat
  deriving DecidableEq

/-- The column family of a qualifier: what stands before its first colon. -/
def familyOf (qualifier : String) : String :=
  match Text.cutOnce ':' qualifier.toList with
  | some (family, _) => String.ofList family
  | none => qualifier

/-- The cells of a row that a list of qualifiers asks for; none asks for all. -/
def Row.project (row : Row) (columns : List String) : List (String × Stored) :=
  row.entries.filter fun e => columns.isEmpty || columns.contains e.1

/-- The cells of a row that a list of qualifiers asks for, with their place. -/
def Row.cells (key : String) (row : Row) (columns : List String) : List Cell :=
  (row.project columns).map fun e => ⟨key, e.1, e.2.timestamp, e.2.value⟩

/-- The values of a row that a list of qualifiers asks for, as a filter sees them. -/
def Row.visible (row : Row) (columns : List String) : SortedMap String :=
  .ofList ((row.project columns).map fun e => (e.1, e.2.value))

namespace Table

/-- A table without families and rows. -/
def empty : Table := ⟨[], .empty⟩

/-- The table with a family added, unless it has that family. -/
def addFamily (t : Table) (family : String) : Table :=
  if t.families.contains family then t else { t with families := t.families ++ [family] }

/-- The table after one cell is written. -/
def write (t : Table) (c : Cell) : Table :=
  { t with rows := t.rows.alter c.rowKey fun row =>
      (row.getD .empty).insert c.qualifier ⟨c.timestamp, c.value⟩ }

/-- Whether the family of a qualifier is one of the table's. -/
def hasFamily (t : Table) (qualifier : String) : Bool :=
  t.families.contains (familyOf qualifier)

/-- The cells a scanner hands out: of every row in range that has a visible cell
and passes the filter, the cells asked for. -/
def scan (t : Table) (spec : ScanSpec) : List Cell :=
  (t.rows.between spec.first spec.stop).flatMap fun (key, row) =>
    let visible := row.visible spec.columns
    let passes := match spec.filter with
      | some f => f.accepts visible
      | none => true
    if visible.entries.isEmpty || !passes then [] else row.cells key spec.columns

/-- The cells of the rows that begin with a text, in key order.  Such rows stand
together, so reading stops at the first other one. -/
def rowsStarting (t : Table) (start : String) (columns : List String) : List Cell :=
  ((t.rows.startingAt start).takeWhile fun e =>
    start.toList.isPrefixOf e.1.toList).flatMap fun (key, row) => row.cells key columns

end Table

/-- What stands before a final `*`. -/
def beforeStar? (rowKey : String) : Option String :=
  match rowKey.toList.reverse with
  | '*' :: cs => some (String.ofList cs.reverse)
  | _ => none

/-- The id of the n-th scanner. -/
def scannerId (n : Nat) : String :=
  String.ofList (Nat.toDigits 16 (0x8f3b61d97c2a4e05b1f0c64d92e7a500 + n))

namespace Store

/-- The store without tables and scanners. -/
def empty : Store := ⟨.empty, .empty, 0⟩

/-- A failure of an operation because of its table. -/
def tableMissing (operation table : String) : AccessError :=
  .backend operation table "table not found" none

/-- A failure of an operation because of its scanner. -/
def scannerMissing (operation table scanner : String) : AccessError :=
  .backend operation table "scanner not found" (some scanner)

/-- Creates a table, or adds the families it lacks. -/
def createTable (s : Store) (schema : TableSchema) : Store :=
  { s with tables := s.tables.alter schema.name fun t =>
      schema.families.foldl Table.addFamily (t.getD .empty) }

/-- Reads the cells of one row, or of the rows that begin with what stands before
a final `*`. -/
def getRow (s : Store) (table rowKey : String) (columns : List String) :
    Except AccessError (List Cell) :=
  match s.tables.get? table with
  | none => .error (tableMissing "get_row" table)
  | some t =>
      match beforeStar? rowKey with
      | some start => .ok (t.rowsStarting start columns)
      | none =>
          match t.rows.get? rowKey with
          | some row => .ok (row.cells rowKey columns)
          | none => .ok []

/-- Writes cells, all of them or, when one has no family in the table, none. -/
def putCells (s : Store) (table : String) (cells : List Cell) :
    Except AccessError Unit × Store :=
  match s.tables.get? table with
  | none => (.error (tableMissing "put_cells" table), s)
  | some t =>
      match cells.find? fun c => !t.hasFamily c.qualifier with
      | some c =>
          (.error (.backend "put_cells" table
            s!"column '{c.qualifier}' has no matching column family" none), s)
      | none => (.ok (), { s with tables := s.tables.insert table (cells.foldl Table.write t) })

/-- Opens a scanner on the present contents of a table. -/
def openScanner (s : Store) (table : String) (spec : ScanSpec) :
    Except AccessError String × Store :=
  match s.tables.get? table with
  | none => (.error (tableMissing "scanner_create" table), s)
  | some t =>
      let id := scannerId s.opened
      (.ok id, { s with
        scanners := s.scanners.insert id ⟨table, max spec.batch 1, t.scan spec⟩
        opened := s.opened + 1 })

/-- The scanner of a table. -/
def scanner? (s : Store) (table scanner : String) : Option Scanner :=
  (s.scanners.get? scanner).filter fun c => c.table == table

/-- Takes the next cells from a scanner; none when it has no more. -/
def fetch (s : Store) (table scanner : String) :
    Except AccessError (Option (List Cell)) × Store :=
  match s.scanner? table scanner with
  | none => (.error (scannerMissing "scanner_get" table scanner), s)
  | some c =>
      if c.pending.isEmpty then (.ok none, s)
      else
        (.ok (some (c.pending.take c.batch)),
          { s with scanners :=
              s.scanners.insert scanner { c with pending := c.pending.drop c.batch } })

/-- Deletes a scanner of a table. -/
def deleteScanner (s : Store) (table scanner : String) : Except AccessError Unit × Store :=
  match s.scanner? table scanner with
  | none => (.error (scannerMissing "scanner_delete" table scanner), s)
  | some _ => (.ok (), { s with scanners := s.scanners.erase scanner })

/-- How many scanners are open. -/
def openScanners (s : Store) : Nat :=
  s.scanners.size

/-- A step of the store as an operation of a backend. -/
def step {α : Type} (f : Store → Except AccessError α × Store) : Access (StateM Store) α :=
  ExceptT.mk fun s => f s

/-- The store as a backend. -/
def backend : Backend (StateM Store) where
  endpoint := "memory://"
  createTable schema := step fun s => (.ok (), s.createTable schema)
  getRow table rowKey columns := step fun s => (s.getRow table rowKey columns, s)
  putCells table cells := step fun s => s.putCells table cells
  openScanner table spec := step fun s => s.openScanner table spec
  fetch table scanner := step fun s => s.fetch table scanner
  deleteScanner table scanner := step fun s => s.deleteScanner table scanner

/-- A write that fails leaves the store as it was. -/
theorem putCells_of_error {s : Store} {table : String} {cells : List Cell} {e : AccessError}
    (h : (s.putCells table cells).1 = .error e) : (s.putCells table cells).2 = s := by
  unfold putCells at h ⊢
  split
  · rfl
  · next t ht =>
      rw [ht] at h
      dsimp only at h ⊢
      split
      · rfl
      · next hf => rw [hf] at h; cases h

end Store

end StreamStore
