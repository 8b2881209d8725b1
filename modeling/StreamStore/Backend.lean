import StreamStore.Cell
import StreamStore.Error
import StreamStore.Filter

/-!
# Backends

The primitive operations of a column-family store.  Everything above this module
talks to the store through a `Backend`, a record of six operations in a monad
`m`; the monad carries whatever the backend keeps (the state of a store in
memory, the traffic with a gateway).  An operation either answers a value or
fails with an `AccessError`, and keeps its effects in both cases.

Operations take full table names and qualified columns.
-/

namespace StreamStore

/-- An operation that may fail; its effects on `m` stay when it does. -/
abbrev Access (m : Type → Type) (α : Type) : Type :=
  ExceptT AccessError m α

/-- What a scanner is opened with. -/
structure ScanSpec where
  /-- How many cells a page has at most. -/
  batch : Nat
  /-- The first row of the scan. -/
  first : String
  /-- The row before which the scan stops. -/
  stop : String
  /-- The qualifiers to fetch; none means all. -/
  columns : List String
  /-- The condition that rows must pass. -/
  filter : Option Filter

/-- The operations of a store. -/
structure Backend (m : Type → Type) where
  /-- Where the store is, in words. -/
  endpoint : String
  /-- Creates a table. -/
  createTable : TableSchema → Access m Unit
  /-- Reads the cells of a row, or of all rows that begin with what stands before
  a final `*`.  A row that is not there has no cells. -/
  getRow : (table rowKey : String) → (columns : List String) → Access m (List Cell)
  /-- Writes cells, possibly of several rows. -/
  putCells : (table : String) → List Cell → Access m Unit
  /-- Opens a scanner and answers its id. -/
  openScanner : (table : String) → ScanSpec → Access m String
  /-- Fetches the next cells of a scanner; none when it has no more. -/
  fetch : (table scanner : String) → Access m (Option (List Cell))
  /-- Deletes a scanner. -/
  deleteScanner : (table scanner : String) → Access m Unit

/-- The value of a check, or its fault as an error of its class. -/
def liftFault {m : Type → Type} [Monad m] {ε α : Type} (wrap : ε → AccessError) :
    Except ε α → Access m α
  | .ok a => pure a
  | .error e => throw (wrap e)

end StreamStore
