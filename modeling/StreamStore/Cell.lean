/-!
# Cells

The unit of storage.  A cell belongs to a row and carries a qualifier
(`family:column`), a timestamp and a value; what a backend reads or writes is
always a list of cells in scan order.
-/

namespace StreamStore

/-- One stored value with its place and its timestamp. -/
structure Cell where
  /-- The key of the row. -/
  rowKey : String
  /-- The qualifier: column family, colon, column name. -/
  qualifier : String
  /-- The timestamp in milliseconds. -/
  timestamp : Nat
  /-- The value. -/
  value : String
  deriving DecidableEq, Repr

end StreamStore
