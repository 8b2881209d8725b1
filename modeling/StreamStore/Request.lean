import StreamStore.Constraint
import StreamStore.RecordType
import StreamStore.RowKey
import StreamStore.Scan.Cursor

/-!
# Requests

What a caller asks the client for.  A request names base tables and plain
columns, and `validate` checks everything that can be checked without the
backend, so that a malformed request is refused before anything is sent.  The
order of the checks is part of the interface: of several faults the first one in
that order is reported.
-/

namespace StreamStore

/-- Refuses an option that is blank. -/
def require (option value : String) : Except RequestFault Unit :=
  if Text.isBlankText value then .error (.missing option) else .ok ()

/-- A query for the rows of one stream in a time range. -/
structure LoadRequest where
  /-- The base name of the table. -/
  table : String
  /-- The type of the records. -/
  type : RecordType
  /-- The stream. -/
  streamId : String
  /-- The output columns, separated by commas. -/
  columns : String
  /-- The columns fetched for filters only, separated by commas. -/
  queryOnly : String := ""
  /-- The oldest timestamp, included. -/
  oldest : Option Nat := none
  /-- The newest timestamp, included. -/
  newest : Option Nat := none
  /-- The condition that rows must satisfy. -/
  constraint : Option Constraint := none
  /-- How many rows a page may have. -/
  limit : Option Nat := none
  /-- Where the scan goes on. -/
  cursor : Cursor := .fresh

namespace LoadRequest

/-- The full name of the table. -/
def tableName (r : LoadRequest) : String :=
  r.type.tableName r.table

/-- Refuses a bound of the time range that no row key can hold. -/
def checkBound (option : String) : Option Nat → Except RequestFault Unit
  | some t => if maxTimestamp < t then .error (.boundTooLarge option) else .ok ()
  | none => .ok ()

/-- Refuses a time range that ends before it begins. -/
def checkRange : Option Nat → Option Nat → Except RequestFault Unit
  | some a, some b => if b < a then .error (.reversedRange a b) else .ok ()
  | _, _ => .ok ()

/-- Checks the request. -/
def validate (r : LoadRequest) : Except RequestFault Unit := do
  require "table" r.table
  require "stream_id" r.streamId
  require "columns" r.columns
  if r.streamId.toList.contains separator then
    throw (.separatorInStream r.streamId)
  if r.limit = some 0 then
    throw .zeroLimit
  checkBound "from" r.oldest
  checkBound "to" r.newest
  checkRange r.oldest r.newest

end LoadRequest

/-- One cell to be written. -/
structure CellWrite where
  /-- The row. -/
  rowKey : String
  /-- The column. -/
  column : String
  /-- The timestamp; the present time when absent. -/
  timestamp : Option Nat := none
  /-- The value. -/
  value : String
  deriving DecidableEq, Repr

/-- Checks the write. -/
def CellWrite.validate (w : CellWrite) : Except RequestFault Unit := do
  require "row_key" w.rowKey
  require "column" w.column

/-- A write of several columns of one row. -/
structure PutRequest where
  /-- The type of the records. -/
  type : RecordType
  /-- The row. -/
  rowKey : String
  /-- The columns and their values. -/
  values : List (String × String)
  /-- The timestamp; the present time when absent. -/
  timestamp : Option Nat := none
  deriving DecidableEq, Repr

/-- Checks the write. -/
def PutRequest.validate (r : PutRequest) : Except RequestFault Unit := do
  require "row_key" r.rowKey
  if r.values.isEmpty then
    throw .noValues
  r.values.forM fun v => require "column" v.1

end StreamStore
