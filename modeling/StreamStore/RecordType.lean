import StreamStore.Error
import StreamStore.Text.Base64
import StreamStore.Text.Blank

/-!
# Record types and their layout

A table holds records of one type, and the type decides the physical layout: the
column family that every qualifier of the table belongs to, and what is appended
to the base name of the table.  Requests name base tables and columns only;
families and full names come from here.
-/

namespace StreamStore

/-- The type of the records in a table. -/
inductive RecordType where
  /-- Samples of a stream. -/
  | data
  /-- Events of a stream. -/
  | event
  deriving DecidableEq, Repr

namespace RecordType

/-- The name of a record type. -/
def name : RecordType → String
  | data => "data"
  | event => "event"

/-- The column family of a record type. -/
def family : RecordType → String
  | data => "DF"
  | event => "EF"

/-- The column family in the form that filters carry. -/
def encodedFamily (t : RecordType) : String :=
  Base64.encode t.family

/-- What is appended to the base name of a table. -/
def tableSuffix : RecordType → String
  | data => "_stream_realtime"
  | event => "_events"

/-- The full name of a table. -/
def tableName (t : RecordType) (base : String) : String :=
  base ++ t.tableSuffix

/-- The qualifier of a column: its family, a colon and its name. -/
def qualifier (t : RecordType) (column : String) : String :=
  s!"{t.family}:{column}"

/-- Reads the name of a record type, in any case and with blanks around it. -/
def parse (s : String) : Except RequestFault RecordType :=
  let name := Text.capitals (Text.trim s)
  if name = "DATA" then .ok data
  else if name = "EVENT" then .ok event
  else .error (.unknownType name)

theorem parse_name (t : RecordType) : parse t.name = .ok t := by
  cases t <;> rfl

end RecordType

/-- The layout of a table: its full name and its column families. -/
structure TableSchema where
  /-- The full name of the table. -/
  name : String
  /-- The column families. -/
  families : List String
  deriving DecidableEq, Repr

namespace TableSchema

/-- The layout of the table that holds records of a type under a base name. -/
def ofType (base : String) (t : RecordType) : TableSchema :=
  ⟨t.tableName base, [t.family]⟩

/-- The layout as the document that creates the table. -/
def toJson (s : TableSchema) : Json :=
  .object [("name", .string s.name),
    ("ColumnSchema", .array (s.families.map fun f => .object [("name", .string f)]))]

end TableSchema

/-- The text of a base64 identifier of a payload. -/
def decodeIdentifier (s : String) : Except PayloadFault String :=
  match Base64.decode s with
  | .ok t => .ok t
  | .error .form => .error (.base64 s)
  | .error .bytes => .error (.utf8 s)

end StreamStore
