import StreamStore.Connection
import StreamStore.Constraint.Document
import StreamStore.Filter.Document
import StreamStore.Settings.Document

/-!
# Commands

What the command line can be asked to do.  Compiling a constraint and showing the
settings need no store.  The commands on the store (`StoreCommand`) connect
first, so a fault of the settings is reported before a fault of the command.

A command answers an `Output`: a document, which is printed over several lines
with the keys of every object in ascending order, or a text that is printed as
it is.
-/

namespace StreamStore

/-- What the command line can be asked to do with the store. -/
inductive StoreCommand where
  /-- Load one page of a stream's rows.  The constraint is still a text. -/
  | scan (request : LoadRequest) (constraint : Option String)
  /-- Delete a scanner. -/
  | close (table : String) (type : RecordType) (scanner : String)
  /-- Read columns of one row, of the rows with a common beginning, or of every row. -/
  | get (table : String) (type : RecordType) (rowKey : Option String) (columns : String)
  /-- Write columns of one row. -/
  | put (table : String) (request : PutRequest)
  /-- Create the table for a record type. -/
  | createTable (table : String) (type : RecordType)

/-- What the command line can be asked to do. -/
inductive Command where
  /-- Show the filter that a constraint becomes. -/
  | compile (type : RecordType) (constraint : String)
  /-- Show the settings, after checking them if asked to. -/
  | settings (check : Bool)
  /-- Do something with the store. -/
  | onStore (command : StoreCommand)

/-- What a command answers. -/
inductive Output where
  /-- A document. -/
  | document (v : Json)
  /-- A text. -/
  | text (s : String)

/-- What is printed for an answer. -/
def Output.render : Output → String
  | document v => v.canonical.renderPretty ++ "\n"
  | text s => s

variable {m : Type → Type} [Monad m]

/-- A load request with the constraint that a text spells. -/
def LoadRequest.constrain (r : LoadRequest) : Option String → Except ConstraintFault LoadRequest
  | none => .ok r
  | some text => do
      let c ← Constraint.parse text
      return { r with constraint := some c }

/-- Runs a command on the store that a client is for. -/
def StoreCommand.run (c : Client m) : StoreCommand → Access m Output
  | scan request constraint => do
      let r ← liftFault .constraint (request.constrain constraint)
      let page ← c.loadRange r
      return .document page.toJson
  | close table type scanner => do
      c.abandonScan table type (.resume scanner)
      return .document (.object [("closed", .string scanner)])
  | get table type rowKey columns => do
      let rows ← c.getRow table type rowKey columns
      return .document rows.toJson
  | put table r => do
      c.putValue table r
      return .document (.object [("rowKey", .string r.rowKey), ("stored", .ofNat r.values.length)])
  | createTable table type => do
      c.createTable table type
      return .document (.object [("created", .string (type.tableName table))])

/-- Shows the settings, after checking them if asked to. -/
def Settings.output (s : Settings) (check : Bool) : Except SettingsFault Output := do
  if check then
    s.check
  return .text (← s.render)

/-- Shows the filter that a constraint becomes. -/
def filterOutput (type : RecordType) (text : String) : Except ConstraintFault Output := do
  let c ← Constraint.parse text
  return .document (c.compile type).toJson

/-- Runs a command.  Only the commands on the store use `send` and `clock`. -/
def Command.run (s : Settings) (draw : Nat) (send : Http.Request → m Http.Reply) (clock : m Nat) :
    Command → Access m Output
  | compile type constraint => liftFault .constraint (filterOutput type constraint)
  | settings check => liftFault .settings (s.output check)
  | onStore command => do
      let client ← liftFault .settings (s.connect draw send clock)
      command.run client

end StreamStore
