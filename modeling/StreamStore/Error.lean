import StreamStore.Json.Printer

/-!
# Errors

Every operation answers a value or an `AccessError`.  Its six classes are the
ones a caller has to tell apart: a request refused before anything was sent, a
malformed constraint, a server that cannot be reached, a failure that the
backend reports, an unusable configuration, and a payload that cannot be read.

An error holds its *cause*; the wording lives in one place, the `message`
functions, so that a theorem can speak of the cause and a reader sees the text.
Each class of causes has a case `stated` for an embedding program that has words
of its own.  What the transport or the backend reports is text already.

A failure of the connection or of the backend may name the scanner that was in
use (`withScanner`); the other classes never do.
-/

namespace StreamStore

/-- The largest timestamp that a row key can hold. -/
def maxTimestamp : Nat := 922337203685500

/-- Why a request is refused before anything is sent. -/
inductive RequestFault where
  /-- A timestamp is too large for a row key. -/
  | timestampTooLarge (timestamp : Nat)
  /-- A row key has fewer than three segments. -/
  | keyShape (key : String)
  /-- The middle segment of a row key is not a word. -/
  | keyTimestamp (key : String)
  /-- The middle segment of a row key is too large. -/
  | keyTimestampTooLarge (key : String)
  /-- The beginning of a key is too short to bound a range. -/
  | tooShort (start : String)
  /-- No character follows the last one of the beginning of a key. -/
  | noSuccessor (start : String)
  /-- No output column is named. -/
  | noOutputColumn
  /-- A required option is missing or blank. -/
  | missing (option : String)
  /-- A stream id contains the separator of row keys. -/
  | separatorInStream (streamId : String)
  /-- The limit is zero. -/
  | zeroLimit
  /-- A bound of the time range is too large for a row key. -/
  | boundTooLarge (option : String)
  /-- The time range ends before it begins. -/
  | reversedRange (oldest newest : Nat)
  /-- A write has no values. -/
  | noValues
  /-- No record type has this name. -/
  | unknownType (name : String)
  /-- A cause in the caller's words. -/
  | stated (message : String)

/-- Why a constraint is refused. -/
inductive ConstraintFault where
  /-- The text is not a JSON document. -/
  | notJson (text : String)
  /-- A part of the document is not a constraint. -/
  | malformed (part : Json)
  /-- A cause in the caller's words. -/
  | stated (message : String)

/-- Why a configuration cannot be used. -/
inductive SettingsFault where
  /-- The endpoint list is empty. -/
  | noEndpointListed
  /-- The host of an endpoint is blank. -/
  | emptyHost (index : Nat)
  /-- The port of an endpoint is zero. -/
  | zeroPort (index : Nat)
  /-- The scheme of an endpoint is not one of those known. -/
  | unknownScheme (index : Nat) (scheme : String)
  /-- The request timeout is zero. -/
  | zeroTimeout
  /-- The connect timeout is zero. -/
  | zeroConnectTimeout
  /-- The log level is not one of those known. -/
  | unknownLevel (level : String)
  /-- There is no endpoint to choose. -/
  | noEndpoint
  /-- The endpoint is not a URL. -/
  | invalidUrl (url : String)
  /-- The endpoint is a URL under which there are no paths. -/
  | notABase (url : String)
  /-- A source of settings is not a document. -/
  | unreadable (source : String)
  /-- A setting is missing or does not have the type it must have. -/
  | mistyped
  /-- The settings have no written form. -/
  | unwritable
  /-- A cause in the caller's words. -/
  | stated (message : String)

/-- Why a payload cannot be read. -/
inductive PayloadFault where
  /-- An identifier is not a base64 form. -/
  | base64 (text : String)
  /-- The bytes of an identifier are not text. -/
  | utf8 (text : String)
  /-- A document does not have the shape it must have. -/
  | shape (document : String)
  /-- A cause in the caller's words. -/
  | stated (message : String)

/-- What can go wrong while building or running a request. -/
inductive AccessError where
  /-- The request is refused before anything is sent. -/
  | request (fault : RequestFault)
  /-- The constraint is malformed. -/
  | constraint (fault : ConstraintFault)
  /-- The server cannot be reached. -/
  | connection (endpoint message : String) (scanner : Option String)
  /-- The backend reports a failure of an operation on a table. -/
  | backend (operation table message : String) (scanner : Option String)
  /-- The configuration cannot be used. -/
  | settings (fault : SettingsFault)
  /-- A payload cannot be written or read. -/
  | payload (fault : PayloadFault)

/-- The names of the log levels, quietest first. -/
def logLevels : List String :=
  ["error", "warn", "info", "debug", "trace"]

namespace RequestFault

/-- The wording of a refused request. -/
def message : RequestFault → String
  | timestampTooLarge t => s!"timestamp {t} exceeds the maximum encodable value {maxTimestamp}"
  | keyShape k => s!"row key '{k}' must have the form streamId:reverseTimestamp:nodeId"
  | keyTimestamp k => s!"row key '{k}' has a non-numeric timestamp segment"
  | keyTimestampTooLarge k => s!"row key '{k}' timestamp segment exceeds {maxTimestamp}"
  | tooShort p => s!"search string should have minimum 3 chars, but received '{p}'"
  | noSuccessor p => s!"last character of '{p}' has no successor"
  | noOutputColumn => "at least one output column is required"
  | missing o => s!"missing required option '{o}'"
  | separatorInStream s => s!"stream_id '{s}' must not contain ':'"
  | zeroLimit => "limit must be greater than 0"
  | boundTooLarge o => s!"{o} exceeds the maximum timestamp {maxTimestamp}"
  | reversedRange a b => s!"from ({a}) must not be after to ({b})"
  | noValues => "at least one value is required"
  | unknownType n => s!"unknown type '{n}', expected one of: data, event"
  | stated m => m

end RequestFault

namespace ConstraintFault

/-- The wording of a refused constraint: the text, or the part that is malformed. -/
def message : ConstraintFault → String
  | notJson t => t
  | malformed part => part.canonical.render
  | stated m => m

end ConstraintFault

namespace SettingsFault

/-- The wording of an unusable configuration. -/
def message : SettingsFault → String
  | noEndpointListed => "connection.endpoints must list at least one endpoint"
  | emptyHost i => s!"connection.endpoints[{i}].host cannot be empty"
  | zeroPort i => s!"connection.endpoints[{i}].port must be greater than 0"
  | unknownScheme i s =>
      s!"connection.endpoints[{i}].scheme '{s}' is invalid, expected http or https"
  | zeroTimeout => "connection.timeout_secs must be greater than 0"
  | zeroConnectTimeout => "connection.connect_timeout_secs must be greater than 0"
  | unknownLevel l =>
      let names := String.intercalate ", " (logLevels.map fun n => String.ofList (Json.quote n))
      s!"logging.level '{l}' is invalid, expected one of: [{names}]"
  | noEndpoint => "no HBase endpoint configured"
  | invalidUrl u => s!"invalid endpoint URL '{u}'"
  | notABase u => s!"endpoint URL '{u}' cannot be a base"
  | unreadable s => s!"cannot read the settings in {s}"
  | mistyped => "a setting is missing or of the wrong type"
  | unwritable => "a timeout is too large to be written"
  | stated m => m

end SettingsFault

namespace PayloadFault

/-- The wording of an unreadable payload. -/
def message : PayloadFault → String
  | base64 t => s!"invalid base64 '{t}'"
  | utf8 t => s!"invalid utf-8 in '{t}'"
  | shape d => s!"malformed {d}"
  | stated m => m

end PayloadFault

namespace AccessError

/-- The stable code of the error's class. -/
def code : AccessError → String
  | request _ => "HBA-001"
  | constraint _ => "HBA-002"
  | connection .. => "HBA-003"
  | backend .. => "HBA-004"
  | settings _ => "HBA-005"
  | payload _ => "HBA-006"

/-- What the error is about, without its code. -/
def detail : AccessError → String
  | request f => s!"Validation error: {f.message}"
  | constraint f => s!"Syntax error in query {f.message}"
  | connection endpoint message _ => s!"Unable to reach HBase server at {endpoint}: {message}"
  | backend operation table message _ => s!"HBase error during {operation} on '{table}': {message}"
  | settings f => s!"Configuration error: {f.message}"
  | payload f => s!"Serialization error: {f.message}"

/-- The text of the error: its code in brackets, then what it is about. -/
def message (e : AccessError) : String :=
  s!"[{e.code}] {e.detail}"

/-- The scanner that was in use, if the error names one. -/
def scanner? : AccessError → Option String
  | connection _ _ s => s
  | backend _ _ _ s => s
  | _ => none

/-- The error, naming the scanner that was in use.  Only failures of the
connection or of the backend can name one; other errors stay as they are. -/
def withScanner (id : String) : AccessError → AccessError
  | connection endpoint message _ => connection endpoint message (some id)
  | backend operation table message _ => backend operation table message (some id)
  | e => e

/-- Whether the error was found before any operation of the backend. -/
def isLocal : AccessError → Bool
  | request _ => true
  | constraint _ => true
  | settings _ => true
  | _ => false

/-- The error as a document: its code, its text and its scanner. -/
def report (e : AccessError) : Json :=
  .object [("code", .string e.code), ("message", .string e.message),
    ("scannerId", (e.scanner?.map Json.string).getD .null)]

@[simp] theorem code_withScanner (id : String) (e : AccessError) :
    (e.withScanner id).code = e.code := by
  cases e <;> rfl

@[simp] theorem isLocal_withScanner (id : String) (e : AccessError) :
    (e.withScanner id).isLocal = e.isLocal := by
  cases e <;> rfl

/-- Naming the scanner does not change the text. -/
@[simp] theorem message_withScanner (id : String) (e : AccessError) :
    (e.withScanner id).message = e.message := by
  cases e <;> rfl

end AccessError

end StreamStore
