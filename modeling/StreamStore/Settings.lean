import StreamStore.Error
import StreamStore.Text.Blank

/-!
# Settings

The settings name the endpoints of the gateway and how one of them is chosen, the
two timeouts, how rows are identified in results, and the level of the log.
Everything has a default, so the settings of an empty configuration are
`Settings.default`.

Reading never looks at the meaning of a setting; `check` does, and it names the
first fault in the order in which the settings are declared.  What `check` does
not look at is whether an endpoint's text is a URL: that shows when a gateway is
made of it.
-/

namespace StreamStore

/-- One endpoint of the gateway. -/
structure Endpoint where
  /-- The host, by name or by address. -/
  host : String
  /-- The port. -/
  port : UInt16
  /-- The scheme, `http` or `https`. -/
  scheme : String
  deriving DecidableEq, Repr

/-- The scheme of an endpoint that names none. -/
def defaultScheme : String :=
  "http"

/-- The endpoint of a configuration that lists none. -/
def Endpoint.default : Endpoint :=
  ⟨"localhost", 8080, defaultScheme⟩

/-- The base URL of an endpoint, as it is written. -/
def Endpoint.url (e : Endpoint) : String :=
  s!"{e.scheme}://{e.host}:{e.port.toNat}"

/-- How one of several endpoints is chosen. -/
inductive Selection where
  /-- Always the first. -/
  | first
  /-- Any of them. -/
  | random
  deriving DecidableEq, Repr

/-- The name of a selection. -/
def Selection.name : Selection → String
  | first => "first"
  | random => "random"

/-- The settings of a client. -/
structure Settings where
  /-- The endpoints to choose from. -/
  endpoints : List Endpoint
  /-- How one of them is chosen. -/
  selection : Selection
  /-- How many seconds a request may take. -/
  timeout : UInt64
  /-- How many seconds connecting may take. -/
  connectTimeout : UInt64
  /-- Whether a row is identified without its stream. -/
  splitIdentity : Bool
  /-- The level of the log. -/
  logLevel : String
  deriving DecidableEq, Repr

/-- The settings of an empty configuration. -/
def Settings.default : Settings where
  endpoints := [Endpoint.default]
  selection := .first
  timeout := 30
  connectTimeout := 10
  splitIdentity := true
  logLevel := "info"

instance : Inhabited Settings := ⟨.default⟩

/-! ### Checking -/

/-- The schemes of endpoints. -/
def schemes : List String :=
  ["http", "https"]

/-- Checks the endpoint at a place of the list. -/
def Endpoint.check (index : Nat) (e : Endpoint) : Except SettingsFault Unit :=
  if Text.isBlankText e.host then .error (.emptyHost index)
  else if e.port = 0 then .error (.zeroPort index)
  else if e.scheme ∉ schemes then .error (.unknownScheme index e.scheme)
  else .ok ()

/-- Checks the endpoints from a place of the list on. -/
def checkEndpoints : Nat → List Endpoint → Except SettingsFault Unit
  | _, [] => .ok ()
  | index, e :: rest => do
      e.check index
      checkEndpoints (index + 1) rest

/-- Checks the settings and names the first fault. -/
def Settings.check (s : Settings) : Except SettingsFault Unit := do
  if s.endpoints.isEmpty then
    throw .noEndpointListed
  checkEndpoints 0 s.endpoints
  if s.timeout = 0 then
    throw .zeroTimeout
  if s.connectTimeout = 0 then
    throw .zeroConnectTimeout
  if s.logLevel ∉ logLevels then
    throw (.unknownLevel s.logLevel)

/-! ### Choosing an endpoint -/

/-- The endpoint that is chosen; a random choice takes the one that `draw` points
to, counted around the list. -/
def Selection.choose (selection : Selection) (draw : Nat) (endpoints : List Endpoint) :
    Except SettingsFault Endpoint :=
  let index := match selection with
    | first => 0
    | random => draw % endpoints.length
  match endpoints[index]? with
  | some e => .ok e
  | none => .error .noEndpoint

end StreamStore
