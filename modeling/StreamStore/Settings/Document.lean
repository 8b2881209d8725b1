import StreamStore.Settings
import StreamStore.Toml.Parser
import StreamStore.Toml.Printer

/-!
# Settings as a document

The document has three sections, `connection`, `scan` and `logging`, and the
endpoints are the list `connection.endpoints`.

**Sources lie over one another.**  The defaults are the lowest one.  A source
above them needs to name only what it changes: `overlay` lays one value over
another, table over table name by name, and anything else in place of what was
there.  So a list of endpoints replaces the default list as a whole.

**A section is read by name or by place.**  As a table its settings are found by
their names, and unknown names are ignored; as a list they stand in their order,
and a list that is too short leaves the rest at their defaults.  An endpoint is
read in the same way, but its host and its port have no default.
-/

namespace StreamStore

namespace Toml

mutual

/-- A value with another one laid over it. -/
def Value.overlay (lower : Value) : Value → Value
  | .table upper =>
      match lower with
      | .table entries => .table (overlayEntries entries upper)
      | _ => .table upper
  | upper => upper

/-- The entries of a table with those of another one laid over them. -/
def overlayEntries (entries : List (String × Value)) :
    List (String × Value) → List (String × Value)
  | [] => entries
  | (name, v) :: rest =>
      overlayEntries
        (match lookup? name entries with
          | none => entries ++ [(name, v)]
          | some w => replace name (w.overlay v) entries)
        rest

end

/-- The values of a record's members: by name in a table, by place in a list. -/
def Value.members? (names : List String) : Value → Option (List (Option Value))
  | .table entries => some (names.map fun name => lookup? name entries)
  | .list items => some ((List.range names.length).map fun i => items[i]?)
  | _ => none

/-- The text that a value is, if it is one. -/
def Value.text? : Value → Option String
  | .text s => some s
  | _ => none

/-- The truth value that a value is, if it is one. -/
def Value.flag? : Value → Option Bool
  | .flag b => some b
  | _ => none

/-- The number below a limit that a value is, if it is one. -/
def Value.below? (limit : Nat) : Value → Option Nat
  | .integer n => if 0 ≤ n ∧ n < limit then some n.toNat else none
  | .natural n => if n < limit then some n else none
  | _ => none

/-- A member read as its type wants it, or its default where it is missing. -/
def memberOr {α : Type} (default : α) (read : Value → Option α) : Option Value → Option α
  | none => some default
  | some v => read v

end Toml

open Toml

/-! ### Reading -/

/-- Reads a port. -/
def port? (v : Value) : Option UInt16 :=
  (v.below? UInt16.size).map UInt16.ofNat

/-- Reads a number of seconds. -/
def seconds? (v : Value) : Option UInt64 :=
  (v.below? UInt64.size).map UInt64.ofNat

/-- Reads a selection, which is given by its name. -/
def selection? : Value → Option Selection
  | .text s =>
      if s = Selection.first.name then some .first
      else if s = Selection.random.name then some .random
      else none
  | _ => none

/-- Reads an endpoint. -/
def Endpoint.ofValue? (v : Value) : Option Endpoint := do
  match ← v.members? ["host", "port", "scheme"] with
  | [some host, some port, scheme] =>
      some ⟨← host.text?, ← port? port, ← memberOr defaultScheme Value.text? scheme⟩
  | _ => none

/-- Reads a list of endpoints. -/
def endpoints? : Value → Option (List Endpoint)
  | .list items => items.mapM Endpoint.ofValue?
  | _ => none

/-- Reads the section `connection`. -/
def connection? (base : Settings) (v : Value) : Option Settings := do
  match ← v.members? ["endpoints", "selection", "timeout_secs", "connect_timeout_secs"] with
  | [endpoints, selection, timeout, connectTimeout] =>
      some { base with
        endpoints := ← memberOr base.endpoints endpoints? endpoints
        selection := ← memberOr base.selection selection? selection
        timeout := ← memberOr base.timeout seconds? timeout
        connectTimeout := ← memberOr base.connectTimeout seconds? connectTimeout }
  | _ => none

/-- Reads the section `scan`. -/
def scan? (base : Settings) (v : Value) : Option Settings := do
  match ← v.members? ["split_row_identity"] with
  | [split] => some { base with splitIdentity := ← memberOr base.splitIdentity Value.flag? split }
  | _ => none

/-- Reads the section `logging`. -/
def logging? (base : Settings) (v : Value) : Option Settings := do
  match ← v.members? ["level"] with
  | [level] => some { base with logLevel := ← memberOr base.logLevel Value.text? level }
  | _ => none

/-- Reads settings from a value; what is missing has its default. -/
def Settings.ofValue? (v : Value) : Option Settings := do
  match ← v.members? ["connection", "scan", "logging"] with
  | [connection, scan, logging] =>
      let s := Settings.default
      let s ← memberOr s (connection? s) connection
      let s ← memberOr s (scan? s) scan
      memberOr s (logging? s) logging
  | _ => none

/-! ### The default source -/

/-- An endpoint as a value. -/
def Endpoint.toValue (e : Endpoint) : Value :=
  .table [("host", .text e.host), ("port", .integer e.port.toNat), ("scheme", .text e.scheme)]

/-- Settings as a value. -/
def Settings.toValue (s : Settings) : Value :=
  .table [
    ("connection", .table [
      ("endpoints", .list (s.endpoints.map Endpoint.toValue)),
      ("selection", .text s.selection.name),
      ("timeout_secs", .integer s.timeout.toNat),
      ("connect_timeout_secs", .integer s.connectTimeout.toNat)]),
    ("scan", .table [("split_row_identity", .flag s.splitIdentity)]),
    ("logging", .table [("level", .text s.logLevel)])]

/-- Settings from sources laid over the defaults, the lowest one first. -/
def Settings.ofSources (sources : List Value) : Except SettingsFault Settings :=
  match Settings.ofValue? (sources.foldl Value.overlay Settings.default.toValue) with
  | some s => .ok s
  | none => .error .mistyped

/-- The table that a document is; `source` names it in the error. -/
def documentValue (source text : String) : Except SettingsFault Value :=
  match Toml.parse text with
  | some entries => .ok (.table entries)
  | none => .error (.unreadable source)

/-- Reads settings from the text of a document. -/
def Settings.parse (text : String) : Except SettingsFault Settings := do
  let v ← documentValue "the text" text
  Settings.ofSources [v]

/-! ### Writing -/

/-- The lines of an endpoint. -/
def Endpoint.lines (e : Endpoint) : List Line :=
  [.element ⟨["connection"], "endpoints"⟩,
    .entry "host" (.text e.host),
    .entry "port" (.number e.port.toNat),
    .entry "scheme" (.text e.scheme)]

/-- The lines of a settings document. -/
def Settings.lines (s : Settings) : List Line :=
  [.section (.ofName "connection")]
    ++ (if s.endpoints.isEmpty then [.entry "endpoints" .nothing] else [])
    ++ [.entry "selection" (.text s.selection.name),
      .entry "timeout_secs" (.number s.timeout.toNat),
      .entry "connect_timeout_secs" (.number s.connectTimeout.toNat)]
    ++ s.endpoints.flatMap Endpoint.lines
    ++ [.section (.ofName "scan"), .entry "split_row_identity" (.flag s.splitIdentity),
      .section (.ofName "logging"), .entry "level" (.text s.logLevel)]

/-- The settings as the text of a document.  A number of a document has a sign, so
the larger half of the timeouts cannot be written. -/
def Settings.render (s : Settings) : Except SettingsFault String :=
  if (s.timeout.toNat : Int) < signedLimit ∧ (s.connectTimeout.toNat : Int) < signedLimit then
    .ok (Toml.render s.lines)
  else .error .unwritable

end StreamStore
