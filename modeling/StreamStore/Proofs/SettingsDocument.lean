import StreamStore.Proofs.DocumentLines
import StreamStore.Settings.Document

/-!
# Written settings load back

A settings document is read in four steps, and each one meets what the writer had in hand.

* Its text is read as the statements of its lines (`Toml.parse_render`).
* The statements build the table of the settings (`ofStatements_lines`).  Between two endpoints
  the document under construction is a list of tables of which the last one is open
  (`Settings.draft`), and the lines of one endpoint close it and open the next
  (`runAll_endpoint`).
* The table covers every name of the defaults, so nothing of them is left
  (`overlay_entries`).  The list of endpoints covers the default one as a whole, also when it
  is empty: then the document says so.
* The table is read as the settings (`ofValue?_toValue`).
-/

namespace StreamStore

open Toml

/-! ### The text -/

/-- What a settings document can hold: the timeouts have a sign there. -/
def Settings.Writable (s : Settings) : Prop :=
  (s.timeout.toNat : Int) < signedLimit ∧ (s.connectTimeout.toNat : Int) < signedLimit

theorem Endpoint.fits_of_mem_lines {e : Endpoint} : ∀ line ∈ e.lines, line.Fits := by
  have hport : ((e.port.toNat : Int)) < signedLimit := by
    have hlimit : signedLimit = 9223372036854775808 := rfl
    have hbound := e.port.toNat_lt
    omega
  simp only [Endpoint.lines, List.forall_mem_cons, List.not_mem_nil, false_imp_iff,
    implies_true, and_true]
  exact ⟨by decide, ⟨by decide, trivial⟩, ⟨by decide, hport⟩, by decide, trivial⟩

/-- Every line of a settings document has a written form. -/
theorem Settings.fits_of_mem_lines {s : Settings} (h : s.Writable) :
    ∀ line ∈ s.lines, line.Fits := by
  have hendpoints : ∀ line ∈ s.endpoints.flatMap Endpoint.lines, line.Fits := by
    intro line hline
    obtain ⟨e, -, hline⟩ := List.mem_flatMap.1 hline
    exact e.fits_of_mem_lines line hline
  have hempty : ∀ line ∈ (if s.endpoints.isEmpty then [Line.entry "endpoints" .nothing] else []),
      line.Fits := by
    split_ifs
    · rw [List.forall_mem_singleton]
      exact ⟨by decide, trivial⟩
    · exact List.forall_mem_nil _
  simp only [Settings.lines, List.forall_mem_append, List.forall_mem_cons, List.not_mem_nil,
    false_imp_iff, implies_true, and_true]
  exact ⟨⟨⟨⟨by decide, hempty⟩, ⟨by decide, trivial⟩, ⟨by decide, h.1⟩, by decide, h.2⟩,
    hendpoints⟩, by decide, ⟨by decide, trivial⟩, by decide, by decide, trivial⟩

/-! ### The table -/

/-- The parts of an endpoint's table. -/
def Endpoint.nodes (e : Endpoint) : Nodes :=
  [("host", .value (.text e.host)), ("port", .value (.integer e.port.toNat)),
    ("scheme", .value (.text e.scheme))]

/-- The parts of the first section in front of its endpoints. -/
def Settings.nodes (s : Settings) : Nodes :=
  [("selection", .value (.text s.selection.name)),
    ("timeout_secs", .value (.integer s.timeout.toNat)),
    ("connect_timeout_secs", .value (.integer s.connectTimeout.toNat))]

/-- The document between two endpoints. -/
def Settings.draft (s : Settings) (earlier : List Nodes) (last : Nodes) : Draft :=
  ⟨[("connection", .table .declared (s.nodes ++ [("endpoints", .tables earlier last)]))],
    ["connection", "endpoints"]⟩

theorem runAll_endpoint (s : Settings) (earlier : List Nodes) (last : Nodes) (e : Endpoint) :
    (s.draft earlier last).runAll (e.lines.map Line.statement) =
      some (s.draft (earlier ++ [last]) e.nodes) := rfl

/-- The endpoints that follow one are added behind it. -/
theorem runAll_endpoints (s : Settings) (endpoints : List Endpoint) :
    ∀ earlier last, ∃ earlier' last',
      (s.draft earlier last).runAll ((endpoints.flatMap Endpoint.lines).map Line.statement) =
        some (s.draft earlier' last') ∧
      earlier' ++ [last'] = earlier ++ last :: endpoints.map Endpoint.nodes := by
  induction endpoints with
  | nil => exact fun earlier last => ⟨earlier, last, rfl, rfl⟩
  | cons e endpoints ih =>
      intro earlier last
      obtain ⟨earlier', last', hrun, hall⟩ := ih (earlier ++ [last]) e.nodes
      refine ⟨earlier', last', ?_, ?_⟩
      · rw [List.flatMap_cons, List.map_append, Draft.runAll_append, runAll_endpoint,
          Option.bind_some, hrun]
      · rw [hall, List.append_assoc]
        rfl

theorem finishTables_append (earlier : List Nodes) (last : Nodes) :
    finishTables earlier ++ [.table (finishAll last)] =
      (earlier ++ [last]).map fun nodes => .table (finishAll nodes) := by
  induction earlier with
  | nil => rfl
  | cons nodes earlier ih => rw [finishTables, List.cons_append, ih]; rfl

/-- The table that a settings document is: an empty list of endpoints stands at the front of
its section, the tables of other lists at the end. -/
def Settings.entries (s : Settings) : List (String × Value) :=
  let endpoints := ("endpoints", Value.list (s.endpoints.map Endpoint.toValue))
  [("connection", .table
      (if s.endpoints.isEmpty then endpoints :: finishAll s.nodes
      else finishAll s.nodes ++ [endpoints])),
    ("scan", .table [("split_row_identity", .flag s.splitIdentity)]),
    ("logging", .table [("level", .text s.logLevel)])]

/-- The lines in front of the endpoints, where there are any. -/
def Settings.opening (s : Settings) : List Line :=
  [.section (.ofName "connection"), .entry "selection" (.text s.selection.name),
    .entry "timeout_secs" (.number s.timeout.toNat),
    .entry "connect_timeout_secs" (.number s.connectTimeout.toNat)]

/-- The lines behind the endpoints. -/
def Settings.closing (s : Settings) : List Line :=
  [.section (.ofName "scan"), .entry "split_row_identity" (.flag s.splitIdentity),
    .section (.ofName "logging"), .entry "level" (.text s.logLevel)]

theorem Settings.lines_of_cons {s : Settings} {e : Endpoint} {endpoints : List Endpoint}
    (h : s.endpoints = e :: endpoints) :
    s.lines = s.opening ++ e.lines ++ (endpoints.flatMap Endpoint.lines ++ s.closing) := by
  simp [Settings.lines, Settings.opening, Settings.closing, h]

theorem runAll_opening (s : Settings) (e : Endpoint) :
    Draft.start.runAll ((s.opening ++ e.lines).map Line.statement) =
      some (s.draft [] e.nodes) := rfl

theorem runAll_closing (s : Settings) (earlier : List Nodes) (last : Nodes) :
    (s.draft earlier last).runAll (s.closing.map Line.statement) =
      some ⟨(s.draft earlier last).root ++
        [("scan", .table .declared [("split_row_identity", .value (.flag s.splitIdentity))]),
          ("logging", .table .declared [("level", .value (.text s.logLevel))])], ["logging"]⟩ :=
  rfl

/-- The statements of a settings document build the table of the settings. -/
theorem ofStatements_lines (s : Settings) :
    ofStatements (s.lines.map Line.statement) = some s.entries := by
  cases h : s.endpoints with
  | nil =>
      rw [Settings.lines, Settings.entries, h]
      rfl
  | cons e endpoints =>
      obtain ⟨earlier, last, hrun, hall⟩ := runAll_endpoints s endpoints [] e.nodes
      have hvalue : finishTables earlier ++ [.table (finishAll last)] =
          (e :: endpoints).map Endpoint.toValue := by
        rw [finishTables_append, hall, List.nil_append, ← List.map_cons, List.map_map]
        rfl
      rw [ofStatements, Settings.lines_of_cons h, List.map_append, Draft.runAll_append,
        runAll_opening, Option.bind_some, List.map_append, Draft.runAll_append, hrun,
        Option.bind_some, runAll_closing, Option.map_some, Settings.entries, h, ← hvalue]
      rfl

/-! ### The defaults -/

/-- A settings document leaves nothing of the defaults. -/
theorem overlay_entries (s : Settings) :
    Settings.default.toValue.overlay (.table s.entries) = s.toValue := by
  obtain ⟨endpoints, selection, timeout, connectTimeout, splitIdentity, logLevel⟩ := s
  cases endpoints with
  | nil => rfl
  | cons e endpoints => rfl

/-! ### The settings -/

theorem below?_integer {n limit : Nat} (h : n < limit) :
    (Value.integer n).below? limit = some n := by
  rw [Value.below?, if_pos ⟨Int.natCast_nonneg n, Int.ofNat_lt.2 h⟩, Int.toNat_natCast]

theorem port?_integer (port : UInt16) : port? (.integer port.toNat) = some port := by
  rw [port?, below?_integer port.toNat_lt_size, Option.map_some, UInt16.ofNat_toNat]

theorem seconds?_integer (seconds : UInt64) :
    seconds? (.integer seconds.toNat) = some seconds := by
  rw [seconds?, below?_integer seconds.toNat_lt_size, Option.map_some, UInt64.ofNat_toNat]

theorem selection?_name (selection : Selection) :
    selection? (.text selection.name) = some selection := by
  cases selection <;> rfl

theorem memberOr_some {α : Type} (default : α) (read : Value → Option α) (v : Value) :
    memberOr default read (some v) = read v := rfl

theorem Endpoint.ofValue?_toValue (e : Endpoint) : Endpoint.ofValue? e.toValue = some e := by
  have hmembers : e.toValue.members? ["host", "port", "scheme"] =
      some [some (.text e.host), some (.integer e.port.toNat), some (.text e.scheme)] := rfl
  rw [Endpoint.ofValue?, hmembers, Option.bind_eq_bind, Option.bind_some]
  dsimp only
  rw [Value.text?, port?_integer, memberOr_some]
  rfl

theorem endpoints?_map_toValue (endpoints : List Endpoint) :
    endpoints? (.list (endpoints.map Endpoint.toValue)) = some endpoints := by
  rw [endpoints?]
  induction endpoints with
  | nil => rfl
  | cons e endpoints ih =>
      rw [List.map_cons, List.mapM_cons, e.ofValue?_toValue, ih]
      rfl

/-- The section of connections as a value. -/
def Settings.connectionValue (s : Settings) : Value :=
  .table [("endpoints", .list (s.endpoints.map Endpoint.toValue)),
    ("selection", .text s.selection.name), ("timeout_secs", .integer s.timeout.toNat),
    ("connect_timeout_secs", .integer s.connectTimeout.toNat)]

theorem connection?_connectionValue (base s : Settings) :
    connection? base s.connectionValue =
      some { base with
        endpoints := s.endpoints
        selection := s.selection
        timeout := s.timeout
        connectTimeout := s.connectTimeout } := by
  have hmembers : s.connectionValue.members?
      ["endpoints", "selection", "timeout_secs", "connect_timeout_secs"] =
      some [some (.list (s.endpoints.map Endpoint.toValue)), some (.text s.selection.name),
        some (.integer s.timeout.toNat), some (.integer s.connectTimeout.toNat)] := rfl
  rw [connection?, hmembers, Option.bind_eq_bind, Option.bind_some]
  dsimp only
  rw [memberOr_some, memberOr_some, memberOr_some, memberOr_some, endpoints?_map_toValue,
    selection?_name, seconds?_integer, seconds?_integer]
  rfl

/-- Settings are read from their value, whatever the defaults are. -/
theorem ofValue?_toValue (s : Settings) : Settings.ofValue? s.toValue = some s := by
  have hmembers : s.toValue.members? ["connection", "scan", "logging"] =
      some [some s.connectionValue, some (.table [("split_row_identity", .flag s.splitIdentity)]),
        some (.table [("level", .text s.logLevel)])] := rfl
  rw [Settings.ofValue?, hmembers, Option.bind_eq_bind, Option.bind_some]
  dsimp only
  rw [memberOr_some, connection?_connectionValue]
  rfl

/-- **Written settings load back.**  Whatever the hosts, the schemes and the level are, however
many endpoints there are, the text that settings are written as is read as the same settings. -/
theorem settings_document_loads_back (s : Settings) {text : String} (h : s.render = .ok text) :
    Settings.parse text = .ok s := by
  unfold Settings.render at h
  split at h
  · next hwritable =>
      obtain rfl := Except.ok.inj h
      have hparse : Toml.parse (Toml.render s.lines) = some s.entries := by
        rw [parse_render (Settings.fits_of_mem_lines hwritable), ofStatements_lines]
      rw [Settings.parse, documentValue, hparse]
      show Settings.ofSources [.table s.entries] = .ok s
      rw [Settings.ofSources, List.foldl_cons, List.foldl_nil, overlay_entries, ofValue?_toValue]
  · cases h

/-- Settings without an endpoint; none of them is at its default. -/
def bareSettings : Settings :=
  ⟨[], .random, 0, 5, false, "it's \"quiet\"\r"⟩

/-- The document of these settings. -/
def bareDocument : String :=
  "[connection]\nendpoints = []\nselection = \"random\"\ntimeout_secs = 0\n" ++
  "connect_timeout_secs = 5\n\n[scan]\nsplit_row_identity = false\n\n" ++
  "[logging]\nlevel = \"it's \\\"quiet\\\"\\r\"\n"

theorem bareSettings_render : bareSettings.render = .ok bareDocument :=
  (if_pos (by decide)).trans (congrArg Except.ok (by decide +kernel))

/-- The empty list of endpoints comes back in place of the default one. -/
theorem bare_settings_load_back :
    bareSettings.render = .ok bareDocument ∧ Settings.parse bareDocument = .ok bareSettings :=
  ⟨bareSettings_render, settings_document_loads_back bareSettings bareSettings_render⟩

end StreamStore
