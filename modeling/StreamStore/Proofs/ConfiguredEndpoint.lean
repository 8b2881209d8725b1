import StreamStore.Connection
import StreamStore.Proofs.EndpointAddress
import StreamStore.Proofs.FailedFetch
import StreamStore.Proofs.TracedCalls

/-!
# Where the requests of a configured client go

Settings are checked field by field, and the host is hardly checked at all; what the gateway is
reached at is the address that the fields make up together.  `Url.LeadsTo` says that an address
goes where an endpoint says, and `Endpoint.Stands` that the host of an endpoint is a host for a
URL too, spelled as it is.  The two belong together (`exists_leadsTo_iff`).

A client keeps its gateway for good.  Whatever it is asked for, in whatever state it is, the
requests that one operation sends go to addresses of the gateway (`received_run`), and so do all
the requests of a run (`received_after_operations`).  An address of a gateway has the scheme, the
host and the port of the gateway, so all requests go where one of them would.
-/

namespace StreamStore

open Url (Host)

variable {e : Endpoint}

/-! ### Addresses that lead to an endpoint -/

/-- Whether requests to an address go where an endpoint says: by its scheme, to its host, up to
the case of letters, and to its port.  Hosts are compared as they are spelled: `[0:0::1]` is not
`[::1]` here, and a name outside ASCII is not its Punycode. -/
structure Url.LeadsTo (u : Url) (e : Endpoint) : Prop where
  /-- The scheme is that of the endpoint. -/
  scheme : u.scheme = e.scheme
  /-- The host is that of the endpoint, up to the case of letters. -/
  host : ∃ host, u.host = some host ∧
    Text.smallLetters host.text = Text.smallLetters e.host
  /-- The port, written or implied by the scheme, is that of the endpoint. -/
  port : u.port.or (Url.impliedPort? u.scheme) = some e.port.toNat

/-- Where an address leads is a matter of its scheme, its host and its port. -/
theorem Url.LeadsTo.congr {u v : Url} (hscheme : u.scheme = v.scheme) (hhost : u.host = v.host)
    (hport : u.port = v.port) (h : u.LeadsTo e) : v.LeadsTo e where
  scheme := hscheme ▸ h.scheme
  host := hhost ▸ h.host
  port := hscheme ▸ hport ▸ h.port

/-- Whether the host of an endpoint is a host for a URL, and is spelled there as it is here, up
to the case of letters. -/
def Endpoint.Stands (e : Endpoint) : Prop :=
  ∃ host, Host.parse? e.host.toList = some host ∧
    Text.smallLetters host.text = Text.smallLetters e.host

theorem Endpoint.base_leadsTo {host : Host}
    (h : Text.smallLetters host.text = Text.smallLetters e.host) : (e.base host).LeadsTo e where
  scheme := rfl
  host := ⟨host, rfl, h⟩
  port := by
    show e.writtenPort?.or (Url.impliedPort? e.scheme) = _
    unfold Endpoint.writtenPort?
    split
    · next himplied => exact himplied
    · rfl

/-- An address of an endpoint leads there exactly if the host of the endpoint stands as it is. -/
theorem exists_leadsTo_iff (hscheme : e.scheme ∈ schemes) :
    (∃ u, Url.parse e.url = some u ∧ u.LeadsTo e) ↔ e.Stands := by
  constructor
  · rintro ⟨u, hparse, hleads⟩
    obtain ⟨-, -, text, host, hhost, htext⟩ := Url.parse_url_inv hscheme hparse
    obtain ⟨host', hhost', hcase⟩ := hleads.host
    obtain rfl : host' = host := Option.some.inj (hhost'.symm.trans hhost)
    -- the host that was found is whole, and in other letters it is the one that was written
    have hwhole : Url.IsWhole e.host.toList := (Url.isWhole_text htext).congr hcase.symm
    rw [parse_url_of_isWhole hscheme hwhole] at hparse
    obtain ⟨written, hwritten, rfl⟩ := Option.map_eq_some_iff.1 hparse
    obtain rfl : written = host' := Option.some.inj hhost
    exact ⟨written, hwritten, hcase⟩
  · rintro ⟨host, hhost, hcase⟩
    have hwhole : Url.IsWhole e.host.toList := (Url.isWhole_text hhost).congr hcase.symm
    refine ⟨e.base host, ?_, Endpoint.base_leadsTo hcase⟩
    rw [parse_url_of_isWhole hscheme hwhole, hhost]
    rfl

/-! ### The gateway -/

/-- The schemes of checked settings are schemes of the web. -/
theorem Endpoint.scheme_mem_of_check {index : Nat} (h : e.check index = .ok ()) :
    e.scheme ∈ schemes := by
  unfold Endpoint.check at h
  split_ifs at h with hhost hport hscheme
  exact hscheme

theorem Settings.check_first {s : Settings} {rest : List Endpoint} (h : s.check = .ok ())
    (hlist : s.endpoints = e :: rest) : e.check 0 = .ok () := by
  cases hfirst : e.check 0 with
  | ok u => rfl
  | error fault =>
      have hfault : s.check = .error fault := by
        rw [Settings.check, hlist, checkEndpoints, hfirst]
        rfl
      rw [h] at hfault
      cases hfault

theorem Settings.gateway_eq {s : Settings} {rest : List Endpoint} (h : s.check = .ok ())
    (hfirst : s.selection = .first) (hlist : s.endpoints = e :: rest) (draw : Nat) :
    s.gateway draw = Gateway.ofAddress e.url := by
  rw [Settings.gateway, h, hfirst, hlist]
  rfl

namespace Gateway

/-- The address of an endpoint makes a gateway unless it cannot be read. -/
theorem ofAddress_url (hscheme : e.scheme ∈ schemes) :
    (Url.parse e.url = none ∧ ofAddress e.url = .error (.invalidUrl e.url)) ∨
    ∃ g, Url.parse e.url = some g.base ∧ ofAddress e.url = .ok g := by
  cases hparse : Url.parse e.url with
  | none =>
      refine .inl ⟨rfl, ?_⟩
      rw [ofAddress, hparse]
  | some u =>
      obtain ⟨-, hbase, -⟩ := Url.parse_url_inv hscheme hparse
      have haddress : ∃ g, ofAddress e.url = .ok g ∧ g.base = u := by
        rw [ofAddress, hparse]
        exact ⟨_, if_pos hbase, rfl⟩
      obtain ⟨g, hg, rfl⟩ := haddress
      exact .inr ⟨g, rfl, hg⟩

/-- All addresses of a gateway are on one server. -/
theorem server_address (g : Gateway) (names : List String) :
    (g.address names).scheme = g.base.scheme ∧ (g.address names).host = g.base.host ∧
      (g.address names).port = g.base.port := by
  obtain ⟨hscheme, hhost, hport⟩ := g.base.server_append names
  obtain ⟨hscheme', hhost', hport'⟩ := (g.base.append names).server_signedOff
  exact ⟨hscheme'.trans hscheme, hhost'.trans hhost, hport'.trans hport⟩

theorem address_leadsTo_iff (g : Gateway) (names : List String) :
    (g.address names).LeadsTo e ↔ g.base.LeadsTo e := by
  obtain ⟨hscheme, hhost, hport⟩ := g.server_address names
  exact ⟨.congr hscheme hhost hport, .congr hscheme.symm hhost.symm hport.symm⟩

end Gateway

/-! ### What is sent -/

section Sent

variable {σ : Type} (g : Gateway) (send : Http.Request → StateM σ Http.Reply)

/-- Whether all requests of a log went to addresses of a gateway. -/
def Gateway.Received (log : List (Http.Request × Http.Reply)) : Prop :=
  ∀ sent ∈ log, ∃ names, sent.1.url = g.address names

theorem Gateway.Received.append_sentFor {log : List (Http.Request × Http.Reply)}
    (h : g.Received log) (s : σ) {r : Http.Request} {names : List String}
    (hr : r.url = g.address names) : g.Received (log ++ Gateway.sentFor send s r) := by
  intro sent hsent
  rcases List.mem_append.1 hsent with hsent | hsent
  · exact h sent hsent
  · obtain ⟨-, hrequest, -⟩ := Gateway.mem_sentFor.1 hsent
    exact ⟨names, hrequest ▸ hr⟩

variable {t : σ × List (Http.Request × Http.Reply)}

/-- A call of the backend sends what it sends to an address of the gateway. -/
theorem received_answer (call : Call) (h : g.Received t.2) :
    g.Received ((g.backend (Http.recorded send)).answer t call).2.2 := by
  obtain ⟨s, log⟩ := t
  have hexchange : ∀ {α : Type} (operation table : String) (r : Http.Request)
      (use : Http.Response → Except AccessError α) (names : List String),
      r.url = g.address names →
      g.Received
        (perform (g.exchange (Http.recorded send) operation table r use) (s, log)).2.2 := by
    intro α operation table r use names hr
    rw [g.perform_exchange_recorded]
    exact h.append_sentFor g send s hr
  cases call with
  | createTable schema => exact hexchange _ _ _ _ _ rfl
  | getRow table rowKey columns => exact hexchange _ _ _ _ _ rfl
  | putCells table cells =>
      cases cells with
      | nil => exact h
      | cons first rest => exact hexchange _ _ _ _ _ rfl
  | openScanner table spec => exact hexchange _ _ _ _ _ rfl
  | fetch table scanner =>
      show g.Received (perform ((g.backend (Http.recorded send)).fetch table scanner) (s, log)).2.2
      rw [g.perform_fetch]
      exact hexchange _ _ _ _ _ rfl
  | deleteScanner table scanner =>
      show g.Received
        (perform ((g.backend (Http.recorded send)).deleteScanner table scanner) (s, log)).2.2
      rw [g.perform_deleteScanner]
      exact hexchange _ _ _ _ _ rfl

theorem received_after (calls : List Call) (h : g.Received t.2) :
    g.Received ((g.backend (Http.recorded send)).after t calls).2 := by
  induction calls generalizing t with
  | nil => exact h
  | cons call calls ih => exact ih (received_answer g send call h)

/-- An operation at a fixed time sends to addresses of the gateway. -/
theorem received_action (call : ClientCall) (h : g.Received t.2) :
    g.Received (perform (call.action (g.backend (Http.recorded send))) t).2.2 := by
  rcases call.refused_or_asks (g.backend (Http.recorded send)) t with
    ⟨fault, -, -, hrefused⟩ | hasks
  · rw [hrefused]
    exact h
  · rw [hasks.state]
    exact received_after g send _ h

/-! ### Runs -/

/-- A clock that leaves a log alone. -/
def Http.unrecorded (clock : StateM σ Nat) : StateM (σ × List (Http.Request × Http.Reply)) Nat :=
  fun (s, log) => ((clock s).1, (clock s).2, log)

/-- The state that operations of a client leave, one after the other. -/
def Client.after (c : Client (StateM σ)) (s : σ) (operations : List Operation) : σ :=
  operations.foldl (fun s op => (perform (op.run c) s).2) s

/-- A write that is checked and stamped is the write at the time that the clock shows. -/
theorem stamped_at (check : Except RequestFault Unit) (write : Nat → Access (StateM σ) Unit)
    (clock : StateM σ Nat) (s : σ) :
    ∃ now s', (s' = s ∨ s' = (clock s).2) ∧
      (perform (do
        liftFault .request check
        let now ← ExceptT.lift clock
        write now) s).2 =
      (perform (do
        liftFault .request check
        let now ← ExceptT.lift (pure now)
        write now) s').2 := by
  cases check with
  | error fault => exact ⟨0, s, .inl rfl, rfl⟩
  | ok u => exact ⟨(clock s).1, (clock s).2, .inr rfl, rfl⟩

/-- An operation of a client is the operation at the time that its clock shows. -/
theorem Operation.run_at (b : Backend (StateM σ)) (split : Bool) (clock : StateM σ Nat)
    (op : Operation) (s : σ) :
    ∃ now s', (s' = s ∨ s' = (clock s).2) ∧ (perform (op.run ⟨b, split, clock⟩) s).2 =
      (perform ((⟨split, now, op⟩ : ClientCall).action b) s').2 := by
  cases op with
  | putValue table r =>
      obtain ⟨now, s', hs', h⟩ := stamped_at r.validate
        (fun now => b.putCells (r.type.tableName table) (r.cells now)) clock s
      refine ⟨now, s', hs', ?_⟩
      rw [Operation.run, ClientCall.action, Operation.run, perform_bind_pure, perform_bind_pure]
      exact h
  | putCells table t writes =>
      obtain ⟨now, s', hs', h⟩ := stamped_at (writes.forM CellWrite.validate)
        (fun now => b.putCells (t.tableName table) (writes.map fun w => w.cell t now)) clock s
      refine ⟨now, s', hs', ?_⟩
      rw [Operation.run, ClientCall.action, Operation.run, perform_bind_pure, perform_bind_pure]
      exact h
  | _ => exact ⟨0, s, .inl rfl, rfl⟩

/-- An operation of a client sends to addresses of its gateway. -/
theorem received_run (split : Bool) (clock : StateM σ Nat) (op : Operation) (h : g.Received t.2) :
    g.Received (perform (op.run (Client.ofGateway g split (Http.recorded send)
      (Http.unrecorded clock))) t).2.2 := by
  obtain ⟨now, t', ht', hrun⟩ :=
    op.run_at (g.backend (Http.recorded send)) split (Http.unrecorded clock) t
  have hlog : t'.2 = t.2 := by
    rcases ht' with rfl | rfl <;> rfl
  rw [Client.ofGateway, hrun]
  exact received_action g send _ (hlog ▸ h)

/-- **A client sends to addresses of its gateway only**, whatever it is asked for. -/
theorem received_after_operations (split : Bool) (clock : StateM σ Nat)
    (operations : List Operation) (h : g.Received t.2) :
    g.Received ((Client.ofGateway g split (Http.recorded send) (Http.unrecorded clock)).after t
      operations).2 := by
  induction operations generalizing t with
  | nil => exact h
  | cons op operations ih => exact ih (received_run g send split clock op h)

end Sent

/-- **Where the requests of a configured client go.**  The settings are accepted, and the first
endpoint is the one to choose.  If its host stands in a URL as it is written, connecting
succeeds, and whatever the client is asked for, every request goes to the endpoint.  If not,
connecting fails, or no request ever goes to the endpoint. -/
theorem accepted_settings_reach_endpoint {s : Settings} {e : Endpoint} {rest : List Endpoint}
    (hcheck : s.check = .ok ()) (hfirst : s.selection = .first) (hlist : s.endpoints = e :: rest)
    {σ : Type} (draw : Nat) (send : Http.Request → StateM σ Http.Reply) (clock : StateM σ Nat) :
    (e.Stands →
      ∃ client, s.connect draw (Http.recorded send) (Http.unrecorded clock) = .ok client ∧
        ∀ state operations, ∀ sent ∈ (client.after (state, []) operations).2,
          sent.1.url.LeadsTo e) ∧
    (¬e.Stands →
      s.connect draw (Http.recorded send) (Http.unrecorded clock) = .error (.invalidUrl e.url) ∨
      ∃ client, s.connect draw (Http.recorded send) (Http.unrecorded clock) = .ok client ∧
        ∀ state operations, ∀ sent ∈ (client.after (state, []) operations).2,
          ¬sent.1.url.LeadsTo e) := by
  have hscheme : e.scheme ∈ schemes :=
    Endpoint.scheme_mem_of_check (Settings.check_first hcheck hlist)
  have hgateway : s.gateway draw = Gateway.ofAddress e.url :=
    Settings.gateway_eq hcheck hfirst hlist draw
  rw [← exists_leadsTo_iff hscheme]
  rcases Gateway.ofAddress_url hscheme with ⟨hnone, haddress⟩ | ⟨g, hparse, haddress⟩
  · refine ⟨?_, fun _ => .inl ?_⟩
    · rintro ⟨u, hparse, -⟩
      rw [hnone] at hparse
      cases hparse
    · rw [Settings.connect, hgateway, haddress]
      rfl
  · have hconnect : s.connect draw (Http.recorded send) (Http.unrecorded clock) =
        .ok (.ofGateway g s.splitIdentity (Http.recorded send) (Http.unrecorded clock)) := by
      rw [Settings.connect, hgateway, haddress]
      rfl
    -- all requests go where the address of the gateway itself leads
    have hsent : ∀ state operations, ∀ sent ∈ ((Client.ofGateway g s.splitIdentity
        (Http.recorded send) (Http.unrecorded clock)).after (state, []) operations).2,
        sent.1.url.LeadsTo e ↔ g.base.LeadsTo e := by
      intro state operations sent hmem
      have hempty : g.Received [] := List.forall_mem_nil _
      obtain ⟨names, hnames⟩ :=
        received_after_operations g send s.splitIdentity clock operations hempty sent hmem
      rw [hnames, g.address_leadsTo_iff]
    constructor
    · rintro ⟨u, hu, hleads⟩
      obtain rfl : u = g.base := Option.some.inj (hu.symm.trans hparse)
      exact ⟨_, hconnect, fun state operations sent hmem =>
        (hsent state operations sent hmem).2 hleads⟩
    · intro hnot
      exact .inr ⟨_, hconnect, fun state operations sent hmem hleads =>
        hnot ⟨g.base, hparse, (hsent state operations sent hmem).1 hleads⟩⟩

/-- The default settings, but for one endpoint. -/
def Settings.single (e : Endpoint) : Settings :=
  { Settings.default with endpoints := [e] }

/-- A server that is never reached. -/
def Http.silent : Http.Request → StateM Unit Http.Reply :=
  fun _ => pure .unreachable

/-- A name is reached in whatever letters it is written, and a port that the scheme implies. -/
theorem named_endpoint_reached :
    ∃ client, (Settings.single ⟨"HBase-1", 443, "https"⟩).connect 0 (Http.recorded Http.silent)
        (Http.unrecorded (pure 0)) = .ok client ∧
      ∀ state operations, ∀ sent ∈ (client.after (state, []) operations).2,
        sent.1.url.LeadsTo ⟨"HBase-1", 443, "https"⟩ :=
  (accepted_settings_reach_endpoint (s := Settings.single ⟨"HBase-1", 443, "https"⟩) rfl rfl rfl
    0 Http.silent (pure 0)).1 ⟨.name "hbase-1", rfl, rfl⟩

/-- The client that the host `hbase/rest` with the port 8080 leads to: the slash ends the host,
and the port becomes part of the path. -/
def strayClient : Client (StateM (Unit × List (Http.Request × Http.Reply))) :=
  .ofGateway ⟨"http://hbase/rest:8080",
      ⟨"http", none, some (.name "hbase"), none, false, .segments ["rest:8080"], none, none⟩⟩
    true (Http.recorded Http.silent) (Http.unrecorded (pure 0))

/-- **Accepted settings whose endpoint is missed.**  An IPv6 address without brackets is cut at
its first colon, where no host stands in front of it; a host with a slash is not all host. -/
theorem accepted_endpoints_missed :
    ((Settings.single ⟨"::1", 8080, "http"⟩).check = .ok () ∧
      (Settings.single ⟨"::1", 8080, "http"⟩).connect 0 (Http.recorded Http.silent)
        (Http.unrecorded (pure 0)) = .error (.invalidUrl "http://::1:8080")) ∧
    (Settings.single ⟨"hbase/rest", 8080, "http"⟩).check = .ok () ∧
    (Settings.single ⟨"hbase/rest", 8080, "http"⟩).connect 0 (Http.recorded Http.silent)
      (Http.unrecorded (pure 0)) = .ok strayClient ∧
    ∃ sent ∈ (strayClient.after ((), []) [.getRow "plant" .data (some "r1") "temp"]).2,
      sent.1.url.text = "http://hbase/rest:8080/plant_stream_realtime/r1/DF:temp" ∧
      ¬sent.1.url.LeadsTo ⟨"hbase/rest", 8080, "http"⟩ := by
  refine ⟨⟨rfl, rfl⟩, rfl, rfl, ?_⟩
  have hlog : ((strayClient.after ((), []) [.getRow "plant" .data (some "r1") "temp"]).2.map
      fun sent => sent.1.url) =
      [⟨"http", none, some (.name "hbase"), none, false,
        .segments ["rest:8080", "plant_stream_realtime", "r1", "DF:temp"], none, none⟩] := by
    decide +kernel
  obtain ⟨sent, hsent, hurl⟩ := List.mem_map.1 (hlog ▸ List.mem_singleton_self _)
  refine ⟨sent, hsent, ?_, fun hleads => ?_⟩
  · rw [hurl]
    decide +kernel
  · have hport := hleads.port
    rw [hurl] at hport
    exact absurd hport (by decide)

end StreamStore
