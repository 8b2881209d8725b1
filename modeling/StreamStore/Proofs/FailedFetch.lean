import StreamStore.Proofs.GatewayCalls

/-!
# Fetches that fail

A call for a page that fails after it has a scanner has asked for the deletion of
that scanner, once.  Whether its error names the scanner depends on how the fetch
failed.  Failures of the connection and of the backend do: nothing could be sent,
no response came, the body was cut short, the status was no success.  What is left
are the documents that arrive in full and cannot be read (`Unreadable`); their
errors are about the payload, and such errors name no scanner.
-/

namespace StreamStore

/-! ### Errors that name a scanner -/

namespace AccessError

/-- An error that names a scanner names the one it is given. -/
theorem scanner?_withScanner {e : AccessError} {id : String} (h : e.scanner? = some id)
    (id' : String) :
    (e.withScanner id').scanner? = some id' := by
  cases e with
  | connection endpoint message scanner => rfl
  | backend operation table message scanner => rfl
  | request fault => cases h
  | constraint fault => cases h
  | settings fault => cases h
  | payload fault => cases h

theorem report_of_scanner? {e : AccessError} {id : String} (h : e.scanner? = some id) :
    e.report = .object [("code", .string e.code), ("message", .string e.message),
      ("scannerId", .string id)] := by
  rw [report, h]
  rfl

end AccessError

/-! ### How a fetch fails -/

/-- Whether a reply to a fetch brings a document that cannot be read, and why: the
response succeeds, its body arrives in full and is not blank, and it is not the
document of a list of cells. -/
inductive Http.Reply.Unreadable : Http.Reply → PayloadFault → Prop where
  | document {r : Http.Response} {text : String} {fault : PayloadFault}
      (success : r.isSuccess = true) (content : r.status ≠ 204) (arrived : r.text? = some text)
      (nonblank : Text.isBlankText text = false)
      (refused : (CellSet.parse text >>= CellSet.toCells) = .error fault) :
      Unreadable (.response r) fault

namespace Gateway

section Replies

variable {g : Gateway} {table : String} {r : Http.Request} {cause : AccessError}

/-- A document that cannot be read makes a fetch fail, with an error about the payload. -/
theorem fetched_of_unreadable {reply : Http.Reply} {fault : PayloadFault}
    (h : reply.Unreadable fault) :
    (g.responseTo "scanner_get" table r reply >>= fetchedFrom table) =
      .error (.payload fault) := by
  cases h with
  | @document response text _ success content arrived nonblank refused =>
      show fetchedFrom table response = _
      have hcells : cellsOf "scanner_get" table response = .error (.payload fault) := by
        rw [cellsOf, arrived]
        dsimp only
        rw [nonblank, refused]
        rfl
      rw [fetchedFrom, if_neg content, if_pos success, hcells]
      rfl

/-- The cells of a response are missing because its text is, or they cannot be read. -/
theorem cellsOf_eq_error {operation : String} {response : Http.Response}
    (h : cellsOf operation table response = .error cause) :
    (∃ message, cause = .backend operation table message none) ∨
      ∃ text fault, response.text? = some text ∧ Text.isBlankText text = false ∧
        (CellSet.parse text >>= CellSet.toCells) = .error fault ∧ cause = .payload fault := by
  rw [cellsOf] at h
  cases htext : response.text? with
  | none =>
      rw [htext] at h
      cases h
      exact .inl ⟨_, rfl⟩
  | some text =>
      rw [htext] at h
      dsimp only at h
      split at h
      · cases h
      · next hblank =>
          cases hread : CellSet.parse text >>= CellSet.toCells with
          | ok cells =>
              rw [hread] at h
              cases h
          | error fault =>
              rw [hread] at h
              cases h
              exact .inr ⟨text, fault, rfl, eq_false_of_ne_true hblank, hread, rfl⟩

/-- A fetch that has a reply fails in one of three ways. -/
theorem fetched_eq_error {reply : Http.Reply}
    (h : (g.responseTo "scanner_get" table r reply >>= fetchedFrom table) = .error cause) :
    (∃ message, cause = .connection g.endpoint message none) ∨
      (∃ message, cause = .backend "scanner_get" table message none) ∨
      ∃ fault, reply.Unreadable fault ∧ cause = .payload fault := by
  cases reply with
  | unreachable =>
      cases h
      exact .inl ⟨_, rfl⟩
  | dropped =>
      cases h
      exact .inr (.inl ⟨_, rfl⟩)
  | response response =>
      replace h : fetchedFrom table response = .error cause := h
      rw [fetchedFrom] at h
      split at h
      · cases h
      · next content =>
          split at h
          · next success =>
              cases hcells : cellsOf "scanner_get" table response with
              | ok cells =>
                  rw [hcells] at h
                  cases h
              | error e =>
                  rw [hcells] at h
                  cases h
                  rcases cellsOf_eq_error hcells with hbackend | ⟨text, fault, arrived, nonblank,
                    refused, rfl⟩
                  · exact .inr (.inl hbackend)
                  · exact .inr (.inr ⟨fault, .document success content arrived nonblank refused, rfl⟩)
          · cases h
            exact .inr (.inl ⟨_, rfl⟩)

end Replies

variable {σ : Type}

theorem mem_sentFor {send : Http.Request → StateM σ Http.Reply} {s : σ} {r r' : Http.Request}
    {reply : Http.Reply} :
    (r', reply) ∈ sentFor send s r ↔ canReceive r.url = true ∧ r' = r ∧ reply = (send r s).1 := by
  rw [sentFor]
  split
  · next hreceive => simp [hreceive]
  · next hreceive => simp [hreceive]

/-- A document that cannot be read leaves no room for naming the scanner. -/
theorem fetch_of_unreadable (g : Gateway) (send : Http.Request → StateM σ Http.Reply) (s : σ)
    {table scanner : String} {fault : PayloadFault}
    (hreceive : canReceive (g.fetchRequest table scanner).url = true)
    (h : (send (g.fetchRequest table scanner) s).1.Unreadable fault) :
    perform ((g.backend send).fetch table scanner) s =
      (.error (.payload fault), (send (g.fetchRequest table scanner) s).2) := by
  rw [perform_fetch, perform_exchange, if_pos hreceive, fetched_of_unreadable h]
  rfl

/-- **How a fetch fails.**  Either the reply to it is a document that cannot be read, and
the error is about that, or the error names the scanner. -/
theorem fetch_eq_error {g : Gateway} {send : Http.Request → StateM σ Http.Reply} {s s' : σ}
    {table scanner : String} {cause : AccessError}
    (h : perform ((g.backend send).fetch table scanner) s = (.error cause, s')) :
    (∃ reply fault, (g.fetchRequest table scanner, reply) ∈
        sentFor send s (g.fetchRequest table scanner) ∧
      reply.Unreadable fault ∧ cause = .payload fault) ∨
    ((∀ reply fault, (g.fetchRequest table scanner, reply) ∈
        sentFor send s (g.fetchRequest table scanner) → ¬reply.Unreadable fault) ∧
      cause.scanner? = some scanner) := by
  rw [perform_fetch, perform_exchange] at h
  by_cases hreceive : canReceive (g.fetchRequest table scanner).url = true
  · rw [if_pos hreceive] at h
    cases hfetched : g.responseTo "scanner_get" table (g.fetchRequest table scanner)
        (send (g.fetchRequest table scanner) s).1 >>= fetchedFrom table with
    | ok cells? =>
        rw [hfetched] at h
        cases h
    | error e =>
        rw [hfetched] at h
        cases h
        -- a reply is readable when the error is not about the payload
        have hreadable : (∀ fault, e ≠ .payload fault) → ∀ reply fault,
            (g.fetchRequest table scanner, reply) ∈
              sentFor send s (g.fetchRequest table scanner) → ¬reply.Unreadable fault := by
          intro hother reply fault hsent hunreadable
          obtain ⟨-, -, rfl⟩ := mem_sentFor.1 hsent
          exact hother fault (Except.error.inj (hfetched.symm.trans
            (fetched_of_unreadable hunreadable)))
        rcases fetched_eq_error hfetched with ⟨message, rfl⟩ | ⟨message, rfl⟩ |
          ⟨fault, hunreadable, rfl⟩
        · exact .inr ⟨hreadable fun fault h => (nomatch h), rfl⟩
        · exact .inr ⟨hreadable fun fault h => (nomatch h), rfl⟩
        · exact .inl ⟨_, fault, mem_sentFor.2 ⟨hreceive, rfl, rfl⟩, hunreadable, rfl⟩
  · rw [if_neg hreceive] at h
    cases h
    refine .inr ⟨fun reply fault hsent => ?_, rfl⟩
    exact absurd (mem_sentFor.1 hsent).1 hreceive

/-! ### The account of a call -/

/-- What a call asks for: the operations on scanners, and the requests that were sent for
them with the replies. -/
structure Account where
  /-- The operations, in order. -/
  operations : List Exchange
  /-- The requests, in order. -/
  requests : List (Http.Request × Http.Reply)

namespace Account

/-- The scanners whose deletion is asked for. -/
def deletions (a : Account) : List String :=
  a.operations.filterMap Exchange.deleted?

/-- The requests to delete something. -/
def deleteRequests (a : Account) : List Http.Request :=
  (a.requests.map Prod.fst).filter fun r => r.method == .delete

end Account

/-- The gateway as a backend, with all that is asked for and sent. -/
def observed (g : Gateway) (send : Http.Request → StateM σ Http.Reply) :
    Backend (StateM ((σ × List (Http.Request × Http.Reply)) × List Exchange)) :=
  (g.backend (Http.recorded send)).recorded

/-- The account of a call for a page. -/
def account (g : Gateway) (send : Http.Request → StateM σ Http.Reply) (s : σ) (table : String)
    (cursor : Cursor) (spec : ScanSpec) : Account :=
  let logs := (perform ((g.observed send).nextPage table cursor spec) ((s, []), [])).2
  ⟨logs.2, logs.1.2⟩

variable {g : Gateway} {send : Http.Request → StateM σ Http.Reply} {s : σ}

/-- Observing a gateway changes nothing about what it answers. -/
theorem observed_scansAs (g : Gateway) (send : Http.Request → StateM σ Http.Reply) :
    (g.observed send).ScansAs (g.backend send) fun t => t.1.1 :=
  (recorded_scansAs (g.backend (Http.recorded send))).trans (g.recorded_transport_scansAs send)

/-- Taking a lease deletes nothing, and it sends documents only. -/
theorem lease_observed {table : String} {cursor : Cursor} {spec : ScanSpec} {l : Lease}
    {s₁ : σ} {sent : List (Http.Request × Http.Reply)} {log : List Exchange}
    (h : perform ((g.observed send).lease table cursor spec) ((s, []), []) =
      (.ok l, (s₁, sent), log)) :
    l.table = table ∧ log.filterMap Exchange.deleted? = [] ∧
      ∀ x ∈ sent, x.1.method = Http.Method.put := by
  rcases cursor.eq_fresh_or_resume with rfl | ⟨id, rfl⟩
  · replace h : perform ((g.observed send).openScanner table spec >>= fun id =>
        pure (⟨table, id⟩ : Lease)) ((s, []), []) = (.ok l, (s₁, sent), log) := h
    rw [perform_bind_pure, observed, recorded_openScanner, openScanner_recorded] at h
    cases hanswer : (perform ((g.backend send).openScanner table spec) s).1 with
    | error e =>
        rw [hanswer] at h
        cases h
    | ok id =>
        rw [hanswer] at h
        cases h
        refine ⟨rfl, rfl, ?_⟩
        rintro ⟨r, reply⟩ hx
        rw [List.nil_append] at hx
        obtain ⟨-, rfl, -⟩ := mem_sentFor.1 hx
        rfl
  · cases h
    exact ⟨rfl, rfl, fun x hx => absurd hx List.not_mem_nil⟩

/-- A failing page fetches and deletes, in this order. -/
theorem pageOf_observed_eq_error {l : Lease} {e : AccessError}
    {sent sent' : List (Http.Request × Http.Reply)} {log log' : List Exchange} {s' : σ}
    (h : perform ((g.observed send).pageOf l) ((s, sent), log) = (.error e, (s', sent'), log')) :
    ∃ cause s₁ deletion,
      perform ((g.backend send).fetch l.table l.scanner) s = (.error cause, s₁) ∧
        e = cause.withScanner l.scanner ∧
        log' = log ++ [.fetched l (.error cause), .deleted l deletion] ∧
        sent' = sent ++ (sentFor send s (g.fetchRequest l.table l.scanner) ++
          sentFor send s₁ (g.deleteScannerRequest l.table l.scanner)) := by
  obtain ⟨cause, t, hfetch, rfl, ht⟩ := pageOf_eq_error.1 h
  rw [observed, recorded_fetch, fetch_recorded] at hfetch
  rcases hanswer : perform ((g.backend send).fetch l.table l.scanner) s with ⟨answer, s₁⟩
  rw [hanswer] at hfetch
  cases hfetch
  rw [observed, recorded_deleteScanner, deleteScanner_recorded] at ht
  cases ht
  exact ⟨cause, s₁, _, rfl, rfl, List.append_assoc .., List.append_assoc ..⟩

/-- The account of a call that fails with a lease: what the lease needed, the fetch that
failed, and a deletion. -/
theorem account_of_failed {table : String} {cursor : Cursor} {spec : ScanSpec} {l : Lease}
    {e : AccessError}
    (hheld : (perform ((g.backend send).lease table cursor spec) s).1 = .ok l)
    (hfail : (perform ((g.backend send).nextPage table cursor spec) s).1 = .error e) :
    l.table = table ∧ ∃ log sent cause s₁ s₂ deletion,
      log.filterMap Exchange.deleted? = [] ∧ (∀ x ∈ sent, x.1.method = Http.Method.put) ∧
      perform ((g.backend send).fetch l.table l.scanner) s₁ = (.error cause, s₂) ∧
      e = cause.withScanner l.scanner ∧
      g.account send s table cursor spec =
        ⟨log ++ [.fetched l (.error cause), .deleted l deletion],
          sent ++ (sentFor send s₁ (g.fetchRequest l.table l.scanner) ++
            sentFor send s₂ (g.deleteScannerRequest l.table l.scanner))⟩ := by
  -- the same call, observed
  have hlease := (observed_scansAs g send).lease table cursor spec ((s, []), [])
  have hpage := (observed_scansAs g send).nextPage table cursor spec ((s, []), [])
  rw [hlease] at hheld
  rw [hpage] at hfail
  rcases hleased : perform ((g.observed send).lease table cursor spec) ((s, []), []) with
    ⟨leased, ⟨s₁, sent⟩, log⟩
  rcases hcalled : perform ((g.observed send).nextPage table cursor spec) ((s, []), []) with
    ⟨outcome, ⟨s', sent'⟩, log'⟩
  rw [hleased] at hheld
  rw [hcalled] at hfail
  obtain rfl : leased = .ok l := hheld
  obtain rfl : outcome = .error e := hfail
  have haccount : g.account send s table cursor spec = ⟨log', sent'⟩ := by
    rw [account, hcalled]
  -- it goes on with the page of the lease, which fails
  rw [Backend.nextPage, perform_bind_ok hleased] at hcalled
  obtain ⟨htable, hlog, hsent⟩ := lease_observed hleased
  obtain ⟨cause, s₂, deletion, hfetch, rfl, rfl, rfl⟩ := pageOf_observed_eq_error hcalled
  exact ⟨htable, log, sent, cause, s₁, s₂, deletion, hlog, hsent, hfetch, rfl, haccount⟩

section Requests

variable {sent : List (Http.Request × Http.Reply)} {s₁ s₂ : σ} {table scanner : String}

/-- Of the requests of a call that fails with a lease, only the last one deletes. -/
theorem filter_delete_requests (hsent : ∀ x ∈ sent, x.1.method = Http.Method.put) :
    (((sent ++ (sentFor send s₁ (g.fetchRequest table scanner) ++
        sentFor send s₂ (g.deleteScannerRequest table scanner))).map Prod.fst).filter
          fun r => r.method == .delete) =
      if canReceive (g.deleteScannerRequest table scanner).url then
        [g.deleteScannerRequest table scanner] else [] := by
  have hput : ((sent.map Prod.fst).filter fun r => r.method == .delete) = [] := by
    rw [List.filter_eq_nil_iff]
    intro r hr hmethod
    obtain ⟨x, hx, rfl⟩ := List.mem_map.1 hr
    cases (hsent x hx).symm.trans (eq_of_beq hmethod)
  have hget : (((sentFor send s₁ (g.fetchRequest table scanner)).map Prod.fst).filter
      fun r => r.method == .delete) = [] := by
    rw [sentFor]
    split <;> rfl
  rw [List.map_append, List.map_append, List.filter_append, List.filter_append, hput, hget,
    sentFor]
  split <;> rfl

/-- Of the requests of a call that fails with a lease, only the last but one fetches. -/
theorem fetchRequest_mem_requests (hsent : ∀ x ∈ sent, x.1.method = Http.Method.put)
    {reply : Http.Reply} :
    (g.fetchRequest table scanner, reply) ∈
        sent ++ (sentFor send s₁ (g.fetchRequest table scanner) ++
          sentFor send s₂ (g.deleteScannerRequest table scanner)) ↔
      (g.fetchRequest table scanner, reply) ∈
        sentFor send s₁ (g.fetchRequest table scanner) := by
  rw [List.mem_append, List.mem_append]
  constructor
  · rintro (hput | hget | hdelete)
    · cases hsent _ hput
    · exact hget
    · obtain ⟨-, hrequest, -⟩ := mem_sentFor.1 hdelete
      cases congrArg Http.Request.method hrequest
  · intro hget
    exact .inr (.inl hget)

end Requests

/-- **Failed fetches.**  When a call for a page fails although it had a scanner, the
deletion of that scanner was asked for once, and it was requested once if its address
can receive requests.  The error names the scanner, unless the reply to the fetch is a
document that cannot be read; then it is about the payload and names none. -/
theorem failed_fetch_names_scanner (g : Gateway) (send : Http.Request → StateM σ Http.Reply)
    (s : σ) (table : String) (cursor : Cursor) (spec : ScanSpec) (l : Lease) (e : AccessError)
    (hheld : (perform ((g.backend send).lease table cursor spec) s).1 = .ok l)
    (hfail : (perform ((g.backend send).nextPage table cursor spec) s).1 = .error e) :
    (g.account send s table cursor spec).deletions = [l.scanner] ∧
    (g.account send s table cursor spec).deleteRequests =
      (if canReceive (g.deleteScannerRequest table l.scanner).url then
        [g.deleteScannerRequest table l.scanner] else []) ∧
    ((∃ reply fault,
        (g.fetchRequest table l.scanner, reply) ∈ (g.account send s table cursor spec).requests ∧
        reply.Unreadable fault ∧ e = .payload fault ∧ e.scanner? = none) ∨
      ((∀ reply fault,
        (g.fetchRequest table l.scanner, reply) ∈ (g.account send s table cursor spec).requests →
        ¬reply.Unreadable fault) ∧
        e.scanner? = some l.scanner ∧
        e.report = .object [("code", .string e.code), ("message", .string e.message),
          ("scannerId", .string l.scanner)])) := by
  obtain ⟨rfl, log, sent, cause, s₁, s₂, deletion, hlog, hsent, hfetch, rfl, haccount⟩ :=
    account_of_failed hheld hfail
  rw [haccount]
  refine ⟨?_, filter_delete_requests hsent, ?_⟩
  · rw [Account.deletions, List.filterMap_append, hlog]
    rfl
  rcases fetch_eq_error hfetch with ⟨reply, fault, hreply, hunreadable, rfl⟩ | ⟨hreadable, hnames⟩
  · exact .inl ⟨reply, fault, (fetchRequest_mem_requests hsent).2 hreply, hunreadable, rfl, rfl⟩
  · have hscanner := AccessError.scanner?_withScanner hnames l.scanner
    refine .inr ⟨?_, hscanner, AccessError.report_of_scanner? hscanner⟩
    intro reply fault hreply
    exact hreadable reply fault ((fetchRequest_mem_requests hsent).1 hreply)

/-! ### Two replies to a fetch -/

/-- A gateway. -/
def plain : Gateway :=
  ⟨"http://h", ⟨"http", none, some (.name "h"), none, false, .segments [], none, none⟩⟩

/-- A transport that answers every fetch with one reply, and all else with success. -/
def fetching (reply : Http.Reply) (r : Http.Request) : StateM Unit Http.Reply :=
  pure (if r.method = .get then reply else .response ⟨200, none, [], true⟩)

/-- A scan of everything, a cell at a time. -/
def everything : ScanSpec :=
  ⟨1, "", "", [], none⟩

/-- A body that ends after its first byte, an opening brace; it is all there or cut short. -/
def brace (complete : Bool) : Http.Reply :=
  .response ⟨200, none, [0x7B], complete⟩

theorem plain_receives : canReceive (plain.fetchRequest "t" "s").url = true := by
  decide +kernel

/-- A single opening brace cannot be read. -/
theorem brace_unreadable : (brace true).Unreadable (.shape "cell set") := by
  have hparse : Json.parseAs CellSet.shape "\x7b" = none := by
    apply Option.isNone_iff_eq_none.1
    decide +kernel
  have hrefused : (CellSet.parse "\x7b" >>= CellSet.toCells) = .error (.shape "cell set") := by
    rw [CellSet.parse, hparse]
    rfl
  exact .document rfl (by decide) (by decide +kernel) (by decide +kernel) hrefused

/-- A fetch whose body is cut short names its scanner. -/
theorem cut_short_fetch_names_scanner :
    (perform ((plain.backend (fetching (brace false))).lease "t" (.resume "s") everything) ()).1 =
      .ok ⟨"t", "s"⟩ ∧
    ∃ e, (perform ((plain.backend (fetching (brace false))).nextPage "t" (.resume "s")
        everything) ()).1 = .error e ∧
      (plain.account (fetching (brace false)) () "t" (.resume "s") everything).deletions = ["s"] ∧
      (plain.account (fetching (brace false)) () "t" (.resume "s") everything).deleteRequests =
        [plain.deleteScannerRequest "t" "s"] ∧
      e.scanner? = some "s" := by
  have hfail : (perform ((plain.backend (fetching (brace false))).nextPage "t" (.resume "s")
      everything) ()).1 =
        .error (.backend "scanner_get" "t" "error decoding response body" (some "s")) := by
    rw [perform_nextPage_resume, perform_pageOf, perform_fetch, perform_exchange,
      if_pos plain_receives]
    rfl
  obtain ⟨hdeletions, hdeletes, ⟨reply, fault, hreply, hunreadable, hpayload, hnone⟩ | hnames⟩ :=
    failed_fetch_names_scanner plain (fetching (brace false)) () "t" (.resume "s") everything
      ⟨"t", "s"⟩ _ rfl hfail
  · cases hpayload
  · exact ⟨rfl, _, hfail, hdeletions, hdeletes.trans (if_pos plain_receives), hnames.2.1⟩

/-- A fetch that brings an opening brace does not name its scanner. -/
theorem unreadable_fetch_names_none :
    (perform ((plain.backend (fetching (brace true))).lease "t" (.resume "s") everything) ()).1 =
      .ok ⟨"t", "s"⟩ ∧
    ∃ e, (perform ((plain.backend (fetching (brace true))).nextPage "t" (.resume "s")
        everything) ()).1 = .error e ∧ e.scanner? ≠ some "s" := by
  refine ⟨rfl, .payload (.shape "cell set"), ?_, nofun⟩
  have hfetch := fetch_of_unreadable plain (fetching (brace true)) () plain_receives
    brace_unreadable
  have hpage : perform ((plain.backend (fetching (brace true))).pageOf ⟨"t", "s"⟩) () =
      (.error (.payload (.shape "cell set")), ()) :=
    pageOf_eq_error.2 ⟨_, (), hfetch, rfl, rfl⟩
  rw [perform_nextPage_resume, hpage]

end Gateway

end StreamStore
