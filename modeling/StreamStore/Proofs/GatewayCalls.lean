import StreamStore.Gateway
import StreamStore.Proofs.RecordedCalls

/-!
# What a gateway is sent

Every operation of `Gateway.backend` is one exchange, and an exchange is one
request or none: nothing is sent to an address that cannot receive requests
(`perform_exchange`).  What is made of the reply is a pure function of it.

`Http.recorded` keeps a log of the requests that go out and of the replies to
them.  A gateway behind a recorded transport scans as it does behind the transport
itself (`recorded_transport_scansAs`), and the log grows by what `sentFor` says.
-/

namespace StreamStore

variable {σ α : Type}

/-! ### Recorded transports -/

/-- A transport that keeps a log of the requests and the replies. -/
def Http.recorded (send : Http.Request → StateM σ Http.Reply) :
    Http.Request → StateM (σ × List (Http.Request × Http.Reply)) Http.Reply :=
  fun r (s, log) => ((send r s).1, (send r s).2, log ++ [(r, (send r s).1)])

namespace Gateway

variable (g : Gateway) (send : Http.Request → StateM σ Http.Reply) (s : σ)

/-- What goes out for a request, and what comes back: nothing when its address cannot
receive requests. -/
def sentFor (r : Http.Request) : List (Http.Request × Http.Reply) :=
  if canReceive r.url then [(r, (send r s).1)] else []

/-- An exchange sends its request once, if the address can receive it. -/
theorem perform_exchange (operation table : String) (r : Http.Request)
    (use : Http.Response → Except AccessError α) :
    perform (g.exchange send operation table r use) s =
      if canReceive r.url then
        (g.responseTo operation table r (send r s).1 >>= use, (send r s).2)
      else
        (.error (.backend operation table s!"builder error for url ({r.url.text})" none), s) := by
  rw [exchange]
  split
  · have hsend : perform (ExceptT.lift (send r)) s = (.ok (send r s).1, (send r s).2) := rfl
    rw [perform_bind_ok hsend, perform_liftFault]
    cases g.responseTo operation table r (send r s).1 >>= use <;> rfl
  · rfl

/-- A named operation fails as the operation does, and the failure names the scanner. -/
theorem perform_naming (scanner : String) (action : Access (StateM σ) α) :
    perform (naming scanner action) s =
      ((perform action s).1.mapError (AccessError.withScanner scanner), (perform action s).2) := by
  rw [naming, perform_tryCatch]
  rcases perform action s with ⟨e | a, s'⟩ <;> rfl

theorem perform_fetch (table scanner : String) :
    perform ((g.backend send).fetch table scanner) s =
      let sent := perform (g.exchange send "scanner_get" table (g.fetchRequest table scanner)
        (fetchedFrom table)) s
      (sent.1.mapError (AccessError.withScanner scanner), sent.2) :=
  perform_naming ..

theorem perform_deleteScanner (table scanner : String) :
    perform ((g.backend send).deleteScanner table scanner) s =
      let sent := perform (g.exchange send "scanner_delete" table
        (g.deleteScannerRequest table scanner) (expectSuccess "scanner_delete" table)) s
      (sent.1.mapError (AccessError.withScanner scanner), sent.2) :=
  perform_naming ..

variable (log : List (Http.Request × Http.Reply))

/-- A recorded exchange is the exchange, and its request stands in the log. -/
theorem perform_exchange_recorded (operation table : String) (r : Http.Request)
    (use : Http.Response → Except AccessError α) :
    perform (g.exchange (Http.recorded send) operation table r use) (s, log) =
      ((perform (g.exchange send operation table r use) s).1,
        (perform (g.exchange send operation table r use) s).2, log ++ sentFor send s r) := by
  rw [perform_exchange, perform_exchange, sentFor]
  split
  · rfl
  · rw [List.append_nil]

theorem openScanner_recorded (table : String) (spec : ScanSpec) :
    perform ((g.backend (Http.recorded send)).openScanner table spec) (s, log) =
      ((perform ((g.backend send).openScanner table spec) s).1,
        (perform ((g.backend send).openScanner table spec) s).2,
        log ++ sentFor send s (g.openScannerRequest table spec)) :=
  g.perform_exchange_recorded send s log ..

theorem fetch_recorded (table scanner : String) :
    perform ((g.backend (Http.recorded send)).fetch table scanner) (s, log) =
      ((perform ((g.backend send).fetch table scanner) s).1,
        (perform ((g.backend send).fetch table scanner) s).2,
        log ++ sentFor send s (g.fetchRequest table scanner)) := by
  rw [perform_fetch, perform_fetch, perform_exchange_recorded]

theorem deleteScanner_recorded (table scanner : String) :
    perform ((g.backend (Http.recorded send)).deleteScanner table scanner) (s, log) =
      ((perform ((g.backend send).deleteScanner table scanner) s).1,
        (perform ((g.backend send).deleteScanner table scanner) s).2,
        log ++ sentFor send s (g.deleteScannerRequest table scanner)) := by
  rw [perform_deleteScanner, perform_deleteScanner, perform_exchange_recorded]

/-- A gateway scans behind a recorded transport as it does behind the transport. -/
theorem recorded_transport_scansAs :
    (g.backend (Http.recorded send)).ScansAs (g.backend send) Prod.fst where
  openScanner table spec t := by
    rw [g.openScanner_recorded send t.1 t.2 table spec]
    rfl
  fetch table scanner t := by
    rw [g.fetch_recorded send t.1 t.2 table scanner]
    rfl
  deleteScanner table scanner t := by
    rw [g.deleteScanner_recorded send t.1 t.2 table scanner]
    rfl

end Gateway

end StreamStore
