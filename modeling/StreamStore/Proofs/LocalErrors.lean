import StreamStore.Proofs.FailedFetch
import StreamStore.Proofs.TracedCalls

/-!
# Local errors are local

An error says of itself whether it was found before any operation of the backend
(`AccessError.isLocal`).  For a store in memory and for a gateway behind any transport
this is true in both directions: an operation that fails with a local error asked the
backend for nothing, and one that fails with any other error asked it for something.

Nothing about single operations is needed.  An operation is refused with an error about
the request, or it fails as one of its calls does (`ClientCall.refused_or_asks`), and
neither of the two backends has local errors of its own (`Backend.Remote`).
-/

namespace StreamStore

variable {σ α β : Type}

/-! ### Outcomes without local errors -/

/-- Whether an outcome is not a local error. -/
def NotLocal (r : Except AccessError α) : Prop :=
  ∀ e, r = .error e → e.isLocal = false

namespace NotLocal

theorem ok (a : α) : NotLocal (.ok a) :=
  fun _ h => nomatch h

theorem error {e : AccessError} (h : e.isLocal = false) : NotLocal (.error e : Except _ α) := by
  intro e' he
  cases he
  exact h

theorem bind {r : Except AccessError α} {f : α → Except AccessError β} (hr : NotLocal r)
    (hf : ∀ a, NotLocal (f a)) : NotLocal (r >>= f) := by
  cases r with
  | ok a => exact hf a
  | error e => exact .error (hr e rfl)

theorem map {r : Except AccessError α} (h : NotLocal r) (f : α → β) : NotLocal (r.map f) := by
  cases r with
  | ok a => exact .ok (f a)
  | error e => exact .error (h e rfl)

/-- Naming a scanner does not make an error local. -/
theorem naming {r : Except AccessError α} (h : NotLocal r) (id : String) :
    NotLocal (r.mapError (AccessError.withScanner id)) := by
  cases r with
  | ok a => exact .ok a
  | error e =>
      refine .error ?_
      rw [AccessError.isLocal_withScanner]
      exact h e rfl

theorem of_fault? {r : Except AccessError α} (h : NotLocal r) {e : AccessError}
    (he : fault? r = some e) : e.isLocal = false := by
  cases r with
  | ok a => cases he
  | error cause =>
      cases he
      exact h e rfl

end NotLocal

/-- Whether no call of a backend fails with a local error. -/
def Backend.Remote (b : Backend (StateM σ)) : Prop :=
  ∀ s call e, (b.answer s call).1 = some e → e.isLocal = false

/-! ### Stores -/

namespace Store

variable (s : Store) (table : String)

theorem notLocal_getRow (rowKey : String) (columns : List String) :
    NotLocal (s.getRow table rowKey columns) := by
  rw [getRow]
  split
  · exact .error rfl
  · split
    · exact .ok _
    · split <;> exact .ok _

theorem notLocal_putCells (cells : List Cell) : NotLocal (s.putCells table cells).1 := by
  rw [putCells]
  split
  · exact .error rfl
  · split
    · exact .error rfl
    · exact .ok _

theorem notLocal_openScanner (spec : ScanSpec) : NotLocal (s.openScanner table spec).1 := by
  cases ht : s.tables.get? table with
  | none =>
      rw [openScanner_of_none spec ht]
      exact .error rfl
  | some t =>
      rw [openScanner_of_some spec ht]
      exact .ok _

theorem notLocal_fetch (id : String) : NotLocal (s.fetch table id).1 := by
  cases hc : s.scanner? table id with
  | none =>
      rw [fetch_of_none hc]
      exact .error rfl
  | some c =>
      rw [fetch_of_some hc]
      split <;> exact .ok _

theorem notLocal_deleteScanner (id : String) : NotLocal (s.deleteScanner table id).1 := by
  cases hc : s.scanner? table id with
  | none =>
      rw [deleteScanner_of_none hc]
      exact .error rfl
  | some c =>
      rw [deleteScanner_of_some hc]
      exact .ok _

/-- A store has failures of the backend only. -/
theorem backend_remote : backend.Remote := by
  intro s call e he
  cases call with
  | createTable schema => cases he
  | getRow table rowKey columns => exact (s.notLocal_getRow table rowKey columns).of_fault? he
  | putCells table cells => exact (s.notLocal_putCells table cells).of_fault? he
  | openScanner table spec => exact (s.notLocal_openScanner table spec).of_fault? he
  | fetch table id => exact (s.notLocal_fetch table id).of_fault? he
  | deleteScanner table id => exact (s.notLocal_deleteScanner table id).of_fault? he

end Store

/-! ### Gateways -/

namespace Gateway

variable (g : Gateway) (operation table : String)

theorem notLocal_responseTo (r : Http.Request) (reply : Http.Reply) :
    NotLocal (g.responseTo operation table r reply) := by
  cases reply with
  | unreachable => exact .error rfl
  | dropped => exact .error rfl
  | response r => exact .ok r

theorem notLocal_expectSuccess (r : Http.Response) :
    NotLocal (expectSuccess operation table r) := by
  rw [expectSuccess]
  split
  · exact .ok ()
  · exact .error rfl

theorem notLocal_cellsOf (r : Http.Response) : NotLocal (cellsOf operation table r) := by
  intro e he
  rcases cellsOf_eq_error he with ⟨message, rfl⟩ | ⟨text, fault, -, -, -, rfl⟩
  · rfl
  · rfl

theorem notLocal_rowOf (r : Http.Response) : NotLocal (rowOf table r) := by
  rw [rowOf]
  split
  · exact .ok []
  · split
    · exact notLocal_cellsOf _ table r
    · exact .error rfl

theorem notLocal_scannerOf (r : Http.Response) : NotLocal (scannerOf table r) := by
  refine (notLocal_expectSuccess _ table r).bind fun _ => ?_
  split
  · exact .ok _
  · exact .error rfl

theorem notLocal_fetchedFrom (r : Http.Response) : NotLocal (fetchedFrom table r) := by
  rw [fetchedFrom]
  split
  · exact .ok none
  · split
    · exact (notLocal_cellsOf _ table r).map some
    · exact .error rfl

/-- An exchange fails on the way, or as what is made of the response does. -/
theorem notLocal_exchange (send : Http.Request → StateM σ Http.Reply) (s : σ) (r : Http.Request)
    {use : Http.Response → Except AccessError α} (huse : ∀ r, NotLocal (use r)) :
    NotLocal (perform (g.exchange send operation table r use) s).1 := by
  rw [perform_exchange]
  split
  · exact (g.notLocal_responseTo operation table r _).bind huse
  · exact .error rfl

/-- A gateway has failures of the connection, the backend and the payload only. -/
theorem backend_remote (send : Http.Request → StateM σ Http.Reply) : (g.backend send).Remote := by
  intro s call e he
  cases call with
  | createTable schema =>
      exact (g.notLocal_exchange _ _ send s _ (notLocal_expectSuccess _ _)).of_fault? he
  | getRow table rowKey columns =>
      exact (g.notLocal_exchange _ _ send s _ (notLocal_rowOf _)).of_fault? he
  | putCells table cells =>
      cases cells with
      | nil => cases he
      | cons first rest =>
          exact (g.notLocal_exchange _ _ send s _ (notLocal_expectSuccess _ _)).of_fault? he
  | openScanner table spec =>
      exact (g.notLocal_exchange _ _ send s _ (notLocal_scannerOf _)).of_fault? he
  | fetch table id =>
      refine NotLocal.of_fault? (r := (perform ((g.backend send).fetch table id) s).1) ?_ he
      rw [perform_fetch]
      exact (g.notLocal_exchange _ _ send s _ (notLocal_fetchedFrom _)).naming id
  | deleteScanner table id =>
      refine NotLocal.of_fault? (r := (perform ((g.backend send).deleteScanner table id) s).1) ?_ he
      rw [perform_deleteScanner]
      exact (g.notLocal_exchange _ _ send s _ (notLocal_expectSuccess _ _)).naming id

end Gateway

/-! ### Operations -/

namespace ClientCall

/-- Whether a failure of an operation is a local one exactly when the backend was asked for
nothing; nothing has changed then. -/
def SortsErrors (call : ClientCall) (b : Backend (StateM σ)) (s : σ) : Prop :=
  ∀ e, (perform (call.action b) s).1 = .error e →
    (e.isLocal = true ∧ call.calls b s = [] ∧ (perform (call.action b) s).2 = s) ∨
      (e.isLocal = false ∧ call.calls b s ≠ [])

theorem sortsErrors {b : Backend (StateM σ)} (hb : b.Remote) (call : ClientCall) (s : σ) :
    call.SortsErrors b s := by
  intro e he
  rcases call.refused_or_asks b s with ⟨fault, -, hcalls, hrefused⟩ | hasks
  · rw [hrefused] at he ⊢
    cases he
    exact .inl ⟨rfl, hcalls, rfl⟩
  · obtain ⟨asked, hasked, s', cause, hcause, hname⟩ := hasks.failed e he
    have hremote : cause.isLocal = false := hb s' asked cause hcause
    refine .inr ⟨?_, List.ne_nil_of_mem hasked⟩
    rcases hname with rfl | ⟨id, rfl⟩
    · exact hremote
    · rw [AccessError.isLocal_withScanner, hremote]

end ClientCall

/-- A list of checks fails when one of them does. -/
theorem exists_forM_eq_error {ε : Type} {check : α → Except ε Unit} {xs : List α} {x : α}
    (hx : x ∈ xs) {fault : ε} (h : check x = .error fault) :
    ∃ fault, xs.forM check = .error fault := by
  induction xs with
  | nil => exact absurd hx List.not_mem_nil
  | cons y ys ih =>
      show ∃ fault, (check y >>= fun _ => ys.forM check) = .error fault
      cases hy : check y with
      | error e => exact ⟨e, rfl⟩
      | ok u =>
          rcases List.mem_cons.1 hx with rfl | hx
          · rw [h] at hy
            cases hy
          · exact ih hx

/-- **Local errors are local.**  Over a store in any state, and over a gateway behind any
transport, an operation that fails with a local error asked the backend for nothing, and
all tables, rows, scanners and requests are as before; an operation that fails with
another error asked it for something.  In particular a bulk write with an invalid cell
anywhere in it writes nothing, and an invalid query leaves the scanner of its cursor
alone. -/
theorem local_errors_touch_nothing (call : ClientCall) :
    (∀ s : Store, call.SortsErrors Store.backend s) ∧
    (∀ (σ : Type) (g : Gateway) (send : Http.Request → StateM σ Http.Reply) (s : σ)
      (sent : List (Http.Request × Http.Reply)),
      call.SortsErrors (g.backend (Http.recorded send)) (s, sent)) ∧
    (∀ (σ : Type) (b : Backend (StateM σ)) (s : σ),
      (∀ table t writes w fault, call.operation = .putCells table t writes → w ∈ writes →
        w.validate = .error fault →
        call.calls b s = [] ∧ ∃ fault, perform (call.action b) s = (.error (.request fault), s)) ∧
      ∀ r fault, call.operation = .loadRange r → r.plan = .error fault →
        call.calls b s = [] ∧ perform (call.action b) s = (.error (.request fault), s)) := by
  refine ⟨fun s => call.sortsErrors Store.backend_remote s,
    fun σ g send s sent => call.sortsErrors (g.backend_remote _) (s, sent), fun σ b s => ⟨?_, ?_⟩⟩
  · intro table t writes w fault hop hw hfault
    obtain ⟨first, hfirst⟩ := exists_forM_eq_error hw hfault
    have hcheck : call.operation.check = .error first := by
      rw [hop]
      exact hfirst
    exact ⟨call.calls_of_refused b s hcheck, first, call.perform_action_of_refused b s hcheck⟩
  · intro r fault hop hplan
    have hcheck : call.operation.check = .error fault := by
      rw [hop]
      show r.plan.map _ = _
      rw [hplan]
      rfl
    exact ⟨call.calls_of_refused b s hcheck, call.perform_action_of_refused b s hcheck⟩

/-- A write of two cells of stream 7, the second of which is in a row. -/
def bulkWrite (row : String) : ClientCall :=
  ⟨true, 5, .putCells "plant" .data
    [{ rowKey := "000000000007:922337203684500:north", column := "temp", value := "21" },
      { rowKey := row, column := "temp", value := "22" }]⟩

/-- A bulk write into a blank row is refused and asks for nothing; one into a table that does
not exist asks the backend and fails there. -/
theorem bulk_write_refused_or_asked :
    ((bulkWrite " ").calls Store.backend .empty = [] ∧
      ∃ fault, perform ((bulkWrite " ").action Store.backend) .empty =
        (.error (.request fault), .empty)) ∧
    (bulkWrite "south").calls Store.backend .empty ≠ [] := by
  obtain ⟨-, -, hrefused⟩ := local_errors_touch_nothing (bulkWrite " ")
  obtain ⟨hstore, -, -⟩ := local_errors_touch_nothing (bulkWrite "south")
  refine ⟨(hrefused Store Store.backend .empty).1 _ _ _ _ _ rfl
    (List.mem_cons_of_mem _ List.mem_cons_self) rfl, ?_⟩
  rcases hstore .empty (Store.tableMissing "put_cells" "plant_stream_realtime") rfl with
    ⟨hlocal, -, -⟩ | ⟨-, hasked⟩
  · cases hlocal
  · exact hasked

end StreamStore
