import StreamStore.Proofs.ScannerEffects

/-!
# What a client asks of a backend

An operation of a client first checks its arguments and then makes a few calls of a
backend.  `Operation.check` is the first half, and everything that is refused without
the backend is refused there (`perform_action_of_refused`).  The second half is
described by the calls alone, over any backend: `Asks` says that an action makes
certain calls, that the state it leaves is the one that these calls leave, that they
are all addressed to one table, and that a failure is the failure of one of them.

The calls are observed, not predicted.  `Backend.traced` is the same backend with a log
of everything that it is asked for, and `ClientCall.calls` reads that log.
-/

namespace StreamStore

variable {σ α β : Type}

/-! ### Traced backends -/

/-- An operation that is entered in a log, whatever it answers. -/
def tracing (x : Access (StateM σ) α) (call : Call) : Access (StateM (σ × List Call)) α :=
  ExceptT.mk fun (s, log) => ((perform x s).1, (perform x s).2, log ++ [call])

/-- A backend that keeps a log of all calls. -/
def Backend.traced (b : Backend (StateM σ)) : Backend (StateM (σ × List Call)) where
  endpoint := b.endpoint
  createTable schema := tracing (b.createTable schema) (.createTable schema)
  getRow table rowKey columns :=
    tracing (b.getRow table rowKey columns) (.getRow table rowKey columns)
  putCells table cells := tracing (b.putCells table cells) (.putCells table cells)
  openScanner table spec := tracing (b.openScanner table spec) (.openScanner table spec)
  fetch table scanner := tracing (b.fetch table scanner) (.fetch table scanner)
  deleteScanner table scanner :=
    tracing (b.deleteScanner table scanner) (.deleteScanner table scanner)

/-- The fault of an outcome, if it is one. -/
def fault? {ε : Type} : Except ε α → Option ε
  | .ok _ => none
  | .error e => some e

/-- How a call ends: with which fault, if any, and in which state. -/
def Backend.answer (b : Backend (StateM σ)) (s : σ) : Call → Option AccessError × σ
  | .createTable schema => Prod.map fault? id (perform (b.createTable schema) s)
  | .getRow table rowKey columns => Prod.map fault? id (perform (b.getRow table rowKey columns) s)
  | .putCells table cells => Prod.map fault? id (perform (b.putCells table cells) s)
  | .openScanner table spec => Prod.map fault? id (perform (b.openScanner table spec) s)
  | .fetch table scanner => Prod.map fault? id (perform (b.fetch table scanner) s)
  | .deleteScanner table scanner => Prod.map fault? id (perform (b.deleteScanner table scanner) s)

/-- The state that calls leave, one after the other. -/
def Backend.after (b : Backend (StateM σ)) (s : σ) (calls : List Call) : σ :=
  calls.foldl (fun s call => (b.answer s call).2) s

namespace Call

/-- The table that a call is addressed to. -/
def table : Call → String
  | createTable schema => schema.name
  | getRow table _ _ => table
  | putCells table _ => table
  | openScanner table _ => table
  | fetch table _ => table
  | deleteScanner table _ => table

/-- A store is left as calls of its backend leave it. -/
theorem after_store (s : Store) (calls : List Call) :
    Store.backend.after s calls = afterAll s calls := by
  have hstep : (fun s call => (Store.backend.answer s call).2) = after := by
    funext s call
    cases call <;> rfl
  rw [Backend.after, hstep, afterAll]

end Call

/-! ### Checks in front of an action -/

section Checks

variable {ε : Type} {wrap : ε → AccessError} {check : Except ε α} {s : σ}

theorem eq_error_of_map {f : α → β} {fault : ε} (h : check.map f = .error fault) :
    check = .error fault := by
  cases check with
  | ok a => cases h
  | error e => exact congrArg Except.error (Except.error.inj h)

theorem exists_eq_ok_of_map {f : α → β} {a : β} (h : check.map f = .ok a) : ∃ a, check = .ok a := by
  cases check with
  | ok a => exact ⟨a, rfl⟩
  | error e => cases h

/-- A check that fails ends an action. -/
theorem perform_refused {f : α → Access (StateM σ) β} {fault : ε} (h : check = .error fault) :
    perform (liftFault wrap check >>= f) s = (.error (wrap fault), s) := by
  rw [h]
  exact perform_bind_error rfl

/-- A check that succeeds hands on its value. -/
theorem perform_checked {f : α → Access (StateM σ) β} {a : α} (h : check = .ok a) :
    perform (liftFault wrap check >>= f) s = perform (f a) s := by
  rw [h]
  exact perform_bind_ok rfl

end Checks

/-! ### What an action asks for -/

/-- Whether an action `x` makes certain calls of a backend, all of them addressed to one
table; `y` is the action on a log. -/
structure Asks (b : Backend (StateM σ)) (table : String) (x : Access (StateM σ) α)
    (y : Access (StateM (σ × List Call)) α) (s : σ) (calls : List Call) : Prop where
  /-- The calls stand in the log, and the log changes nothing. -/
  traced : ∀ log, perform y (s, log) = ((perform x s).1, (perform x s).2, log ++ calls)
  /-- The state is the one that the calls leave. -/
  state : (perform x s).2 = b.after s calls
  /-- The calls are addressed to the table. -/
  addressed : ∀ call ∈ calls, call.table = table
  /-- A failure is that of a call; it may name a scanner. -/
  failed : ∀ e, (perform x s).1 = .error e → ∃ call ∈ calls, ∃ s' cause,
    (b.answer s' call).1 = some cause ∧ (e = cause ∨ ∃ id, e = cause.withScanner id)

namespace Asks

variable {b : Backend (StateM σ)} {table : String} {x : Access (StateM σ) α}
  {y : Access (StateM (σ × List Call)) α} {s : σ} {calls : List Call}

theorem pure (a : α) : Asks b table (pure a) (pure a) s [] where
  traced log := by
    rw [List.append_nil]
    rfl
  state := rfl
  addressed _ h := nomatch h
  failed _ h := nomatch h

/-- A single call. -/
theorem single {call : Call} (htable : call.table = table) (hy : y = tracing x call)
    (hanswer : b.answer s call = Prod.map fault? id (perform x s)) :
    Asks b table x y s [call] where
  traced log := by
    rw [hy]
    rfl
  state := (congrArg Prod.snd hanswer).symm
  addressed d hd := by
    rw [List.mem_singleton.1 hd, htable]
  failed e he := by
    refine ⟨call, List.mem_singleton_self call, s, e, ?_, .inl rfl⟩
    rw [hanswer]
    show fault? (perform x s).1 = some e
    rw [he]
    rfl

/-- What follows an action makes its calls after those of the action. -/
theorem bind {f : α → Access (StateM σ) β} {g : α → Access (StateM (σ × List Call)) β}
    (hx : Asks b table x y s calls)
    (hf : ∀ a s', perform x s = (.ok a, s') → ∃ calls', Asks b table (f a) (g a) s' calls') :
    ∃ calls', Asks b table (x >>= f) (y >>= g) s calls' := by
  rcases hrun : perform x s with ⟨e | a, s'⟩
  · refine ⟨calls, ⟨fun log => ?_, ?_, hx.addressed, ?_⟩⟩
    · have hlog := hx.traced log
      rw [hrun] at hlog
      rw [perform_bind_error hrun, perform_bind_error hlog]
    · rw [perform_bind_error hrun, ← hx.state, hrun]
    · intro fault hfault
      rw [perform_bind_error hrun] at hfault
      obtain rfl : e = fault := Except.error.inj hfault
      exact hx.failed e (congrArg Prod.fst hrun)
  · obtain ⟨calls', hcalls⟩ := hf a s' hrun
    refine ⟨calls ++ calls', ⟨fun log => ?_, ?_, ?_, ?_⟩⟩
    · have hlog := hx.traced log
      rw [hrun] at hlog
      rw [perform_bind_ok hrun, perform_bind_ok hlog, hcalls.traced, List.append_assoc]
    · have hstate := hx.state
      rw [hrun] at hstate
      rw [perform_bind_ok hrun, hcalls.state, show s' = b.after s calls from hstate,
        Backend.after, Backend.after, Backend.after, List.foldl_append]
    · intro call hcall
      rcases List.mem_append.1 hcall with hcall | hcall
      · exact hx.addressed call hcall
      · exact hcalls.addressed call hcall
    · intro fault hfault
      rw [perform_bind_ok hrun] at hfault
      obtain ⟨call, hcall, hcause⟩ := hcalls.failed fault hfault
      exact ⟨call, List.mem_append_right _ hcall, hcause⟩

/-- What is made of the value of an action asks for nothing more. -/
theorem map (hx : Asks b table x y s calls) (f : α → β) :
    ∃ calls', Asks b table (x >>= fun a => Pure.pure (f a)) (y >>= fun a => Pure.pure (f a)) s
      calls' :=
  hx.bind fun a _ _ => ⟨[], .pure (f a)⟩

/-- An action asks for what an action with the same outcomes asks for. -/
theorem congr {x' : Access (StateM σ) α} {y' : Access (StateM (σ × List Call)) α}
    (hx : Asks b table x y s calls) (hplain : perform x' s = perform x s)
    (htraced : ∀ log, perform y' (s, log) = perform y (s, log)) :
    Asks b table x' y' s calls where
  traced log := by rw [htraced, hx.traced, hplain]
  state := by rw [hplain, hx.state]
  addressed := hx.addressed
  failed e he := hx.failed e (hplain ▸ he)

end Asks

/-! ### Scans -/

section Scans

variable (b : Backend (StateM σ)) (s : σ)

/-- A release deletes. -/
theorem asks_release (l : Lease) :
    Asks b l.table (l.release b) (l.release b.traced) s [.deleteScanner l.table l.scanner] where
  traced log := by
    rw [perform_release, perform_release]
    rfl
  state := by
    rw [perform_release]
    rfl
  addressed call hcall := by
    rw [List.mem_singleton.1 hcall]
    rfl
  failed e he := by
    rw [perform_release] at he
    refine ⟨_, List.mem_singleton_self _, s, ?_⟩
    cases hdelete : (perform (b.deleteScanner l.table l.scanner) s).1 with
    | ok _ =>
        rw [hdelete] at he
        cases he
    | error cause =>
        rw [hdelete] at he
        cases he
        exact ⟨cause, congrArg fault? hdelete, .inr ⟨l.scanner, rfl⟩⟩

/-- Without cells a page deletes what it fetched from. -/
theorem perform_pageOf_over {answer : Except AccessError (Option (List Cell))} {l : Lease} {s' : σ}
    (hfetch : perform (b.fetch l.table l.scanner) s = (answer, s'))
    (hnone : ∀ c cs, answer ≠ .ok (some (c :: cs))) :
    perform (b.pageOf l) s =
      ((answer.map fun _ => Page.exhausted).mapError (AccessError.withScanner l.scanner),
        (perform (b.deleteScanner l.table l.scanner) s').2) := by
  rw [perform_pageOf, hfetch]
  rcases answer with e | _ | _ | ⟨c, cs⟩
  · rfl
  · rfl
  · rfl
  · exact absurd rfl (hnone c cs)

/-- A page fetches, and it deletes unless there are cells. -/
theorem asks_pageOf (l : Lease) :
    ∃ calls, Asks b l.table (b.pageOf l) (b.traced.pageOf l) s calls := by
  rcases hanswer : perform (b.fetch l.table l.scanner) s with ⟨answer, s'⟩
  have hlog : ∀ log, perform (b.traced.fetch l.table l.scanner) (s, log) =
      (answer, s', log ++ [.fetch l.table l.scanner]) := by
    intro log
    show ((perform (b.fetch l.table l.scanner) s).1, (perform (b.fetch l.table l.scanner) s).2, _) = _
    rw [hanswer]
  by_cases hcells : ∃ c cs, answer = .ok (some (c :: cs))
  · obtain ⟨c, cs, rfl⟩ := hcells
    have hpage : perform (b.pageOf l) s = (.ok ⟨c :: cs, l.toCursor, .active⟩, s') := by
      rw [perform_pageOf, hanswer]
    refine ⟨[.fetch l.table l.scanner], ⟨fun log => ?_, ?_, ?_, ?_⟩⟩
    · rw [perform_pageOf, hlog, hpage]
    · rw [hpage]
      exact congrArg Prod.snd hanswer.symm
    · intro call hcall
      rw [List.mem_singleton.1 hcall]
      rfl
    · intro e he
      rw [hpage] at he
      cases he
  · have hnone : ∀ c cs, answer ≠ .ok (some (c :: cs)) := fun c cs h => hcells ⟨c, cs, h⟩
    have hpage := perform_pageOf_over b s hanswer hnone
    refine ⟨[.fetch l.table l.scanner, .deleteScanner l.table l.scanner],
      ⟨fun log => ?_, ?_, ?_, ?_⟩⟩
    · rw [perform_pageOf_over b.traced (s, log) (hlog log) hnone, hpage]
      show (_, _, (log ++ _) ++ _) = (_, _, log ++ _)
      rw [List.append_assoc]
      rfl
    · rw [hpage]
      show _ = (perform (b.deleteScanner l.table l.scanner)
        (perform (b.fetch l.table l.scanner) s).2).2
      rw [hanswer]
    · intro call hcall
      rcases List.mem_cons.1 hcall with rfl | hcall
      · rfl
      · rw [List.mem_singleton.1 hcall]
        rfl
    · intro e he
      rw [hpage] at he
      cases answer with
      | ok cells? => cases he
      | error cause =>
          cases he
          refine ⟨_, List.mem_cons_self, s, cause, ?_, .inr ⟨l.scanner, rfl⟩⟩
          show fault? (perform (b.fetch l.table l.scanner) s).1 = some cause
          rw [hanswer]
          rfl

theorem asks_nextPage (table : String) (cursor : Cursor) (spec : ScanSpec) :
    ∃ calls, Asks b table (b.nextPage table cursor spec) (b.traced.nextPage table cursor spec) s
      calls := by
  rcases cursor.eq_fresh_or_resume with rfl | ⟨id, rfl⟩
  · have hopen : Asks b table (b.openScanner table spec) (b.traced.openScanner table spec) s
        [.openScanner table spec] := .single rfl rfl rfl
    -- the lease that is opened is one of the table, and its page is what follows
    obtain ⟨calls, hcalls⟩ := hopen.bind (f := fun id => b.pageOf ⟨table, id⟩)
      (g := fun id => b.traced.pageOf ⟨table, id⟩) fun id s' _ => asks_pageOf b s' ⟨table, id⟩
    exact ⟨calls, hcalls.congr (perform_nextPage_begun ..) fun log => perform_nextPage_begun ..⟩
  · obtain ⟨calls, hcalls⟩ := asks_pageOf b s ⟨table, id⟩
    exact ⟨calls, hcalls.congr (perform_nextPage_resume ..) fun log => perform_nextPage_resume ..⟩

theorem asks_abandon (table : String) (cursor : Cursor) :
    ∃ calls, Asks b table (b.abandon table cursor) (b.traced.abandon table cursor) s calls := by
  rcases cursor.eq_fresh_or_resume with rfl | ⟨id, rfl⟩
  · exact ⟨[], .pure ()⟩
  · exact ⟨_, asks_release b s ⟨table, id⟩⟩

end Scans

/-! ### Operations -/

namespace Operation

/-- The base name and the record type that an operation is addressed to. -/
def target : Operation → String × RecordType
  | createTable table t => (table, t)
  | putValue table r => (table, r.type)
  | putCells table t _ => (table, t)
  | getRow table t _ _ => (table, t)
  | loadRange r => (r.table, r.type)
  | abandonScan table t _ => (table, t)

/-- The full name of the table that an operation is addressed to. -/
def tableName (op : Operation) : String :=
  op.target.2.tableName op.target.1

/-- What is checked before the backend is asked for anything. -/
def check : Operation → Except RequestFault Unit
  | createTable table _ => require "table" table
  | putValue _ r => r.validate
  | putCells _ _ writes => writes.forM CellWrite.validate
  | getRow _ t _ columns => (Projection.resolve columns "" t.family).map fun _ => ()
  | loadRange r => r.plan.map fun _ => ()
  | abandonScan _ _ _ => .ok ()

end Operation

namespace ClientCall

/-- The client that runs an operation, over a backend. -/
def client (call : ClientCall) (b : Backend (StateM σ)) : Client (StateM σ) :=
  ⟨b, call.splitIdentity, pure call.now⟩

/-- The operation on a backend. -/
def action (call : ClientCall) (b : Backend (StateM σ)) : Access (StateM σ) (Option ResultSet) :=
  call.operation.run (call.client b)

/-- The calls of a backend that the operation makes. -/
def calls (call : ClientCall) (b : Backend (StateM σ)) (s : σ) : List Call :=
  (perform (call.action b.traced) (s, [])).2.2

variable (call : ClientCall) (b : Backend (StateM σ)) (s : σ)

/-- **What is refused is refused before anything is asked for.** -/
theorem perform_action_of_refused {fault : RequestFault} (h : call.operation.check = .error fault) :
    perform (call.action b) s = (.error (.request fault), s) := by
  obtain ⟨split, now, operation⟩ := call
  cases operation with
  | createTable table t => exact perform_bind_error (perform_refused h)
  | putValue table r => exact perform_bind_error (perform_refused h)
  | putCells table t writes => exact perform_bind_error (perform_refused h)
  | getRow table t rowKey columns => exact perform_bind_error (perform_refused (eq_error_of_map h))
  | loadRange r => exact perform_bind_error (perform_refused (eq_error_of_map h))
  | abandonScan table t cursor => cases h

/-- An operation whose arguments pass asks for calls on its own table. -/
theorem exists_asks_of_accepted (h : call.operation.check = .ok ()) :
    ∃ calls, Asks b call.operation.tableName (call.action b) (call.action b.traced) s calls := by
  obtain ⟨split, now, operation⟩ := call
  let c : Client (StateM σ) := ⟨b, split, pure now⟩
  let traced : Client (StateM (σ × List Call)) := ⟨b.traced, split, pure now⟩
  cases operation with
  | createTable table t =>
      have hcall : Asks b (t.tableName table) (b.createTable (.ofType table t))
          (b.traced.createTable (.ofType table t)) s [.createTable (.ofType table t)] :=
        .single rfl rfl rfl
      have hcreate : Asks b (t.tableName table) (c.createTable table t)
          (traced.createTable table t) s _ :=
        hcall.congr (perform_checked h) fun _ => perform_checked h
      exact hcreate.map fun _ => none
  | putValue table r =>
      have hcall : Asks b (r.type.tableName table)
          (b.putCells (r.type.tableName table) (r.cells now))
          (b.traced.putCells (r.type.tableName table) (r.cells now)) s
          [.putCells (r.type.tableName table) (r.cells now)] := .single rfl rfl rfl
      have hput : Asks b (r.type.tableName table) (c.putValue table r) (traced.putValue table r) s _ :=
        hcall.congr ((perform_checked h).trans (perform_bind_ok rfl))
          fun _ => (perform_checked h).trans (perform_bind_ok rfl)
      exact hput.map fun _ => none
  | putCells table t writes =>
      have hcall : Asks b (t.tableName table)
          (b.putCells (t.tableName table) (writes.map fun w => w.cell t now))
          (b.traced.putCells (t.tableName table) (writes.map fun w => w.cell t now)) s
          [.putCells (t.tableName table) (writes.map fun w => w.cell t now)] := .single rfl rfl rfl
      have hput : Asks b (t.tableName table) (c.putCells table t writes)
          (traced.putCells table t writes) s _ :=
        hcall.congr ((perform_checked h).trans (perform_bind_ok rfl))
          fun _ => (perform_checked h).trans (perform_bind_ok rfl)
      exact hput.map fun _ => none
  | getRow table t rowKey columns =>
      obtain ⟨p, hp⟩ := exists_eq_ok_of_map h
      let key := (rowKey.filter fun k => !k.isEmpty).getD allRows
      have hcall : Asks b (t.tableName table) (b.getRow (t.tableName table) key p.qualifiers)
          (b.traced.getRow (t.tableName table) key p.qualifiers) s
          [.getRow (t.tableName table) key p.qualifiers] := .single rfl rfl rfl
      obtain ⟨calls, hcells⟩ := hcall.map fun cells => ResultSet.ofCells cells p true .fresh
      have hread : Asks b (t.tableName table) (c.getRow table t rowKey columns)
          (traced.getRow table t rowKey columns) s calls :=
        hcells.congr (perform_checked hp) fun _ => perform_checked hp
      exact hread.map some
  | loadRange r =>
      obtain ⟨⟨p, spec⟩, hplan⟩ := exists_eq_ok_of_map h
      obtain ⟨calls, hcalls⟩ := asks_nextPage b s r.tableName r.cursor spec
      obtain ⟨calls', hpage⟩ := hcalls.map (Client.resultOf p split)
      have hload : Asks b r.tableName (c.loadRange r) (traced.loadRange r) s calls' :=
        hpage.congr ((Client.perform_loadRange hplan).trans (perform_bind_pure ..).symm)
          fun _ => (Client.perform_loadRange hplan).trans (perform_bind_pure ..).symm
      exact hload.map some
  | abandonScan table t cursor =>
      obtain ⟨calls, hcalls⟩ := asks_abandon b s (t.tableName table) cursor
      exact hcalls.map fun _ => none

/-- **What an operation asks for.** -/
theorem asks_of_accepted (h : call.operation.check = .ok ()) :
    Asks b call.operation.tableName (call.action b) (call.action b.traced) s (call.calls b s) := by
  obtain ⟨calls, hcalls⟩ := call.exists_asks_of_accepted b s h
  have heq : call.calls b s = calls := by
    rw [ClientCall.calls, hcalls.traced, List.nil_append]
  rw [heq]
  exact hcalls

theorem calls_of_refused {fault : RequestFault} (h : call.operation.check = .error fault) :
    call.calls b s = [] := by
  rw [ClientCall.calls, call.perform_action_of_refused b.traced (s, []) h]

/-- An operation is refused, or it asks for calls on its own table. -/
theorem refused_or_asks :
    (∃ fault, call.operation.check = .error fault ∧ call.calls b s = [] ∧
      perform (call.action b) s = (.error (.request fault), s)) ∨
    Asks b call.operation.tableName (call.action b) (call.action b.traced) s (call.calls b s) := by
  cases h : call.operation.check with
  | error fault =>
      exact .inl ⟨fault, rfl, call.calls_of_refused b s h, call.perform_action_of_refused b s h⟩
  | ok u => exact .inr (call.asks_of_accepted b s h)

end ClientCall

end StreamStore
