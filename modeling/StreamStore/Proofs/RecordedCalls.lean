import StreamStore.Proofs.PageStep

/-!
# What a scan asks of a backend

A scan talks to its backend in three operations: it opens a scanner, fetches from
it, and deletes it.  `Backend.recorded` is the same backend with a log of these
operations and of what they were answered; it answers the same, and what it keeps
besides the log is the same (`recorded_nextPage`, `recorded_abandon`).

Nothing is assumed about the answers.  `Executed` therefore lists every way in
which a call for a page can go, over any backend: the operations it asks for, and
the outcome, which the answer to the fetch alone decides.  The answer to a deletion
stands in the log, but no outcome mentions it.
-/

namespace StreamStore

/-- An operation on a scanner, and what it was answered. -/
inductive Exchange where
  | opened (table : String) (spec : ScanSpec) (answer : Except AccessError String)
  | fetched (l : Lease) (answer : Except AccessError (Option (List Cell)))
  | deleted (l : Lease) (answer : Except AccessError Unit)

namespace Exchange

/-- The scanner that came into being, with the table it was opened on. -/
def created? : Exchange → Option Lease
  | opened table _ (.ok id) => some ⟨table, id⟩
  | _ => none

/-- The id that an operation names. -/
def named? : Exchange → Option String
  | opened _ _ _ => none
  | fetched l _ => some l.scanner
  | deleted l _ => some l.scanner

/-- The id whose deletion is requested, on whatever table. -/
def deleted? : Exchange → Option String
  | deleted l _ => some l.scanner
  | _ => none

theorem named?_of_deleted? {x : Exchange} {id : String} (h : x.deleted? = some id) :
    x.named? = some id := by
  cases x with
  | opened table spec answer => cases h
  | fetched l answer => cases h
  | deleted l answer => exact h

end Exchange

/-! ### The recorded backend -/

section Recorded

variable {σ α : Type}

/-- An operation that leaves an entry in a log. -/
def recording (x : Access (StateM σ) α) (entry : Except AccessError α → List Exchange) :
    Access (StateM (σ × List Exchange)) α :=
  ExceptT.mk fun (s, log) =>
    let r := perform x s
    (r.1, r.2, log ++ entry r.1)

/-- A backend that keeps a log of the operations on scanners. -/
def Backend.recorded (b : Backend (StateM σ)) : Backend (StateM (σ × List Exchange)) where
  endpoint := b.endpoint
  createTable schema := recording (b.createTable schema) fun _ => []
  getRow table rowKey columns := recording (b.getRow table rowKey columns) fun _ => []
  putCells table cells := recording (b.putCells table cells) fun _ => []
  openScanner table spec :=
    recording (b.openScanner table spec) fun answer => [.opened table spec answer]
  fetch table id := recording (b.fetch table id) fun answer => [.fetched ⟨table, id⟩ answer]
  deleteScanner table id :=
    recording (b.deleteScanner table id) fun answer => [.deleted ⟨table, id⟩ answer]

variable (b : Backend (StateM σ)) (s : σ) (log : List Exchange)

theorem recorded_openScanner (table : String) (spec : ScanSpec) :
    perform (b.recorded.openScanner table spec) (s, log) =
      ((perform (b.openScanner table spec) s).1, (perform (b.openScanner table spec) s).2,
        log ++ [.opened table spec (perform (b.openScanner table spec) s).1]) := rfl

theorem recorded_fetch (l : Lease) :
    perform (b.recorded.fetch l.table l.scanner) (s, log) =
      ((perform (b.fetch l.table l.scanner) s).1, (perform (b.fetch l.table l.scanner) s).2,
        log ++ [.fetched l (perform (b.fetch l.table l.scanner) s).1]) := rfl

theorem recorded_deleteScanner (l : Lease) :
    perform (b.recorded.deleteScanner l.table l.scanner) (s, log) =
      ((perform (b.deleteScanner l.table l.scanner) s).1,
        (perform (b.deleteScanner l.table l.scanner) s).2,
        log ++ [.deleted l (perform (b.deleteScanner l.table l.scanner) s).1]) := rfl

end Recorded

/-! ### Backends that scan alike -/

section Alike

variable {σ τ υ : Type}

/-- Whether scans run on `b'` as they run on `b`, where `seen t` is what `b` knows of a
state `t` of `b'`. -/
structure Backend.ScansAs (b' : Backend (StateM τ)) (b : Backend (StateM σ)) (seen : τ → σ) :
    Prop where
  openScanner : ∀ table spec t, perform (b.openScanner table spec) (seen t) =
    Prod.map id seen (perform (b'.openScanner table spec) t)
  fetch : ∀ table scanner t, perform (b.fetch table scanner) (seen t) =
    Prod.map id seen (perform (b'.fetch table scanner) t)
  deleteScanner : ∀ table scanner t, perform (b.deleteScanner table scanner) (seen t) =
    Prod.map id seen (perform (b'.deleteScanner table scanner) t)

/-- A recorded backend scans as the backend does. -/
theorem recorded_scansAs (b : Backend (StateM σ)) : b.recorded.ScansAs b Prod.fst where
  openScanner _ _ _ := rfl
  fetch _ _ _ := rfl
  deleteScanner _ _ _ := rfl

namespace Backend.ScansAs

theorem trans {b'' : Backend (StateM υ)} {b' : Backend (StateM τ)} {b : Backend (StateM σ)}
    {f : υ → τ} {g : τ → σ} (h' : b''.ScansAs b' f) (h : b'.ScansAs b g) :
    b''.ScansAs b fun t => g (f t) where
  openScanner table spec t := by rw [h.openScanner, h'.openScanner]; rfl
  fetch table scanner t := by rw [h.fetch, h'.fetch]; rfl
  deleteScanner table scanner t := by rw [h.deleteScanner, h'.deleteScanner]; rfl

variable {b' : Backend (StateM τ)} {b : Backend (StateM σ)} {seen : τ → σ}

theorem lease (h : b'.ScansAs b seen) (table : String) (cursor : Cursor) (spec : ScanSpec)
    (t : τ) :
    perform (b.lease table cursor spec) (seen t) =
      Prod.map id seen (perform (b'.lease table cursor spec) t) := by
  rcases cursor.eq_fresh_or_resume with rfl | ⟨id, rfl⟩
  · show perform (b.openScanner table spec >>= fun id => pure (⟨table, id⟩ : Lease)) (seen t) =
      Prod.map _ seen (perform (b'.openScanner table spec >>= fun id => pure (⟨table, id⟩ : Lease)) t)
    rw [perform_bind_pure, perform_bind_pure, h.openScanner]
    rfl
  · rfl

theorem pageOf (h : b'.ScansAs b seen) (l : Lease) (t : τ) :
    perform (b.pageOf l) (seen t) = Prod.map id seen (perform (b'.pageOf l) t) := by
  have hdelete : ∀ t, (perform (b.deleteScanner l.table l.scanner) (seen t)).2 =
      seen (perform (b'.deleteScanner l.table l.scanner) t).2 := by
    intro t
    rw [h.deleteScanner]
    rfl
  rw [perform_pageOf, perform_pageOf, h.fetch]
  rcases perform (b'.fetch l.table l.scanner) t with ⟨e | _ | _ | ⟨c, cs⟩, t'⟩
  · exact congrArg (Prod.mk _) (hdelete t')
  · exact congrArg (Prod.mk _) (hdelete t')
  · exact congrArg (Prod.mk _) (hdelete t')
  · rfl

/-- Backends that scan alike answer the same pages. -/
theorem nextPage (h : b'.ScansAs b seen) (table : String) (cursor : Cursor) (spec : ScanSpec)
    (t : τ) :
    perform (b.nextPage table cursor spec) (seen t) =
      Prod.map id seen (perform (b'.nextPage table cursor spec) t) := by
  rw [Backend.nextPage, Backend.nextPage, perform_bind, perform_bind, h.lease]
  rcases perform (b'.lease table cursor spec) t with ⟨e | l, t'⟩
  · rfl
  · exact h.pageOf l t'

end Backend.ScansAs

end Alike

/-! ### The ways of a call -/

/-- The page of a leased scanner: its outcome, and what is asked of the backend. -/
inductive Paged (l : Lease) : Except AccessError Page → List Exchange → Prop where
  /-- There are cells, and the scanner is handed back. -/
  | active (c : Cell) (cs : List Cell) :
      Paged l (.ok ⟨c :: cs, l.toCursor, .active⟩) [.fetched l (.ok (some (c :: cs)))]
  /-- There are no more cells, and the scanner is deleted. -/
  | exhausted (cells? : Option (List Cell)) (h : cells?.getD [] = [])
      (deletion : Except AccessError Unit) :
      Paged l (.ok .exhausted) [.fetched l (.ok cells?), .deleted l deletion]
  /-- The fetch fails, and the scanner is deleted. -/
  | failed (e : AccessError) (deletion : Except AccessError Unit) :
      Paged l (.error (e.withScanner l.scanner)) [.fetched l (.error e), .deleted l deletion]

/-- A call for a page: its outcome, and what is asked of the backend. -/
inductive Executed (table : String) (spec : ScanSpec) :
    Cursor → Except AccessError Page → List Exchange → Prop where
  /-- No scanner can be opened. -/
  | refused (e : AccessError) :
      Executed table spec .fresh (.error e) [.opened table spec (.error e)]
  /-- A scanner is opened for the page. -/
  | begun (id : String) {outcome : Except AccessError Page} {log : List Exchange}
      (h : Paged ⟨table, id⟩ outcome log) :
      Executed table spec .fresh outcome (.opened table spec (.ok id) :: log)
  /-- The scanner of the cursor has the page. -/
  | resumed (id : String) {outcome : Except AccessError Page} {log : List Exchange}
      (h : Paged ⟨table, id⟩ outcome log) : Executed table spec (.resume id) outcome log

section Backends

variable {σ : Type} (b : Backend (StateM σ)) (s : σ) (log : List Exchange)

/-- What a page asks of a backend.  Recording it changes nothing. -/
theorem recorded_pageOf (l : Lease) :
    ∃ new, Paged l (perform (b.pageOf l) s).1 new ∧
      perform (b.recorded.pageOf l) (s, log) =
        ((perform (b.pageOf l) s).1, (perform (b.pageOf l) s).2, log ++ new) := by
  rw [perform_pageOf, perform_pageOf, recorded_fetch]
  -- a failure, no answer, an empty batch, and a batch with cells
  rcases perform (b.fetch l.table l.scanner) s with ⟨e | _ | _ | ⟨c, cs⟩, s'⟩
  · refine ⟨_, .failed e (perform (b.deleteScanner l.table l.scanner) s').1, ?_⟩
    dsimp only
    rw [recorded_deleteScanner, List.append_assoc]
    rfl
  · refine ⟨_, .exhausted none rfl (perform (b.deleteScanner l.table l.scanner) s').1, ?_⟩
    dsimp only
    rw [recorded_deleteScanner, List.append_assoc]
    rfl
  · refine ⟨_, .exhausted (some []) rfl (perform (b.deleteScanner l.table l.scanner) s').1, ?_⟩
    dsimp only
    rw [recorded_deleteScanner, List.append_assoc]
    rfl
  · exact ⟨_, .active c cs, rfl⟩

/-- **What a call for a page asks of a backend.**  Recording it changes nothing. -/
theorem recorded_nextPage (table : String) (cursor : Cursor) (spec : ScanSpec) :
    ∃ new, Executed table spec cursor (perform (b.nextPage table cursor spec) s).1 new ∧
      perform (b.recorded.nextPage table cursor spec) (s, log) =
        ((perform (b.nextPage table cursor spec) s).1,
          (perform (b.nextPage table cursor spec) s).2, log ++ new) := by
  rcases cursor.eq_fresh_or_resume with rfl | ⟨id, rfl⟩
  · have hopen := recorded_openScanner b s log table spec
    rcases hanswer : perform (b.openScanner table spec) s with ⟨e | id, s'⟩
    · rw [hanswer] at hopen
      rw [perform_nextPage_refused hanswer, perform_nextPage_refused hopen]
      exact ⟨_, .refused e, rfl⟩
    · rw [hanswer] at hopen
      obtain ⟨new, hpaged, hpage⟩ := recorded_pageOf b s'
        (log ++ [.opened table spec (.ok id)]) ⟨table, id⟩
      rw [perform_nextPage_fresh hanswer, perform_nextPage_fresh hopen, hpage, List.append_assoc]
      exact ⟨_, .begun id hpaged, rfl⟩
  · obtain ⟨new, hpaged, hpage⟩ := recorded_pageOf b s log ⟨table, id⟩
    rw [perform_nextPage_resume, perform_nextPage_resume, hpage]
    exact ⟨new, .resumed id hpaged, rfl⟩

/-- What abandoning a scan asks of a backend: one deletion, if there is a scanner. -/
theorem recorded_abandon (table : String) (cursor : Cursor) :
    ∃ answer, perform (b.recorded.abandon table cursor) (s, log) =
      ((perform (b.abandon table cursor) s).1, (perform (b.abandon table cursor) s).2,
        log ++ cursor.scanner?.toList.map fun id => .deleted ⟨table, id⟩ answer) := by
  rcases cursor.eq_fresh_or_resume with rfl | ⟨id, rfl⟩
  · refine ⟨.ok (), ?_⟩
    show _ = (_, _, log ++ [])
    rw [List.append_nil]
    rfl
  · refine ⟨(perform (b.deleteScanner table id) s).1, ?_⟩
    show perform (Lease.release ⟨table, id⟩ b.recorded) (s, log) =
      ((perform (Lease.release ⟨table, id⟩ b) s).1, (perform (Lease.release ⟨table, id⟩ b) s).2, _)
    rw [perform_release, perform_release]
    rfl

/-- How a backend answers deletions does not change what a call for a page answers. -/
theorem nextPage_withDeletions (d : String → String → Access (StateM σ) Unit) (table : String)
    (cursor : Cursor) (spec : ScanSpec) :
    (perform ({ b with deleteScanner := d }.nextPage table cursor spec) s).1 =
      (perform (b.nextPage table cursor spec) s).1 := by
  have hpage : ∀ l s, (perform ({ b with deleteScanner := d }.pageOf l) s).1 =
      (perform (b.pageOf l) s).1 := by
    intro l s
    rw [perform_pageOf, perform_pageOf]
    dsimp only
    rcases perform (b.fetch l.table l.scanner) s with ⟨e | _ | _ | ⟨c, cs⟩, s'⟩ <;> rfl
  have hlease : { b with deleteScanner := d }.lease table cursor spec =
      b.lease table cursor spec := by
    rcases cursor.eq_fresh_or_resume with rfl | ⟨id, rfl⟩ <;> rfl
  rw [Backend.nextPage, Backend.nextPage, hlease, perform_bind, perform_bind]
  rcases perform (b.lease table cursor spec) s with ⟨e | l, s'⟩
  · rfl
  · exact hpage l s'

end Backends

end StreamStore
