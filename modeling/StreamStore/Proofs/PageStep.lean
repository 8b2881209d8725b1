import StreamStore.Proofs.StoreCalls

/-!
# One page at a time

What a call of `Backend.nextPage` does, first over any backend that works on a
state and then over a store in memory.  The three ways in which a lease ends are
the three cases of `perform_pageOf`; over a store the last one, a failure, is not
reached as long as the cursor's scanner is there.
-/

namespace StreamStore

/-! ### Over any backend -/

/-- A scan begins, or it goes on with a scanner. -/
theorem Cursor.eq_fresh_or_resume (cursor : Cursor) :
    cursor = .fresh ∨ ∃ id, cursor = .resume id := by
  rcases cursor with ⟨_ | id⟩
  · exact .inl rfl
  · exact .inr ⟨id, rfl⟩

section Backends

variable {σ : Type} {b : Backend (StateM σ)} {s : σ}

/-- A release deletes the scanner, and a failure names it. -/
theorem perform_release (l : Lease) (b : Backend (StateM σ)) (s : σ) :
    perform (l.release b) s =
      ((perform (b.deleteScanner l.table l.scanner) s).1.mapError
          (AccessError.withScanner l.scanner),
        (perform (b.deleteScanner l.table l.scanner) s).2) := by
  rw [Lease.release, perform_bind, perform_attempt]
  rcases perform (b.deleteScanner l.table l.scanner) s with ⟨e | _, s'⟩ <;> rfl

/-- A quiet release answers nothing, whether or not the deletion succeeded. -/
theorem perform_releaseQuietly (l : Lease) (b : Backend (StateM σ)) (s : σ) :
    perform (l.releaseQuietly b) s =
      (.ok (), (perform (b.deleteScanner l.table l.scanner) s).2) := by
  rw [Lease.releaseQuietly, perform_bind, perform_attempt, perform_release]
  rfl

/-- A page with cells hands the scanner back; without cells, or after a failure,
the scanner is deleted. -/
theorem perform_pageOf (b : Backend (StateM σ)) (l : Lease) (s : σ) :
    perform (b.pageOf l) s =
      match perform (b.fetch l.table l.scanner) s with
      | (.ok (some (c :: cs)), s') => (.ok ⟨c :: cs, l.toCursor, .active⟩, s')
      | (.ok _, s') => (.ok .exhausted, (perform (b.deleteScanner l.table l.scanner) s').2)
      | (.error e, s') =>
          (.error (e.withScanner l.scanner),
            (perform (b.deleteScanner l.table l.scanner) s').2) := by
  rw [Backend.pageOf, perform_bind, perform_attempt]
  dsimp only
  -- a failure, no answer, an empty batch, and a batch with cells
  rcases perform (b.fetch l.table l.scanner) s with ⟨e | _ | _ | ⟨c, cs⟩, s'⟩
  · dsimp only
    rw [perform_bind, perform_releaseQuietly]
    rfl
  · dsimp only
    rw [perform_bind, perform_releaseQuietly]
    rfl
  · dsimp only
    rw [perform_bind, perform_releaseQuietly]
    rfl
  · rfl

/-- A page fails when its fetch does, and then the scanner is deleted. -/
theorem pageOf_eq_error {b : Backend (StateM σ)} {l : Lease} {s s' : σ} {e : AccessError} :
    perform (b.pageOf l) s = (.error e, s') ↔
      ∃ cause s₁, perform (b.fetch l.table l.scanner) s = (.error cause, s₁) ∧
        e = cause.withScanner l.scanner ∧
        s' = (perform (b.deleteScanner l.table l.scanner) s₁).2 := by
  rw [perform_pageOf]
  constructor
  · intro h
    rcases hfetch : perform (b.fetch l.table l.scanner) s with ⟨cause | _ | _ | ⟨c, cs⟩, s₁⟩
    all_goals rw [hfetch] at h
    · cases h
      exact ⟨cause, s₁, rfl, rfl, rfl⟩
    all_goals cases h
  · rintro ⟨cause, s₁, hfetch, rfl, rfl⟩
    rw [hfetch]

/-- A cursor of an open scanner goes on with it. -/
theorem perform_nextPage_resume (table id : String) (spec : ScanSpec) :
    perform (b.nextPage table (.resume id) spec) s = perform (b.pageOf ⟨table, id⟩) s := by
  rw [Backend.nextPage, perform_bind]
  rfl

/-- An empty cursor opens a scanner first. -/
theorem perform_nextPage_fresh {s' : σ} {table id : String} {spec : ScanSpec}
    (h : perform (b.openScanner table spec) s = (.ok id, s')) :
    perform (b.nextPage table .fresh spec) s = perform (b.pageOf ⟨table, id⟩) s' := by
  have hlease : perform (b.lease table .fresh spec) s = (.ok ⟨table, id⟩, s') := by
    show perform (b.openScanner table spec >>= fun id =>
      (pure ⟨table, id⟩ : Access (StateM σ) Lease)) s = _
    rw [perform_bind_ok h, perform_pure]
  rw [Backend.nextPage, perform_bind_ok hlease]

/-- Without a scanner there is no page. -/
theorem perform_nextPage_refused {s' : σ} {table : String} {spec : ScanSpec} {e : AccessError}
    (h : perform (b.openScanner table spec) s = (.error e, s')) :
    perform (b.nextPage table .fresh spec) s = (.error e, s') := by
  have hlease : perform (b.lease table .fresh spec) s = (.error e, s') := perform_bind_error h
  exact perform_bind_error hlease

/-- A scan that begins is the page of a scanner that is opened for it. -/
theorem perform_nextPage_begun (table : String) (spec : ScanSpec) :
    perform (b.nextPage table .fresh spec) s =
      perform (b.openScanner table spec >>= fun id => b.pageOf ⟨table, id⟩) s := by
  rcases hopen : perform (b.openScanner table spec) s with ⟨e | id, s'⟩
  · rw [perform_nextPage_refused hopen, perform_bind_error hopen]
  · rw [perform_nextPage_fresh hopen, perform_bind_ok hopen]

/-- A page comes from a scanner, the cursor's or one that was opened for it. -/
theorem nextPage_eq_ok {s' : σ} {table : String} {cursor : Cursor} {spec : ScanSpec} {page : Page}
    (h : perform (b.nextPage table cursor spec) s = (.ok page, s')) :
    ∃ id opened, perform (b.pageOf ⟨table, id⟩) opened = (.ok page, s') := by
  rcases cursor.eq_fresh_or_resume with rfl | ⟨id, rfl⟩
  · rcases hopen : perform (b.openScanner table spec) s with ⟨e | id, opened⟩
    · rw [perform_nextPage_refused hopen] at h
      cases h
    · exact ⟨id, opened, perform_nextPage_fresh hopen ▸ h⟩
  · exact ⟨id, s, h⟩

end Backends

/-! ### Over a store -/

namespace Store

variable {s : Store} {table id : String}

/-- Whether the scanners of two stores differ at most in one id, whose scanner in the
second one is `c?`. -/
def Sets (s s' : Store) (id : String) (c? : Option Scanner) : Prop :=
  ∀ id', s'.scanners.get? id' = if id' = id then c? else s.scanners.get? id'

theorem Sets.scanner? {s s' : Store} {id : String} {c? : Option Scanner} (h : s.Sets s' id c?)
    (table id' : String) :
    s'.scanner? table id' =
      if id' = id then c?.filter fun c => c.table == table else s.scanner? table id' := by
  rw [Store.scanner?, h id']
  split <;> rfl

theorem sets_insert {s s' : Store} {c : Scanner}
    (h : s'.scanners = s.scanners.insert id c) : s.Sets s' id (some c) := by
  intro id'
  rw [h]
  split
  · next heq => rw [heq, SortedMap.get?_insert_self]
  · next hne => exact SortedMap.get?_insert_of_ne _ hne _

theorem sets_erase {s s' : Store} (h : s'.scanners = s.scanners.erase id) :
    s.Sets s' id none := by
  intro id'
  rw [h]
  split
  · next heq => rw [heq, SortedMap.get?_erase_self]
  · next hne => exact SortedMap.get?_erase_of_ne _ hne

/-- Of two changes of one scanner the second one counts. -/
theorem Sets.trans {s s' s'' : Store} {c? d? : Option Scanner} (h : s.Sets s' id c?)
    (h' : s'.Sets s'' id d?) : s.Sets s'' id d? := by
  intro id'
  rw [h' id']
  split
  · rfl
  · next hne => rw [h id', if_neg hne]

/-- A scanner with cells hands out the next batch of them and keeps the rest. -/
theorem pageOf_batch {c : Scanner} (h : s.scanner? table id = some c)
    (hbatch : c.pending.take c.batch ≠ []) :
    perform (backend.pageOf ⟨table, id⟩) s =
      (.ok ⟨c.pending.take c.batch, .resume id, .active⟩,
        { s with
          scanners := s.scanners.insert id { c with pending := c.pending.drop c.batch } }) := by
  obtain ⟨d, ds, hds⟩ := List.exists_cons_of_ne_nil hbatch
  have hpending : ¬c.pending.isEmpty = true := by
    intro hnil
    apply hbatch
    rw [List.isEmpty_iff.1 hnil, List.take_nil]
  have hfetch : perform (backend.fetch table id) s = (.ok (some (d :: ds)),
      { s with scanners := s.scanners.insert id { c with pending := c.pending.drop c.batch } }) := by
    show s.fetch table id = _
    rw [fetch_of_some h, if_neg hpending, hds]
  rw [perform_pageOf, hfetch, hds]
  rfl

/-- A scanner that hands out nothing ends its scan and is gone. -/
theorem pageOf_drained {c : Scanner} (h : s.scanner? table id = some c)
    (hbatch : c.pending.take c.batch = []) :
    ∃ s', perform (backend.pageOf ⟨table, id⟩) s = (.ok .exhausted, s') ∧
      s'.opened = s.opened ∧ s.Sets s' id none := by
  -- no cells are left, or the scanner cannot hand out any
  by_cases hpending : c.pending.isEmpty = true
  · have hfetch : perform (backend.fetch table id) s = (.ok none, s) := by
      show s.fetch table id = _
      rw [fetch_of_some h, if_pos hpending]
    have hdelete : perform (backend.deleteScanner table id) s =
        (.ok (), { s with scanners := s.scanners.erase id }) := deleteScanner_of_some h
    refine ⟨{ s with scanners := s.scanners.erase id }, ?_, rfl, sets_erase rfl⟩
    rw [perform_pageOf, hfetch]
    dsimp only
    rw [hdelete]
  · let s₁ : Store :=
      { s with scanners := s.scanners.insert id { c with pending := c.pending.drop c.batch } }
    have hfetch : perform (backend.fetch table id) s = (.ok (some []), s₁) := by
      show s.fetch table id = _
      rw [fetch_of_some h, if_neg hpending, hbatch]
    have hscanner : s₁.scanner? table id =
        some { c with pending := c.pending.drop c.batch } :=
      scanner?_eq_some_iff.2 ⟨SortedMap.get?_insert_self _ _ _, (scanner?_eq_some_iff.1 h).2⟩
    have hdelete : perform (backend.deleteScanner table id) s₁ =
        (.ok (), { s₁ with scanners := s₁.scanners.erase id }) := deleteScanner_of_some hscanner
    have hinsert : s.Sets s₁ id (some { c with pending := c.pending.drop c.batch }) :=
      sets_insert rfl
    refine ⟨{ s₁ with scanners := s₁.scanners.erase id }, ?_, rfl,
      hinsert.trans (sets_erase rfl)⟩
    rw [perform_pageOf, hfetch]
    dsimp only
    rw [hdelete]

/-- A scanner that is not there has no page, and the attempt changes nothing. -/
theorem pageOf_missing (h : s.scanner? table id = none) :
    perform (backend.pageOf ⟨table, id⟩) s =
      (.error (scannerMissing "scanner_get" table id), s) := by
  have hfetch : perform (backend.fetch table id) s =
      (.error (scannerMissing "scanner_get" table id), s) := fetch_of_none h
  have hdelete : perform (backend.deleteScanner table id) s =
      (.error (scannerMissing "scanner_delete" table id), s) := deleteScanner_of_none h
  rw [perform_pageOf, hfetch]
  dsimp only
  rw [hdelete]
  rfl

/-- A scanner that is there has a page. -/
theorem pageOf_of_scanner {c : Scanner} (h : s.scanner? table id = some c) :
    ∃ page, (perform (backend.pageOf ⟨table, id⟩) s).1 = .ok page := by
  by_cases hbatch : c.pending.take c.batch = []
  · obtain ⟨s', hpage, -⟩ := pageOf_drained h hbatch
    exact ⟨_, congrArg Prod.fst hpage⟩
  · exact ⟨_, congrArg Prod.fst (pageOf_batch h hbatch)⟩

/-- As long as a scan goes on, its cursor names a scanner that is there. -/
theorem nextPage_scanner {s' : Store} {cursor : Cursor} {spec : ScanSpec} {page : Page}
    (h : perform (backend.nextPage table cursor spec) s = (.ok page, s')) :
    page = .exhausted ∨ ∃ id c, page.cursor = .resume id ∧ s'.scanner? table id = some c := by
  obtain ⟨id, opened, h⟩ := nextPage_eq_ok h
  cases hscanner : opened.scanner? table id with
  | none =>
      rw [pageOf_missing hscanner] at h
      cases h
  | some c =>
      by_cases hbatch : c.pending.take c.batch = []
      · obtain ⟨_, hpage, -⟩ := pageOf_drained hscanner hbatch
        rw [hpage] at h
        cases h
        exact .inl rfl
      · rw [pageOf_batch hscanner hbatch] at h
        cases h
        exact .inr ⟨id, _, rfl, scanner?_eq_some_iff.2
          ⟨SortedMap.get?_insert_self _ _ _, (scanner?_eq_some_iff.1 hscanner).2⟩⟩

theorem pageOf_cells {batch : Nat} {pending : List Cell}
    (h : s.scanner? table id = some ⟨table, batch, pending⟩) (hbatch : 0 < batch)
    (hpending : pending ≠ []) :
    ∃ s', perform (backend.pageOf ⟨table, id⟩) s =
        (.ok ⟨pending.take batch, .resume id, .active⟩, s') ∧ s'.opened = s.opened ∧
      s'.scanner? table id = some ⟨table, batch, pending.drop batch⟩ := by
  have htake : pending.take batch ≠ [] := by
    intro hnil
    rcases List.take_eq_nil_iff.1 hnil with hzero | hnil
    · exact absurd hzero (Nat.ne_of_gt hbatch)
    · exact hpending hnil
  exact ⟨_, pageOf_batch h htake, rfl,
    scanner?_eq_some_iff.2 ⟨SortedMap.get?_insert_self _ _ _, rfl⟩⟩

theorem pageOf_exhausted {batch : Nat} (h : s.scanner? table id = some ⟨table, batch, []⟩) :
    ∃ s', perform (backend.pageOf ⟨table, id⟩) s = (.ok .exhausted, s') ∧
      s'.scanner? table id = none := by
  obtain ⟨s', hpage, -, hgone⟩ := pageOf_drained h List.take_nil
  refine ⟨s', hpage, ?_⟩
  rw [scanner?, hgone id, if_pos rfl]
  rfl

end Store

end StreamStore
