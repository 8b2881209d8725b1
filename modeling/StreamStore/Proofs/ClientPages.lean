import StreamStore.Proofs.Batches
import StreamStore.Proofs.PageStep
import StreamStore.Proofs.ResultRows

/-!
# A query from its first page to its last

`Client.loadPages` follows the cursors of a query.  Over a store in memory, and
as long as nobody else works on it, its pages are the batches of the scan, each
built into a result by itself, and then the result with nothing in it
(`loadPages_of_table`).  A query is refused, with the store left as it was, when
it has no plan or its table does not exist.
-/

namespace StreamStore

namespace LoadRequest

variable {r : LoadRequest} {p : Projection} {spec : ScanSpec}

/-- What a plan is made of. -/
theorem plan_eq_ok (h : r.plan = .ok (p, spec)) :
    r.validate = .ok () ∧ r.projection = .ok p ∧
      ∃ range, rangeOf r.streamId r.oldest r.newest = .ok range ∧
        spec = ⟨batchSize r.limit p.qualifiers.length, range.first, range.stop, p.qualifiers,
          r.constraint.map (Constraint.compile r.type)⟩ := by
  rw [plan, bind_eq_ok] at h
  obtain ⟨_, hvalid, h⟩ := h
  rw [bind_eq_ok] at h
  obtain ⟨p', hp, h⟩ := h
  rw [bind_eq_ok] at h
  obtain ⟨spec', hspec, h⟩ := h
  cases h
  rw [scanSpec, bind_eq_ok] at hspec
  obtain ⟨range, hrange, hspec⟩ := hspec
  cases hspec
  exact ⟨hvalid, hp, range, hrange, rfl⟩

theorem plan_of_parts {range : RowRange} (hvalid : r.validate = .ok ())
    (hp : r.projection = .ok p) (hrange : rangeOf r.streamId r.oldest r.newest = .ok range) :
    r.plan = .ok (p, ⟨batchSize r.limit p.qualifiers.length, range.first, range.stop, p.qualifiers,
      r.constraint.map (Constraint.compile r.type)⟩) := by
  simp only [plan, hvalid, hp, scanSpec, hrange]
  rfl

/-! ### Another limit -/

theorem limit_ne_zero (h : r.validate = .ok ()) : r.limit ≠ some 0 := by
  intro hzero
  simp only [validate, if_pos hzero] at h
  obtain ⟨_, -, h⟩ := bind_eq_ok.1 h
  obtain ⟨_, -, h⟩ := bind_eq_ok.1 h
  obtain ⟨_, -, h⟩ := bind_eq_ok.1 h
  split at h <;> cases h

/-- Apart from being positive, a limit does not matter for the checks. -/
theorem validate_withLimit {limit : Option Nat} (h : r.validate = .ok ())
    (hlimit : limit ≠ some 0) : { r with limit := limit }.validate = .ok () := by
  have hr : r.limit ≠ some 0 := limit_ne_zero h
  simp only [validate, if_neg hr] at h
  simp only [validate, if_neg hlimit]
  exact h

/-- A limit decides about the size of the batches and about nothing else. -/
theorem plan_withLimit {limit : Option Nat} (h : r.plan = .ok (p, spec))
    (hlimit : limit ≠ some 0) : { r with limit := limit }.plan =
      .ok (p, { spec with batch := batchSize limit p.qualifiers.length }) := by
  obtain ⟨hvalid, hp, range, hrange, rfl⟩ := plan_eq_ok h
  exact plan_of_parts (validate_withLimit hvalid hlimit) hp hrange

end LoadRequest

namespace Client

/-- The result that a page of a scan becomes. -/
def resultOf (p : Projection) (split : Bool) (page : Page) : ResultSet :=
  if page.state = .exhausted then .exhausted else .ofCells page.cells p split page.cursor

theorem cursor_resultOf {p : Projection} {split : Bool} {page : Page}
    (h : (resultOf p split page).hasMore = true) :
    (resultOf p split page).cursor = page.cursor := by
  rw [resultOf] at h ⊢
  split at h
  · cases h
  · next hstate =>
      rw [if_neg hstate]
      rfl

section States

variable {σ : Type} {c : Client (StateM σ)} {r : LoadRequest} {s : σ}

/-- A query without a plan is refused before anything is asked of the backend. -/
theorem perform_loadRange_of_error {fault : RequestFault} (h : r.plan = .error fault) :
    perform (c.loadRange r) s = (.error (.request fault), s) := by
  rw [loadRange, perform_bind, perform_liftFault, h]
  rfl

/-- A query with a plan is one page of a scan. -/
theorem perform_loadRange {p : Projection} {spec : ScanSpec} (h : r.plan = .ok (p, spec)) :
    perform (c.loadRange r) s =
      ((perform (c.backend.nextPage r.tableName r.cursor spec) s).1.map
          (resultOf p c.splitIdentity),
        (perform (c.backend.nextPage r.tableName r.cursor spec) s).2) := by
  rw [loadRange, perform_bind, perform_liftFault, h]
  show perform (c.backend.nextPage r.tableName r.cursor spec >>= _) s = _
  rw [perform_bind]
  rcases perform (c.backend.nextPage r.tableName r.cursor spec) s with ⟨e | page, s'⟩
  · rfl
  · dsimp only [Except.map]
    unfold resultOf
    split <;> rfl

/-- A query that is accepted has a plan. -/
theorem plan_of_accepted {page : ResultSet} (h : (perform (c.loadRange r) s).1 = .ok page) :
    ∃ p spec, r.plan = .ok (p, spec) := by
  cases hplan : r.plan with
  | error fault =>
      rw [perform_loadRange_of_error hplan] at h
      cases h
  | ok plan => exact ⟨plan.1, plan.2, rfl⟩

variable {n : Nat} {page : ResultSet} {s' : σ}

theorem loadPages_last (h : perform (c.loadRange r) s = (.ok page, s'))
    (hlast : page.hasMore = false) : perform (c.loadPages (n + 1) r) s = (.ok [page], s') := by
  rw [loadPages, perform_bind_ok h, hlast]
  rfl

theorem loadPages_more {rest : List ResultSet} {s'' : σ}
    (h : perform (c.loadRange r) s = (.ok page, s')) (hmore : page.hasMore = true)
    (hrest : perform (c.loadPages n { r with cursor := page.cursor }) s' = (.ok rest, s'')) :
    perform (c.loadPages (n + 1) r) s = (.ok (page :: rest), s'') := by
  rw [loadPages, perform_bind_ok h, hmore]
  exact perform_bind_ok hrest

end States

/-! ### Over a store -/

/-- A client of a store in memory. -/
def ofStore (split : Bool) (clock : StateM Store Nat) : Client (StateM Store) :=
  ⟨Store.backend, split, clock⟩

variable {split : Bool} {clock : StateM Store Nat} {r : LoadRequest} {s : Store}
  {p : Projection} {spec : ScanSpec}

/-- A query that is accepted and goes on is accepted again. -/
theorem loadRange_goes_on {page : ResultSet} {s' : Store}
    (h : perform ((ofStore split clock).loadRange r) s = (.ok page, s'))
    (hmore : page.hasMore = true) :
    ∃ next, (perform ((ofStore split clock).loadRange { r with cursor := page.cursor }) s').1 =
      .ok next := by
  obtain ⟨p, spec, hplan⟩ := plan_of_accepted (congrArg Prod.fst h)
  rw [perform_loadRange hplan, ofStore] at h
  rcases hraw : perform (Store.backend.nextPage r.tableName r.cursor spec) s with ⟨e | raw, after⟩
  · rw [hraw] at h
    cases h
  · rw [hraw] at h
    obtain ⟨rfl, rfl⟩ : resultOf p split raw = page ∧ after = s' :=
      ⟨Except.ok.inj (congrArg Prod.fst h), congrArg Prod.snd h⟩
    rcases Store.nextPage_scanner hraw with rfl | ⟨id, c, hcursor, hscanner⟩
    · cases hmore
    · -- the next page is that of the same scanner
      have hload : perform ((ofStore split clock).loadRange { r with cursor := .resume id }) after =
          ((perform (Store.backend.pageOf ⟨r.tableName, id⟩) after).1.map (resultOf p split),
            (perform (Store.backend.pageOf ⟨r.tableName, id⟩) after).2) := perform_loadRange hplan
      obtain ⟨next, hnext⟩ := Store.pageOf_of_scanner hscanner
      refine ⟨resultOf p split next, ?_⟩
      rw [cursor_resultOf hmore, hcursor, hload, hnext]
      rfl

/-- The results that a list of cells is handed out as, and the one after them. -/
def resultsOf (p : Projection) (split : Bool) (id : String) (b : Nat) (cells : List Cell) :
    List ResultSet :=
  (batches b cells).map (fun batch => .ofCells batch p split (.resume id)) ++ [.exhausted]

/-- The rows that results show are those of the cells that show. -/
theorem exists_mem_resultsOf {id key : String} {b : Nat} {cells : List Cell} :
    (∃ page ∈ resultsOf p split id b cells, key ∈ page.data.keys) ↔
      ∃ c ∈ cells, (ResultSet.shownColumn? p c).isSome = true ∧ rowIdentity split c = key := by
  constructor
  · rintro ⟨page, hpage, hkey⟩
    rcases List.mem_append.1 hpage with hpage | hpage
    · obtain ⟨batch, hbatch, rfl⟩ := List.mem_map.1 hpage
      obtain ⟨c, hc, hshown⟩ := ResultSet.mem_keys_ofCells.1 hkey
      exact ⟨c, flatten_batches b cells ▸ List.mem_flatten_of_mem hbatch hc, hshown⟩
    · obtain rfl := List.mem_singleton.1 hpage
      cases hkey
  · rintro ⟨c, hc, hshown⟩
    rw [← flatten_batches b cells] at hc
    obtain ⟨batch, hbatch, hc⟩ := List.mem_flatten.1 hc
    exact ⟨_, List.mem_append_left _ (List.mem_map_of_mem hbatch),
      ResultSet.mem_keys_ofCells.2 ⟨c, hc, hshown⟩⟩

/-- From an open scanner a query loads the results of its cells; the scanner is
open in `opened`, which is the store itself unless the first call has yet to open
it. -/
theorem loadPages_of_scanner {n b : Nat} {id : String} {pending : List Cell} {opened : Store}
    (hplan : r.plan = .ok (p, spec))
    (hcall : perform (Store.backend.nextPage r.tableName r.cursor spec) s =
      perform (Store.backend.pageOf ⟨r.tableName, id⟩) opened)
    (hscanner : opened.scanner? r.tableName id = some ⟨r.tableName, b, pending⟩) (hb : 0 < b)
    (hn : (batches b pending).length < n) :
    ∃ s', perform ((ofStore split clock).loadPages n r) s =
      (.ok (resultsOf p split id b pending), s') := by
  induction n generalizing r s opened pending with
  | zero => exact absurd hn (Nat.not_lt_zero _)
  | succ n ih =>
      by_cases hpending : pending = []
      · subst hpending
        obtain ⟨s', hpage, -⟩ := Store.pageOf_exhausted hscanner
        have hload : perform ((ofStore split clock).loadRange r) s = (.ok .exhausted, s') := by
          rw [perform_loadRange hplan, ofStore, hcall, hpage]
          rfl
        refine ⟨s', ?_⟩
        rw [loadPages_last hload ResultSet.hasMore_exhausted, resultsOf, batches_nil]
        rfl
      · obtain ⟨s', hpage, -, hkept⟩ := Store.pageOf_cells hscanner hb hpending
        have hload : perform ((ofStore split clock).loadRange r) s =
            (.ok (.ofCells (pending.take b) p split (.resume id)), s') := by
          rw [perform_loadRange hplan, ofStore, hcall, hpage]
          rfl
        rw [batches_of_ne_nil hb hpending, List.length_cons] at hn
        -- the next request differs in its cursor only, so it has the same plan
        obtain ⟨s'', hrest⟩ := ih (r := { r with cursor := .resume id }) (s := s') hplan
          (perform_nextPage_resume r.tableName id spec) hkept (Nat.lt_of_succ_lt_succ hn)
        refine ⟨s'', ?_⟩
        rw [loadPages_more hload rfl hrest, resultsOf, resultsOf, batches_of_ne_nil hb hpending]
        rfl

/-- A query is accepted exactly when it has a plan and its table exists. -/
theorem accepted_iff (hfresh : r.cursor = .fresh) :
    (∃ first, (perform ((ofStore split clock).loadRange r) s).1 = .ok first) ↔
      ∃ p spec t, r.plan = .ok (p, spec) ∧ s.tables.get? r.tableName = some t := by
  constructor
  · rintro ⟨first, h⟩
    obtain ⟨p, spec, hplan⟩ := plan_of_accepted h
    cases htable : s.tables.get? r.tableName with
    | none =>
        have hopen : perform (Store.backend.openScanner r.tableName spec) s =
            (.error (Store.tableMissing "scanner_create" r.tableName), s) :=
          Store.openScanner_of_none spec htable
        rw [perform_loadRange hplan, hfresh, ofStore, perform_nextPage_refused hopen] at h
        cases h
    | some t => exact ⟨p, spec, t, hplan, rfl⟩
  · rintro ⟨p, spec, t, hplan, htable⟩
    have hb : 0 < max spec.batch 1 := Nat.le_max_right _ _
    obtain ⟨opened, hopen, hscanner, -⟩ := Store.openScanner_of_table spec htable
    rw [perform_loadRange hplan, ofStore, hfresh, perform_nextPage_fresh hopen]
    by_cases hpending : t.scan spec = []
    · rw [hpending] at hscanner
      obtain ⟨s', hpage, -⟩ := Store.pageOf_exhausted hscanner
      rw [hpage]
      exact ⟨_, rfl⟩
    · obtain ⟨s', hpage, -⟩ := Store.pageOf_cells hscanner hb hpending
      rw [hpage]
      exact ⟨_, rfl⟩

/-- **The pages of a query.**  On a table that exists, a query with a plan loads
the batches of the scan of the table, as results, and then the empty result. -/
theorem loadPages_of_table {n : Nat} {t : Table} (hplan : r.plan = .ok (p, spec))
    (hfresh : r.cursor = .fresh) (htable : s.tables.get? r.tableName = some t)
    (hn : (batches (max spec.batch 1) (t.scan spec)).length < n) :
    ∃ s', perform ((ofStore split clock).loadPages n r) s =
      (.ok (resultsOf p split (scannerId s.opened) (max spec.batch 1) (t.scan spec)), s') := by
  have hb : 0 < max spec.batch 1 := Nat.le_max_right _ _
  obtain ⟨opened, hopen, hscanner, -⟩ := Store.openScanner_of_table spec htable
  refine loadPages_of_scanner hplan ?_ hscanner hb hn
  rw [hfresh]
  exact perform_nextPage_fresh hopen

/-- Whether following the cursors of a query loads some pages, from the first one
to the last. -/
def Loads (c : Client (StateM Store)) (s : Store) (r : LoadRequest) (pages : List ResultSet) :
    Prop :=
  ∃ n, ∀ m, n ≤ m → (perform (c.loadPages m r) s).1 = .ok pages

theorem loads_of_plan {t : Table} (hplan : r.plan = .ok (p, spec)) (hfresh : r.cursor = .fresh)
    (htable : s.tables.get? r.tableName = some t) :
    (ofStore split clock).Loads s r
      (resultsOf p split (scannerId s.opened) (max spec.batch 1) (t.scan spec)) := by
  refine ⟨(batches (max spec.batch 1) (t.scan spec)).length + 1, fun m hm => ?_⟩
  obtain ⟨s', hpages⟩ := loadPages_of_table hplan hfresh htable (Nat.lt_of_succ_le hm)
  rw [hpages]

end Client

end StreamStore
