import StreamStore.Proofs.Batches
import StreamStore.Proofs.PageStep
import StreamStore.Proofs.SnapshotScan

/-!
# A scan shows the table as it was

A caller that asks for page after page shares the store with other callers, whose
calls run between its own (`scanPages`).  The pages are nevertheless the batches
of the scan of the table *at the moment the scanner was opened*, followed by the
page that ends a scan.

What carries this through the calls of others is that a scanner keeps its cells
(`Call.scanner?_afterAll`); what carries it through the caller's own calls is that
a page takes one batch off them (`Store.pageOf_cells`).  So the run is an
induction on the groups of calls in between, with the cells that the scanner
still has as its invariant.

The caller may stop early.  Then it has seen a first part of the pages, which is
why the main theorem speaks of as many pages as there were calls.
-/

namespace StreamStore

/-- A caller that asks for page after page, each time with the cursor of the page
before, until the scan is over; `others` are the calls that others make between
two of its calls.  The answers, and the store after the last of them. -/
def scanPages (table : String) (spec : ScanSpec) :
    Cursor → (others : List (List Call)) → Store → List (Except AccessError Page) × Store
  | cursor, [], s =>
      let r := perform (Store.backend.nextPage table cursor spec) s
      ([r.1], r.2)
  | cursor, calls :: others, s =>
      match perform (Store.backend.nextPage table cursor spec) s with
      | (.ok page, s') =>
          if page.state = .active then
            let r := scanPages table spec page.cursor others (Call.afterAll s' calls)
            (.ok page :: r.1, r.2)
          else ([.ok page], s')
      | (.error e, s') => ([.error e], s')

/-- Whether pages hand out the cells of a scanner in batches of `b`: as many pages
as are needed, all of them full but the last, and each handing back the scanner. -/
structure HandOut (id : String) (b : Nat) (cells : List Cell) (pages : List Page) : Prop where
  cells_eq : pages.flatMap Page.cells = cells
  count : pages.length = (cells.length + b - 1) / b
  full : ∀ page ∈ pages.dropLast, page.cells.length = b
  active : ∀ page ∈ pages, page.state = .active ∧ page.cursor = .resume id ∧
    page.cells ≠ [] ∧ page.cells.length ≤ b

/-- A page of a scan that is not over. -/
def activePage (id : String) (cells : List Cell) : Page :=
  ⟨cells, .resume id, .active⟩

/-- The batches of a list of cells, as pages, hand it out. -/
theorem handOut_batches (id : String) {b : Nat} (hb : 0 < b) (cells : List Cell) :
    HandOut id b cells ((batches b cells).map (activePage id)) where
  cells_eq := by
    rw [List.flatMap_map]
    exact List.flatMap_id'.trans (flatten_batches b cells)
  count := by rw [List.length_map, length_batches hb]
  full := by
    intro page hpage
    rw [← List.map_dropLast] at hpage
    obtain ⟨batch, hbatch, rfl⟩ := List.mem_map.1 hpage
    exact length_of_mem_dropLast_batches hb hbatch
  active := by
    intro page hpage
    obtain ⟨batch, hbatch, rfl⟩ := List.mem_map.1 hpage
    exact ⟨rfl, rfl, length_of_mem_batches hb hbatch⟩

section Run

variable {s : Store} {table id : String} {spec : ScanSpec} {cursor : Cursor}

theorem scanPages_nil {r : Except AccessError Page} {s' : Store}
    (h : perform (Store.backend.nextPage table cursor spec) s = (r, s')) :
    scanPages table spec cursor [] s = ([r], s') := by
  rw [scanPages, h]

theorem scanPages_active {calls : List Call} {others : List (List Call)} {page : Page} {s' : Store}
    (h : perform (Store.backend.nextPage table cursor spec) s = (.ok page, s'))
    (hactive : page.state = .active) :
    scanPages table spec cursor (calls :: others) s =
      (.ok page :: (scanPages table spec page.cursor others (Call.afterAll s' calls)).1,
        (scanPages table spec page.cursor others (Call.afterAll s' calls)).2) := by
  rw [scanPages, h]
  exact if_pos hactive

theorem scanPages_over {others : List (List Call)} {page : Page} {s' : Store}
    (h : perform (Store.backend.nextPage table cursor spec) s = (.ok page, s'))
    (hover : page.state ≠ .active) :
    scanPages table spec cursor others s = ([.ok page], s') := by
  cases others with
  | nil => exact scanPages_nil h
  | cons calls others =>
      rw [scanPages, h]
      exact if_neg hover

/-- **The run from an open scanner.**  Whatever cells a scanner has, and whatever
others do in between, the pages are the batches of those cells and then the end;
when the end is reached the scanner is gone.  The scanner is open in `opened`,
which is the store itself unless the first call has yet to open it. -/
theorem scanPages_of_scanner {b : Nat} {pending : List Cell} {others : List (List Call)}
    {opened : Store} (hcall : perform (Store.backend.nextPage table cursor spec) s =
      perform (Store.backend.pageOf ⟨table, id⟩) opened)
    (hscanner : opened.scanner? table id = some ⟨table, b, pending⟩) (hb : 0 < b)
    (hid : opened.Given id)
    (hothers : ∀ calls ∈ others, ∀ call ∈ calls, ¬call.Uses table id) :
    (scanPages table spec cursor others s).1 =
        (((batches b pending).map (activePage id) ++ [Page.exhausted]).take
          (others.length + 1)).map .ok ∧
      ((batches b pending).length ≤ others.length →
        (scanPages table spec cursor others s).2.scanner? table id = none) := by
  induction others generalizing s opened pending cursor with
  | nil =>
      by_cases hpending : pending = []
      · subst hpending
        obtain ⟨s', hpage, hgone⟩ := Store.pageOf_exhausted hscanner
        rw [scanPages_nil (hcall.trans hpage), batches_nil]
        exact ⟨rfl, fun _ => hgone⟩
      · obtain ⟨s', hpage, -⟩ := Store.pageOf_cells hscanner hb hpending
        rw [scanPages_nil (hcall.trans hpage), batches_of_ne_nil hb hpending]
        exact ⟨rfl, fun hlen => absurd hlen (Nat.not_succ_le_zero _)⟩
  | cons calls others ih =>
      by_cases hpending : pending = []
      · subst hpending
        obtain ⟨s', hpage, hgone⟩ := Store.pageOf_exhausted hscanner
        rw [scanPages_over (hcall.trans hpage) (by decide), batches_nil]
        exact ⟨rfl, fun _ => hgone⟩
      · obtain ⟨hcalls, hrest⟩ := List.forall_mem_cons.1 hothers
        obtain ⟨s', hpage, hopened, hkept⟩ := Store.pageOf_cells hscanner hb hpending
        have hid' : s'.Given id := hid.mono (Nat.le_of_eq hopened.symm)
        -- the calls of others leave the rest of the cells for the next page
        have hnext : (Call.afterAll s' calls).scanner? table id =
            some ⟨table, b, pending.drop b⟩ := (Call.scanner?_afterAll hcalls hid').trans hkept
        obtain ⟨hpages, hend⟩ := ih (s := Call.afterAll s' calls)
          (perform_nextPage_resume table id spec) hnext (Call.given_afterAll hid') hrest
        rw [scanPages_active (hcall.trans hpage) rfl, batches_of_ne_nil hb hpending]
        refine ⟨?_, fun hlen => hend (Nat.le_of_succ_le_succ hlen)⟩
        show Except.ok _ :: (scanPages table spec (.resume id) others _).1 = _
        rw [hpages]
        rfl

end Run

/-! ### Main result -/

/-- **A scan shows the table as it was.**  On a table that exists, a scan that is
started with an empty cursor opens a scanner, and its pages hand out, in batches
of the asked size or of one, exactly the scan of the table at that moment.  Then
comes one page without cells and without a cursor, and the scanner is gone.  Calls
of others in between change nothing, unless they use this very scanner. -/
theorem scan_shows_snapshot (s : Store) (table : String) (t : Table) (spec : ScanSpec)
    (htable : s.tables.get? table = some t) :
    ∃ id cells active,
      (perform (Store.backend.openScanner table spec) s).1 = .ok id ∧
      t.IsScan spec cells ∧ HandOut id (max spec.batch 1) cells active ∧
      ∀ others : List (List Call),
        (∀ calls ∈ others, ∀ call ∈ calls, ¬call.Uses table id) →
        (scanPages table spec .fresh others s).1 =
            ((active ++ [Page.exhausted]).take (others.length + 1)).map .ok ∧
          (active.length ≤ others.length →
            (scanPages table spec .fresh others s).2.scanner? table id = none) := by
  have hb : 0 < max spec.batch 1 := Nat.le_max_right _ _
  obtain ⟨opened, hopen, hscanner, hgiven⟩ := Store.openScanner_of_table spec htable
  refine ⟨scannerId s.opened, t.scan spec,
    (batches (max spec.batch 1) (t.scan spec)).map (activePage (scannerId s.opened)),
    congrArg Prod.fst hopen, t.isScan_scan spec, handOut_batches _ hb _, fun others hothers => ?_⟩
  rw [List.length_map]
  exact scanPages_of_scanner (perform_nextPage_fresh hopen) hscanner hb hgiven hothers

/-- A write between two pages, and a fetch under another table, change nothing: the
pages still hand out the three cells that were there. -/
theorem scan_shows_three_cells :
    let before : List Cell := [⟨"a", "d:x", 1, "1"⟩, ⟨"a", "d:y", 1, "2"⟩, ⟨"b", "d:x", 1, "3"⟩]
    let s := Call.afterAll .empty [.createTable ⟨"plant", ["d"]⟩, .putCells "plant" before]
    let spec : ScanSpec := ⟨2, "a", "z", [], none⟩
    ∃ (id : String) (pages : List Page),
      (perform (Store.backend.openScanner "plant" spec) s).1 = .ok id ∧
      (scanPages "plant" spec .fresh
        [[.putCells "plant" [⟨"b", "d:x", 2, "4"⟩]], [.fetch "well" id]] s).1 = pages.map .ok ∧
      pages.length = 3 ∧ pages.flatMap Page.cells = before := by
  intro before s spec
  let t : Table := before.foldl Table.write ⟨["d"], .empty⟩
  have htable : s.tables.get? "plant" = some t := rfl
  have hscan : t.scan spec = before := by decide
  obtain ⟨id, cells, active, hopen, hcells, hactive, hpages⟩ :=
    scan_shows_snapshot s "plant" t spec htable
  have hbefore : cells = before := (hcells.unique (t.isScan_scan spec)).trans hscan
  have hcount : active.length = 2 := by
    rw [hactive.count, hbefore]
    decide
  refine ⟨id, active ++ [Page.exhausted], hopen, ?_, ?_, ?_⟩
  · have huses : ∀ calls ∈ ([[.putCells "plant" [⟨"b", "d:x", 2, "4"⟩]], [.fetch "well" id]] :
        List (List Call)), ∀ call ∈ calls, ¬call.Uses "plant" id := by
      simp [Call.Uses]
    rw [(hpages _ huses).1, List.take_of_length_le]
    rw [List.length_append, hcount]
    exact Nat.le_refl 3
  · rw [List.length_append, hcount]
    rfl
  · rw [List.flatMap_append, hactive.cells_eq, hbefore]
    rfl

end StreamStore
