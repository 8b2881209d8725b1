import StreamStore.Proofs.ArrivalOrder
import StreamStore.Proofs.ClientPages
import StreamStore.Proofs.SnapshotScan
import StreamStore.Proofs.StoreCalls

/-!
# Pages put together

A limit cuts the cells of a scan into batches without looking at rows, so one row
may show on several pages.  A caller who wants the whole answer merges the pages
in their order: rows are appended, columns are written into the row that is there,
and a later value replaces an earlier one in its place (`ResultSet.merged`).

Nothing is lost by paging, and not even the order changes: the merged pages are
what the complete list of cells gives at once (`merged_pages_eq_whole`).  The
reason is that merging follows the cells one by one.  To add a cell to a page and
then merge the page is to merge the page and then add the cell
(`mergeData_addCell`); so a page may be cut anywhere, also in the middle of a row.
-/

namespace StreamStore

namespace ResultSet

/-- The rows after the rows of another page are written into them. -/
def mergeData (data more : ArrivalMap (ArrivalMap String)) : ArrivalMap (ArrivalMap String) :=
  data.alterAll (fun row old => (old.getD .empty).insertAll row) more.entries

/-- The rows of all pages, merged in the order of the pages. -/
def merged (pages : List ResultSet) : ArrivalMap (ArrivalMap String) :=
  pages.foldl (fun data page => mergeData data page.data) .empty

theorem mergeData_alter (data more : ArrivalMap (ArrivalMap String)) (key column value : String) :
    mergeData data (more.alter key fun row => (row.getD .empty).insert column value) =
      (mergeData data more).alter key fun row => (row.getD .empty).insert column value := by
  let write : Option (ArrivalMap String) → ArrivalMap String :=
    fun row => (row.getD .empty).insert column value
  -- one level down the same law says that a column may be written before or after
  refine ArrivalMap.alterAll_put (u := write) (f := write) ?_ ?_ key data more.distinct
  · intro old
    exact ArrivalMap.insertAll_insert _ _ _ _
  · intro row old
    exact ArrivalMap.insertAll_insert _ _ _ _

/-- **Merging follows the cells.** -/
theorem mergeData_addCell (p : Projection) (split : Bool)
    (data more : ArrivalMap (ArrivalMap String)) (c : Cell) :
    mergeData data (addCell p split more c) = addCell p split (mergeData data more) c := by
  unfold addCell
  cases shownColumn? p c with
  | none => rfl
  | some column => exact mergeData_alter data more _ column c.value

theorem mergeData_foldl (p : Projection) (split : Bool) (cells : List Cell)
    (data more : ArrivalMap (ArrivalMap String)) :
    mergeData data (cells.foldl (addCell p split) more) =
      cells.foldl (addCell p split) (mergeData data more) := by
  induction cells generalizing more with
  | nil => rfl
  | cons c cells ih => rw [List.foldl_cons, List.foldl_cons, ih, mergeData_addCell]

/-- To merge a page is to add its cells. -/
theorem mergeData_ofCells (p : Projection) (split : Bool) (cells : List Cell)
    (data : ArrivalMap (ArrivalMap String)) (cursor : Cursor) :
    mergeData data (ofCells cells p split cursor).data = cells.foldl (addCell p split) data :=
  mergeData_foldl p split cells data .empty

theorem foldl_mergeData_ofCells (p : Projection) (split : Bool) (cursor : Cursor)
    (bs : List (List Cell)) (data : ArrivalMap (ArrivalMap String)) :
    (bs.map fun batch => ofCells batch p split cursor).foldl
        (fun data page => mergeData data page.data) data =
      bs.flatten.foldl (addCell p split) data := by
  induction bs generalizing data with
  | nil => rfl
  | cons batch bs ih =>
      rw [List.map_cons, List.foldl_cons, ih, mergeData_ofCells, List.flatten_cons,
        List.foldl_append]

end ResultSet

/-- The results that a list of cells is handed out as show together what the whole
list shows, however large the batches are. -/
theorem Client.merged_resultsOf (p : Projection) (split : Bool) (id : String) (b : Nat)
    (cells : List Cell) (cursor : Cursor) :
    ResultSet.merged (resultsOf p split id b cells) =
      (ResultSet.ofCells cells p split cursor).data := by
  unfold ResultSet.merged resultsOf
  rw [List.foldl_append, ResultSet.foldl_mergeData_ofCells, flatten_batches]
  rfl

/-! ### Main result -/

/-- **Paging is transparent.**  The pages of a query that is accepted, merged in
their order, are the rows that the complete scan of the table gives at once: the
same rows with the same columns and values, in the same order.  A query that
differs in its limit alone loads other pages, which merge to the same rows. -/
theorem merged_pages_eq_whole (s : Store) (split : Bool) (clock : StateM Store Nat)
    (r : LoadRequest) (first : ResultSet) (hfresh : r.cursor = .fresh)
    (haccepted : (perform ((Client.ofStore split clock).loadRange r) s).1 = .ok first) :
    ∃ (p : Projection) (spec : ScanSpec) (t : Table) (cells : List Cell) (pages : List ResultSet),
      r.plan = .ok (p, spec) ∧ s.tables.get? r.tableName = some t ∧ t.IsScan spec cells ∧
      (Client.ofStore split clock).Loads s r pages ∧
      ResultSet.merged pages = (ResultSet.ofCells cells p split .fresh).data ∧
      ∀ limit, limit ≠ some 0 → ∃ pages' : List ResultSet,
        (Client.ofStore split clock).Loads s { r with limit := limit } pages' ∧
        ResultSet.merged pages' = ResultSet.merged pages := by
  obtain ⟨p, spec, t, hplan, htable⟩ := (Client.accepted_iff hfresh).1 ⟨first, haccepted⟩
  refine ⟨p, spec, t, t.scan spec, _, hplan, htable, t.isScan_scan spec,
    Client.loads_of_plan hplan hfresh htable, Client.merged_resultsOf .., ?_⟩
  intro limit hlimit
  -- the other query has the same scan, cut into batches of another size
  have hplan' : { r with limit := limit }.plan =
      .ok (p, { spec with batch := batchSize limit p.qualifiers.length }) :=
    LoadRequest.plan_withLimit hplan hlimit
  refine ⟨_, Client.loads_of_plan hplan' hfresh htable, ?_⟩
  rw [Client.merged_resultsOf _ _ _ _ _ .fresh, Client.merged_resultsOf _ _ _ _ _ .fresh]
  rfl

/-- A store with two records of stream 7, the newer one without a pressure. -/
def twoRecords : Store :=
  Call.afterAll .empty [.createTable (.ofType "plant" .data),
    .putCells "plant_stream_realtime"
      [⟨"000000000007:922337203684500:north", "DF:temp", 1000, "21"⟩,
        ⟨"000000000007:922337203684500:north", "DF:pressure", 1000, "5"⟩,
        ⟨"000000000007:922337203684400:south", "DF:temp", 1100, "22"⟩]]

/-- A query for both columns of stream 7. -/
def bothColumns (limit : Option Nat) : LoadRequest where
  table := "plant"
  type := .data
  streamId := "7"
  columns := "temp,pressure"
  limit := limit

/-- With a limit of one row the record of the northern node is cut in two, since
the southern one has only one of the two columns; merged, the pages are the same as
without a limit. -/
theorem merged_pages_of_two_records :
    ∃ pages pages' : List ResultSet,
      (Client.ofStore true (pure 0)).Loads twoRecords (bothColumns (some 1)) pages ∧
      (Client.ofStore true (pure 0)).Loads twoRecords (bothColumns none) pages' ∧
      ResultSet.merged pages' = ResultSet.merged pages ∧
      (ResultSet.merged pages).entries.map (fun row => (row.1, row.2.entries)) =
        [("1100:south", [("temp", "22")]), ("1000:north", [("pressure", "5"), ("temp", "21")])] := by
  obtain ⟨first, haccepted⟩ : ∃ first,
      (perform ((Client.ofStore true (pure 0)).loadRange (bothColumns (some 1))) twoRecords).1 =
        .ok first := (Client.accepted_iff rfl).2 ⟨_, _, _, rfl, rfl⟩
  obtain ⟨p, spec, t, cells, pages, hplan, htable, hcells, hpages, hmerged, hlimit⟩ :=
    merged_pages_eq_whole twoRecords true (pure 0) (bothColumns (some 1)) first rfl haccepted
  obtain ⟨pages', hpages', hsame⟩ := hlimit none (by decide)
  refine ⟨pages, pages', hpages, hpages', hsame, ?_⟩
  rw [hmerged, hcells.unique (t.isScan_scan spec)]
  cases hplan
  cases htable
  rfl

end StreamStore
