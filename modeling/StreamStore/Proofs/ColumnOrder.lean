import StreamStore.Proofs.ClientPages
import StreamStore.Proofs.PageContents
import StreamStore.Proofs.SnapshotScan

/-!
# The order of columns does not matter

A query may name its columns in any order, repeat them, break them with blanks, and name as
query-only what its constraint names anyway.  Two queries that come to the same columns
(`Projection.SameColumns`) scan the same cells, because a scan asks whether a qualifier is
among its columns, and in batches of the same size, because that depends on their number.
From the same cells they show the same, because a cell shows by its own qualifier.

So one call of the backend answers both, and the two runs go through the same states, page
by page (`loadPages_agree`).  What is left of the order are the places of the columns.
-/

namespace StreamStore

/-! ### The same columns -/

/-- Whether two projections of one family show the same columns and fetch the same columns,
in any order. -/
structure Projection.SameColumns (p p' : Projection) : Prop where
  family_eq : p.family = p'.family
  output_iff : ∀ column, column ∈ p.output ↔ column ∈ p'.output
  fetched_iff : ∀ column, column ∈ p.fetched ↔ column ∈ p'.fetched

/-- Whether two pages show the same and go on at the same place, and differ at most in the
places of their columns. -/
structure ResultSet.AgreesWith (r r' : ResultSet) : Prop where
  /-- The same rows, columns and values, in the same order. -/
  data_eq : r.data = r'.data
  /-- The same number of rows. -/
  count_eq : r.count = r'.count
  /-- The next page starts at the same place. -/
  cursor_eq : r.cursor = r'.cursor
  /-- Both have a next page, or neither has. -/
  hasMore_eq : r.hasMore = r'.hasMore
  /-- The same columns, in some order. -/
  columns_perm : r.columns.keys.Perm r'.columns.keys

namespace Projection.SameColumns

variable {p p' : Projection}

theorem qualifiers_perm (h : p.SameColumns p') : p.qualifiers.Perm p'.qualifiers := by
  refine (List.perm_ext_iff_of_nodup p.nodup_qualifiers p'.nodup_qualifiers).2 fun q => ?_
  have hqualify : p.qualify = p'.qualify := by
    funext column
    rw [qualify, qualify, h.family_eq]
  simp only [qualifiers, List.mem_map, hqualify, h.fetched_iff]

theorem output_perm (h : p.SameColumns p') : p.output.Perm p'.output :=
  (List.perm_ext_iff_of_nodup (List.nodup_append.1 p.distinct).1
    (List.nodup_append.1 p'.distinct).1).2 h.output_iff

/-- A cell shows alike. -/
theorem shownColumn?_eq (h : p.SameColumns p') {t : RecordType} (hfamily : p.family = t.family)
    (c : Cell) : ResultSet.shownColumn? p c = ResultSet.shownColumn? p' c := by
  have hfamily' : p'.family = t.family := h.family_eq.symm.trans hfamily
  have hsees : p.sees c = p'.sees c := by
    rw [Bool.eq_iff_iff, Projection.sees_iff hfamily, Projection.sees_iff hfamily']
    simp only [h.output_iff]
  rw [ResultSet.shownColumn?_eq hfamily, ResultSet.shownColumn?_eq hfamily', hsees]

/-- A page of a scan becomes results that agree. -/
theorem resultOf_agrees (h : p.SameColumns p') {t : RecordType} (hfamily : p.family = t.family)
    (split : Bool) (page : Page) :
    (Client.resultOf p split page).AgreesWith (Client.resultOf p' split page) := by
  rw [Client.resultOf, Client.resultOf]
  split
  · exact ⟨rfl, rfl, rfl, rfl, .refl _⟩
  · have hstep : ResultSet.addCell p split = ResultSet.addCell p' split := by
      funext data c
      rw [ResultSet.addCell, ResultSet.addCell, h.shownColumn?_eq hfamily]
    have hdata : (ResultSet.ofCells page.cells p split page.cursor).data =
        (ResultSet.ofCells page.cells p' split page.cursor).data := by
      rw [ResultSet.ofCells, ResultSet.ofCells, hstep]
    refine ⟨hdata, ?_, rfl, rfl, ?_⟩
    · rw [ResultSet.count_ofCells, ResultSet.count_ofCells, hdata]
    · rw [ResultSet.ofCells, ResultSet.ofCells, ArrivalMap.keys, ArrivalMap.keys, p.entries_index,
        p'.entries_index, List.zipIdx_map_fst, List.zipIdx_map_fst]
      exact h.output_perm

end Projection.SameColumns

/-! ### The same scan -/

/-- Scans that differ in the order of their columns open the same scanners. -/
theorem Store.nextPage_congr {spec : ScanSpec} {columns : List String}
    (h : ∀ qualifier, qualifier ∈ columns ↔ qualifier ∈ spec.columns) (table : String)
    (cursor : Cursor) (s : Store) :
    perform (backend.nextPage table cursor { spec with columns := columns }) s =
      perform (backend.nextPage table cursor spec) s := by
  rcases cursor.eq_fresh_or_resume with rfl | ⟨id, rfl⟩
  · have hopen : backend.openScanner table { spec with columns := columns } =
        backend.openScanner table spec := by
      funext s
      show s.openScanner table { spec with columns := columns } = s.openScanner table spec
      cases ht : s.tables.get? table with
      | none => rw [openScanner_of_none _ ht, openScanner_of_none _ ht]
      | some t => rw [openScanner_of_some _ ht, openScanner_of_some _ ht, Table.scan_congr h]
    rw [perform_nextPage_begun, perform_nextPage_begun, hopen]
  · rfl

namespace Client

variable {split : Bool} {clock : StateM Store Nat} {r : LoadRequest} {columns queryOnly : String}
  {p p' : Projection} {spec spec' : ScanSpec}

/-- Queries for the same columns describe scans that differ in the order of the columns. -/
theorem scanSpec_withColumns (h : r.plan = .ok (p, spec))
    (h' : { r with columns := columns, queryOnly := queryOnly }.plan = .ok (p', spec'))
    (hsame : p.SameColumns p') :
    spec' = { spec with columns := p'.qualifiers } ∧
      ∀ qualifier, qualifier ∈ p'.qualifiers ↔ qualifier ∈ spec.columns := by
  obtain ⟨-, -, range, hrange, rfl⟩ := LoadRequest.plan_eq_ok h
  obtain ⟨-, -, range', hrange', rfl⟩ := LoadRequest.plan_eq_ok h'
  obtain rfl : range = range' := Except.ok.inj (hrange.symm.trans hrange')
  constructor
  · -- a limit is multiplied by the number of the columns, which is the same
    rw [hsame.qualifiers_perm.length_eq]
  · exact fun _ => hsame.qualifiers_perm.symm.mem_iff

/-- One page: the other query is accepted too, leaves the same store, and its page agrees. -/
theorem loadRange_agrees (h : r.plan = .ok (p, spec))
    (h' : { r with columns := columns, queryOnly := queryOnly }.plan = .ok (p', spec'))
    (hsame : p.SameColumns p') {s after : Store} {page : ResultSet}
    (hload : perform ((ofStore split clock).loadRange r) s = (.ok page, after)) :
    ∃ page', perform ((ofStore split clock).loadRange
        { r with columns := columns, queryOnly := queryOnly }) s = (.ok page', after) ∧
      page.AgreesWith page' := by
  obtain ⟨rfl, hcolumns⟩ := scanSpec_withColumns h h' hsame
  have hfamily : p.family = r.type.family := Projection.resolve_family (LoadRequest.plan_eq_ok h).2.1
  have hload' : perform ((ofStore split clock).loadRange
      { r with columns := columns, queryOnly := queryOnly }) s =
        ((perform (Store.backend.nextPage r.tableName r.cursor spec) s).1.map (resultOf p' split),
          (perform (Store.backend.nextPage r.tableName r.cursor spec) s).2) := by
    rw [← Store.nextPage_congr hcolumns]
    exact perform_loadRange h'
  rw [perform_loadRange h, ofStore] at hload
  rw [hload']
  rcases hraw : perform (Store.backend.nextPage r.tableName r.cursor spec) s with ⟨e | raw, after'⟩
  · rw [hraw] at hload
    cases hload
  · rw [hraw] at hload
    cases hload
    exact ⟨_, rfl, hsame.resultOf_agrees hfamily split raw⟩

/-- All pages: an accepted query and the other one go through the same stores, and their pages
agree one by one. -/
theorem loadPages_agree (n : Nat) (h : r.plan = .ok (p, spec))
    (h' : { r with columns := columns, queryOnly := queryOnly }.plan = .ok (p', spec'))
    (hsame : p.SameColumns p') {s : Store} {first : ResultSet}
    (hfirst : (perform ((ofStore split clock).loadRange r) s).1 = .ok first) :
    ∃ pages pages' after,
      perform ((ofStore split clock).loadPages n r) s = (.ok pages, after) ∧
      perform ((ofStore split clock).loadPages n
        { r with columns := columns, queryOnly := queryOnly }) s = (.ok pages', after) ∧
      List.Forall₂ ResultSet.AgreesWith pages pages' := by
  induction n generalizing r s first with
  | zero => exact ⟨[], [], s, rfl, rfl, .nil⟩
  | succ n ih =>
      obtain ⟨after, hload⟩ : ∃ after,
          perform ((ofStore split clock).loadRange r) s = (.ok first, after) :=
        ⟨_, Prod.ext hfirst rfl⟩
      obtain ⟨first', hload', hagrees⟩ := loadRange_agrees h h' hsame hload
      cases hmore : first.hasMore with
      | false =>
          exact ⟨[first], [first'], after, loadPages_last hload hmore,
            loadPages_last hload' (hagrees.hasMore_eq ▸ hmore), .cons hagrees .nil⟩
      | true =>
          obtain ⟨next, hnext⟩ := loadRange_goes_on hload hmore
          -- the next queries differ from these in the cursor only, so they have the same plans
          obtain ⟨rest, rest', last, hrest, hrest', hall⟩ :=
            ih (r := { r with cursor := first.cursor }) h h' hnext
          rw [hagrees.cursor_eq] at hrest'
          exact ⟨first :: rest, first' :: rest', last, loadPages_more hload hmore hrest,
            loadPages_more hload' (hagrees.hasMore_eq ▸ hmore) hrest', .cons hagrees hall⟩

end Client

/-! ### Main result -/

/-- **The order of columns does not matter.**  Two queries that are accepted and differ in
their two lists of columns only, so that the same columns are shown and the same columns are
fetched, load as many pages, and these agree one by one: in the rows, columns and values and
their order, in the count, and in whether and where the scan goes on.  They leave the same
store. -/
theorem column_order_immaterial (s : Store) (split : Bool) (clock : StateM Store Nat)
    (r : LoadRequest) (columns queryOnly : String) (p p' : Projection) (first first' : ResultSet)
    (haccepted : (perform ((Client.ofStore split clock).loadRange r) s).1 = .ok first)
    (haccepted' : (perform ((Client.ofStore split clock).loadRange
      { r with columns := columns, queryOnly := queryOnly }) s).1 = .ok first')
    (hp : r.projection = .ok p)
    (hp' : { r with columns := columns, queryOnly := queryOnly }.projection = .ok p')
    (houtput : ∀ column, column ∈ p.output ↔ column ∈ p'.output)
    (hfetched : ∀ column, column ∈ p.fetched ↔ column ∈ p'.fetched) (n : Nat) :
    ∃ pages pages' after,
      perform ((Client.ofStore split clock).loadPages n r) s = (.ok pages, after) ∧
      perform ((Client.ofStore split clock).loadPages n
        { r with columns := columns, queryOnly := queryOnly }) s = (.ok pages', after) ∧
      List.Forall₂ ResultSet.AgreesWith pages pages' := by
  have hfamily : p.family = p'.family :=
    (Projection.resolve_family hp).trans (Projection.resolve_family hp').symm
  obtain ⟨q, spec, hplan⟩ := Client.plan_of_accepted haccepted
  obtain ⟨q', spec', hplan'⟩ := Client.plan_of_accepted haccepted'
  obtain rfl : q = p := Except.ok.inj ((LoadRequest.plan_eq_ok hplan).2.1.symm.trans hp)
  obtain rfl : q' = p' := Except.ok.inj ((LoadRequest.plan_eq_ok hplan').2.1.symm.trans hp')
  exact Client.loadPages_agree n hplan hplan' ⟨hfamily, houtput, hfetched⟩ haccepted

/-- A store with three records of stream 7, of which the one in the middle is off. -/
def switchedRecords : Store :=
  Call.afterAll .empty [.createTable (.ofType "plant" .data),
    .putCells "plant_stream_realtime"
      [⟨"000000000007:922337203684500:north", "DF:temp", 1000, "21"⟩,
        ⟨"000000000007:922337203684500:north", "DF:state", 1000, "on"⟩,
        ⟨"000000000007:922337203684450:east", "DF:temp", 1050, "23"⟩,
        ⟨"000000000007:922337203684450:east", "DF:state", 1050, "off"⟩,
        ⟨"000000000007:922337203684400:south", "DF:temp", 1100, "22"⟩,
        ⟨"000000000007:922337203684400:south", "DF:state", 1100, "on"⟩,
        ⟨"000000000007:922337203684400:south", "DF:pressure", 1100, "5"⟩]]

/-- The cells of the two records that are on, in the order of a scan. -/
def switchedCells : List Cell :=
  [⟨"000000000007:922337203684400:south", "DF:pressure", 1100, "5"⟩,
    ⟨"000000000007:922337203684400:south", "DF:state", 1100, "on"⟩,
    ⟨"000000000007:922337203684400:south", "DF:temp", 1100, "22"⟩,
    ⟨"000000000007:922337203684500:north", "DF:state", 1000, "on"⟩,
    ⟨"000000000007:922337203684500:north", "DF:temp", 1000, "21"⟩]

/-- A query for two columns of the records of stream 7 that are on. -/
def switchedOn : LoadRequest where
  table := "plant"
  type := .data
  streamId := "7"
  columns := "temp,pressure"
  queryOnly := "state"
  constraint := some (.compare "state" .equal (.text "on"))
  limit := some 1

/-- What the query fetches. -/
def switchedColumns : Projection :=
  ⟨"DF", ["temp", "pressure"], ["state"], by decide, by decide⟩

/-- The same with the output columns turned around. -/
def turnedColumns : Projection :=
  ⟨"DF", ["pressure", "temp"], ["state"], by decide, by decide⟩

/-- The columns may be turned around, repeated and broken, and the query-only list may leave
out what the condition names: the two records show alike, on two pages. -/
theorem column_order_of_switched_records :
    ∃ pages pages' after,
      perform ((Client.ofStore true (pure 0)).loadPages 3 switchedOn) switchedRecords =
        (.ok pages, after) ∧
      perform ((Client.ofStore true (pure 0)).loadPages 3
          { switchedOn with columns := "pressure,t emp,pressure", queryOnly := "" })
        switchedRecords = (.ok pages', after) ∧
      List.Forall₂ ResultSet.AgreesWith pages pages' ∧
      pages.map (fun page => page.data.entries.map fun row => (row.1, row.2.entries)) =
        [[("1100:south", [("pressure", "5"), ("temp", "22")])], [("1000:north", [("temp", "21")])],
          []] := by
  obtain ⟨spec, t, hplan, htable⟩ : ∃ spec t, switchedOn.plan = .ok (switchedColumns, spec) ∧
      switchedRecords.tables.get? switchedOn.tableName = some t := ⟨_, _, rfl, rfl⟩
  obtain ⟨first, haccepted⟩ : ∃ first,
      (perform ((Client.ofStore true (pure 0)).loadRange switchedOn) switchedRecords).1 =
        .ok first := (Client.accepted_iff rfl).2 ⟨_, _, _, hplan, htable⟩
  obtain ⟨first', haccepted'⟩ : ∃ first',
      (perform ((Client.ofStore true (pure 0)).loadRange
          { switchedOn with columns := "pressure,t emp,pressure", queryOnly := "" })
        switchedRecords).1 = .ok first' := (Client.accepted_iff rfl).2 ⟨_, _, _, rfl, htable⟩
  obtain ⟨pages, pages', after, hpages, hpages', hagree⟩ :=
    column_order_immaterial switchedRecords true (pure 0) switchedOn "pressure,t emp,pressure" ""
      switchedColumns turnedColumns first first' haccepted haccepted' rfl rfl
      (fun _ => (List.Perm.swap ..).mem_iff) (fun _ => (List.Perm.swap ..).mem_iff) 3
  refine ⟨pages, pages', after, hpages, hpages', hagree, ?_⟩
  have hscan : t.scan spec = switchedCells := by
    cases hplan
    cases htable
    decide +kernel
  have hbatch : max spec.batch 1 = 3 := by
    cases hplan
    rfl
  have hcut : batches 3 switchedCells = [switchedCells.take 3, switchedCells.drop 3] := by
    simp [batches, switchedCells]
  have henough : (batches (max spec.batch 1) (t.scan spec)).length < 3 := by
    rw [hbatch, hscan, hcut]
    decide
  obtain ⟨_, hload⟩ := Client.loadPages_of_table hplan rfl htable henough
  obtain rfl : pages = _ := Except.ok.inj (congrArg Prod.fst (hpages.symm.trans hload))
  rw [hbatch, hscan, Client.resultsOf, hcut]
  rfl

end StreamStore
