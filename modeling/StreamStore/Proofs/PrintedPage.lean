import StreamStore.Command
import StreamStore.Proofs.CanonicalForm
import StreamStore.Proofs.ResultDocument
import StreamStore.Proofs.ResultRows
import StreamStore.Store

/-!
# Pages as a command prints them

The order of a page is part of the page, and its own text keeps it.  A command prints
the page by way of the canonical form of its document, though, and in that form the
keys of every object ascend.  So what is printed is the page with its columns, its rows
and the columns of each row in ascending order of their names (`ResultSet.sorted`,
`canonical_toJson`): no name and no value is lost (`SameContents`), but the order is.

Hence the printed page is the page in its own order exactly when the names of the page
ascend already (`ResultSet.Ascending`).  The names of the rows of a split page begin
with timestamps, and a page runs from the newest row to the oldest, so such a page is
printed the other way round as soon as its timestamps are equally wide.
-/

namespace StreamStore

/-! ### Maps in ascending order -/

namespace ArrivalMap

variable {β γ : Type}

/-- Whether the keys ascend. -/
def Ascends (m : ArrivalMap β) : Prop :=
  m.keys.Pairwise (· < ·)

instance (m : ArrivalMap β) : Decidable m.Ascends :=
  inferInstanceAs (Decidable (m.keys.Pairwise (· < ·)))

/-- The map with the same entries in ascending order of their keys. -/
def sorted (m : ArrivalMap β) : ArrivalMap β :=
  ⟨(SortedMap.ofList m.entries).entries, (SortedMap.ofList m.entries).nodup_keys⟩

/-- The map with what `f` makes of every value. -/
def mapValues (f : β → γ) (m : ArrivalMap β) : ArrivalMap γ :=
  ⟨m.entries.map fun e => (e.1, f e.2), by rw [List.map_map]; exact m.distinct⟩

theorem ascends_iff {m : ArrivalMap β} :
    m.Ascends ↔ m.entries.Pairwise fun a b => a.1 < b.1 :=
  List.pairwise_map

theorem ascends_sorted (m : ArrivalMap β) : m.sorted.Ascends :=
  ascends_iff.2 (SortedMap.ofList m.entries).ascending

theorem entries_sorted_perm (m : ArrivalMap β) : m.sorted.entries.Perm m.entries :=
  SortedMap.ofList_perm m.distinct

@[simp] theorem keys_mapValues (f : β → γ) (m : ArrivalMap β) :
    (m.mapValues f).keys = m.keys := by
  rw [keys, mapValues, List.map_map]
  rfl

/-- A map whose keys descend is turned round. -/
theorem keys_sorted_of_descends {m : ArrivalMap β} (h : m.keys.Pairwise fun a b => b < a) :
    m.sorted.keys = m.keys.reverse := by
  have hperm : m.sorted.keys.Perm m.keys.reverse :=
    (m.entries_sorted_perm.map Prod.fst).trans (List.reverse_perm m.keys).symm
  exact hperm.eq_of_pairwise
    (fun a b _ _ hab hba => absurd (String.lt_trans hab hba) (String.lt_irrefl _))
    m.ascends_sorted (List.pairwise_reverse.2 h)

theorem mem_keys_sorted {m : ArrivalMap β} {k : String} : k ∈ m.sorted.keys ↔ k ∈ m.keys :=
  (m.entries_sorted_perm.map Prod.fst).mem_iff

@[simp] theorem get?_sorted (m : ArrivalMap β) (k : String) : m.sorted.get? k = m.get? k := by
  refine Option.ext fun v => ?_
  rw [get?_eq_some_iff, get?_eq_some_iff]
  exact m.entries_sorted_perm.mem_iff

@[simp] theorem get?_mapValues (f : β → γ) (m : ArrivalMap β) (k : String) :
    (m.mapValues f).get? k = (m.get? k).map f := by
  obtain ⟨es, hes⟩ := m
  show lookup k (es.map fun e => (e.1, f e.2)) = (lookup k es).map f
  clear hes
  induction es with
  | nil => rfl
  | cons e es ih =>
      rw [List.map_cons, lookup, lookup, ih]
      split <;> rfl

end ArrivalMap

/-! ### Pages in ascending order -/

namespace ResultSet

/-- Whether the names of a page ascend: those of its columns, those of its rows, and
those of the columns of every row. -/
structure Ascending (r : ResultSet) : Prop where
  /-- The columns ascend. -/
  columns : r.columns.Ascends
  /-- The rows ascend. -/
  rows : r.data.Ascends
  /-- The columns of every row ascend. -/
  values : ∀ e ∈ r.data.entries, e.2.Ascends

/-- Whether two pages differ in nothing but their order. -/
structure SameContents (r t : ResultSet) : Prop where
  /-- They have the same columns in the same places. -/
  columns : ∀ column, r.columns.get? column = t.columns.get? column
  /-- They count the same. -/
  count : r.count = t.count
  /-- They have the same rows. -/
  rows : ∀ row, row ∈ r.data.keys ↔ row ∈ t.data.keys
  /-- They have the same values in each row. -/
  values : ∀ row column, r.valueAt? row column = t.valueAt? row column
  /-- They go on in the same place. -/
  cursor : r.cursor = t.cursor

/-- The page with all its names in ascending order. -/
def sorted (r : ResultSet) : ResultSet where
  columns := r.columns.sorted
  count := r.count
  data := r.data.sorted.mapValues ArrivalMap.sorted
  cursor := r.cursor

theorem ascending_sorted (r : ResultSet) : r.sorted.Ascending := by
  have hrows : r.sorted.data.Ascends := by
    rw [ArrivalMap.Ascends, sorted, ArrivalMap.keys_mapValues]
    exact r.data.ascends_sorted
  refine ⟨r.columns.ascends_sorted, hrows, fun e he => ?_⟩
  obtain ⟨d, -, rfl⟩ := List.mem_map.1 he
  exact d.2.ascends_sorted

/-- Rows that descend are turned round. -/
theorem keys_sorted_of_descends {r : ResultSet} (h : r.data.keys.Pairwise fun a b => b < a) :
    r.sorted.data.keys = r.data.keys.reverse :=
  (ArrivalMap.keys_mapValues _ _).trans (ArrivalMap.keys_sorted_of_descends h)

theorem sameContents_sorted (r : ResultSet) : r.sorted.SameContents r where
  columns := r.columns.get?_sorted
  count := rfl
  rows row := by
    rw [sorted, ArrivalMap.keys_mapValues, ArrivalMap.mem_keys_sorted]
  values row column := by
    rw [valueAt?, valueAt?, valueIn?, valueIn?, sorted, ArrivalMap.get?_mapValues,
      ArrivalMap.get?_sorted]
    cases r.data.get? row with
    | none => rfl
    | some values => exact values.get?_sorted column
  cursor := rfl

end ResultSet

/-! ### Canonical forms -/

namespace Json

variable {β γ : Type}

theorem ofMap_mapValues (write : γ → Json) (f : β → γ) (m : ArrivalMap β) :
    ofMap write (m.mapValues f) = ofMap (fun v => write (f v)) m := by
  rw [ofMap, ofMap, ArrivalMap.mapValues, List.map_map]
  rfl

/-- The canonical form of a map is the map in ascending order. -/
theorem canonical_ofMap (write : β → Json) (m : ArrivalMap β) :
    (ofMap write m).canonical = ofMap (fun v => (write v).canonical) m.sorted := by
  rw [ofMap, canonical, canonicalFields_eq_map, List.map_map, sortFields]
  exact congrArg Json.object (SortedMap.entries_ofList_map (fun v => (write v).canonical) m.entries)

theorem canonical_ofMap_eq_self_iff {write : β → Json} {m : ArrivalMap β} :
    (ofMap write m).canonical = ofMap write m ↔
      m.Ascends ∧ ∀ e ∈ m.entries, (write e.2).canonical = write e.2 := by
  rw [ofMap, canonical_object_eq_self_iff, List.pairwise_map, ArrivalMap.ascends_iff,
    List.forall_mem_map]

@[simp] theorem canonical_ofNat (n : Nat) : (ofNat n).canonical = ofNat n := by
  unfold ofNat
  split <;> rfl

/-- What is printed for a document reads back as its canonical form. -/
theorem parse_render_document {v : Json} (h : v.depth ≤ maxDepth)
    (hnumbers : v.canonical.NumbersReadBack) :
    parse (Output.document v).render = some v.canonical :=
  parse_renderPretty_line ((depth_canonical_le v).trans h) hnumbers

end Json

namespace ResultSet

open Json

/-- The members of a page stand in ascending order as they are. -/
theorem ascending_members (columns count data cursor : Json) :
    [("columns", columns), ("count", count), ("data", data), ("scannerId", cursor)].Pairwise
      fun a b => a.1 < b.1 :=
  List.pairwise_map.1 (show memberNames.Pairwise (· < ·) by decide)

theorem canonical_cursor (c : Cursor) : c.toJson.canonical = c.toJson := by
  rcases c with ⟨_ | id⟩ <;> rfl

/-- The canonical form of a page is the page in ascending order. -/
theorem canonical_toJson (r : ResultSet) : r.toJson.canonical = r.sorted.toJson := by
  have hcolumns : (ofMap Json.ofNat r.columns).canonical = ofMap Json.ofNat r.columns.sorted := by
    rw [canonical_ofMap]
    simp only [canonical_ofNat]
  have hrow (row : ArrivalMap String) :
      (ofMap Json.string row).canonical = ofMap Json.string row.sorted := by
    rw [canonical_ofMap]
    simp only [canonical]
  have hdata : (ofMap (ofMap Json.string) r.data).canonical =
      ofMap (ofMap Json.string) (r.data.sorted.mapValues ArrivalMap.sorted) := by
    rw [canonical_ofMap, ofMap_mapValues]
    simp only [hrow]
  rw [toJson, canonical, canonicalFields_eq_map]
  simp only [List.map_cons, List.map_nil, hcolumns, canonical_ofNat, hdata, canonical_cursor]
  rw [sortFields_of_ascending (ascending_members _ _ _ _)]
  rfl

/-- A page is printed in its own order when its names ascend, and only then. -/
theorem canonical_toJson_eq_self_iff {r : ResultSet} :
    r.toJson.canonical = r.toJson ↔ r.Ascending := by
  have hcolumns : (ofMap Json.ofNat r.columns).canonical = ofMap Json.ofNat r.columns ↔
      r.columns.Ascends :=
    canonical_ofMap_eq_self_iff.trans (and_iff_left fun e _ => canonical_ofNat e.2)
  have hrow (row : ArrivalMap String) :
      (ofMap Json.string row).canonical = ofMap Json.string row ↔ row.Ascends :=
    canonical_ofMap_eq_self_iff.trans (and_iff_left fun e _ => by rw [canonical])
  have hdata : (ofMap (ofMap Json.string) r.data).canonical = ofMap (ofMap Json.string) r.data ↔
      r.data.Ascends ∧ ∀ e ∈ r.data.entries, e.2.Ascends :=
    canonical_ofMap_eq_self_iff.trans
      (and_congr_right fun _ => forall₂_congr fun e _ => hrow e.2)
  rw [toJson, canonical_object_eq_self_iff, and_iff_right (ascending_members _ _ _ _)]
  simp only [List.forall_mem_cons, List.not_mem_nil, hcolumns, hdata, canonical_ofNat,
    canonical_cursor, true_and, and_true, false_implies, implies_true]
  constructor
  · rintro ⟨hc, hr, hv⟩
    exact ⟨hc, hr, hv⟩
  · rintro ⟨hc, hr, hv⟩
    exact ⟨hc, hr, hv⟩

/-- What is printed for a page reads back as the page in ascending order. -/
theorem parse_render_document (r : ResultSet) :
    Json.parse (Output.document r.toJson).render = some r.sorted.toJson := by
  have hcanonical := canonical_toJson r
  have hnumbers : r.toJson.canonical.NumbersReadBack := hcanonical ▸ numbersReadBack_toJson r.sorted
  rw [Json.parse_render_document ((depth_toJson_le r).trans (by decide)) hnumbers, hcanonical]

end ResultSet

/-! ### The commands that print a page -/

section Commands

variable {m : Type → Type} [Monad m]

/-- How a command gets the page that it prints, if it prints one. -/
def StoreCommand.page? (c : Client m) : StoreCommand → Option (Access m ResultSet)
  | scan request constraint => some do
      let r ← liftFault .constraint (request.constrain constraint)
      c.loadRange r
  | get table type rowKey columns => some (c.getRow table type rowKey columns)
  | close _ _ _ => none
  | put _ _ => none
  | createTable _ _ => none

/-- A command that prints a page answers the document of that page. -/
theorem StoreCommand.run_of_page? [LawfulMonad m] {c : Client m} {command : StoreCommand}
    {load : Access m ResultSet} (h : command.page? c = some load) :
    command.run c = load >>= fun page => pure (.document page.toJson) := by
  cases command with
  | scan request constraint =>
      obtain rfl := Option.some.inj h
      rw [run, bind_assoc]
  | get table type rowKey columns =>
      obtain rfl := Option.some.inj h
      rw [run]
  | close table type scanner => cases h
  | put table request => cases h
  | createTable table type => cases h

end Commands

/-- What such a command prints. -/
theorem StoreCommand.render_run_of_page? {σ : Type} {c : Client (StateM σ)}
    {command : StoreCommand} {load : Access (StateM σ) ResultSet} {s : σ} {page : ResultSet}
    (hload : command.page? c = some load) (hpage : (perform load s).1 = .ok page) :
    (perform (command.run c) s).1.map Output.render =
      .ok (Output.document page.toJson).render := by
  rw [StoreCommand.run_of_page? hload, perform_bind_pure, hpage]
  rfl

/-- **What is printed of a page.**  A command that loads a page prints a text; read back,
it is a page with the same names and values, whose columns, rows and columns of each row
ascend.  It is the page in its own order exactly when the page's own names ascend. -/
theorem printed_page_ascends {σ : Type} (c : Client (StateM σ)) (command : StoreCommand)
    (load : Access (StateM σ) ResultSet) (s : σ) (page : ResultSet)
    (hload : command.page? c = some load) (hpage : (perform load s).1 = .ok page) :
    ∃ text, (perform (command.run c) s).1.map Output.render = .ok text ∧
      (∃ printed : ResultSet, Json.parse text = some printed.toJson ∧
        printed.SameContents page ∧ printed.Ascending) ∧
      (Json.parse text = some page.toJson ↔ page.Ascending) := by
  have hread : Json.parse (Output.document page.toJson).render = some page.sorted.toJson :=
    page.parse_render_document
  refine ⟨_, StoreCommand.render_run_of_page? hload hpage,
    ⟨page.sorted, hread, page.sameContents_sorted, page.ascending_sorted⟩, ?_⟩
  rw [hread, Option.some_inj, ← ResultSet.canonical_toJson]
  exact ResultSet.canonical_toJson_eq_self_iff

/-! ### A scan of two records -/

/-- A table with two records of the stream `42`; the newer one has the smaller key. -/
def northAndSouth : Table :=
  [⟨"000000000042:922337203684500:north", "DF:temp", 1000, "21"⟩,
    ⟨"000000000042:922337203684400:south", "DF:temp", 1100, "22"⟩].foldl Table.write
      ⟨["DF"], .empty⟩

/-- A store with the table of the two records. -/
def recordsStore : Store :=
  { Store.empty with tables := .ofList [("plant_stream_realtime", northAndSouth)] }

/-- A client of a store, which names rows by timestamp and node, or by key. -/
def recordsClient (split : Bool) : Client (StateM Store) :=
  ⟨Store.backend, split, pure 0⟩

/-- A request for the records of the stream. -/
def recordsRequest : LoadRequest where
  table := "plant"
  type := .data
  streamId := "42"
  columns := "temp"

/-- The page of the two records, the newer one first, with given names of the rows. -/
def recordsPage (newer older : String) : ResultSet where
  columns := .ofList [("temp", 0)]
  count := 2
  data := .ofList [(newer, .ofList [("temp", "22")]), (older, .ofList [("temp", "21")])]
  cursor := .resume (scannerId 0)

/-- The page of the two records when rows are named by their keys. -/
def keyedPage : ResultSet :=
  recordsPage "000000000042:922337203684400:south" "000000000042:922337203684500:north"

/-- The page of the two records when rows are named by timestamp and node. -/
def splitPage : ResultSet :=
  recordsPage "1100:south" "1000:north"

/-- Keys ascend from the newest record to the oldest, so a page whose rows are named by
their keys is printed as it is. -/
theorem scan_by_key_printed_in_order :
    (StoreCommand.scan recordsRequest none).page? (recordsClient false) =
        some ((recordsClient false).loadRange recordsRequest) ∧
      (perform ((recordsClient false).loadRange recordsRequest) recordsStore).1 = .ok keyedPage ∧
      ∃ text, (perform ((StoreCommand.scan recordsRequest none).run (recordsClient false))
          recordsStore).1.map Output.render = .ok text ∧
        Json.parse text = some keyedPage.toJson := by
  have hload : (StoreCommand.scan recordsRequest none).page? (recordsClient false) =
      some ((recordsClient false).loadRange recordsRequest) := rfl
  have hpage : (perform ((recordsClient false).loadRange recordsRequest) recordsStore).1 =
      .ok keyedPage :=
    eq_ok_of_toOption (by decide +kernel)
  have hascending : keyedPage.Ascending := ⟨by decide, by decide, by decide⟩
  obtain ⟨text, htext, -, horder⟩ := printed_page_ascends _ _ _ _ _ hload hpage
  exact ⟨hload, hpage, text, htext, horder.2 hascending⟩

/-- Timestamps ascend from the oldest record to the newest, so a page whose rows are named
by timestamp and node is printed the other way round. -/
theorem scan_by_timestamp_printed_reversed :
    (perform ((recordsClient true).loadRange recordsRequest) recordsStore).1 = .ok splitPage ∧
      splitPage.data.keys = ["1100:south", "1000:north"] ∧
      ∃ (text : String) (printed : ResultSet),
        (perform ((StoreCommand.scan recordsRequest none).run (recordsClient true))
          recordsStore).1.map Output.render = .ok text ∧
        Json.parse text = some printed.toJson ∧
        printed.data.keys = ["1000:north", "1100:south"] ∧
        Json.parse text ≠ some splitPage.toJson := by
  have hpage : (perform ((recordsClient true).loadRange recordsRequest) recordsStore).1 =
      .ok splitPage :=
    eq_ok_of_toOption (by decide +kernel)
  have hread : Json.parse (Output.document splitPage.toJson).render =
      some splitPage.sorted.toJson :=
    splitPage.parse_render_document
  have hreversed : splitPage.sorted.data.keys = splitPage.data.keys.reverse :=
    ResultSet.keys_sorted_of_descends (by decide)
  refine ⟨hpage, by decide, _, splitPage.sorted, StoreCommand.render_run_of_page? rfl hpage,
    hread, hreversed.trans (by decide), ?_⟩
  rw [hread, ← ResultSet.canonical_toJson]
  intro hsame
  have hascending := ResultSet.canonical_toJson_eq_self_iff.1 (Option.some.inj hsame)
  exact absurd hascending.rows (by decide)

end StreamStore
