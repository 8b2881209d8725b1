import StreamStore.Proofs.KeySegments
import StreamStore.Proofs.ResultRows

/-!
# Rows named by time and node

With split names the row of a cell is called by the cell's timestamp and the third
segment of its key.  For the cells of one stream this is meant to name records: rows of
different records are different, and the row of a record is `timestamp:node`.

Names and keys cut the node id differently, so this holds as far as the nodes allow it:

* records of one time share a row exactly when their nodes agree up to the first
  separator (`rowIdentity_eq_iff`), so rows are those of records exactly when no two
  nodes of one time differ only behind it (`keepsRecordsApart_iff`);
* a row bears the whole node id exactly when that has no separator (`namesRecords_iff`).

Where records are kept apart, what stands in a row comes from its own record
(`valueAt?_of_keepsRecordsApart`).
-/

namespace StreamStore

/-- Whether a cell shows in a page. -/
def Shows (p : Projection) (c : Cell) : Prop :=
  (ResultSet.shownColumn? p c).isSome = true

instance (p : Projection) (c : Cell) : Decidable (Shows p c) :=
  inferInstanceAs (Decidable (_ = true))

/-- Whether the cells that show are in one row of a split page exactly when they have
one row key. -/
def KeepsRecordsApart (p : Projection) (cells : List Cell) : Prop :=
  ∀ c ∈ cells, ∀ d ∈ cells, Shows p c → Shows p d →
    (rowIdentity true c = rowIdentity true d ↔ c.rowKey = d.rowKey)

/-- Whether the rows of a split page are named by the times and the node ids of their
records. -/
def NamesRecords (p : Projection) (cells : List Cell) : Prop :=
  ∀ c ∈ cells, Shows p c →
    ∃ node, c.node? = some node ∧ rowIdentity true c = splitName c.timestamp node

section

variable {s : String} {p : Projection} {cells : List Cell}

/-- Two records of a stream share a row when they have one time and their nodes agree up
to the first separator. -/
theorem rowIdentity_eq_iff {c d : Cell} {m n : String} (hs : separator ∉ s.toList)
    (hc : c.Records s m) (hd : d.Records s n) :
    rowIdentity true c = rowIdentity true d ↔
      c.timestamp = d.timestamp ∧ nodeHead m = nodeHead n := by
  rw [rowIdentity_of_records hs hc, rowIdentity_of_records hs hd, splitName_inj]

/-- Rows are those of records exactly when the nodes of one time that agree up to the
first separator are the same. -/
theorem keepsRecordsApart_iff (hs : separator ∉ s.toList)
    (hcells : ∀ c ∈ cells, ∃ node, c.Records s node) :
    KeepsRecordsApart p cells ↔
      ∀ c ∈ cells, ∀ d ∈ cells, Shows p c → Shows p d → c.timestamp = d.timestamp →
        ∀ m n, c.node? = some m → d.node? = some n → nodeHead m = nodeHead n → m = n := by
  refine forall₂_congr fun c hc => forall₂_congr fun d hd => forall₂_congr fun _ _ => ?_
  obtain ⟨m, hm⟩ := hcells c hc
  obtain ⟨n, hn⟩ := hcells d hd
  rw [rowIdentity_eq_iff hs hm hn, rowKey_eq_iff_of_records hs hm hn, node?_of_records hs hm,
    node?_of_records hs hn]
  constructor
  · rintro hiff htime _ _ ⟨⟩ ⟨⟩ hheads
    exact (hiff.1 ⟨htime, hheads⟩).2
  · intro hnodes
    refine and_congr_right fun htime => ⟨hnodes htime m n rfl rfl, ?_⟩
    rintro rfl
    rfl

/-- The names of rows are those of records exactly when no node has a separator. -/
theorem namesRecords_iff (hs : separator ∉ s.toList)
    (hcells : ∀ c ∈ cells, ∃ node, c.Records s node) :
    NamesRecords p cells ↔
      ∀ c ∈ cells, Shows p c → ∀ n, c.node? = some n → separator ∉ n.toList := by
  refine forall₂_congr fun c hc => forall_congr' fun _ => ?_
  obtain ⟨n, hn⟩ := hcells c hc
  rw [node?_of_records hs hn, rowIdentity_of_records hs hn]
  constructor
  · rintro ⟨_, ⟨⟩, hname⟩ _ ⟨⟩
    exact nodeHead_eq_self_iff.1 (splitName_inj.1 hname).2
  · intro hnodes
    exact ⟨n, rfl, by rw [nodeHead_eq_self_iff.2 (hnodes n rfl)]⟩

/-- A page that names records keeps them apart. -/
theorem keepsRecordsApart_of_namesRecords (hs : separator ∉ s.toList)
    (hcells : ∀ c ∈ cells, ∃ node, c.Records s node) (h : NamesRecords p cells) :
    KeepsRecordsApart p cells := by
  have hnodes := (namesRecords_iff hs hcells).1 h
  refine (keepsRecordsApart_iff hs hcells).2 ?_
  intro c hc d hd hshown hshown' _ m n hm hn hheads
  rwa [nodeHead_eq_self_iff.2 (hnodes c hc hshown m hm),
    nodeHead_eq_self_iff.2 (hnodes d hd hshown' n hn)] at hheads

/-- Where records are kept apart, a value is overwritten by values of its own record only. -/
theorem valueAt?_of_keepsRecordsApart (cursor : Cursor) (h : KeepsRecordsApart p cells) {c : Cell}
    (hc : c ∈ cells) {column : String} (hcolumn : ResultSet.shownColumn? p c = some column) :
    (ResultSet.ofCells cells p true cursor).valueAt? (rowIdentity true c) column =
      (cells.filter fun d => ResultSet.shownColumn? p d == some column &&
        d.rowKey == c.rowKey).getLast?.map Cell.value := by
  have hsame : ResultSet.shownAt p true cells (rowIdentity true c) column =
      cells.filter fun d => ResultSet.shownColumn? p d == some column && d.rowKey == c.rowKey := by
    apply List.filter_congr
    intro d hd
    by_cases hdcolumn : ResultSet.shownColumn? p d = some column
    · have hshown : Shows p d := Option.isSome_of_eq_some hdcolumn
      have hrows := h d hd c hc hshown (Option.isSome_of_eq_some hcolumn)
      rw [hdcolumn, beq_self_eq_true, Bool.true_and, Bool.true_and, Bool.eq_iff_iff, beq_iff_eq,
        beq_iff_eq]
      exact hrows
    · rw [beq_false_of_ne hdcolumn, Bool.false_and, Bool.false_and]
  rw [ResultSet.valueAt?_ofCells, hsame]

end

/-! ### Main result -/

/-- **What split rows hold.**  A page of the records of one stream has, for each cell that
shows, the row `timestamp:node` with the node up to its first separator.  So two of these
cells are in one row exactly when they have one row key, as long as no two nodes of one
time differ only behind their first separators; then nothing is overwritten by another
record.  And rows bear whole node ids exactly when no node has a separator, which is
enough to keep all records apart. -/
theorem split_rows_hold_records_iff (s : String) (p : Projection) (cells : List Cell)
    (cursor : Cursor) (hs : separator ∉ s.toList)
    (hcells : ∀ c ∈ cells, ∃ node, c.Records s node) :
    (∀ c ∈ cells, Shows p c → ∃ node, c.node? = some node ∧
        rowIdentity true c = splitName c.timestamp (nodeHead node) ∧
        rowIdentity true c ∈ (ResultSet.ofCells cells p true cursor).data.keys) ∧
      (KeepsRecordsApart p cells ↔
        ∀ c ∈ cells, ∀ d ∈ cells, Shows p c → Shows p d → c.timestamp = d.timestamp →
          ∀ m n, c.node? = some m → d.node? = some n → nodeHead m = nodeHead n → m = n) ∧
      (KeepsRecordsApart p cells →
        ∀ c ∈ cells, ∀ column, ResultSet.shownColumn? p c = some column →
          (ResultSet.ofCells cells p true cursor).valueAt? (rowIdentity true c) column =
            (cells.filter fun d => ResultSet.shownColumn? p d == some column &&
              d.rowKey == c.rowKey).getLast?.map Cell.value) ∧
      (NamesRecords p cells ↔
        ∀ c ∈ cells, Shows p c → ∀ n, c.node? = some n → separator ∉ n.toList) ∧
      (NamesRecords p cells → KeepsRecordsApart p cells) := by
  refine ⟨?_, keepsRecordsApart_iff hs hcells, ?_, namesRecords_iff hs hcells,
    keepsRecordsApart_of_namesRecords hs hcells⟩
  · intro c hc hshown
    obtain ⟨node, hnode⟩ := hcells c hc
    refine ⟨node, node?_of_records hs hnode, rowIdentity_of_records hs hnode, ?_⟩
    exact ResultSet.mem_keys_ofCells.2 ⟨c, hc, hshown, rfl⟩
  · intro hapart c hc column hcolumn
    exact valueAt?_of_keepsRecordsApart cursor hapart hc hcolumn

/-- A query for temperatures. -/
def temperatureColumn : Projection where
  family := "DF"
  output := ["temp"]
  hidden := []
  output_ne_nil := by decide
  distinct := by decide

/-- The temperature of a node of stream 7 after a second. -/
def nodeCell (node value : String) : Cell where
  rowKey := (RowKey.mk (padStream "7") 922337203684500 node (by decide)).text
  qualifier := "DF:temp"
  timestamp := 1000
  value := value

theorem nodeCell_records (node value : String) : (nodeCell node value).Records "7" node :=
  ⟨_, RowKey.encode_eq_ok (t := 1000) (by decide), rfl⟩

theorem node?_nodeCell (node value : String) : (nodeCell node value).node? = some node :=
  node?_of_records (by decide) (nodeCell_records node value)

/-- Nodes that differ before their separators have rows of their own, though not under
their whole names. -/
theorem split_rows_of_two_nodes :
    separator ∉ "7".toList ∧
      (∀ c ∈ [nodeCell "a:1" "21", nodeCell "b:1" "22"], ∃ node, c.Records "7" node) ∧
      KeepsRecordsApart temperatureColumn [nodeCell "a:1" "21", nodeCell "b:1" "22"] ∧
      ¬NamesRecords temperatureColumn [nodeCell "a:1" "21", nodeCell "b:1" "22"] := by
  have hs : separator ∉ "7".toList := by decide
  have hcells : ∀ c ∈ [nodeCell "a:1" "21", nodeCell "b:1" "22"], ∃ node, c.Records "7" node := by
    intro c hc
    rcases List.mem_cons.1 hc with rfl | hc
    · exact ⟨"a:1", nodeCell_records "a:1" "21"⟩
    · obtain rfl := List.mem_singleton.1 hc
      exact ⟨"b:1", nodeCell_records "b:1" "22"⟩
  obtain ⟨-, hapart, -, hnames, -⟩ :=
    split_rows_hold_records_iff "7" temperatureColumn _ .fresh hs hcells
  refine ⟨hs, hcells, hapart.2 ?_, fun h => ?_⟩
  · intro c hc d hd _ _ _ m n hm hn hheads
    simp only [List.mem_cons, List.not_mem_nil, or_false] at hc hd
    rcases hc with rfl | rfl <;> rcases hd with rfl | rfl <;>
      (rw [node?_nodeCell] at hm hn; cases hm; cases hn)
    · rfl
    · exact absurd hheads (by decide)
    · exact absurd hheads (by decide)
    · rfl
  · exact hnames.1 h _ List.mem_cons_self (by decide) "a:1" (node?_nodeCell _ _) (by decide)

/-- Nodes that differ behind their first separators only share a row, and the temperature
of the first one is lost. -/
theorem split_rows_merge_two_nodes :
    (nodeCell "a:1" "21").rowKey ≠ (nodeCell "a:2" "22").rowKey ∧
      ¬KeepsRecordsApart temperatureColumn [nodeCell "a:1" "21", nodeCell "a:2" "22"] ∧
      (ResultSet.ofCells [nodeCell "a:1" "21", nodeCell "a:2" "22"] temperatureColumn true
        .fresh).count = 1 ∧
      (ResultSet.ofCells [nodeCell "a:1" "21", nodeCell "a:2" "22"] temperatureColumn true
        .fresh).valueAt? "1000:a" "temp" = some "22" := by
  have hkeys : (nodeCell "a:1" "21").rowKey ≠ (nodeCell "a:2" "22").rowKey := by decide
  refine ⟨hkeys, fun hapart => hkeys ?_, by decide, by decide⟩
  have hsecond : nodeCell "a:2" "22" ∈ [nodeCell "a:1" "21", nodeCell "a:2" "22"] :=
    List.mem_cons_of_mem _ List.mem_cons_self
  exact (hapart _ List.mem_cons_self _ hsecond (by decide) (by decide)).1 (by decide)

end StreamStore
