import StreamStore.Gateway
import StreamStore.Proofs.Base64
import StreamStore.Proofs.JsonReadBack
import StreamStore.Proofs.RecordMembers
import StreamStore.Proofs.RowsOfCells

/-!
# Cell sets read back

A cell set groups cells by row.  What it groups them to is said without the map that
does it: the rows in the order of their first cells, and for each row its cells as
they stand in the list (`groupedByRow`).  So nothing is lost, nothing is merged, and
of the order of the cells only the mixing of rows; when the cells of each row stand
together (`RowsTogether`), the grouping changes nothing.

The document is read back in three steps, each undone by its own lemma: the text is
the document (`Json.parseAs_render`), the document is the rows (`ofJson?_toJson`), and
the rows in base64 are the cells (`toCells_ofCells`).
-/

namespace StreamStore

namespace CellSet

/-! ### The rows of a list of cells -/

theorem groups_eq_collect (cells : List Cell) :
    groups cells = .collect Cell.rowKey (fun c row => row ++ [encodeCell c]) [] cells := rfl

/-- The rows stand in the order of their first cells. -/
theorem keys_groups (cells : List Cell) : (groups cells).keys = rowsOf cells := by
  rw [groups_eq_collect, ArrivalMap.keys_collect, rowsOf]

/-- A row holds its cells in their order. -/
theorem get?_groups (cells : List Cell) (key : String) :
    ((groups cells).get? key).getD [] =
      (cells.filter fun c => c.rowKey == key).map encodeCell := by
  rw [groups_eq_collect, ArrivalMap.getD_collect, List.foldl_append_eq_append, List.nil_append,
    ← List.flatMap_def, List.map_eq_flatMap]

theorem ofCells_eq_map (cells : List Cell) :
    ofCells cells = (rowsOf cells).map fun key =>
      ⟨Base64.encode key, (cells.filter fun c => c.rowKey == key).map encodeCell⟩ := by
  rw [ofCells, ArrivalMap.entries_eq_map_keys (groups cells) [], keys_groups, List.map_map]
  apply List.map_congr_left
  intro key _
  show EncodedRow.mk (Base64.encode key) (((groups cells).get? key).getD []) = _
  rw [get?_groups]

/-! ### Rows in base64 -/

theorem decodeCell_encodeCell (c : Cell) : decodeCell c.rowKey (encodeCell c) = .ok c := by
  rw [decodeCell, encodeCell]
  simp only [decodeIdentifier_encode]
  rfl

theorem decodeRow_encode (key : String) {cells : List Cell} (h : ∀ c ∈ cells, c.rowKey = key) :
    decodeRow ⟨Base64.encode key, cells.map encodeCell⟩ = .ok cells := by
  have hcells : (cells.map encodeCell).mapM (decodeCell key) = .ok cells := by
    have hone : ∀ c ∈ cells, decodeCell key (encodeCell c) = .ok (id c) := by
      intro c hc
      rw [← h c hc]
      exact decodeCell_encodeCell c
    have hall := mapM_eq_ok hone
    rw [List.map_id] at hall
    rw [List.mapM_map]
    exact hall
  rw [decodeRow]
  dsimp only
  rw [decodeIdentifier_encode]
  exact hcells

/-- Decoding the rows of a list of cells gives the cells by row. -/
theorem toCells_ofCells (cells : List Cell) : toCells (ofCells cells) = .ok (groupedByRow cells) := by
  have hrows : (ofCells cells).mapM decodeRow = .ok
      ((rowsOf cells).map fun key =>
        cells.filter fun c => c.rowKey == key) := by
    rw [ofCells_eq_map, List.mapM_map]
    refine mapM_eq_ok fun key _ => decodeRow_encode key fun c hc => ?_
    exact eq_of_beq (List.mem_filter.1 hc).2
  rw [toCells, hrows]
  show Except.ok _ = Except.ok _
  rw [groupedByRow, List.flatMap_def]

/-! ### Rows as a document -/

/-- The timestamps of a cell set are words. -/
def Stamped (rows : CellSet) : Prop :=
  ∀ r ∈ rows, ∀ c ∈ r.cells, ∀ t, c.timestamp = some t → t < 18446744073709551616

theorem stamp?_ofNat {t : Nat} (h : t < 18446744073709551616) :
    Json.nullable? Json.word? (Json.ofNat t) = some (some t) := by
  have hword := Json.word?_ofNat h
  obtain ⟨hfits, heq⟩ := Json.ofNat_of_lt h
  rw [heq] at hword ⊢
  rw [Json.nullable?, hword]
  · rfl
  · exact nofun

/-- A cell with a timestamp, whatever document stands for it. -/
theorem cell?_of_stamp {column value : String} {stamp : Json} {time : Option Nat}
    (h : Json.nullable? Json.word? stamp = some time) :
    cell? (.object [("column", .string column), ("timestamp", stamp), ("$", .string value)]) =
      some ⟨column, time, value⟩ := by
  show (do
    let time ← Json.nullable? Json.word? stamp
    some (EncodedCell.mk column time value)) = _
  rw [h]
  rfl

theorem cell?_cellJson {c : EncodedCell}
    (h : ∀ t, c.timestamp = some t → t < 18446744073709551616) :
    cell? (cellJson c) = some c := by
  obtain ⟨column, timestamp, value⟩ := c
  cases timestamp with
  | none => rfl
  | some t => exact cell?_of_stamp (stamp?_ofNat (h t rfl))

/-- A row as JSON. -/
def rowJson (r : EncodedRow) : Json :=
  .object [("key", .string r.key), ("Cell", .array (r.cells.map cellJson))]

theorem row?_rowJson {r : EncodedRow}
    (h : ∀ c ∈ r.cells, ∀ t, c.timestamp = some t → t < 18446744073709551616) :
    row? (rowJson r) = some r := by
  have hcells : (r.cells.map cellJson).mapM cell? = some r.cells :=
    mapM_map_eq_some fun c hc => cell?_cellJson (h c hc)
  show (do
    let cells ← (r.cells.map cellJson).mapM cell?
    some (EncodedRow.mk r.key cells)) = _
  rw [hcells]
  rfl

/-- The document of rows describes these rows. -/
theorem ofJson?_toJson {rows : CellSet} (h : Stamped rows) : ofJson? rows.toJson = some rows := by
  show (rows.map rowJson).mapM row? = some rows
  exact mapM_map_eq_some fun r hr => row?_rowJson (h r hr)

/-! ### The text of a cell set -/

section Text

open Json

/-- The fields of a cell are texts and numbers, under the names that a reader expects. -/
theorem fields_cellJson (c : EncodedCell) :
    ∃ fields, cellJson c = .object fields ∧ ∀ e ∈ fields, e.1 ∈ cellMembers ∧ e.2.depth = 0 := by
  obtain ⟨column, timestamp, value⟩ := c
  cases timestamp with
  | none =>
      refine ⟨[("column", .string column), ("$", .string value)], rfl, ?_⟩
      simp [cellMembers, depth]
  | some t =>
      have hstamp : (Json.ofNat t).depth = 0 := depth_ofNat t
      refine ⟨[("column", .string column), ("timestamp", Json.ofNat t), ("$", .string value)],
        rfl, ?_⟩
      generalize Json.ofNat t = stamp at hstamp
      simp [cellMembers, depth, hstamp]

theorem depth_cellJson_le (c : EncodedCell) : (cellJson c).depth ≤ 1 := by
  obtain ⟨fields, hfields, hscalar⟩ := fields_cellJson c
  rw [hfields, depth]
  exact Nat.succ_le_succ (depthFields_le_iff.2 fun e he => (hscalar e he).2.le)

theorem depth_rowJson_le (r : EncodedRow) : (rowJson r).depth ≤ 3 := by
  have hcells : depthItems (r.cells.map cellJson) ≤ 1 := by
    refine depthItems_le_iff.2 fun v hv => ?_
    obtain ⟨c, -, rfl⟩ := List.mem_map.1 hv
    exact depth_cellJson_le c
  simp only [rowJson, depth, depthFields]
  omega

/-- A cell set has arrays and objects at most five deep. -/
theorem depth_toJson_le (rows : CellSet) : rows.toJson.depth ≤ 5 := by
  have hrows : depthItems (rows.map rowJson) ≤ 3 := by
    refine depthItems_le_iff.2 fun v hv => ?_
    obtain ⟨r, -, rfl⟩ := List.mem_map.1 hv
    exact depth_rowJson_le r
  show (Json.object [("Row", .array (rows.map rowJson))]).depth ≤ 5
  simp only [depth, depthFields]
  omega

theorem numbersReadBack_toJson (rows : CellSet) : rows.toJson.NumbersReadBack := by
  have hcell : ∀ c : EncodedCell, (cellJson c).NumbersReadBack := by
    rintro ⟨column, _ | t, value⟩ <;> simp [cellJson]
  simp [toJson, hcell]

theorem sees_cellJson (c : EncodedCell) : (Shape.ofNames cellMembers).Sees (cellJson c) := by
  obtain ⟨fields, hfields, hnames⟩ := fields_cellJson c
  rw [hfields, Shape.Sees, Shape.seesFields_iff]
  intro e he
  exact ⟨.whole, Shape.member?_ofNames (hnames e he).1, Shape.whole_sees e.2⟩

/-- A cell set has no members but those that a reader expects. -/
theorem shape_sees_toJson (rows : CellSet) : shape.Sees rows.toJson := by
  have hrow : ∀ r : EncodedRow,
      (Shape.record [("key", .whole), ("Cell", .list (.ofNames cellMembers))]).Sees (rowJson r) := by
    intro r
    rw [rowJson, Shape.Sees, Shape.seesFields_iff, List.forall_mem_cons, List.forall_mem_singleton]
    refine ⟨⟨.whole, rfl, Shape.whole_sees _⟩, .list (.ofNames cellMembers), rfl, ?_⟩
    rw [Shape.Sees, Shape.seesItems_list_iff, List.forall_mem_map]
    exact fun c _ => sees_cellJson c
  show shape.Sees (Json.object [("Row", .array (rows.map rowJson))])
  rw [Shape.Sees, Shape.seesFields_iff, List.forall_mem_singleton]
  refine ⟨.list (.record [("key", .whole), ("Cell", .list (.ofNames cellMembers))]), rfl, ?_⟩
  rw [Shape.Sees, Shape.seesItems_list_iff, List.forall_mem_map]
  exact fun r _ => hrow r

end Text

/-- The text of rows is read as these rows. -/
theorem parse_render {rows : CellSet} (h : Stamped rows) :
    CellSet.parse rows.toJson.render = .ok rows := by
  have hdepth : rows.toJson.depth ≤ Json.maxDepth := (depth_toJson_le rows).trans (by decide)
  rw [CellSet.parse, Json.parseAs_render hdepth (numbersReadBack_toJson rows)
    (shape_sees_toJson rows), Option.bind_some, ofJson?_toJson h]

theorem stamped_ofCells {cells : List Cell}
    (h : ∀ c ∈ cells, c.timestamp < 18446744073709551616) : Stamped (ofCells cells) := by
  intro r hr c hc t ht
  rw [ofCells_eq_map] at hr
  obtain ⟨key, -, rfl⟩ := List.mem_map.1 hr
  obtain ⟨d, hd, rfl⟩ := List.mem_map.1 hc
  obtain rfl : d.timestamp = t := Option.some.inj ht
  exact h d (List.mem_filter.1 hd).1

end CellSet

/-- **The document of a cell set loses, merges and reorders nothing** beyond the
grouping by row.  The body that writes cells is the text of their cell set; reading it
gives the cells by row, and exactly the cells when those of each row stand together. -/
theorem cellSet_document_faithful (cells : List Cell)
    (hstamps : ∀ c ∈ cells, c.timestamp < 18446744073709551616) :
    (∀ (g : Gateway) (table : String) (first : Cell),
        (g.putCellsRequest table first cells).body = (CellSet.ofCells cells).toJson.render) ∧
      (CellSet.parse (CellSet.ofCells cells).toJson.render).bind CellSet.toCells =
        .ok (groupedByRow cells) ∧
      (RowsTogether cells →
        (CellSet.parse (CellSet.ofCells cells).toJson.render).bind CellSet.toCells = .ok cells) := by
  have hread : (CellSet.parse (CellSet.ofCells cells).toJson.render).bind CellSet.toCells =
      .ok (groupedByRow cells) := by
    rw [CellSet.parse_render (CellSet.stamped_ofCells hstamps)]
    exact CellSet.toCells_ofCells cells
  refine ⟨fun _ _ _ => rfl, hread, fun htogether => ?_⟩
  rw [hread, groupedByRow_of_together htogether]

/-- Cells of two rows, one between the others, the last two at one column. -/
def mixedCells : List Cell :=
  [⟨"a", "DF:temp", 18446744073709551615, "21"⟩, ⟨"b", "DF:ä\"", 0, ""⟩, ⟨"a", "DF:x", 7, "𝄞"⟩,
    ⟨"a", "DF:x", 7, "22"⟩]

theorem mixedCells_faithful :
    (∀ c ∈ mixedCells, c.timestamp < 18446744073709551616) ∧
      (CellSet.parse (CellSet.ofCells mixedCells).toJson.render).bind CellSet.toCells =
        .ok [⟨"a", "DF:temp", 18446744073709551615, "21"⟩, ⟨"a", "DF:x", 7, "𝄞"⟩,
          ⟨"a", "DF:x", 7, "22"⟩, ⟨"b", "DF:ä\"", 0, ""⟩] ∧
      RowsTogether (mixedCells.drop 2) ∧
      (CellSet.parse (CellSet.ofCells (mixedCells.drop 2)).toJson.render).bind CellSet.toCells =
        .ok (mixedCells.drop 2) := by
  have hstamps : ∀ c ∈ mixedCells, c.timestamp < 18446744073709551616 := by decide
  have htogether : RowsTogether (mixedCells.drop 2) := by
    intro before c between d after hsplit _ e he
    have hkeys : ∀ a ∈ mixedCells.drop 2, a.rowKey = "a" := by decide
    have hc : c.rowKey = "a" := hkeys c (by rw [hsplit]; simp)
    rw [hc]
    exact hkeys e (by rw [hsplit]; simp [he])
  exact ⟨hstamps, (cellSet_document_faithful mixedCells hstamps).2.1, htogether,
    (cellSet_document_faithful (mixedCells.drop 2) (by decide)).2.2 htogether⟩

end StreamStore
