import StreamStore.Proofs.ClientPages
import StreamStore.Proofs.ConstraintMeaning
import StreamStore.Proofs.SnapshotScan
import StreamStore.Proofs.StoreCalls

/-!
# Which rows a constrained query finds

A constraint is meant to be evaluated on the stored contents of a row
(`Row.stored?`).  It is evaluated on the columns that were fetched, and a column
that was not fetched looks like one that is not stored, of which every comparison
holds.  So everything depends on the columns of the constraint being fetched, and
those whose names are not plain are not.

`Row.fetched?` is what is left of the contents, and `shown_iff` the exact answer:
a row of the range is found when it stores an output column and *what is fetched
of it* satisfies the constraint.  With plain names that is the stored contents
(`holds_fetched_iff`); otherwise rows that violate the constraint are found as
well.
-/

namespace StreamStore

/-- The value that a row stores in a column. -/
def Row.stored? (t : RecordType) (row : Row) (column : String) : Option String :=
  (row.get? (t.qualifier column)).map Stored.value

/-- The value of a column as far as a query can fetch it. -/
def Row.fetched? (t : RecordType) (row : Row) (column : String) : Option String :=
  if isPlain column then row.stored? t column else none

/-- On a constraint with plain names, what is fetched is what is stored. -/
theorem holds_fetched_iff {t : RecordType} {row : Row} {k : Constraint}
    (h : ∀ column ∈ k.mentions, isPlain column = true) :
    k.Holds (row.fetched? t) ↔ k.Holds (row.stored? t) :=
  k.holds_congr fun column hc => if_pos (h column hc)

section Query

variable {s : Store} {r : LoadRequest} {k : Constraint} {p : Projection} {spec : ScanSpec}
  {t : Table} {row : Row} {key : String}

/-- The filter of a query sees a column of the constraint when its name is plain. -/
theorem contentsOf_visible (hk : r.constraint = some k) (hp : r.projection = .ok p)
    {column : String} (h : column ∈ k.mentions) :
    contentsOf r.type (row.visible p.qualifiers) column = row.fetched? r.type column := by
  -- a query names at least one column, so "no column" never stands for all of them
  have hasked : (p.qualifiers = [] ∨ r.type.qualifier column ∈ p.qualifiers) ↔
      isPlain column = true := by
    rw [or_iff_right p.qualifiers_ne_nil, LoadRequest.qualifier_eq hp, Projection.mem_qualifiers,
      LoadRequest.mem_fetched_of_mention hk hp h]
  refine Option.ext fun v => ?_
  rw [contentsOf, Row.get?_visible_eq_some_iff, hasked, Row.fetched?]
  split
  · next hplain => rw [and_iff_right hplain, Row.stored?, Option.map_eq_some_iff]
  · next hplain => exact iff_of_false (fun hv => hplain hv.1) fun hv => nomatch hv

/-- The filter of a query passes a row when what is fetched of it satisfies the
constraint. -/
theorem passes_iff (hk : r.constraint = some k) (hplan : r.plan = .ok (p, spec)) :
    spec.passes row = true ↔ k.Holds (row.fetched? r.type) := by
  obtain ⟨-, hp, range, -, rfl⟩ := LoadRequest.plan_eq_ok hplan
  rw [ScanSpec.passes, hk]
  refine (accepts_compile r.type _ k).trans ?_
  exact k.holds_congr fun column hc => contentsOf_visible hk hp hc

/-- A scan shows something of a row in an output column when the row stores one and
passes the filter. -/
theorem exists_shown_iff (hplan : r.plan = .ok (p, spec)) (hrow : t.rows.get? key = some row)
    (hcovered : RowRange.Covers ⟨spec.first, spec.stop⟩ key) :
    (∃ c ∈ t.scan spec, (ResultSet.shownColumn? p c).isSome = true ∧
        rowIdentity false c = key) ↔
      (∃ column ∈ columnsOf r.columns, (row.stored? r.type column).isSome = true) ∧
        spec.passes row = true := by
  obtain ⟨-, hp, range, -, hspec⟩ := LoadRequest.plan_eq_ok hplan
  have hcolumns : spec.columns = p.qualifiers := by rw [hspec]
  constructor
  · rintro ⟨c, hc, hshown, rfl⟩
    obtain ⟨-, hasked, row', hrow', hget, hpass⟩ := Table.mem_scan_iff.1 hc
    obtain rfl : row' = row := Option.some.inj (hrow'.symm.trans hrow)
    have hfetched : c.qualifier ∈ p.qualifiers :=
      hcolumns ▸ hasked.resolve_left fun h => p.qualifiers_ne_nil (hcolumns ▸ h)
    obtain ⟨column, -, hcolumn⟩ := List.mem_map.1 hfetched
    refine ⟨⟨column, ?_, ?_⟩, hpass⟩
    · exact (Projection.mem_output hp).1 ((ResultSet.shownColumn?_isSome_iff hcolumn.symm).1 hshown)
    · rw [Row.stored?, LoadRequest.qualifier_eq hp, hcolumn, hget]
      rfl
  · -- the cell that is shown is the one stored in the output column
    rintro ⟨⟨column, hcolumn, hstored⟩, hpass⟩
    have hout : column ∈ p.output := (Projection.mem_output hp).2 hcolumn
    rw [Row.stored?, Option.isSome_map, LoadRequest.qualifier_eq hp] at hstored
    obtain ⟨stored, hget⟩ := Option.isSome_iff_exists.1 hstored
    have hasked : spec.Asks (p.qualify column) := by
      refine .inr ?_
      rw [hcolumns, Projection.mem_qualifiers]
      exact List.mem_append_left _ hout
    exact ⟨⟨key, p.qualify column, stored.timestamp, stored.value⟩,
      Table.mem_scan_iff.2 ⟨hcovered, hasked, row, hrow, hget, hpass⟩,
      (ResultSet.shownColumn?_isSome_iff rfl).2 hout, rfl⟩

/-- **Which rows of the range are found**, exactly. -/
theorem shown_iff {id : String} {b : Nat} (hk : r.constraint = some k)
    (hplan : r.plan = .ok (p, spec)) (hrow : t.rows.get? key = some row)
    (hcovered : RowRange.Covers ⟨spec.first, spec.stop⟩ key) :
    (∃ page ∈ Client.resultsOf p false id b (t.scan spec), key ∈ page.data.keys) ↔
      (∃ column ∈ columnsOf r.columns, (row.stored? r.type column).isSome = true) ∧
        k.Holds (row.fetched? r.type) := by
  rw [Client.exists_mem_resultsOf, exists_shown_iff hplan hrow hcovered, passes_iff hk hplan]

end Query

/-! ### Main result -/

/-- **What a constrained query finds.**  All pages of a query that is accepted show
a row of the range exactly when the row stores an output column and what is fetched
of it satisfies the constraint.  When the names of the constraint's columns are
plain, that is: when its stored contents satisfy the constraint. -/
theorem constrained_query_finds (s : Store) (clock : StateM Store Nat) (r : LoadRequest)
    (k : Constraint) (first : ResultSet) (hfresh : r.cursor = .fresh)
    (hk : r.constraint = some k)
    (haccepted : (perform ((Client.ofStore false clock).loadRange r) s).1 = .ok first) :
    ∃ (t : Table) (range : RowRange) (pages : List ResultSet) (n : Nat),
      s.tables.get? r.tableName = some t ∧
      rangeOf r.streamId r.oldest r.newest = .ok range ∧
      (∀ m, n ≤ m → (perform ((Client.ofStore false clock).loadPages m r) s).1 = .ok pages) ∧
      ∀ key row, t.rows.get? key = some row → range.Covers key →
        ((∃ page ∈ pages, key ∈ page.data.keys) ↔
          (∃ column ∈ columnsOf r.columns, (row.stored? r.type column).isSome = true) ∧
            k.Holds (row.fetched? r.type)) ∧
        ((∀ column ∈ k.mentions, isPlain column = true) →
          ((∃ page ∈ pages, key ∈ page.data.keys) ↔
            (∃ column ∈ columnsOf r.columns, (row.stored? r.type column).isSome = true) ∧
              k.Holds (row.stored? r.type))) := by
  obtain ⟨p, spec, t, hplan, htable⟩ := (Client.accepted_iff hfresh).1 ⟨first, haccepted⟩
  obtain ⟨-, -, range, hrange, hspec⟩ := LoadRequest.plan_eq_ok hplan
  refine ⟨t, range, Client.resultsOf p false (scannerId s.opened) (max spec.batch 1) (t.scan spec),
    (batches (max spec.batch 1) (t.scan spec)).length + 1, htable, hrange, fun m hm => ?_,
    fun key row hrow hcovers => ?_⟩
  · obtain ⟨s', hpages⟩ := Client.loadPages_of_table hplan hfresh htable (Nat.lt_of_succ_le hm)
    rw [hpages]
  · have hcovered : RowRange.Covers ⟨spec.first, spec.stop⟩ key := by
      rw [hspec]
      exact hcovers
    refine ⟨shown_iff hk hplan hrow hcovered, fun hplain => ?_⟩
    rw [shown_iff hk hplan hrow hcovered, holds_fetched_iff hplain]

/-! ### A store with one record -/

/-- The key of a record of stream 7. -/
def recordKey : String := "000000000007:922337203684500:node"

/-- The cells of the record: a value in some column, and a temperature. -/
def recordCells (column value : String) : List Cell :=
  [⟨recordKey, RecordType.data.qualifier column, 1000, value⟩,
    ⟨recordKey, RecordType.data.qualifier "temp", 1000, "21"⟩]

/-- The record as a row. -/
def recordRow (column value : String) : Row :=
  (SortedMap.empty.insert (RecordType.data.qualifier column) ⟨1000, value⟩).insert
    (RecordType.data.qualifier "temp") ⟨1000, "21"⟩

/-- The table of the record. -/
def recordTable (column value : String) : Table :=
  (recordCells column value).foldl Table.write ⟨["DF"], .empty⟩

/-- A store with one record. -/
def oneRecord (column value : String) : Store :=
  Call.afterAll .empty [.createTable (.ofType "plant" .data),
    .putCells "plant_stream_realtime" (recordCells column value)]

/-- The constraint that a column says `ok`. -/
def saysOk (column : String) : Constraint :=
  .compare column .equal (.text "ok")

/-- A query for the temperatures of stream 7 where another column says `ok`. -/
def whereOk (column : String) : LoadRequest where
  table := "plant"
  type := .data
  streamId := "7"
  columns := "temp"
  constraint := some (saysOk column)

/-- The open range of stream 7 covers the record. -/
theorem covers_recordKey : RowRange.Covers ⟨"000000000007*", "000000000008*"⟩ recordKey := by
  rw [RowRange.covers_iff]
  decide

/-- A query with a plain column finds the record that satisfies its constraint. -/
theorem constrained_query_finds_record :
    ∃ (pages : List ResultSet) (n : Nat),
      (perform ((Client.ofStore false (pure 0)).loadPages n (whereOk "state"))
        (oneRecord "state" "ok")).1 = .ok pages ∧
      ∃ page ∈ pages, recordKey ∈ page.data.keys := by
  obtain ⟨p, spec, hplan⟩ : ∃ p spec, (whereOk "state").plan = .ok (p, spec) := ⟨_, _, rfl⟩
  have hstored : (oneRecord "state" "ok").tables.get? (whereOk "state").tableName =
      some (recordTable "state" "ok") := rfl
  obtain ⟨first, haccepted⟩ : ∃ first,
      (perform ((Client.ofStore false (pure 0)).loadRange (whereOk "state"))
        (oneRecord "state" "ok")).1 = .ok first :=
    (Client.accepted_iff rfl).2 ⟨p, spec, _, hplan, hstored⟩
  obtain ⟨t, range, pages, n, htable, hrange, hpages, hrows⟩ :=
    constrained_query_finds _ _ (whereOk "state") (saysOk "state") first rfl rfl haccepted
  have ht : recordTable "state" "ok" = t := Option.some.inj htable
  have hbounds : ⟨"000000000007*", "000000000008*"⟩ = range := Except.ok.inj hrange
  have hrow : t.rows.get? recordKey = some (recordRow "state" "ok") := by
    rw [← ht]
    rfl
  obtain ⟨-, hiff⟩ := hrows recordKey _ hrow (hbounds ▸ covers_recordKey)
  have hplain : ∀ column ∈ (saysOk "state").mentions, isPlain column = true := by
    intro column hc
    obtain rfl := List.mem_singleton.1 hc
    decide
  have hout : ∃ column ∈ columnsOf (whereOk "state").columns,
      ((recordRow "state" "ok").stored? .data column).isSome = true := ⟨"temp", by decide, rfl⟩
  have hholds : (saysOk "state").Holds ((recordRow "state" "ok").stored? .data) := by
    rw [saysOk, Constraint.Holds]
    intro v hv
    have hok : "ok" = v := Option.some.inj hv
    rw [← hok]
    rfl
  exact ⟨pages, n, hpages n (Nat.le_refl n), (hiff hplain).2 ⟨hout, hholds⟩⟩

/-- **A column that is not fetched.**  The name of the column has a comma in it, so
the query finds a record whose stored contents violate the constraint. -/
theorem constrained_query_finds_violation :
    ∃ (t : Table) (row : Row) (range : RowRange) (pages : List ResultSet) (n : Nat),
      (oneRecord "state,old" "alarm").tables.get? (whereOk "state,old").tableName = some t ∧
      t.rows.get? recordKey = some row ∧
      rangeOf "7" none none = .ok range ∧ range.Covers recordKey ∧
      (perform ((Client.ofStore false (pure 0)).loadPages n (whereOk "state,old"))
        (oneRecord "state,old" "alarm")).1 = .ok pages ∧
      (∃ page ∈ pages, recordKey ∈ page.data.keys) ∧
      ¬(saysOk "state,old").Holds (row.stored? .data) := by
  obtain ⟨p, spec, hplan⟩ : ∃ p spec, (whereOk "state,old").plan = .ok (p, spec) := ⟨_, _, rfl⟩
  have htable : (oneRecord "state,old" "alarm").tables.get? (whereOk "state,old").tableName =
      some (recordTable "state,old" "alarm") := rfl
  have hrow : (recordTable "state,old" "alarm").rows.get? recordKey =
      some (recordRow "state,old" "alarm") := rfl
  obtain ⟨-, -, range, hrange, hspec⟩ := LoadRequest.plan_eq_ok hplan
  have hbounds : ⟨"000000000007*", "000000000008*"⟩ = range := Except.ok.inj hrange
  have hcovers : range.Covers recordKey := hbounds ▸ covers_recordKey
  have hcovered : RowRange.Covers ⟨spec.first, spec.stop⟩ recordKey := by
    rw [hspec]
    exact hcovers
  have hout : ∃ column ∈ columnsOf (whereOk "state,old").columns,
      ((recordRow "state,old" "alarm").stored? .data column).isSome = true :=
    ⟨"temp", by decide, rfl⟩
  have hfetched : (saysOk "state,old").Holds ((recordRow "state,old" "alarm").fetched? .data) := by
    rw [saysOk, Constraint.Holds]
    intro v hv
    have hnone : none = some v := hv
    cases hnone
  have hviolated : ¬(saysOk "state,old").Holds ((recordRow "state,old" "alarm").stored? .data) := by
    rw [saysOk, Constraint.Holds]
    intro h
    exact absurd (Text.bytesOf_inj (h "alarm" rfl)) (by decide)
  obtain ⟨s', hpages⟩ : ∃ s', perform ((Client.ofStore false (pure 0)).loadPages _
      (whereOk "state,old")) (oneRecord "state,old" "alarm") = (.ok _, s') :=
    Client.loadPages_of_table hplan rfl htable (Nat.lt_succ_self _)
  exact ⟨_, _, range, _, _, htable, hrow, hrange, hcovers, congrArg Prod.fst hpages,
    (shown_iff rfl hplan hrow hcovered).2 ⟨hout, hfetched⟩, hviolated⟩

end StreamStore
