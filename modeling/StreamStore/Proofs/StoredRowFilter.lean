import StreamStore.Proofs.ConstraintMeaning
import StreamStore.Proofs.Outcome
import StreamStore.Proofs.RowsOfCells
import StreamStore.Proofs.StoreCalls

/-!
# Filtering what is fetched, or what is stored

A scanner evaluates its filter on the columns that it asks for, and not on the row as it
is stored.  For the filter of a constraint the two agree as soon as the scan asks for the
columns of the constraint (`AsksFor`, `passes_eq_accepts_contents`), because nothing else
of a row counts: rows that agree in these columns get one verdict
(`accepts_compile_congr`).

The condition cannot be dropped.  A column that the scan does not ask for looks like one
that the row does not store, and of such a column every comparison holds.
-/

namespace StreamStore

/-! ### What a verdict depends on -/

/-- Only the columns of a constraint count for its filter. -/
theorem accepts_compile_congr {type : RecordType} {k : Constraint} {row row' : SortedMap String}
    (h : ∀ column ∈ k.columns, row.get? (type.qualifier column) =
      row'.get? (type.qualifier column)) :
    (k.compile type).accepts row = (k.compile type).accepts row' := by
  have hholds : k.Holds (contentsOf type row) ↔ k.Holds (contentsOf type row') :=
    k.holds_congr fun column hcolumn => h column (mem_firstOccurrences.2 hcolumn)
  rw [Bool.eq_iff_iff, accepts_compile, accepts_compile]
  exact hholds

/-! ### Stored contents -/

/-- All that a row stores: its values by qualifier. -/
def Row.contents (row : Row) : SortedMap String :=
  ⟨row.entries.map fun e => (e.1, e.2.value), List.pairwise_map.2 row.ascending⟩

theorem Row.get?_contents_eq_some_iff {row : Row} {qualifier value : String} :
    row.contents.get? qualifier = some value ↔
      ∃ stored, row.get? qualifier = some stored ∧ stored.value = value := by
  rw [SortedMap.get?_eq_some_iff, contents, List.mem_map]
  constructor
  · rintro ⟨⟨q, stored⟩, he, heq⟩
    cases heq
    exact ⟨stored, SortedMap.get?_eq_some_iff.2 he, rfl⟩
  · rintro ⟨stored, hget, rfl⟩
    exact ⟨(qualifier, stored), SortedMap.get?_eq_some_iff.1 hget, rfl⟩

namespace ScanSpec

variable {spec : ScanSpec} {type : RecordType} {k : Constraint}

/-- Whether a scan asks for all columns of a constraint. -/
def AsksFor (spec : ScanSpec) (type : RecordType) (k : Constraint) : Prop :=
  spec.columns = [] ∨ ∀ column ∈ k.columns, type.qualifier column ∈ spec.columns

/-- What a scan asks for it sees as it is stored. -/
theorem get?_visible_of_asks {qualifier : String} (h : spec.Asks qualifier) (row : Row) :
    (row.visible spec.columns).get? qualifier = row.contents.get? qualifier := by
  refine Option.ext fun value => ?_
  rw [Row.get?_visible_eq_some_iff, Row.get?_contents_eq_some_iff]
  exact and_iff_right h

/-- A scan that asks for the columns of its constraint judges a row by all it stores. -/
theorem passes_eq_accepts_contents (hfilter : spec.filter = some (k.compile type))
    (hasks : spec.AsksFor type k) (row : Row) :
    spec.passes row = (k.compile type).accepts row.contents := by
  have hsees : ∀ column ∈ k.columns, (row.visible spec.columns).get? (type.qualifier column) =
      row.contents.get? (type.qualifier column) := by
    intro column hcolumn
    exact get?_visible_of_asks (hasks.imp_right fun h => h column hcolumn) row
  rw [passes, hfilter, Option.all_some]
  exact accepts_compile_congr hsees

end ScanSpec

/-! ### Rows of a scan -/

/-- A scan has a row when the row lies in its range, stores something that the scan asks
for, and passes the filter. -/
theorem Table.mem_rowsOf_scan_iff {t : Table} {spec : ScanSpec} {key : String} :
    key ∈ rowsOf (t.scan spec) ↔ RowRange.Covers ⟨spec.first, spec.stop⟩ key ∧
      ∃ row, t.rows.get? key = some row ∧
        (∃ qualifier, spec.Asks qualifier ∧ (row.get? qualifier).isSome = true) ∧
        spec.passes row = true := by
  rw [mem_rowsOf]
  constructor
  · rintro ⟨c, hc, rfl⟩
    obtain ⟨hcovered, hasked, row, hrow, hget, hpass⟩ := Table.mem_scan_iff.1 hc
    exact ⟨hcovered, row, hrow, ⟨c.qualifier, hasked, by rw [hget]; rfl⟩, hpass⟩
  · rintro ⟨hcovered, row, hrow, ⟨qualifier, hasked, hsome⟩, hpass⟩
    obtain ⟨stored, hget⟩ := Option.isSome_iff_exists.1 hsome
    exact ⟨⟨key, qualifier, stored.timestamp, stored.value⟩,
      Table.mem_scan_iff.2 ⟨hcovered, hasked, row, hrow, hget, hpass⟩, rfl⟩

/-! ### Main result -/

/-- **Filtering what is fetched is filtering what is stored.**  A scanner with the filter
of a constraint, opened on any contents of a table, keeps exactly the rows of its range
that store something it asks for and whose complete contents pass the filter, provided
that it asks for the columns of the constraint.  And whatever else two rows hold, the
filter judges them alike when they agree in these columns. -/
theorem scanner_filters_stored_rows (type : RecordType) (k : Constraint) :
    (∀ (s : Store) (table : String) (t : Table) (spec : ScanSpec),
      s.tables.get? table = some t → spec.filter = some (k.compile type) → spec.AsksFor type k →
      ∃ id opened c, perform (Store.backend.openScanner table spec) s = (.ok id, opened) ∧
        opened.scanner? table id = some c ∧
        ∀ key, key ∈ rowsOf c.pending ↔ RowRange.Covers ⟨spec.first, spec.stop⟩ key ∧
          ∃ row, t.rows.get? key = some row ∧
            (∃ qualifier, spec.Asks qualifier ∧ (row.get? qualifier).isSome = true) ∧
            (k.compile type).accepts row.contents = true) ∧
    ∀ row row' : SortedMap String,
      (∀ column ∈ k.columns, row.get? (type.qualifier column) =
        row'.get? (type.qualifier column)) →
      (k.compile type).accepts row = (k.compile type).accepts row' := by
  constructor
  · intro s table t spec htable hfilter hasks
    obtain ⟨opened, hopen, hscanner, -⟩ := Store.openScanner_of_table spec htable
    refine ⟨_, opened, _, hopen, hscanner, fun key => ?_⟩
    dsimp only
    rw [Table.mem_rowsOf_scan_iff]
    simp only [ScanSpec.passes_eq_accepts_contents hfilter hasks]
  · intro row row' h
    exact accepts_compile_congr h

/-- The cells of a record with a state and a temperature; the name of the first column has
a comma. -/
def stateCells (key state : String) : List Cell :=
  [⟨key, "DF:state,old", 1000, state⟩, ⟨key, "DF:temp", 1000, "21"⟩]

/-- A table with two records. -/
def twoStates : Table :=
  (stateCells "north" "ok" ++ stateCells "south" "alarm").foldl Table.write ⟨["DF"], .empty⟩

/-- The condition that the state is `ok`. -/
def stateOk : Constraint :=
  .compare "state,old" .equal (.text "ok")

/-- A scan of all rows for the two columns, with the filter of the condition. -/
def statesScan : ScanSpec :=
  ⟨10, "a", "z", ["DF:temp", "DF:state,old"], some (stateOk.compile .data)⟩

/-- A store with the table of the two records. -/
def statesStore : Store :=
  { Store.empty with tables := .ofList [("plant", twoStates)] }

/-- Of two records the one that satisfies the condition is kept, whatever the name of the
column; and the filter does not look at temperatures. -/
theorem scanner_filters_two_states :
    (statesStore.tables.get? "plant" = some twoStates ∧ statesScan.AsksFor .data stateOk ∧
      ∃ id opened c, perform (Store.backend.openScanner "plant" statesScan) statesStore =
          (.ok id, opened) ∧
        opened.scanner? "plant" id = some c ∧
        "north" ∈ rowsOf c.pending ∧ "south" ∉ rowsOf c.pending) ∧
    (stateOk.compile .data).accepts (.ofList [("DF:state,old", "ok"), ("DF:temp", "21")]) =
      (stateOk.compile .data).accepts (.ofList [("DF:state,old", "ok")]) := by
  have hasks : statesScan.AsksFor .data stateOk := .inr (by decide)
  obtain ⟨hkept, hcongr⟩ := scanner_filters_stored_rows .data stateOk
  obtain ⟨id, opened, c, hopen, hscanner, hrows⟩ :=
    hkept statesStore "plant" twoStates statesScan rfl rfl hasks
  have hnorth : RowRange.Covers ⟨statesScan.first, statesScan.stop⟩ "north" := by
    rw [RowRange.covers_iff]
    decide
  refine ⟨⟨rfl, hasks, id, opened, c, hopen, hscanner, ?_, ?_⟩, hcongr _ _ (by decide)⟩
  · exact (hrows "north").2 ⟨hnorth, _, rfl, ⟨"DF:temp", .inr (by decide), by decide⟩,
      by decide +kernel⟩
  · intro hmem
    obtain ⟨-, row, hrow, -, hpass⟩ := (hrows "south").1 hmem
    obtain rfl := Option.some.inj hrow
    exact absurd hpass (by decide +kernel)

end StreamStore
