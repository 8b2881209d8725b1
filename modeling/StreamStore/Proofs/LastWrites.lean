import Mathlib.Data.List.Induction
import StreamStore.Proofs.SnapshotScan
import StreamStore.Proofs.TableSteps

/-!
# The last write to a place remains

A cell has a place, which is its row and its qualifier, and a table holds at each
place the last cell that was written there.  The log of a table (`Call.writeLog`) is
what the writes that succeeded brought to it, in their order; `Store.Keeps` says that
the rows of the table are this log folded, that the cells it stores are the last ones
of their places in it (`Cell.LastIn`), and that a row is read back as these cells.

`TableStep` carries the runs: whatever a call does to a table, its rows change by the
cells that the call writes to it, and its cells stay in families that it has
(`Table.Filed`).  The laws of writes follow from those of single cells: cells of
different places may be written in any order, and a list of cells is written as its
parts are, one after the other.
-/

namespace StreamStore

/-! ### Last cells -/

namespace Cell

/-- Whether two cells have one place: one row, and one qualifier in it. -/
def SamePlace (c d : Cell) : Prop :=
  c.rowKey = d.rowKey ∧ c.qualifier = d.qualifier

/-- Whether a cell is in a log and no later one has its place. -/
def LastIn (c : Cell) (log : List Cell) : Prop :=
  ∃ before after, log = before ++ c :: after ∧ ∀ d ∈ after, ¬d.SamePlace c

variable {c d : Cell} {log : List Cell}

theorem not_lastIn_nil : ¬c.LastIn [] := by
  rintro ⟨before, after, h, -⟩
  simp at h

theorem lastIn_concat : c.LastIn (log ++ [d]) ↔ c = d ∨ c.LastIn log ∧ ¬d.SamePlace c := by
  constructor
  · rintro ⟨before, after, heq, hafter⟩
    -- the cell is the last one of the log or one before it
    rcases after.eq_nil_or_concat with rfl | ⟨after, last, rfl⟩
    · obtain ⟨-, hd⟩ := List.append_inj' heq rfl
      exact .inl (List.cons.inj hd).1.symm
    · rw [List.concat_eq_append] at heq hafter
      have hsplit : log ++ [d] = (before ++ c :: after) ++ [last] := by simpa using heq
      obtain ⟨rfl, hlast⟩ := List.append_inj' hsplit rfl
      cases hlast
      refine .inr ⟨⟨before, after, rfl, fun e he => ?_⟩, ?_⟩
      · exact hafter e (List.mem_append_left _ he)
      · exact hafter d (List.mem_append_right _ (List.mem_singleton_self d))
  · rintro (rfl | ⟨⟨before, after, rfl, hafter⟩, hd⟩)
    · exact ⟨log, [], rfl, fun e he => nomatch he⟩
    · refine ⟨before, after ++ [d], by simp, fun e he => ?_⟩
      rcases List.mem_append.1 he with he | he
      · exact hafter e he
      · rwa [List.mem_singleton.1 he]

end Cell

/-! ### Stored cells -/

namespace Table

variable {t : Table} {c d : Cell} {xs ys : List Cell}

/-- Whether a cell is stored in a table. -/
def Stores (t : Table) (c : Cell) : Prop :=
  ∃ row, t.rows.get? c.rowKey = some row ∧ row.get? c.qualifier = some ⟨c.timestamp, c.value⟩

theorem not_stores_empty : ¬(empty : Table).Stores c := by
  rintro ⟨row, hrow, -⟩
  cases hrow

theorem get?_rows_write (t : Table) (d : Cell) (key : String) :
    (t.write d).rows.get? key =
      if key = d.rowKey then
        some (((t.rows.get? d.rowKey).getD .empty).insert d.qualifier ⟨d.timestamp, d.value⟩)
      else t.rows.get? key :=
  SortedMap.get?_insert _ _ _ _

/-- A place holds what is written to it, and every other place what it held. -/
theorem stores_write : (t.write d).Stores c ↔ c = d ∨ t.Stores c ∧ ¬d.SamePlace c := by
  rw [Stores, get?_rows_write]
  by_cases hrow : c.rowKey = d.rowKey
  · rw [if_pos hrow]
    by_cases hqualifier : c.qualifier = d.qualifier
    · have hplace : d.SamePlace c := ⟨hrow.symm, hqualifier.symm⟩
      simp only [Option.some.injEq, exists_eq_left', hqualifier, SortedMap.get?_insert_self,
        hplace, not_true_eq_false, and_false, or_false]
      constructor
      · intro hstored
        cases c
        cases d
        cases hstored
        cases hrow
        cases hqualifier
        rfl
      · rintro rfl
        rfl
    · have hne : c ≠ d := fun heq => hqualifier (heq ▸ rfl)
      have hplace : ¬d.SamePlace c := fun heq => hqualifier heq.2.symm
      simp only [Option.some.injEq, exists_eq_left', SortedMap.get?_insert_of_ne _ hqualifier, hne,
        false_or, hplace, not_false_eq_true, and_true, Stores, hrow]
      cases t.rows.get? d.rowKey <;> simp
  · have hne : c ≠ d := fun heq => hrow (heq ▸ rfl)
    have hplace : ¬d.SamePlace c := fun heq => hrow heq.1.symm
    rw [if_neg hrow]
    simp [hne, hplace, Stores]

/-- **What a log leaves.**  After some writes a table stores the last cells of their
places, and what it stored before at places that were not written to. -/
theorem stores_writes : (xs.foldl write t).Stores c ↔
    c.LastIn xs ∨ t.Stores c ∧ ∀ d ∈ xs, ¬d.SamePlace c := by
  induction xs using List.reverseRecOn with
  | nil => simp [Cell.not_lastIn_nil]
  | append_singleton xs d ih =>
      rw [List.foldl_append, List.foldl_cons, List.foldl_nil, stores_write, ih, Cell.lastIn_concat,
        List.forall_mem_append, List.forall_mem_singleton]
      tauto

/-- The rows that writes leave do not depend on the families of the table. -/
theorem rows_writes_congr {t' : Table} (h : t.rows = t'.rows) (xs : List Cell) :
    (xs.foldl write t).rows = (xs.foldl write t').rows := by
  induction xs generalizing t t' with
  | nil => exact h
  | cons c xs ih =>
      apply ih
      simp only [write, h]

/-- Cells of different places may be written in any order. -/
theorem write_comm (h : ¬c.SamePlace d) : (t.write c).write d = (t.write d).write c := by
  have hrows : ((t.write c).write d).rows = ((t.write d).write c).rows := by
    apply SortedMap.ext_get?
    intro key
    simp only [get?_rows_write]
    by_cases hrow : c.rowKey = d.rowKey
    · have hqualifier : c.qualifier ≠ d.qualifier := fun heq => h ⟨hrow, heq⟩
      simp only [hrow, if_true, Option.getD_some]
      split
      · rw [SortedMap.insert_comm _ hqualifier]
      · rfl
    · simp only [if_neg hrow, if_neg (Ne.symm hrow)]
      by_cases hkey : key = c.rowKey
      · have hne : key ≠ d.rowKey := fun heq => hrow (hkey.symm.trans heq)
        simp only [if_pos hkey, if_neg hne]
      · simp only [if_neg hkey]
  exact congrArg (Table.mk t.families) hrows

theorem write_writes_comm (h : ∀ d ∈ ys, ¬c.SamePlace d) :
    ys.foldl write (t.write c) = (ys.foldl write t).write c := by
  induction ys generalizing t with
  | nil => rfl
  | cons d ys ih =>
      obtain ⟨hd, hys⟩ := List.forall_mem_cons.1 h
      rw [List.foldl_cons, List.foldl_cons, write_comm hd, ih hys]

theorem writes_comm (h : ∀ c ∈ xs, ∀ d ∈ ys, ¬c.SamePlace d) :
    ys.foldl write (xs.foldl write t) = xs.foldl write (ys.foldl write t) := by
  induction xs generalizing t with
  | nil => rfl
  | cons c xs ih =>
      obtain ⟨hc, hxs⟩ := List.forall_mem_cons.1 h
      rw [List.foldl_cons, List.foldl_cons, ih hxs, write_writes_comm hc]

/-- Whether the families of a table are listed once each, and every cell is in one of them. -/
structure Filed (t : Table) : Prop where
  nodup : t.families.Nodup
  listed : ∀ c, t.Stores c → c.family ∈ t.families

theorem filed_empty : (empty : Table).Filed :=
  ⟨List.nodup_nil, fun _ h => absurd h not_stores_empty⟩

end Table

/-! ### Logs -/

/-- All cells that calls write to a table, in their order. -/
def Call.writeLog (table : String) : Store → List Call → List Cell
  | _, [] => []
  | s, call :: calls => call.written s table ++ writeLog table (call.after s) calls

/-- What a store has under the name of a table; without the table, no rows. -/
def Store.contents (s : Store) (table : String) : Table :=
  (s.tables.get? table).getD .empty

namespace TableStep

variable {before after : Option Table} {written : List Cell}

/-- A call leaves the cells of a table in its families. -/
theorem filed (h : TableStep before after written) (hbefore : (before.getD .empty).Filed) :
    (after.getD .empty).Filed := by
  cases h with
  | kept same none => rwa [same]
  | extended families made none =>
      rw [made]
      refine ⟨Table.nodup_families_addFamilies _ families hbefore.nodup, ?_⟩
      rintro c ⟨row, hrow, hc⟩
      rw [Option.getD_some, Table.rows_addFamilies] at hrow
      exact (Table.families_prefix_addFamilies _ families).subset
        (hbefore.listed c ⟨row, hrow, hc⟩)
  | wrote t found filed made =>
      rw [found] at hbefore
      rw [made]
      show Table.Filed (written.foldl Table.write t)
      refine ⟨by rw [Table.families_writes]; exact hbefore.nodup, ?_⟩
      intro c hc
      rw [Table.families_writes]
      rcases Table.stores_writes.1 hc with ⟨cells, later, rfl, -⟩ | ⟨hc, -⟩
      · exact filed c (List.mem_append_right _ List.mem_cons_self)
      · exact hbefore.listed c hc

end TableStep

namespace Call

variable (s : Store) (calls : List Call) (table : String)

/-- The rows that a run leaves are those that its log makes of the rows at its start. -/
theorem rows_afterAll : ((afterAll s calls).contents table).rows =
    ((writeLog table s calls).foldl Table.write (s.contents table)).rows := by
  induction calls generalizing s with
  | nil => rfl
  | cons call calls ih =>
      have hstep : ((call.after s).contents table).rows =
          ((call.written s table).foldl Table.write (s.contents table)).rows :=
        (call.tableStep s table).rows
      show ((afterAll (call.after s) calls).contents table).rows = _
      rw [ih, writeLog, List.foldl_append]
      exact Table.rows_writes_congr hstep _

theorem filed_afterAll (h : (s.contents table).Filed) :
    ((afterAll s calls).contents table).Filed := by
  induction calls generalizing s with
  | nil => exact h
  | cons call calls ih => exact ih _ ((call.tableStep s table).filed h)

end Call

/-! ### Reading a row -/

theorem beforeStar?_eq_none {key : String} (h : key.toList.getLast? ≠ some '*') :
    beforeStar? key = none := by
  rw [← List.head?_reverse] at h
  rw [beforeStar?]
  split
  · next cs heq =>
      rw [heq] at h
      exact absurd rfl h
  · rfl

namespace Store

variable {s : Store} {table : String}

/-- A key that is no pattern is answered with the cells of its row, in the order of their
qualifiers. -/
theorem getRow_of_key {t : Table} (ht : s.tables.get? table = some t) {key : String}
    (hkey : key.toList.getLast? ≠ some '*') (columns : List String) :
    ∃ cells, s.getRow table key columns = .ok cells ∧
      cells.Pairwise (fun a b => a.qualifier < b.qualifier) ∧
      ∀ c, c ∈ cells ↔
        c.rowKey = key ∧ (columns = [] ∨ c.qualifier ∈ columns) ∧ t.Stores c := by
  have hstar := beforeStar?_eq_none hkey
  cases hrow : t.rows.get? key with
  | none =>
      have hget : s.getRow table key columns = .ok [] := by
        simp only [getRow, ht, hstar, hrow]
      refine ⟨[], hget, .nil, fun c => iff_of_false List.not_mem_nil ?_⟩
      rintro ⟨rfl, -, row, hstored, -⟩
      rw [hrow] at hstored
      cases hstored
  | some row =>
      have hget : s.getRow table key columns = .ok (row.cells key columns) := by
        simp only [getRow, ht, hstar, hrow]
      refine ⟨_, hget, List.pairwise_map.2 Row.ascending_project, fun c => ?_⟩
      rw [Row.mem_cells]
      constructor
      · rintro ⟨rfl, hc, hasked⟩
        exact ⟨rfl, hasked, row, hrow, hc⟩
      · rintro ⟨rfl, hasked, row', hrow', hc⟩
        rw [hrow] at hrow'
        cases hrow'
        exact ⟨rfl, hc, hasked⟩

/-- Whether a store keeps what a log brought to a table: the rows are the log folded, a
cell is stored when it is the last one of its place in the log, and the key of a row is
answered with exactly these cells, in the order of their qualifiers. -/
structure Keeps (s : Store) (table : String) (log : List Cell) : Prop where
  rows : (s.contents table).rows = (log.foldl Table.write .empty).rows
  stores : ∀ c, (s.contents table).Stores c ↔ c.LastIn log
  reads : ∀ key columns, s.tables.get? table ≠ none → key.toList.getLast? ≠ some '*' →
    ∃ cells, s.getRow table key columns = .ok cells ∧
      cells.Pairwise (fun a b => a.qualifier < b.qualifier) ∧
      ∀ c, c ∈ cells ↔
        c.rowKey = key ∧ (columns = [] ∨ c.qualifier ∈ columns) ∧ c.LastIn log

theorem keeps_of_rows {log : List Cell}
    (h : (s.contents table).rows = (log.foldl Table.write .empty).rows) : s.Keeps table log := by
  have hstores : ∀ c, (s.contents table).Stores c ↔ c.LastIn log := by
    intro c
    rw [Table.Stores, h]
    refine Table.stores_writes.trans ⟨fun hc => ?_, .inl⟩
    exact hc.resolve_right fun hempty => Table.not_stores_empty hempty.1
  refine ⟨h, hstores, fun key columns htable hkey => ?_⟩
  obtain ⟨t, ht⟩ := Option.ne_none_iff_exists'.1 htable
  obtain ⟨cells, hget, hascending, hmem⟩ := getRow_of_key ht hkey columns
  refine ⟨cells, hget, hascending, fun c => ?_⟩
  have ht' : s.contents table = t := by rw [contents, ht, Option.getD_some]
  rw [hmem c, ← ht', hstores]

/-! ### Laws of writes -/

/-- **Writes to different places commute.**  In either order they are answered alike, and
they leave one store. -/
theorem putCells_comm (s : Store) {table table' : String} {xs ys : List Cell}
    (h : table = table' → ∀ c ∈ xs, ∀ d ∈ ys, ¬c.SamePlace d) :
    ((s.putCells table' ys).2.putCells table xs).1 = (s.putCells table xs).1 ∧
      ((s.putCells table xs).2.putCells table' ys).1 = (s.putCells table' ys).1 ∧
      ((s.putCells table xs).2.putCells table' ys).2 =
        ((s.putCells table' ys).2.putCells table xs).2 := by
  -- the families stay, so each write is answered as it would be without the other one
  have hfirst : ((s.putCells table' ys).2.putCells table xs).1 = (s.putCells table xs).1 :=
    putCells_fst_congr (families_putCells ..)
  have hsecond : ((s.putCells table xs).2.putCells table' ys).1 = (s.putCells table' ys).1 :=
    putCells_fst_congr (families_putCells ..)
  refine ⟨hfirst, hsecond, ?_⟩
  rcases s.putCells_cases table xs with ⟨-, e, hx⟩ | ⟨t, ht, htxs, hx⟩
  · rw [hx] at hfirst ⊢
    exact (putCells_of_error hfirst).symm
  rcases s.putCells_cases table' ys with ⟨-, e, hy⟩ | ⟨u, hu, huys, hy⟩
  · rw [hy] at hsecond ⊢
    exact putCells_of_error hsecond
  rw [hx, hy]
  by_cases htable : table = table'
  · subst htable
    cases ht.symm.trans hu
    have hfiled : ∀ d ∈ ys, d.family ∈ (xs.foldl Table.write t).families := by
      rwa [Table.families_writes]
    have hfiled' : ∀ c ∈ xs, c.family ∈ (ys.foldl Table.write t).families := by
      rwa [Table.families_writes]
    rw [putCells_of_families (SortedMap.get?_insert_self _ _ _) hfiled,
      putCells_of_families (SortedMap.get?_insert_self _ _ _) hfiled']
    simp only [SortedMap.insert_insert, Table.writes_comm (h rfl)]
  · rw [putCells_of_families ((SortedMap.get?_insert_of_ne _ (Ne.symm htable) _).trans hu) huys,
      putCells_of_families ((SortedMap.get?_insert_of_ne _ htable _).trans ht) htxs]
    simp only [SortedMap.insert_comm _ htable]

/-- The calls that write batches to a table, one after the other. -/
def puts (table : String) (batches : List (List Cell)) : List Call :=
  batches.map (Call.putCells table)

/-- Whether all batches are accepted, each in the store that the ones before it leave. -/
def TakesAll (s : Store) (table : String) (batches : List (List Cell)) : Prop :=
  ∀ before batch after, batches = before ++ batch :: after →
    ((Call.afterAll s (puts table before)).putCells table batch).1 = .ok ()

/-- Writes do not change how a later write is answered. -/
theorem putCells_afterAll_puts (s : Store) (table : String) (batches : List (List Cell))
    (cells : List Cell) :
    ((Call.afterAll s (puts table batches)).putCells table cells).1 =
      (s.putCells table cells).1 := by
  induction batches generalizing s with
  | nil => rfl
  | cons batch batches ih => exact (ih _).trans (putCells_fst_congr (families_putCells ..))

theorem takesAll_iff {batches : List (List Cell)} :
    s.TakesAll table batches ↔ ∀ batch ∈ batches, (s.putCells table batch).1 = .ok () := by
  constructor
  · intro h batch hbatch
    obtain ⟨before, after, heq⟩ := List.append_of_mem hbatch
    rw [← putCells_afterAll_puts s table before]
    exact h before batch after heq
  · rintro h before batch after rfl
    rw [putCells_afterAll_puts]
    exact h batch (List.mem_append_right _ List.mem_cons_self)

/-- A list of batches is accepted as one when it is accepted in parts. -/
theorem putCells_flatten_eq_ok_iff {batches : List (List Cell)} (h : batches ≠ []) :
    (s.putCells table batches.flatten).1 = .ok () ↔ s.TakesAll table batches := by
  rw [takesAll_iff, putCells_eq_ok_iff]
  constructor
  · rintro ⟨t, ht, hfiled⟩ batch hbatch
    exact putCells_eq_ok_iff.2 ⟨t, ht, fun c hc => hfiled c (List.mem_flatten_of_mem hbatch hc)⟩
  · intro hall
    obtain ⟨first, rest, rfl⟩ := List.exists_cons_of_ne_nil h
    obtain ⟨t, ht, -⟩ := putCells_eq_ok_iff.1 (hall first List.mem_cons_self)
    refine ⟨t, ht, fun c hc => ?_⟩
    obtain ⟨batch, hbatch, hc⟩ := List.mem_flatten.1 hc
    obtain ⟨u, hu, hfiled⟩ := putCells_eq_ok_iff.1 (hall batch hbatch)
    cases ht.symm.trans hu
    exact hfiled c hc

/-- **A batch is written as its parts are.** -/
theorem putCells_flatten {batches : List (List Cell)}
    (h : (s.putCells table batches.flatten).1 = .ok ()) :
    (s.putCells table batches.flatten).2 = Call.afterAll s (puts table batches) := by
  induction batches generalizing s with
  | nil =>
      obtain ⟨t, ht, hfiled⟩ := putCells_eq_ok_iff.1 h
      rw [putCells_of_families ht hfiled]
      show { s with tables := s.tables.insert table t } = s
      rw [SortedMap.insert_of_get? ht]
  | cons batch batches ih =>
      obtain ⟨t, ht, hfiled⟩ := putCells_eq_ok_iff.1 h
      rw [List.flatten_cons, List.forall_mem_append] at hfiled
      have hbatch := putCells_of_families ht hfiled.1
      have hrest : ∀ c ∈ batches.flatten, c.family ∈ (batch.foldl Table.write t).families := by
        rw [Table.families_writes]
        exact hfiled.2
      show _ = Call.afterAll (s.putCells table batch).2 (puts table batches)
      rw [hbatch]
      have hnext := putCells_of_families
        (s := { s with tables := s.tables.insert table (batch.foldl Table.write t) })
        (SortedMap.get?_insert_self _ _ _) hrest
      rw [← ih (congrArg Prod.fst hnext), hnext, List.flatten_cons,
        putCells_of_families ht (List.forall_mem_append.2 hfiled)]
      simp only [SortedMap.insert_insert, List.foldl_append]

end Store

/-- **A store is a map in which the last write wins.**  In every run from the empty store
each table keeps what its log brought to it, and its cells are in its families, which are
listed once each.  In any store, a write fails exactly when the table is missing or a cell
has no family in it, and then it changes nothing; creating a table removes nothing, and
once it was done it is repeated without effect; writes to different places commute; and a
list of cells is written as one batch or in several. -/
theorem last_write_wins (calls : List Call) (table : String) :
    (Call.afterAll .empty calls).Keeps table (Call.writeLog table .empty calls) ∧
    ((Call.afterAll .empty calls).contents table).Filed ∧
    ∀ s : Store,
      (∀ cells,
        ((∃ e, (s.putCells table cells).1 = .error e) ↔
          s.tables.get? table = none ∨
            ∃ t, s.tables.get? table = some t ∧ ∃ c ∈ cells, c.family ∉ t.families) ∧
        ∀ e, (s.putCells table cells).1 = .error e → (s.putCells table cells).2 = s) ∧
      (∀ schema,
        (∀ t, s.tables.get? table = some t → ∃ t',
          (s.createTable schema).tables.get? table = some t' ∧ t'.rows = t.rows ∧
            t.families <+: t'.families) ∧
        ∀ later, (Call.afterAll (s.createTable schema) later).createTable schema =
          Call.afterAll (s.createTable schema) later) ∧
      (∀ table' xs ys, (table = table' → ∀ c ∈ xs, ∀ d ∈ ys, ¬c.SamePlace d) →
        ((s.putCells table' ys).2.putCells table xs).1 = (s.putCells table xs).1 ∧
        ((s.putCells table xs).2.putCells table' ys).1 = (s.putCells table' ys).1 ∧
        ((s.putCells table xs).2.putCells table' ys).2 =
          ((s.putCells table' ys).2.putCells table xs).2) ∧
      ∀ batches,
        (batches ≠ [] → ((s.putCells table batches.flatten).1 = .ok () ↔
          s.TakesAll table batches)) ∧
        ((s.putCells table batches.flatten).1 = .ok () →
          (s.putCells table batches.flatten).2 =
            Call.afterAll s (Store.puts table batches)) := by
  refine ⟨Store.keeps_of_rows (Call.rows_afterAll .empty calls table),
    Call.filed_afterAll .empty calls table Table.filed_empty, fun s => ?_⟩
  refine ⟨fun cells => ⟨Store.putCells_fails_iff, fun e => Store.putCells_of_error⟩,
    fun schema => ⟨fun t ht => s.createTable_keeps schema ht, s.createTable_again schema⟩,
    fun table' xs ys h => s.putCells_comm h, fun batches => ⟨?_, ?_⟩⟩
  · exact Store.putCells_flatten_eq_ok_iff
  · exact Store.putCells_flatten

/-- A value that is written twice, with a write in between that is refused. -/
def writtenTwice : List Call :=
  [.createTable ⟨"plant", ["DF"]⟩,
    .putCells "plant" [⟨"north", "DF:temp", 1, "21"⟩, ⟨"north", "DF:rpm", 1, "900"⟩],
    .putCells "plant" [⟨"north", "DF:temp", 2, "22"⟩, ⟨"north", "EF:state", 2, "ok"⟩],
    .putCells "plant" [⟨"north", "DF:temp", 3, "23"⟩]]

/-- After `writtenTwice` the row has the second value, and two more writes commute. -/
theorem last_write_of_two :
    let s := Call.afterAll .empty writtenTwice
    let north : List Cell := [⟨"north", "DF:temp", 4, "24"⟩]
    let south : List Cell := [⟨"south", "DF:temp", 4, "18"⟩]
    (∃ cells, s.getRow "plant" "north" [] = .ok cells ∧
      (⟨"north", "DF:temp", 3, "23"⟩ : Cell) ∈ cells ∧
      (⟨"north", "DF:temp", 1, "21"⟩ : Cell) ∉ cells) ∧
    ((s.putCells "plant" north).2.putCells "plant" south).2 =
      ((s.putCells "plant" south).2.putCells "plant" north).2 := by
  intro s north south
  obtain ⟨hkeeps, -, hlaws⟩ := last_write_wins writtenTwice "plant"
  obtain ⟨-, -, hcomm, -⟩ := hlaws s
  obtain ⟨cells, hget, -, hmem⟩ := hkeeps.reads "north" [] (by decide) (by decide)
  refine ⟨⟨cells, hget, ?_, ?_⟩, ?_⟩
  · exact (hmem _).2 ⟨rfl, .inl rfl, (hkeeps.stores _).1 ⟨_, rfl, rfl⟩⟩
  · intro hc
    obtain ⟨row, hrow, hstored⟩ := (hkeeps.stores _).2 ((hmem _).1 hc).2.2
    cases hrow
    cases hstored
  · refine (hcomm "plant" north south fun _ c hc d hd hplace => ?_).2.2
    rw [List.mem_singleton.1 hc, List.mem_singleton.1 hd] at hplace
    exact absurd hplace.1 (by decide)

end StreamStore
