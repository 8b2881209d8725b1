import StreamStore.Proofs.MapOrder
import StreamStore.Proofs.Outcome
import StreamStore.Store

/-!
# Calls that leave a scanner alone

A caller of a store never has it to itself: between two of its calls any number
of others may run.  A `Call` is one operation of the store with its arguments,
and `Call.after` the store it leaves, whether or not it failed.

What one caller can rely on is a statement about a single call
(`Call.scanner?_after`): a call that neither fetches from a scanner nor deletes
it, under the scanner's own table, leaves the scanner with the same batch and the
same cells.  Opening scanners is harmless because an id is never given twice,
which is where `Store.Given` comes from: it says that an id has been given
already, and no call takes that back.
-/

namespace StreamStore

/-! ### Ids of scanners -/

theorem digitChar_inj {a b : Nat} (ha : a < 16) (hb : b < 16)
    (h : Nat.digitChar a = Nat.digitChar b) : a = b := by
  have all : ∀ a b : Fin 16, Nat.digitChar a.val = Nat.digitChar b.val → a.val = b.val := by
    decide
  exact all ⟨a, ha⟩ ⟨b, hb⟩ h

/-- A numeral of one digit is no longer numeral with another digit behind it. -/
theorem singleton_ne_toDigits_append {n : Nat} {c d : Char} :
    [c] ≠ Nat.toDigits 16 n ++ [d] := by
  intro h
  have hlen := congrArg List.length h
  have hpos : 0 < (Nat.toDigits 16 n).length := Nat.length_toDigits_pos
  rw [List.length_append, List.length_singleton, List.length_singleton] at hlen
  omega

theorem toDigits_sixteen_inj {a b : Nat} (h : Nat.toDigits 16 a = Nat.toDigits 16 b) :
    a = b := by
  induction a using Nat.strongRecOn generalizing b with
  | _ a ih =>
      rw [Nat.toDigits_eq_if (by decide), Nat.toDigits_eq_if (n := b) (by decide)] at h
      by_cases ha : a < 16
      · by_cases hb : b < 16
        · rw [if_pos ha, if_pos hb] at h
          exact digitChar_inj ha hb (List.cons.inj h).1
        · rw [if_pos ha, if_neg hb] at h
          exact absurd h singleton_ne_toDigits_append
      · by_cases hb : b < 16
        · rw [if_neg ha, if_pos hb] at h
          exact absurd h.symm singleton_ne_toDigits_append
        · rw [if_neg ha, if_neg hb] at h
          obtain ⟨hinit, hlast⟩ := List.append_inj' h rfl
          have hdiv : a / 16 = b / 16 := ih (a / 16) (by omega) hinit
          have hmod : a % 16 = b % 16 := digitChar_inj (Nat.mod_lt _ (by decide))
            (Nat.mod_lt _ (by decide)) (List.cons.inj hlast).1
          omega

/-- No two scanners have one id. -/
theorem scannerId_inj {m n : Nat} (h : scannerId m = scannerId n) : m = n :=
  Nat.add_left_cancel (toDigits_sixteen_inj (String.ofList_injective h))

/-! ### Scanners of a table -/

namespace Store

variable {s : Store} {table table' id id' : String}

theorem scanner?_eq_some_iff {c : Scanner} :
    s.scanner? table id = some c ↔ s.scanners.get? id = some c ∧ c.table = table := by
  rw [scanner?, Option.filter_eq_some_iff, beq_iff_eq]

/-- What a fetch does: it takes the next batch off a scanner that has cells. -/
theorem fetch_of_some {c : Scanner} (h : s.scanner? table id = some c) :
    s.fetch table id =
      if c.pending.isEmpty then (.ok none, s)
      else (.ok (some (c.pending.take c.batch)),
        { s with
          scanners := s.scanners.insert id { c with pending := c.pending.drop c.batch } }) := by
  rw [fetch, h]

theorem fetch_of_none (h : s.scanner? table id = none) :
    s.fetch table id = (.error (scannerMissing "scanner_get" table id), s) := by
  rw [fetch, h]

theorem deleteScanner_of_some {c : Scanner} (h : s.scanner? table id = some c) :
    s.deleteScanner table id = (.ok (), { s with scanners := s.scanners.erase id }) := by
  rw [deleteScanner, h]

theorem deleteScanner_of_none (h : s.scanner? table id = none) :
    s.deleteScanner table id = (.error (scannerMissing "scanner_delete" table id), s) := by
  rw [deleteScanner, h]

/-- What opening a scanner does to a store that has the table. -/
theorem openScanner_of_some {t : Table} (spec : ScanSpec) (h : s.tables.get? table = some t) :
    s.openScanner table spec = (.ok (scannerId s.opened),
      { s with
        scanners := s.scanners.insert (scannerId s.opened) ⟨table, max spec.batch 1, t.scan spec⟩
        opened := s.opened + 1 }) := by
  rw [openScanner, h]

theorem openScanner_of_none (spec : ScanSpec) (h : s.tables.get? table = none) :
    s.openScanner table spec = (.error (tableMissing "scanner_create" table), s) := by
  rw [openScanner, h]

/-- Two scanner maps that agree on an id agree on the scanner of a table. -/
theorem scanner?_congr {s' : Store} (h : s.scanners.get? id = s'.scanners.get? id) :
    s.scanner? table id = s'.scanner? table id := by
  rw [scanner?, h, scanner?]

/-- A scanner does not belong to two tables. -/
theorem scanner?_eq_none_of_ne {c : Scanner} (hget : s.scanners.get? id = some c)
    (h : table ≠ c.table) : s.scanner? table id = none := by
  rw [scanner?, hget, Option.filter_eq_none_iff]
  rintro d hd heq
  cases hd
  exact h (beq_iff_eq.1 heq).symm

theorem scanner?_fetch (h : ¬(table = table' ∧ id = id')) :
    (s.fetch table id).2.scanner? table' id' = s.scanner? table' id' := by
  cases hc : s.scanner? table id with
  | none => rw [fetch_of_none hc]
  | some c =>
      rw [fetch_of_some hc]
      split
      · rfl
      · by_cases hid : id = id'
        · -- the same id under another table: no scanner there, before or after
          obtain ⟨hget, htable⟩ := scanner?_eq_some_iff.1 hc
          have hne : table' ≠ c.table := fun heq => h ⟨htable.symm.trans heq.symm, hid⟩
          subst hid
          rw [scanner?_eq_none_of_ne hget hne]
          exact scanner?_eq_none_of_ne (SortedMap.get?_insert_self _ _ _) hne
        · exact scanner?_congr (SortedMap.get?_insert_of_ne _ (Ne.symm hid) _)

theorem scanner?_deleteScanner (h : ¬(table = table' ∧ id = id')) :
    (s.deleteScanner table id).2.scanner? table' id' = s.scanner? table' id' := by
  cases hc : s.scanner? table id with
  | none => rw [deleteScanner_of_none hc]
  | some c =>
      rw [deleteScanner_of_some hc]
      by_cases hid : id = id'
      · obtain ⟨hget, htable⟩ := scanner?_eq_some_iff.1 hc
        have hne : table' ≠ c.table := fun heq => h ⟨htable.symm.trans heq.symm, hid⟩
        subst hid
        rw [scanner?_eq_none_of_ne hget hne, scanner?, SortedMap.get?_erase_self]
        rfl
      · exact scanner?_congr (SortedMap.get?_erase_of_ne _ (Ne.symm hid))

/-- Whether an id has been given to a scanner. -/
def Given (s : Store) (id : String) : Prop :=
  ∃ n < s.opened, id = scannerId n

theorem Given.mono {s' : Store} (h : s.Given id) (hle : s.opened ≤ s'.opened) : s'.Given id := by
  obtain ⟨n, hn, hid⟩ := h
  exact ⟨n, Nat.lt_of_lt_of_le hn hle, hid⟩

/-- An id that has been given is not that of the next scanner. -/
theorem Given.ne_next (h : s.Given id) : id ≠ scannerId s.opened := by
  obtain ⟨n, hn, rfl⟩ := h
  exact fun heq => Nat.ne_of_lt hn (scannerId_inj heq)

/-- An opened scanner has the cells of the scan, and its id is given. -/
theorem openScanner_of_table {t : Table} (spec : ScanSpec) (h : s.tables.get? table = some t) :
    ∃ opened, perform (backend.openScanner table spec) s = (.ok (scannerId s.opened), opened) ∧
      opened.scanner? table (scannerId s.opened) =
        some ⟨table, max spec.batch 1, t.scan spec⟩ ∧
      opened.Given (scannerId s.opened) := by
  refine ⟨_, openScanner_of_some spec h, scanner?_eq_some_iff.2 ⟨?_, rfl⟩,
    ⟨s.opened, Nat.lt_succ_self _, rfl⟩⟩
  exact SortedMap.get?_insert_self _ _ _

theorem scanner?_openScanner {spec : ScanSpec} (h : s.Given id') :
    (s.openScanner table spec).2.scanner? table' id' = s.scanner? table' id' := by
  cases ht : s.tables.get? table with
  | none => rw [openScanner_of_none spec ht]
  | some t =>
      rw [openScanner_of_some spec ht]
      exact scanner?_congr (SortedMap.get?_insert_of_ne _ h.ne_next _)

theorem opened_fetch (s : Store) (table id : String) :
    (s.fetch table id).2.opened = s.opened := by
  cases hc : s.scanner? table id with
  | none => rw [fetch_of_none hc]
  | some c =>
      rw [fetch_of_some hc]
      split <;> rfl

theorem opened_deleteScanner (s : Store) (table id : String) :
    (s.deleteScanner table id).2.opened = s.opened := by
  cases hc : s.scanner? table id with
  | none => rw [deleteScanner_of_none hc]
  | some c => rw [deleteScanner_of_some hc]

theorem opened_le_openScanner (s : Store) (table : String) (spec : ScanSpec) :
    s.opened ≤ (s.openScanner table spec).2.opened := by
  cases ht : s.tables.get? table with
  | none => exact Nat.le_of_eq (by rw [openScanner_of_none spec ht])
  | some t =>
      refine Nat.le_trans (Nat.le_succ s.opened) (Nat.le_of_eq ?_)
      rw [openScanner_of_some spec ht]

/-- A write does not touch the scanners. -/
theorem putCells_snd (s : Store) (table : String) (cells : List Cell) :
    ∃ tables, (s.putCells table cells).2 = { s with tables := tables } := by
  rw [putCells]
  split
  · exact ⟨s.tables, rfl⟩
  · split
    · exact ⟨s.tables, rfl⟩
    · exact ⟨_, rfl⟩

end Store

/-! ### Calls of others -/

/-- A call of an operation of a store. -/
inductive Call where
  | createTable (schema : TableSchema)
  | getRow (table rowKey : String) (columns : List String)
  | putCells (table : String) (cells : List Cell)
  | openScanner (table : String) (spec : ScanSpec)
  | fetch (table scanner : String)
  | deleteScanner (table scanner : String)

namespace Call

/-- The store that a call leaves. -/
def after (s : Store) : Call → Store
  | createTable schema => (perform (Store.backend.createTable schema) s).2
  | getRow table rowKey columns => (perform (Store.backend.getRow table rowKey columns) s).2
  | putCells table cells => (perform (Store.backend.putCells table cells) s).2
  | openScanner table spec => (perform (Store.backend.openScanner table spec) s).2
  | fetch table scanner => (perform (Store.backend.fetch table scanner) s).2
  | deleteScanner table scanner => (perform (Store.backend.deleteScanner table scanner) s).2

/-- The store that calls leave, one after the other. -/
def afterAll (s : Store) (calls : List Call) : Store :=
  calls.foldl after s

/-- Whether a call fetches from a scanner of a table, or deletes it. -/
def Uses (table scanner : String) : Call → Prop
  | fetch t id => t = table ∧ id = scanner
  | deleteScanner t id => t = table ∧ id = scanner
  | _ => False

variable {s : Store} {table id : String}

/-- No call takes back an id. -/
theorem opened_le_after (s : Store) (call : Call) : s.opened ≤ (call.after s).opened := by
  cases call with
  | createTable schema => exact Nat.le_refl _
  | getRow t key columns => exact Nat.le_refl _
  | putCells t cells =>
      obtain ⟨tables, h⟩ := s.putCells_snd t cells
      exact Nat.le_of_eq (congrArg Store.opened h).symm
  | openScanner t spec => exact s.opened_le_openScanner t spec
  | fetch t i => exact Nat.le_of_eq (s.opened_fetch t i).symm
  | deleteScanner t i => exact Nat.le_of_eq (s.opened_deleteScanner t i).symm

/-- **What others leave alone.**  A call that does not use a scanner leaves it as
it is, with the cells it still has. -/
theorem scanner?_after {call : Call} (h : ¬call.Uses table id) (hid : s.Given id) :
    (call.after s).scanner? table id = s.scanner? table id := by
  cases call with
  | createTable schema => rfl
  | getRow t key columns => rfl
  | putCells t cells =>
      obtain ⟨tables, hput⟩ := s.putCells_snd t cells
      show (s.putCells t cells).2.scanner? table id = _
      rw [hput]
      rfl
  | openScanner t spec => exact Store.scanner?_openScanner hid
  | fetch t i => exact Store.scanner?_fetch h
  | deleteScanner t i => exact Store.scanner?_deleteScanner h

theorem given_afterAll {calls : List Call} (hid : s.Given id) : (afterAll s calls).Given id := by
  induction calls generalizing s with
  | nil => exact hid
  | cons call calls ih => exact ih (hid.mono (opened_le_after s call))

theorem scanner?_afterAll {calls : List Call} (h : ∀ call ∈ calls, ¬call.Uses table id)
    (hid : s.Given id) : (afterAll s calls).scanner? table id = s.scanner? table id := by
  induction calls generalizing s with
  | nil => rfl
  | cons call calls ih =>
      obtain ⟨hcall, hcalls⟩ := List.forall_mem_cons.1 h
      show (afterAll (call.after s) calls).scanner? table id = s.scanner? table id
      rw [ih hcalls (hid.mono (opened_le_after s call)), scanner?_after hcall hid]

end Call

end StreamStore
