import StreamStore.Proofs.ScannerLedger
import StreamStore.Proofs.TableSteps
import StreamStore.Proofs.TracedCalls

/-!
# Calls on other tables

A base name and a record type make the full name of a table, and no two pairs make one
name (`RecordType.tableName_inj`).  Two stores are the same for the users of a table
when they agree on the table and on its scanners (`Store.SameOn`).

A call that is addressed to one table leaves the store the same on every other one
(`Call.sameOn_after`), and so does an operation of a client (`ClientCall.sameOn_on`).  A
scanner that is opened takes an id that no scanner has, so the store has to be one that
can be reached (`Store.AllGiven`).
-/

namespace StreamStore

/-! ### Names of tables -/

/-- A base name and a record type can be read off the full name of the table. -/
theorem RecordType.tableName_inj {t t' : RecordType} {base base' : String}
    (h : t.tableName base = t'.tableName base') : (base, t) = (base', t') := by
  have htext : base.toList ++ t.tableSuffix.toList = base'.toList ++ t'.tableSuffix.toList := by
    rw [← String.toList_append, ← String.toList_append]
    exact congrArg String.toList h
  -- the last characters of the two suffixes are different
  have htype : t = t' := by
    have hlast := congrArg List.getLast? htext
    rw [List.getLast?_append, List.getLast?_append] at hlast
    cases t <;> cases t'
    · rfl
    · cases hlast
    · cases hlast
    · rfl
  subst htype
  rw [String.toList_inj.1 (List.append_cancel_right htext)]

/-! ### Stores that are the same on a table -/

namespace Store

/-- Whether two stores are the same for the users of a table: they have the same table
under its name, and the same scanners on it. -/
structure SameOn (table : String) (s s' : Store) : Prop where
  tables : s'.tables.get? table = s.tables.get? table
  scanners : ∀ id, s'.scanner? table id = s.scanner? table id

namespace SameOn

variable {table : String} {s s' s'' : Store}

theorem refl (s : Store) : SameOn table s s :=
  ⟨rfl, fun _ => rfl⟩

theorem trans (h : SameOn table s s') (h' : SameOn table s' s'') : SameOn table s s'' :=
  ⟨h'.tables.trans h.tables, fun id => (h'.scanners id).trans (h.scanners id)⟩

end SameOn

end Store

/-! ### Calls on other tables -/

namespace Call

variable {s : Store} {table : String}

/-- No call opens a scanner under an id that has not been given. -/
theorem allGiven_after (hs : s.AllGiven) (call : Call) : (call.after s).AllGiven := by
  have hle : s.opened ≤ (call.after s).opened := opened_le_after s call
  cases call with
  | createTable schema => exact hs
  | getRow t key columns => exact hs
  | putCells t cells =>
      obtain ⟨tables, h⟩ := s.putCells_snd t cells
      show (s.putCells t cells).2.AllGiven
      rw [h]
      exact hs
  | openScanner t spec =>
      show (s.openScanner t spec).2.AllGiven
      cases ht : s.tables.get? t with
      | none =>
          rw [Store.openScanner_of_none spec ht]
          exact hs
      | some u =>
          rw [Store.openScanner_of_some spec ht]
          exact hs.of_sets (Store.sets_insert rfl) (Nat.le_succ _)
            fun _ => ⟨s.opened, Nat.lt_succ_self _, rfl⟩
  | fetch t id =>
      show (s.fetch t id).2.AllGiven
      cases hc : s.scanner? t id with
      | none =>
          rw [Store.fetch_of_none hc]
          exact hs
      | some c =>
          rw [Store.fetch_of_some hc]
          split
          · exact hs
          · exact hs.of_sets (Store.sets_insert rfl) (Nat.le_refl _)
              fun _ => hs id c (Store.scanner?_eq_some_iff.1 hc).1
  | deleteScanner t id =>
      show (s.deleteScanner t id).2.AllGiven
      cases hc : s.scanner? t id with
      | none =>
          rw [Store.deleteScanner_of_none hc]
          exact hs
      | some c =>
          rw [Store.deleteScanner_of_some hc]
          exact hs.of_sets (Store.sets_erase rfl) (Nat.le_refl _) fun hne => absurd rfl hne

theorem allGiven_afterAll (hs : s.AllGiven) (calls : List Call) : (afterAll s calls).AllGiven := by
  induction calls generalizing s with
  | nil => exact hs
  | cons call calls ih => exact ih (allGiven_after hs call)

/-- **A call leaves the other tables alone.** -/
theorem sameOn_after (hs : s.AllGiven) {call : Call} (h : call.table ≠ table) :
    s.SameOn table (call.after s) := by
  cases call with
  | createTable schema =>
      refine ⟨?_, fun id => rfl⟩
      exact (Store.tables_createTable s schema table).trans (if_neg (Ne.symm h))
  | getRow t key columns => exact .refl s
  | putCells t cells =>
      refine ⟨Store.tables_putCells_of_ne h, fun id => ?_⟩
      obtain ⟨tables, hput⟩ := s.putCells_snd t cells
      show (s.putCells t cells).2.scanner? table id = _
      rw [hput]
      rfl
  | openScanner t spec =>
      refine ⟨congrArg (·.get? table) (s.tables_openScanner t spec), fun id => ?_⟩
      show (s.openScanner t spec).2.scanner? table id = _
      cases ht : s.tables.get? t with
      | none => rw [Store.openScanner_of_none spec ht]
      | some u =>
          rw [Store.openScanner_of_some spec ht]
          rw [(Store.sets_insert rfl : Store.Sets s _ _ _).scanner? table id]
          split
          · next hid =>
              -- the new scanner belongs to the other table, and its id was not in use
              have hother : (t == table) = false := beq_eq_false_iff_ne.2 h
              rw [hid, Store.scanner?, hs.next_unused, Option.filter_some, hother]
              rfl
          · rfl
  | fetch t id =>
      refine ⟨congrArg (·.get? table) (s.tables_fetch t id), fun id' => ?_⟩
      exact Store.scanner?_fetch fun hsame => h hsame.1
  | deleteScanner t id =>
      refine ⟨congrArg (·.get? table) (s.tables_deleteScanner t id), fun id' => ?_⟩
      exact Store.scanner?_deleteScanner fun hsame => h hsame.1

theorem sameOn_afterAll (hs : s.AllGiven) {calls : List Call}
    (h : ∀ call ∈ calls, call.table ≠ table) : s.SameOn table (afterAll s calls) := by
  induction calls generalizing s with
  | nil => exact .refl s
  | cons call calls ih =>
      obtain ⟨hcall, hcalls⟩ := List.forall_mem_cons.1 h
      exact (sameOn_after hs hcall).trans (ih (allGiven_after hs call) hcalls)

end Call

namespace ClientCall

variable (call : ClientCall) {s : Store}

/-- An operation of a client leaves a store as its calls do. -/
theorem on_snd (s : Store) :
    (call.on s).2 = Call.afterAll s (call.calls Store.backend s) := by
  show (perform (call.action Store.backend) s).2 = _
  rcases call.refused_or_asks Store.backend s with ⟨fault, -, hcalls, hrefused⟩ | hasks
  · rw [hrefused, hcalls]
    rfl
  · rw [hasks.state, Call.after_store]

/-- **An operation leaves the other tables alone.** -/
theorem sameOn_on (hs : s.AllGiven) {table : String} (h : call.operation.tableName ≠ table) :
    s.SameOn table (call.on s).2 := by
  rw [call.on_snd]
  apply Call.sameOn_afterAll hs
  intro asked hasked
  rcases call.refused_or_asks Store.backend s with ⟨fault, -, hcalls, -⟩ | hasks
  · rw [hcalls] at hasked
    cases hasked
  · rw [hasks.addressed asked hasked]
    exact h

end ClientCall

end StreamStore
