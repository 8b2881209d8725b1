import StreamStore.Proofs.MatchedRuns

/-!
# Tables do not interfere

What is done on one table leaves every other one alone (`ClientCall.sameOn_on`).  What follows
on the other table is then answered as if nothing had happened, except that the scans which are
begun there have other ids.

A run is a list of operations on any tables, and `answersOn` lists what those on one table are
answered.  Two runs with the same operations on the table (`SameOps`) start from stores that are
the same on it, and by induction on the two runs they are matched to the end, so that the
answers differ by a renaming of the ids (`exists_renaming`).
-/

namespace StreamStore

/-! ### Answers -/

/-- The operations of a run that are addressed to one table. -/
def onTable (target : String × RecordType) (calls : List ClientCall) : List ClientCall :=
  calls.filter fun call => call.operation.target = target

/-- What the operations on one table are answered in a run, in which there may be operations
on other tables. -/
def answersOn (target : String × RecordType) :
    Store → List ClientCall → List (Except AccessError (Option ResultSet))
  | _, [] => []
  | s, call :: calls =>
      if call.operation.target = target then
        (call.on s).1.answer :: answersOn target (call.on s).2 calls
      else answersOn target (call.on s).2 calls

/-- The call with the cursor that it presents renamed, if it is addressed to a table. -/
def ClientCall.renameOn (target : String × RecordType) (ρ : Equiv.Perm String)
    (call : ClientCall) : ClientCall :=
  if call.operation.target = target then call.rename ρ else call

theorem ClientCall.renameOn_refl (target : String × RecordType) :
    renameOn target (Equiv.refl String) = id := by
  funext call
  obtain ⟨split, now, operation⟩ := call
  unfold renameOn
  split
  · cases operation <;> simp only [rename, Operation.rename, Cursor.rename_refl, id]
  · rfl

/-- Two runs with the same operations on a table, and any operations on others. -/
inductive SameOps (target : String × RecordType) : List ClientCall → List ClientCall → Prop
  /-- No operations. -/
  | nil : SameOps target [] []
  /-- An operation elsewhere in the one run. -/
  | left {call : ClientCall} {calls calls' : List ClientCall} :
      call.operation.target ≠ target → SameOps target calls calls' →
      SameOps target (call :: calls) calls'
  /-- An operation elsewhere in the other run. -/
  | right {call : ClientCall} {calls calls' : List ClientCall} :
      call.operation.target ≠ target → SameOps target calls calls' →
      SameOps target calls (call :: calls')
  /-- An operation on the table in both. -/
  | both {call : ClientCall} {calls calls' : List ClientCall} :
      call.operation.target = target → SameOps target calls calls' →
      SameOps target (call :: calls) (call :: calls')

section Answers

variable {target : String × RecordType} {s s' : Store} {calls calls' : List ClientCall}
  {call : ClientCall}

theorem onTable_cons_of_eq (h : call.operation.target = target) :
    onTable target (call :: calls) = call :: onTable target calls :=
  List.filter_cons_of_pos (decide_eq_true h)

theorem onTable_cons_of_ne (h : call.operation.target ≠ target) :
    onTable target (call :: calls) = onTable target calls :=
  List.filter_cons_of_neg (by simpa using h)

theorem answersOn_cons_of_eq (h : call.operation.target = target) :
    answersOn target s (call :: calls) =
      (call.on s).1.answer :: answersOn target (call.on s).2 calls := by
  rw [answersOn, if_pos h]

theorem answersOn_cons_of_ne (h : call.operation.target ≠ target) :
    answersOn target s (call :: calls) = answersOn target (call.on s).2 calls := by
  rw [answersOn, if_neg h]

theorem sameOps_of_onTable_eq (h : onTable target calls' = onTable target calls) :
    SameOps target calls calls' := by
  induction calls generalizing calls' with
  | nil =>
      induction calls' with
      | nil => exact .nil
      | cons call calls' ih =>
          by_cases htarget : call.operation.target = target
          · rw [onTable_cons_of_eq htarget] at h
            cases h
          · rw [onTable_cons_of_ne htarget] at h
            exact .right htarget (ih h)
  | cons call calls ih =>
      by_cases htarget : call.operation.target = target
      · rw [onTable_cons_of_eq htarget] at h
        induction calls' with
        | nil => cases h
        | cons call' calls' ih' =>
            by_cases htarget' : call'.operation.target = target
            · rw [onTable_cons_of_eq htarget'] at h
              obtain ⟨rfl, hcalls⟩ := List.cons.inj h
              exact .both htarget (ih hcalls)
            · rw [onTable_cons_of_ne htarget'] at h
              exact .right htarget' (ih' h)
      · rw [onTable_cons_of_ne htarget] at h
        exact .left htarget (ih h)

theorem Operation.tableName_of_target {op : Operation} (h : op.target = target) :
    op.tableName = target.2.tableName target.1 := by
  rw [Operation.tableName, h]

theorem Operation.tableName_ne {op : Operation} (h : op.target ≠ target) :
    op.tableName ≠ target.2.tableName target.1 :=
  fun heq => h (RecordType.tableName_inj heq)

/-- **Matched runs are answered alike.**  There is a renaming, settled where the given one is,
under which the run with renamed cursors has the renamed answers.  It is the given one if no
scan is begun. -/
theorem exists_renaming (hops : SameOps target calls calls') :
    ∀ {s s' : Store} {known : Set String} {ρ : Equiv.Perm String},
      Matched (target.2.tableName target.1) known ρ s s' →
      ∃ ρ' : Equiv.Perm String, (∀ id ∈ known, ρ' id = ρ id) ∧
        ((∀ call ∈ onTable target calls, ¬call.operation.begins) → ρ' = ρ) ∧
        answersOn target s' (calls'.map (ClientCall.renameOn target ρ')) =
          (answersOn target s calls).map (renameAnswer ρ' (Option.map (ResultSet.rename ρ'))) := by
  induction hops with
  | nil => exact fun {_ _ _ ρ} _ => ⟨ρ, fun _ _ => rfl, fun _ => rfl, rfl⟩
  | @left call calls calls' htarget _ ih =>
      intro s s' known ρ h
      have hother := Operation.tableName_ne htarget
      have heffect := call.effect s
      rw [onTable_cons_of_ne htarget, answersOn_cons_of_ne htarget]
      exact ih (h.left (call.sameOn_on h.given hother) (heffect.allGiven h.given) heffect.opened_le)
  | @right call calls calls' htarget _ ih =>
      intro s s' known ρ h
      have hother := Operation.tableName_ne htarget
      have heffect := call.effect s'
      obtain ⟨ρ', hagree, hquiet, hanswers⟩ := ih (h.right (call.sameOn_on h.given' hother)
        (heffect.allGiven h.given') heffect.opened_le)
      refine ⟨ρ', hagree, hquiet, ?_⟩
      rw [List.map_cons, ClientCall.renameOn, if_neg htarget, answersOn_cons_of_ne htarget,
        hanswers]
  | @both call calls calls' htarget _ ih =>
      intro s s' known ρ h
      have htable := Operation.tableName_of_target htarget
      rw [← htable] at h
      obtain ⟨ρ₁, hagree₁, hquiet₁, hnext⟩ := h.exists_step
      obtain ⟨ρ', hagree, hquiet, hanswers⟩ := ih (htable ▸ h.after hagree₁ hnext)
      have hagree' : ∀ id ∈ known, ρ' id = ρ id := fun id hid =>
        (hagree id (.inl hid)).trans (hagree₁ id hid)
      have hnext' : (call.on s).2.opened ≠ s.opened →
          ρ' (scannerId s.opened) = scannerId s'.opened := fun hopened =>
        (hagree _ (.inr ⟨rfl, hopened⟩)).trans (hnext hopened)
      have halike := call.alike (h.renamed_of_agree hagree') hnext'
      have htarget' : (call.rename ρ').operation.target = target :=
        (Operation.target_rename _).trans htarget
      refine ⟨ρ', hagree', fun hnone => ?_, ?_⟩
      · rw [onTable_cons_of_eq htarget] at hnone
        obtain ⟨hcall, hcalls⟩ := List.forall_mem_cons.1 hnone
        rw [hquiet hcalls, hquiet₁ hcall]
      · rw [List.map_cons, ClientCall.renameOn, if_pos htarget, answersOn_cons_of_eq htarget',
          h.on_rename_snd hagree' hagree₁, hanswers, answersOn_cons_of_eq htarget, List.map_cons]
        exact congrArg (· :: _) halike.answer

end Answers

/-- **Tables do not interfere.**  In every store that a run can leave, an operation on one
table leaves the families, the rows and the scanners of every other one unchanged.  So all
operations on the other table that follow are answered as if the operation had not happened,
whatever else is done elsewhere in the one case and in the other.  If they begin no scan, the
answers are the same.  If they do, the answers are the same up to the ids of the scanners that
are opened from then on: there is a renaming of these ids, by which the cursors of the answers,
and with them those that are presented later, differ. -/
theorem tables_do_not_interfere (calls : List Call) (call : ClientCall) (base : String)
    (t : RecordType) (h : call.operation.target ≠ (base, t)) :
    let s := Call.afterAll .empty calls
    let s' := (call.on s).2
    s.SameOn (t.tableName base) s' ∧
    ∀ later later', onTable (base, t) later' = onTable (base, t) later →
      ((∀ c ∈ onTable (base, t) later, ¬c.operation.begins) →
        answersOn (base, t) s' later' = answersOn (base, t) s later) ∧
      ∃ ρ : Equiv.Perm String, (∀ id, ¬s.ToCome id → ρ id = id) ∧
        answersOn (base, t) s' (later'.map (ClientCall.renameOn (base, t) ρ)) =
          (answersOn (base, t) s later).map (renameAnswer ρ (Option.map (ResultSet.rename ρ))) := by
  intro s s'
  have hgiven : s.AllGiven := Call.allGiven_afterAll ledger_empty.given calls
  have heffect := call.effect s
  have hsame : s.SameOn (t.tableName base) s' := call.sameOn_on hgiven (Operation.tableName_ne h)
  have hmatched := Matched.of_sameOn hsame hgiven (heffect.allGiven hgiven) heffect.opened_le
  refine ⟨hsame, fun later later' hlater => ?_⟩
  obtain ⟨ρ, hfixed, hquiet, hanswers⟩ := exists_renaming (sameOps_of_onTable_eq hlater) hmatched
  refine ⟨fun hnone => ?_, ρ, hfixed, hanswers⟩
  rwa [hquiet hnone, ClientCall.renameOn_refl, renameAnswer_refl, List.map_id,
    List.map_id] at hanswers

/-- Two events and a reading of one stream. -/
def twoTables : List Call :=
  [.createTable ⟨"plant_events", ["EF"]⟩, .createTable ⟨"plant_stream_realtime", ["DF"]⟩,
    .putCells "plant_events" [⟨"000000000007:922337203684500:north", "EF:state", 1000, "on"⟩,
      ⟨"000000000007:922337203684600:north", "EF:state", 900, "off"⟩],
    .putCells "plant_stream_realtime"
      [⟨"000000000007:922337203684500:north", "DF:state", 1000, "1"⟩]]

/-- A query for the states of the stream, one row a page. -/
def stateQuery (type : RecordType) (cursor : Cursor) : ClientCall :=
  ⟨true, 5, .loadRange
    { table := "plant", type := type, streamId := "7", columns := "state", limit := some 1,
      cursor := cursor }⟩

/-- The cursor in an answer. -/
def cursorOf (answer : Except AccessError (Option ResultSet)) : Option Cursor :=
  (answer.toOption.bind id).map ResultSet.cursor

theorem cursorOf_renameAnswer {ρ : Equiv.Perm String}
    (answer : Except AccessError (Option ResultSet)) :
    cursorOf (renameAnswer ρ (Option.map (ResultSet.rename ρ)) answer) =
      (cursorOf answer).map (Cursor.rename ρ) := by
  rcases answer with e | _ | page <;> rfl

/-- A scan of the readings uses up an id.  The scan of the events then has the next one, and
its two pages and what follows them show the rows that they would have shown. -/
theorem begun_scan_leaves_events :
    let s := Call.afterAll .empty twoTables
    let s' := ((stateQuery .data .fresh).on s).2
    let events := [stateQuery .event .fresh, stateQuery .event (.resume (scannerId 0)),
      stateQuery .event (.resume (scannerId 0))]
    (stateQuery .data .fresh).operation.target ≠ ("plant", .event) ∧
      ((answersOn ("plant", .event) s events).map fun answer =>
          (answer.toOption.bind id).map fun page => page.data.keys) =
        [some ["1000:north"], some ["900:north"], some []] ∧
      ∃ ρ : Equiv.Perm String, ρ (scannerId 0) = scannerId 1 ∧
        answersOn ("plant", .event) s' (events.map (ClientCall.renameOn ("plant", .event) ρ)) =
          (answersOn ("plant", .event) s events).map
            (renameAnswer ρ (Option.map (ResultSet.rename ρ))) := by
  intro s s' events
  have htarget : (stateQuery .data .fresh).operation.target ≠ ("plant", .event) := by decide
  obtain ⟨ρ, -, hanswers⟩ :=
    ((tables_do_not_interfere twoTables (stateQuery .data .fresh) "plant" .event htarget).2
      events events rfl).2
  refine ⟨htarget, by decide +kernel, ρ, ?_, hanswers⟩
  -- the ids are those in the cursors of the first pages
  have hfirst : (stateQuery .event .fresh).renameOn ("plant", .event) ρ =
      stateQuery .event .fresh := if_pos rfl
  have htable : (stateQuery .event .fresh).operation.target = ("plant", .event) := rfl
  have hheads := hanswers
  rw [show events = stateQuery .event .fresh :: events.tail from rfl, List.map_cons, hfirst,
    answersOn_cons_of_eq htable, answersOn_cons_of_eq htable, List.map_cons] at hheads
  have hrenamed : cursorOf ((stateQuery .event .fresh).on s').1.answer =
      (cursorOf ((stateQuery .event .fresh).on s).1.answer).map (Cursor.rename ρ) := by
    rw [← cursorOf_renameAnswer]
    exact congrArg cursorOf (List.cons.inj hheads).1
  have hbefore : cursorOf ((stateQuery .event .fresh).on s).1.answer =
      some (.resume (scannerId 0)) := by decide +kernel
  have hafter : cursorOf ((stateQuery .event .fresh).on s').1.answer =
      some (.resume (scannerId 1)) := by decide +kernel
  rw [hbefore, hafter] at hrenamed
  exact (Option.some.inj (congrArg Cursor.scanner? (Option.some.inj hrenamed))).symm

end StreamStore
