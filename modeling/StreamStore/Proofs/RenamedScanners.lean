import Mathlib.Logic.Equiv.Basic
import StreamStore.Proofs.TableSteps
import StreamStore.Proofs.TracedCalls

/-!
# Renaming the scanners of a table

The ids of scanners are numbered for the whole store, so a scan that is begun on one
table moves the ids of all that are begun later, on every table.  A caller never looks
into an id: it takes one from a cursor and presents it in a cursor.  So which ids a table's
scanners have is a matter of naming.

A permutation of the ids acts on what carries one: cursors, pages, errors and the operations
that present a cursor.  Two stores are the same for the users of a table up to such a
renaming when they agree on the table and each scanner of the one is the scanner of the other
under its new id (`Store.Renamed`).  In two such stores an operation on the table and the
renamed operation have answers that differ by the renaming, and leave two such stores
(`ClientCall.alike`).  When a scanner is opened, the renaming has to send the next id of the
one store to that of the other.
-/

namespace StreamStore

variable {α β γ δ : Type}

/-! ### What carries an id -/

section Rename

variable (ρ : Equiv.Perm String)

/-- The cursor of the scanner under its new id. -/
def Cursor.rename (c : Cursor) : Cursor :=
  ⟨c.scanner?.map ρ⟩

/-- The error with the scanner that it names under its new id. -/
def AccessError.rename : AccessError → AccessError
  | connection endpoint message scanner => connection endpoint message (scanner.map ρ)
  | backend operation table message scanner => backend operation table message (scanner.map ρ)
  | e => e

/-- The page with its cursor renamed. -/
def Page.rename (page : Page) : Page :=
  { page with cursor := page.cursor.rename ρ }

/-- The result with its cursor renamed. -/
def ResultSet.rename (r : ResultSet) : ResultSet :=
  { r with cursor := r.cursor.rename ρ }

/-- The operation with the cursor that it presents renamed. -/
def Operation.rename : Operation → Operation
  | loadRange r => loadRange { r with cursor := r.cursor.rename ρ }
  | abandonScan table t cursor => abandonScan table t (cursor.rename ρ)
  | op => op

/-- The call of the renamed operation. -/
def ClientCall.rename (call : ClientCall) : ClientCall :=
  { call with operation := call.operation.rename ρ }

/-- An answer with its error renamed, and its value by `f`. -/
def renameAnswer (f : α → β) : Except AccessError α → Except AccessError β
  | .ok a => .ok (f a)
  | .error e => .error (e.rename ρ)

end Rename

variable {ρ ρ' : Equiv.Perm String}

theorem AccessError.rename_withScanner (id : String) (e : AccessError) :
    (e.withScanner id).rename ρ = (e.rename ρ).withScanner (ρ id) := by
  cases e <;> rfl

theorem Client.resultOf_rename (p : Projection) (split : Bool) (page : Page) :
    resultOf p split (page.rename ρ) = (resultOf p split page).rename ρ := by
  unfold resultOf
  rw [Page.rename]
  split <;> rfl

theorem Operation.target_rename (op : Operation) : (op.rename ρ).target = op.target := by
  cases op <;> rfl

theorem ClientCall.tableName_rename (call : ClientCall) :
    (call.rename ρ).operation.tableName = call.operation.tableName := by
  rw [Operation.tableName, rename, Operation.target_rename, ← Operation.tableName]

theorem ClientCall.presented?_rename (call : ClientCall) :
    (call.rename ρ).operation.presented? = call.operation.presented?.map ρ := by
  obtain ⟨split, now, operation⟩ := call
  cases operation <;> rfl

/-- An operation looks at the new id of the scanner that it presents, and at no other. -/
theorem ClientCall.rename_congr {call : ClientCall}
    (h : ∀ id, call.operation.presented? = some id → ρ' id = ρ id) :
    call.rename ρ' = call.rename ρ := by
  have hcursor : ∀ cursor : Cursor, (∀ id, cursor.scanner? = some id → ρ' id = ρ id) →
      cursor.rename ρ' = cursor.rename ρ := by
    rintro ⟨_ | id⟩ hid
    · rfl
    · exact congrArg Cursor.resume (hid id rfl)
  obtain ⟨split, now, operation⟩ := call
  cases operation with
  | loadRange r => simp only [rename, Operation.rename, hcursor r.cursor h]
  | abandonScan table t cursor => simp only [rename, Operation.rename, hcursor cursor h]
  | _ => rfl

theorem Cursor.rename_refl (c : Cursor) : c.rename (Equiv.refl String) = c := by
  rcases c with ⟨_ | id⟩ <;> rfl

theorem AccessError.rename_refl (e : AccessError) : e.rename (Equiv.refl String) = e := by
  have hscanner : ∀ scanner : Option String, scanner.map (Equiv.refl String) = scanner := by
    rintro (_ | id) <;> rfl
  cases e <;> simp only [rename, hscanner]

theorem renameAnswer_refl :
    renameAnswer (Equiv.refl String) (Option.map (ResultSet.rename (Equiv.refl String))) = id := by
  funext answer
  rcases answer with e | _ | page
  · exact congrArg Except.error e.rename_refl
  · rfl
  · have hpage : page.rename (Equiv.refl String) = page := by
      rw [ResultSet.rename, Cursor.rename_refl]
    exact congrArg (fun page => Except.ok (some page)) hpage

/-! ### Stores that are the same up to a renaming -/

namespace Store

/-- Whether two stores are the same for the users of a table up to a renaming: they have the
same table under its name, and the same scanners on it under their new ids. -/
structure Renamed (table : String) (ρ : Equiv.Perm String) (s s' : Store) : Prop where
  tables : s'.tables.get? table = s.tables.get? table
  scanners : ∀ id, s'.scanner? table (ρ id) = s.scanner? table id

variable {table : String} {s s' r r' : Store}

/-- Two stores stay the same when a scanner of the one and the scanner of its new id in the
other become the same. -/
theorem Renamed.sets {id : String} {c? : Option Scanner} (h : Renamed table ρ s s')
    (hs : s.Sets r id c?) (hs' : s'.Sets r' (ρ id) c?) (htables : r.tables = s.tables)
    (htables' : r'.tables = s'.tables) : Renamed table ρ r r' := by
  refine ⟨?_, fun id' => ?_⟩
  · rw [htables, htables', h.tables]
  · rw [hs.scanner?, hs'.scanner?, h.scanners]
    exact if_congr ρ.apply_eq_iff_eq rfl rfl

end Store

/-! ### Outcomes that are alike -/

/-- Whether two outcomes are alike: the answers differ by the renaming, the stores are the same
up to it, and equally many scanners were opened, counted from two stores. -/
structure Alike (table : String) (ρ : Equiv.Perm String) (f : α → β) (s s' : Store)
    (x : Except AccessError α × Store) (y : Except AccessError β × Store) : Prop where
  answer : y.1 = renameAnswer ρ f x.1
  stores : Store.Renamed table ρ x.2 y.2
  opened : x.2.opened + s'.opened = y.2.opened + s.opened

namespace Alike

variable {table : String} {f : α → β} {s s' : Store}

/-- An answer that leaves the stores as they are. -/
theorem of_answer {x : Except AccessError α} {y : Except AccessError β}
    (h : Store.Renamed table ρ s s') (hanswer : y = renameAnswer ρ f x) :
    Alike table ρ f s s' (x, s) (y, s') :=
  ⟨hanswer, h, Nat.add_comm _ _⟩

theorem pure {a : α} {b : β} (h : Store.Renamed table ρ s s') (hab : b = f a) :
    Alike table ρ f s s' (perform (pure a) s) (perform (pure b) s') :=
  of_answer h (congrArg Except.ok hab)

theorem liftFault {ε : Type} {wrap : ε → AccessError} {check : Except ε α}
    (h : Store.Renamed table ρ s s') (hwrap : ∀ e, (wrap e).rename ρ = wrap e) :
    Alike table ρ id s s' (perform (liftFault wrap check) s)
      (perform (liftFault wrap check) s') := by
  rw [perform_liftFault, perform_liftFault]
  refine of_answer h ?_
  cases check with
  | error e => exact congrArg Except.error (hwrap e).symm
  | ok a => rfl

theorem bind {g : γ → δ} {x : Access (StateM Store) α} {y : Access (StateM Store) β}
    {k : α → Access (StateM Store) γ} {l : β → Access (StateM Store) δ}
    (hx : Alike table ρ f s s' (perform x s) (perform y s'))
    (hk : ∀ a t t', Store.Renamed table ρ t t' →
      Alike table ρ g t t' (perform (k a) t) (perform (l (f a)) t')) :
    Alike table ρ g s s' (perform (x >>= k) s) (perform (y >>= l) s') := by
  rw [perform_bind, perform_bind]
  revert hx
  rcases perform x s with ⟨e | a, t⟩ <;> rcases perform y s' with ⟨e' | b, t'⟩ <;>
    rintro ⟨hanswer, hstores, hopened⟩ <;> cases hanswer
  · exact ⟨rfl, hstores, hopened⟩
  · obtain ⟨hanswer', hstores', hopened'⟩ := hk a t t' hstores
    refine ⟨hanswer', hstores', ?_⟩
    dsimp only at hopened ⊢
    omega

theorem map {g : α → γ} {g' : β → δ} {f' : γ → δ} {x : Except AccessError α × Store}
    {y : Except AccessError β × Store} (h : Alike table ρ f s s' x y)
    (hg : ∀ a, g' (f a) = f' (g a)) :
    Alike table ρ f' s s' (x.1.map g, x.2) (y.1.map g', y.2) := by
  obtain ⟨hanswer, hstores, hopened⟩ := h
  obtain ⟨e | a, t⟩ := x
  · exact ⟨congrArg (Except.map g') hanswer, hstores, hopened⟩
  · refine ⟨(congrArg (Except.map g') hanswer).trans ?_, hstores, hopened⟩
    exact congrArg Except.ok (hg a)

theorem attempt {x : Access (StateM Store) α} {y : Access (StateM Store) β}
    (h : Alike table ρ f s s' (perform x s) (perform y s')) :
    Alike table ρ (renameAnswer ρ f) s s' (perform (attempt x) s) (perform (attempt y) s') :=
  ⟨congrArg Except.ok h.answer, h.stores, h.opened⟩

end Alike

/-! ### Calls -/

namespace Store.Renamed

variable {table : String} {s s' : Store} (h : Renamed table ρ s s')

include h

theorem createTable (schema : TableSchema) :
    Alike table ρ id s s' (perform (backend.createTable schema) s)
      (perform (backend.createTable schema) s') := by
  refine ⟨rfl, ⟨?_, h.scanners⟩, Nat.add_comm _ _⟩
  show (s'.createTable schema).tables.get? table = (s.createTable schema).tables.get? table
  rw [tables_createTable, tables_createTable, h.tables]

theorem getRow (rowKey : String) (columns : List String) :
    Alike table ρ id s s' (perform (backend.getRow table rowKey columns) s)
      (perform (backend.getRow table rowKey columns) s') := by
  refine .of_answer h ?_
  -- no error of a read names a scanner
  have hnamed : renameAnswer ρ id (s.getRow table rowKey columns) =
      s.getRow table rowKey columns := by
    unfold Store.getRow
    split
    · rfl
    · split
      · rfl
      · split <;> rfl
  rw [hnamed, Store.getRow, Store.getRow, h.tables]

theorem putCells (cells : List Cell) :
    Alike table ρ id s s' (perform (backend.putCells table cells) s)
      (perform (backend.putCells table cells) s') := by
  have hanswer : (s'.putCells table cells).1 = (s.putCells table cells).1 :=
    putCells_fst_congr (congrArg (Option.map Table.families) h.tables)
  have hnamed : renameAnswer ρ id (s.putCells table cells).1 = (s.putCells table cells).1 := by
    unfold Store.putCells
    split
    · rfl
    · split <;> rfl
  show Alike table ρ id s s' (s.putCells table cells) (s'.putCells table cells)
  rcases s.putCells_cases table cells with ⟨-, e, he⟩ | ⟨t, ht, hfiled, hput⟩
  · refine ⟨hanswer.trans hnamed.symm, ?_, ?_⟩
    · rw [he] at hanswer ⊢
      rw [putCells_of_error hanswer]
      exact h
    · rw [he] at hanswer ⊢
      rw [putCells_of_error hanswer]
      exact Nat.add_comm _ _
  · rw [hput, putCells_of_families (h.tables.trans ht) hfiled]
    refine ⟨rfl, ⟨?_, h.scanners⟩, Nat.add_comm _ _⟩
    exact (SortedMap.get?_insert_self _ _ _).trans (SortedMap.get?_insert_self _ _ _).symm

/-- An opened scanner gets the next id of its store. -/
theorem openScanner (spec : ScanSpec) (hnext : ∀ t, s.tables.get? table = some t →
      ρ (scannerId s.opened) = scannerId s'.opened) :
    Alike table ρ ρ s s' (perform (backend.openScanner table spec) s)
      (perform (backend.openScanner table spec) s') := by
  show Alike table ρ ρ s s' (s.openScanner table spec) (s'.openScanner table spec)
  cases ht : s.tables.get? table with
  | none =>
      rw [openScanner_of_none spec ht, openScanner_of_none spec (h.tables.trans ht)]
      exact .of_answer h rfl
  | some t =>
      have hid := hnext t ht
      rw [openScanner_of_some spec ht, openScanner_of_some spec (h.tables.trans ht)]
      refine ⟨congrArg Except.ok hid.symm, ?_, ?_⟩
      · exact h.sets (sets_insert rfl) (sets_insert (congrArg (s'.scanners.insert · _) hid.symm))
          rfl rfl
      · dsimp only
        omega

theorem fetch (id : String) :
    Alike table ρ (fun cells => cells) s s' (perform (backend.fetch table id) s)
      (perform (backend.fetch table (ρ id)) s') := by
  show Alike table ρ _ s s' (s.fetch table id) (s'.fetch table (ρ id))
  cases hc : s.scanner? table id with
  | none =>
      rw [fetch_of_none hc, fetch_of_none ((h.scanners id).trans hc)]
      exact .of_answer h rfl
  | some c =>
      rw [fetch_of_some hc, fetch_of_some ((h.scanners id).trans hc)]
      split
      · exact .of_answer h rfl
      · exact ⟨rfl, h.sets (sets_insert rfl) (sets_insert rfl) rfl rfl, Nat.add_comm _ _⟩

theorem deleteScanner (id : String) :
    Alike table ρ (fun u => u) s s' (perform (backend.deleteScanner table id) s)
      (perform (backend.deleteScanner table (ρ id)) s') := by
  show Alike table ρ _ s s' (s.deleteScanner table id) (s'.deleteScanner table (ρ id))
  cases hc : s.scanner? table id with
  | none =>
      rw [deleteScanner_of_none hc, deleteScanner_of_none ((h.scanners id).trans hc)]
      exact .of_answer h rfl
  | some c =>
      rw [deleteScanner_of_some hc, deleteScanner_of_some ((h.scanners id).trans hc)]
      exact ⟨rfl, h.sets (sets_erase rfl) (sets_erase rfl) rfl rfl, Nat.add_comm _ _⟩

/-! ### Scans -/

theorem release (id : String) :
    Alike table ρ (fun u => u) s s' (perform (Lease.release ⟨table, id⟩ backend) s)
      (perform (Lease.release ⟨table, ρ id⟩ backend) s') := by
  refine (h.deleteScanner id).attempt.bind ?_
  rintro (e | _) t t' ht
  · exact .of_answer ht (congrArg Except.error (e.rename_withScanner id).symm)
  · exact .pure ht rfl

theorem releaseQuietly (id : String) :
    Alike table ρ (fun u => u) s s' (perform (Lease.releaseQuietly ⟨table, id⟩ backend) s)
      (perform (Lease.releaseQuietly ⟨table, ρ id⟩ backend) s') :=
  (h.release id).attempt.bind fun _ _ _ ht => .pure ht rfl

theorem pageOf (id : String) :
    Alike table ρ (Page.rename ρ) s s' (perform (backend.pageOf ⟨table, id⟩) s)
      (perform (backend.pageOf ⟨table, ρ id⟩) s') := by
  refine (h.fetch id).attempt.bind ?_
  rintro (e | _ | _ | ⟨c, cs⟩) t t' ht
  · refine (ht.releaseQuietly id).bind fun _ _ _ ht => ?_
    exact .of_answer ht (congrArg Except.error (e.rename_withScanner id).symm)
  · exact (ht.releaseQuietly id).bind fun _ _ _ ht => .pure ht rfl
  · exact (ht.releaseQuietly id).bind fun _ _ _ ht => .pure ht rfl
  · exact .pure ht rfl

theorem nextPage (cursor : Cursor) (spec : ScanSpec)
    (hnext : cursor = .fresh → ∀ t, s.tables.get? table = some t →
      ρ (scannerId s.opened) = scannerId s'.opened) :
    Alike table ρ (Page.rename ρ) s s' (perform (backend.nextPage table cursor spec) s)
      (perform (backend.nextPage table (cursor.rename ρ) spec) s') := by
  rcases cursor.eq_fresh_or_resume with rfl | ⟨id, rfl⟩
  · show Alike table ρ (Page.rename ρ) s s' _ (perform (backend.nextPage table .fresh spec) s')
    rw [perform_nextPage_begun, perform_nextPage_begun]
    exact (h.openScanner spec (hnext rfl)).bind fun id _ _ ht => ht.pageOf id
  · exact h.pageOf id

theorem abandon (cursor : Cursor) :
    Alike table ρ (fun u => u) s s' (perform (backend.abandon table cursor) s)
      (perform (backend.abandon table (cursor.rename ρ)) s') := by
  rcases cursor.eq_fresh_or_resume with rfl | ⟨id, rfl⟩
  · exact .pure h rfl
  · exact h.release id

end Store.Renamed

/-! ### Operations -/

/-- A scan that is begun uses up an id. -/
theorem Store.opened_nextPage_fresh {s : Store} {table : String} {t : Table}
    (h : s.tables.get? table = some t) (spec : ScanSpec) :
    (perform (backend.nextPage table .fresh spec) s).2.opened = s.opened + 1 := by
  let c : Scanner := ⟨table, max spec.batch 1, t.scan spec⟩
  let opened : Store :=
    { s with scanners := s.scanners.insert (scannerId s.opened) c, opened := s.opened + 1 }
  have hopen : perform (backend.openScanner table spec) s = (.ok (scannerId s.opened), opened) :=
    openScanner_of_some spec h
  have hscanner : opened.scanner? table (scannerId s.opened) = some c :=
    scanner?_eq_some_iff.2 ⟨SortedMap.get?_insert_self _ _ _, rfl⟩
  rw [perform_nextPage_fresh hopen]
  by_cases hbatch : c.pending.take c.batch = []
  · obtain ⟨s', hpage, hopened, -⟩ := pageOf_drained hscanner hbatch
    rw [hpage]
    exact hopened
  · rw [pageOf_batch hscanner hbatch]

/-- **A renamed operation is answered alike.**  The renaming matters for the operation itself
when it opens a scanner. -/
theorem ClientCall.alike (call : ClientCall) {s s' : Store}
    (h : Store.Renamed call.operation.tableName ρ s s')
    (hnext : (call.on s).2.opened ≠ s.opened → ρ (scannerId s.opened) = scannerId s'.opened) :
    Alike call.operation.tableName ρ (Option.map (ResultSet.rename ρ)) s s'
      ((call.on s).1.answer, (call.on s).2)
      (((call.rename ρ).on s').1.answer, ((call.rename ρ).on s').2) := by
  obtain ⟨split, now, operation⟩ := call
  have hfault : ∀ fault, (AccessError.request fault).rename ρ = .request fault := fun _ => rfl
  have hclock : ∀ {table : String} {t t' : Store}, Store.Renamed table ρ t t' →
      Alike table ρ id t t' (perform (ExceptT.lift (Pure.pure now : StateM Store Nat)) t)
        (perform (ExceptT.lift (Pure.pure now : StateM Store Nat)) t') :=
    fun ht => .of_answer ht rfl
  show Alike _ ρ _ s s'
    (perform (operation.run (Client.ofStore split (Pure.pure now))) s)
    (perform ((operation.rename ρ).run (Client.ofStore split (Pure.pure now))) s')
  cases operation with
  | createTable table t =>
      exact .bind (.bind (.liftFault h hfault) fun _ _ _ ht => ht.createTable _)
        fun _ _ _ ht => .pure ht rfl
  | putValue table r =>
      exact .bind (.bind (.liftFault h hfault) fun _ _ _ ht => .bind (hclock ht)
        fun _ _ _ ht => ht.putCells _) fun _ _ _ ht => .pure ht rfl
  | putCells table t writes =>
      exact .bind (.bind (.liftFault h hfault) fun _ _ _ ht => .bind (hclock ht)
        fun _ _ _ ht => ht.putCells _) fun _ _ _ ht => .pure ht rfl
  | getRow table t rowKey columns =>
      exact .bind (.bind (.liftFault h hfault) fun _ _ _ ht => .bind (ht.getRow _ _)
        fun _ _ _ ht => .pure ht rfl) fun _ _ _ ht => .pure ht rfl
  | loadRange r =>
      have hrun : ∀ (r : LoadRequest) (s : Store),
          perform ((Operation.loadRange r).run (Client.ofStore split (Pure.pure now))) s =
            ((perform ((Client.ofStore split (Pure.pure now)).loadRange r) s).1.map some,
              (perform ((Client.ofStore split (Pure.pure now)).loadRange r) s).2) :=
        fun r s => perform_bind_pure _ some s
      rw [hrun, Operation.rename, hrun]
      cases hplan : r.plan with
      | error fault =>
          have hplan' : { r with cursor := r.cursor.rename ρ }.plan = .error fault := hplan
          rw [Client.perform_loadRange_of_error hplan, Client.perform_loadRange_of_error hplan']
          exact .of_answer h rfl
      | ok plan =>
          obtain ⟨p, spec⟩ := plan
          have hplan' : { r with cursor := r.cursor.rename ρ }.plan = .ok (p, spec) := hplan
          have hbegun : r.cursor = .fresh → ∀ t, s.tables.get? r.tableName = some t →
              ρ (scannerId s.opened) = scannerId s'.opened := by
            intro hcursor t ht
            refine hnext ?_
            rw [on_loadRange, Client.perform_loadRange hplan, hcursor]
            exact (Store.opened_nextPage_fresh ht spec).trans_ne (Nat.succ_ne_self _)
          rw [Client.perform_loadRange hplan, Client.perform_loadRange hplan']
          exact ((h.nextPage r.cursor spec hbegun).map (Client.resultOf_rename p split)).map
            fun _ => rfl
  | abandonScan table t cursor => exact (h.abandon cursor).bind fun _ _ _ ht => .pure ht rfl

end StreamStore
