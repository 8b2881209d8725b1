import StreamStore.Proofs.ClientPages
import StreamStore.Proofs.PageStep

/-!
# What an operation of a client does to the scanners

A client has six operations, and only two of them, `loadRange` and `abandonScan`,
reach the scanners of a store.  `Effect` lists everything that one operation can do
to them, together with what its caller learns from the answer: nothing at all, a
scanner opened, a scan that was over as soon as it began, a page taken off a
scanner, or a scanner ended.  Every operation has one of these effects
(`ClientCall.effect`), and invariants over runs follow from that alone.

What the caller learns is read off the operation and its answer: the lease that
was handed out as a cursor (`Entry.handed?`), and the lease that came to its end
(`Entry.ended?`).
-/

namespace StreamStore

/-! ### Operations and their answers -/

/-- An operation of a client, with its arguments. -/
inductive Operation where
  | createTable (table : String) (t : RecordType)
  | putValue (table : String) (r : PutRequest)
  | putCells (table : String) (t : RecordType) (writes : List CellWrite)
  | getRow (table : String) (t : RecordType) (rowKey : Option String) (columns : String)
  | loadRange (r : LoadRequest)
  | abandonScan (table : String) (t : RecordType) (cursor : Cursor)

namespace Operation

/-- Whether an operation is about a scan; the others read and write. -/
def isScan : Operation → Bool
  | loadRange _ => true
  | abandonScan _ _ _ => true
  | _ => false

/-- The scanner that an operation names in its cursor. -/
def presented? : Operation → Option String
  | loadRange r => r.cursor.scanner?
  | abandonScan _ _ cursor => cursor.scanner?
  | _ => none

/-- Runs an operation; it answers a page when it reads. -/
def run {m : Type → Type} [Monad m] (c : Client m) : Operation → Access m (Option ResultSet)
  | createTable table t => do
      c.createTable table t
      return none
  | putValue table r => do
      c.putValue table r
      return none
  | putCells table t writes => do
      c.putCells table t writes
      return none
  | getRow table t rowKey columns => return some (← c.getRow table t rowKey columns)
  | loadRange r => return some (← c.loadRange r)
  | abandonScan table t cursor => do
      c.abandonScan table t cursor
      return none

end Operation

/-- An operation and what it answered. -/
structure Entry where
  /-- The operation. -/
  operation : Operation
  /-- Its answer. -/
  answer : Except AccessError (Option ResultSet)

namespace Entry

/-- The scanner that was handed out as a cursor, with its table. -/
def handed? : Entry → Option Lease
  | ⟨.loadRange r, .ok (some page)⟩ => page.cursor.scanner?.map fun id => ⟨r.tableName, id⟩
  | _ => none

/-- The scanner that was reported exhausted or was abandoned, with its table. -/
def ended? : Entry → Option Lease
  | ⟨.loadRange r, .ok (some page)⟩ =>
      if page.hasMore then none else r.cursor.scanner?.map fun id => ⟨r.tableName, id⟩
  | ⟨.abandonScan table t cursor, .ok _⟩ =>
      cursor.scanner?.map fun id => ⟨t.tableName table, id⟩
  | _ => none

/-- Whether an operation must not touch scanners: it failed, or it is no operation
on scans. -/
def IsQuiet (e : Entry) : Prop :=
  (∃ fault, e.answer = .error fault) ∨ e.operation.isScan = false

end Entry

/-- An operation as one of many clients of a store runs it: with its own way of
naming rows, and at some time. -/
structure ClientCall where
  /-- Whether the client names rows by timestamp and node. -/
  splitIdentity : Bool
  /-- What its clock shows. -/
  now : Nat
  /-- The operation. -/
  operation : Operation

namespace ClientCall

/-- The operation on a store: what it answers, and the store it leaves. -/
def on (call : ClientCall) (s : Store) : Entry × Store :=
  let r := perform (call.operation.run (Client.ofStore call.splitIdentity (pure call.now))) s
  (⟨call.operation, r.1⟩, r.2)

end ClientCall

/-! ### Open scanners -/

namespace Store

variable {s s' : Store} {l l' : Lease}

/-- Whether a scanner is open on a table. -/
def IsOpen (s : Store) (l : Lease) : Prop :=
  ∃ c, s.scanners.get? l.scanner = some c ∧ c.table = l.table

/-- A scanner is open on one table only. -/
theorem IsOpen.unique (h : s.IsOpen l) (h' : s.IsOpen l') (hid : l.scanner = l'.scanner) :
    l = l' := by
  obtain ⟨c, hc, htable⟩ := h
  obtain ⟨d, hd, htable'⟩ := h'
  have hcd : c = d := by
    rw [hid, hd] at hc
    exact (Option.some.inj hc).symm
  cases l
  cases l'
  simp_all

theorem isOpen_of_scanner? {c : Scanner} (h : s.scanner? l.table l.scanner = some c) :
    s.IsOpen l :=
  ⟨c, scanner?_eq_some_iff.1 h⟩

theorem isOpen_of_sets_some {c : Scanner} {id : String} (h : s.Sets s' id (some c)) :
    s'.IsOpen l ↔ l = ⟨c.table, id⟩ ∨ l.scanner ≠ id ∧ s.IsOpen l := by
  unfold IsOpen
  rw [h l.scanner]
  by_cases hid : l.scanner = id
  · cases l
    simp_all [eq_comm]
  · have hne : l ≠ ⟨c.table, id⟩ := fun heq => hid (congrArg Lease.scanner heq)
    simp [hid, hne]

theorem isOpen_of_sets_none {id : String} (h : s.Sets s' id none) :
    s'.IsOpen l ↔ l.scanner ≠ id ∧ s.IsOpen l := by
  unfold IsOpen
  rw [h l.scanner]
  by_cases hid : l.scanner = id
  · simp [hid]
  · simp [hid]

end Store

/-! ### Operations that leave the scanners alone -/

/-- Whether an operation changes nothing of a store but its tables. -/
def KeepsScanners {α : Type} (x : Access (StateM Store) α) : Prop :=
  ∀ s, ∃ tables, (perform x s).2 = { s with tables := tables }

namespace KeepsScanners

variable {α β : Type} {x : Access (StateM Store) α} {f : α → Access (StateM Store) β}

theorem pure (a : α) : KeepsScanners (pure a) :=
  fun s => ⟨s.tables, rfl⟩

theorem liftFault {ε : Type} (wrap : ε → AccessError) (check : Except ε α) :
    KeepsScanners (liftFault wrap check) := by
  intro s
  rw [perform_liftFault]
  exact ⟨s.tables, rfl⟩

theorem bind (hx : KeepsScanners x) (hf : ∀ a, KeepsScanners (f a)) :
    KeepsScanners (x >>= f) := by
  intro s
  obtain ⟨tables, htables⟩ := hx s
  rw [perform_bind]
  rcases hr : perform x s with ⟨e | a, s'⟩
  · exact ⟨tables, by rw [← htables, hr]⟩
  · rw [hr] at htables
    obtain rfl : s' = { s with tables := tables } := htables
    obtain ⟨tables', htables'⟩ := hf a { s with tables := tables }
    exact ⟨tables', htables'⟩

end KeepsScanners

/-- Reads and writes do not touch the scanners. -/
theorem Operation.keepsScanners (c : ClientCall) (h : c.operation.isScan = false) :
    KeepsScanners (c.operation.run (Client.ofStore c.splitIdentity (pure c.now))) := by
  obtain ⟨split, now, operation⟩ := c
  have hput : ∀ table cells, KeepsScanners (Store.backend.putCells table cells) :=
    fun table cells s => s.putCells_snd table cells
  have hclock : KeepsScanners (ExceptT.lift (pure now : StateM Store Nat)) :=
    fun s => ⟨s.tables, rfl⟩
  cases operation with
  | createTable table t =>
      refine .bind (.bind (.liftFault _ _) fun _ s => ⟨_, rfl⟩) fun _ => .pure _
  | putValue table r =>
      refine .bind (.bind (.liftFault _ _) fun _ => .bind hclock fun _ => hput _ _) fun _ => .pure _
  | putCells table t writes =>
      refine .bind (.bind (.liftFault _ _) fun _ => .bind hclock fun _ => hput _ _) fun _ => .pure _
  | getRow table t rowKey columns =>
      refine .bind (.bind (.liftFault _ _) fun _ => .bind (fun s => ⟨s.tables, rfl⟩) fun _ =>
        .pure _) fun _ => .pure _
  | loadRange r => cases h
  | abandonScan table t cursor => cases h

/-! ### Effects -/

/-- What an operation did to the scanners of a store, and what its caller learned. -/
inductive Effect (s s' : Store) (e : Entry) : Prop where
  /-- Nothing happened to the scanners, and an operation that named one failed. -/
  | still (presented : e.operation.presented? = none ∨ ∃ fault, e.answer = .error fault)
      (scanners : s'.scanners = s.scanners) (opened : s'.opened = s.opened)
      (handed : e.handed? = none) (ended : e.ended? = none)
  /-- A scanner was opened and handed out. -/
  | opened (c : Scanner) (presented : e.operation.presented? = none)
      (scanners : s.Sets s' (scannerId s.opened) (some c)) (opened : s'.opened = s.opened + 1)
      (handed : e.handed? = some ⟨c.table, scannerId s.opened⟩) (ended : e.ended? = none)
  /-- A scanner was opened and deleted again, because it had no cells. -/
  | passed (r : LoadRequest) (presented : r.cursor.scanner? = none)
      (entry : e = ⟨.loadRange r, .ok (some .exhausted)⟩)
      (scanners : s.Sets s' (scannerId s.opened) none) (opened : s'.opened = s.opened + 1)
  /-- An open scanner handed out cells. -/
  | fetched (l : Lease) (c : Scanner) (presented : e.operation.presented? = some l.scanner)
      (isOpen : s.IsOpen l) (table : c.table = l.table) (scanners : s.Sets s' l.scanner (some c))
      (opened : s'.opened = s.opened) (handed : e.handed? = some l) (ended : e.ended? = none)
  /-- An open scanner was deleted. -/
  | closed (l : Lease) (presented : e.operation.presented? = some l.scanner)
      (isOpen : s.IsOpen l) (scanners : s.Sets s' l.scanner none) (opened : s'.opened = s.opened)
      (handed : e.handed? = none) (ended : e.ended? = some l)

namespace Entry

theorem handed?_of_error {op : Operation} {fault : AccessError} :
    handed? ⟨op, .error fault⟩ = none := by
  cases op <;> rfl

theorem ended?_of_error {op : Operation} {fault : AccessError} :
    ended? ⟨op, .error fault⟩ = none := by
  cases op <;> rfl

/-- A failure, a read or a write neither hands out a scanner nor ends one. -/
theorem IsQuiet.handed?_ended? {e : Entry} (h : e.IsQuiet) :
    e.handed? = none ∧ e.ended? = none := by
  obtain ⟨op, answer⟩ := e
  rcases h with ⟨fault, rfl⟩ | hscan
  · exact ⟨handed?_of_error, ended?_of_error⟩
  · cases op with
    | loadRange r => cases hscan
    | abandonScan table t cursor => cases hscan
    | _ => exact ⟨rfl, rfl⟩

end Entry

namespace Effect

variable {s s' : Store}

theorem of_error {op : Operation} {fault : AccessError} : Effect s s ⟨op, .error fault⟩ :=
  .still (.inr ⟨fault, rfl⟩) rfl rfl Entry.handed?_of_error Entry.ended?_of_error

/-! ### Each operation -/

/-- A query that goes on with a scanner. -/
theorem of_resume {split : Bool} {p : Projection} {r : LoadRequest} {id : String}
    (hcursor : r.cursor = .resume id) {answer : Except AccessError Page}
    (h : perform (Store.backend.pageOf ⟨r.tableName, id⟩) s = (answer, s')) :
    Effect s s' ⟨.loadRange r, (answer.map (Client.resultOf p split)).map some⟩ := by
  cases hscanner : s.scanner? r.tableName id with
  | none =>
      rw [Store.pageOf_missing hscanner] at h
      cases h
      exact .of_error
  | some c =>
      have hopen : s.IsOpen ⟨r.tableName, id⟩ := Store.isOpen_of_scanner? hscanner
      have hpresented : r.cursor.scanner? = some id := by rw [hcursor]; rfl
      by_cases hbatch : c.pending.take c.batch = []
      · obtain ⟨t, hpage, hopened, hsets⟩ := Store.pageOf_drained hscanner hbatch
        rw [hpage] at h
        cases h
        refine .closed ⟨r.tableName, id⟩ hpresented hopen hsets hopened rfl ?_
        show r.cursor.scanner?.map _ = _
        rw [hpresented]
        rfl
      · rw [Store.pageOf_batch hscanner hbatch] at h
        cases h
        exact .fetched ⟨r.tableName, id⟩ { c with pending := c.pending.drop c.batch } hpresented
          hopen (Store.scanner?_eq_some_iff.1 hscanner).2 (Store.sets_insert rfl) rfl rfl rfl

/-- A query that begins, on a table that exists. -/
theorem of_fresh {split : Bool} {p : Projection} {r : LoadRequest} {spec : ScanSpec} {t : Table}
    (hcursor : r.cursor = .fresh) (htable : s.tables.get? r.tableName = some t)
    {answer : Except AccessError Page}
    (h : perform (Store.backend.nextPage r.tableName .fresh spec) s = (answer, s')) :
    Effect s s' ⟨.loadRange r, (answer.map (Client.resultOf p split)).map some⟩ := by
  let c : Scanner := ⟨r.tableName, max spec.batch 1, t.scan spec⟩
  let opened : Store :=
    { s with scanners := s.scanners.insert (scannerId s.opened) c, opened := s.opened + 1 }
  have hopen : perform (Store.backend.openScanner r.tableName spec) s =
      (.ok (scannerId s.opened), opened) := Store.openScanner_of_some spec htable
  have hsets : s.Sets opened (scannerId s.opened) (some c) := Store.sets_insert rfl
  have hscanner : opened.scanner? r.tableName (scannerId s.opened) = some c :=
    Store.scanner?_eq_some_iff.2 ⟨SortedMap.get?_insert_self _ _ _, rfl⟩
  have hnone : r.cursor.scanner? = none := by rw [hcursor]; rfl
  rw [perform_nextPage_fresh hopen] at h
  by_cases hbatch : c.pending.take c.batch = []
  · obtain ⟨s'', hpage, hcount, hgone⟩ := Store.pageOf_drained hscanner hbatch
    rw [hpage] at h
    cases h
    exact .passed r hnone rfl (hsets.trans hgone) hcount
  · rw [Store.pageOf_batch hscanner hbatch] at h
    cases h
    exact .opened { c with pending := c.pending.drop c.batch } hnone
      (hsets.trans (Store.sets_insert rfl)) rfl rfl rfl

theorem of_loadRange (split : Bool) (clock : StateM Store Nat) (r : LoadRequest) (s : Store) :
    Effect s (perform ((Client.ofStore split clock).loadRange r) s).2
      ⟨.loadRange r, (perform ((Client.ofStore split clock).loadRange r) s).1.map some⟩ := by
  cases hplan : r.plan with
  | error fault =>
      rw [Client.perform_loadRange_of_error hplan]
      exact .of_error
  | ok plan =>
      obtain ⟨p, spec⟩ := plan
      have hload : perform ((Client.ofStore split clock).loadRange r) s =
          ((perform (Store.backend.nextPage r.tableName r.cursor spec) s).1.map
              (Client.resultOf p split),
            (perform (Store.backend.nextPage r.tableName r.cursor spec) s).2) :=
        Client.perform_loadRange hplan
      rw [hload]
      rcases r.cursor.eq_fresh_or_resume with hcursor | ⟨id, hcursor⟩
      · rw [hcursor]
        cases htable : s.tables.get? r.tableName with
        | none =>
            have hopen : perform (Store.backend.openScanner r.tableName spec) s =
                (.error (Store.tableMissing "scanner_create" r.tableName), s) :=
              Store.openScanner_of_none spec htable
            rw [perform_nextPage_refused hopen]
            exact .of_error
        | some t => exact of_fresh hcursor htable rfl
      · rw [hcursor, perform_nextPage_resume]
        exact of_resume hcursor rfl

theorem of_abandonScan (split : Bool) (clock : StateM Store Nat) (table : String) (t : RecordType)
    (cursor : Cursor) (s : Store) :
    Effect s (perform ((Client.ofStore split clock).abandonScan table t cursor) s).2
      ⟨.abandonScan table t cursor,
        (perform ((Client.ofStore split clock).abandonScan table t cursor) s).1.map
          fun _ => none⟩ := by
  rcases cursor.eq_fresh_or_resume with rfl | ⟨id, rfl⟩
  · exact .still (.inl rfl) rfl rfl rfl rfl
  · have habandon : perform ((Client.ofStore split clock).abandonScan table t (.resume id)) s =
        ((s.deleteScanner (t.tableName table) id).1.mapError (AccessError.withScanner id),
          (s.deleteScanner (t.tableName table) id).2) :=
      perform_release ⟨t.tableName table, id⟩ Store.backend s
    rw [habandon]
    cases hscanner : s.scanner? (t.tableName table) id with
    | none =>
        rw [Store.deleteScanner_of_none hscanner]
        exact .of_error
    | some c =>
        have hopen : s.IsOpen ⟨t.tableName table, id⟩ := Store.isOpen_of_scanner? hscanner
        rw [Store.deleteScanner_of_some hscanner]
        exact .closed ⟨t.tableName table, id⟩ rfl hopen (Store.sets_erase rfl) rfl rfl rfl

end Effect

namespace ClientCall

theorem on_loadRange (split : Bool) (now : Nat) (r : LoadRequest) (s : Store) :
    (⟨split, now, .loadRange r⟩ : ClientCall).on s =
      (⟨.loadRange r, (perform ((Client.ofStore split (pure now)).loadRange r) s).1.map some⟩,
        (perform ((Client.ofStore split (pure now)).loadRange r) s).2) := by
  unfold on Operation.run
  dsimp only
  rw [perform_bind_pure]

theorem on_abandonScan (split : Bool) (now : Nat) (table : String) (t : RecordType)
    (cursor : Cursor) (s : Store) :
    (⟨split, now, .abandonScan table t cursor⟩ : ClientCall).on s =
      (⟨.abandonScan table t cursor,
          (perform ((Client.ofStore split (pure now)).abandonScan table t cursor) s).1.map
            fun _ => none⟩,
        (perform ((Client.ofStore split (pure now)).abandonScan table t cursor) s).2) := by
  unfold on Operation.run
  dsimp only
  rw [perform_bind_pure]

/-- **What an operation can do to the scanners.** -/
theorem effect (call : ClientCall) (s : Store) : Effect s (call.on s).2 (call.on s).1 := by
  obtain ⟨split, now, operation⟩ := call
  by_cases hscan : operation.isScan = false
  · obtain ⟨tables, htables⟩ := Operation.keepsScanners ⟨split, now, operation⟩ hscan s
    have hon : (ClientCall.on ⟨split, now, operation⟩ s).2 = { s with tables := tables } := htables
    have hquiet : (ClientCall.on ⟨split, now, operation⟩ s).1.IsQuiet := .inr hscan
    have hnone : operation.presented? = none := by
      cases operation with
      | loadRange r => cases hscan
      | abandonScan table t cursor => cases hscan
      | _ => rfl
    refine .still (.inl hnone) ?_ ?_ hquiet.handed?_ended?.1 hquiet.handed?_ended?.2
    · rw [hon]
    · rw [hon]
  · cases operation with
    | loadRange r =>
        rw [on_loadRange]
        exact .of_loadRange split (pure now) r s
    | abandonScan table t cursor =>
        rw [on_abandonScan]
        exact .of_abandonScan split (pure now) table t cursor s
    | _ => exact absurd rfl hscan

end ClientCall

/-! ### What follows from an effect -/

namespace Effect

variable {s s' : Store} {e : Entry}

/-- A failure, a read or a write leaves every scanner as it is. -/
theorem scanners_of_isQuiet (h : Effect s s' e) (hquiet : e.IsQuiet) :
    s'.scanners = s.scanners := by
  obtain ⟨hhanded, hended⟩ := hquiet.handed?_ended?
  cases h with
  | still _ scanners => exact scanners
  | opened c _ _ _ handed => simp [hhanded] at handed
  | passed r _ entry =>
      subst entry
      simp [Entry.IsQuiet, Operation.isScan] at hquiet
  | fetched l c _ _ _ _ _ handed => simp [hhanded] at handed
  | closed l _ _ _ _ _ ended => simp [hended] at ended

/-- A cursor of a scanner that does not exist is refused. -/
theorem fails_of_unknown (h : Effect s s' e) {id : String}
    (hpresented : e.operation.presented? = some id) (hid : s.scanners.get? id = none) :
    ∃ fault, e.answer = .error fault := by
  have hclosed : ∀ l : Lease, s.IsOpen l → l.scanner ≠ id := by
    rintro l ⟨c, hc, -⟩ rfl
    simp [hid] at hc
  cases h with
  | still presented =>
      rcases presented with hnone | hfault
      · simp [hpresented] at hnone
      · exact hfault
  | opened c presented => simp [hpresented] at presented
  | passed r presented entry =>
      subst entry
      exact absurd (presented.symm.trans hpresented) (by simp)
  | fetched l c presented isOpen =>
      exact absurd (Option.some.inj (presented.symm.trans hpresented)) (hclosed l isOpen)
  | closed l presented isOpen =>
      exact absurd (Option.some.inj (presented.symm.trans hpresented)) (hclosed l isOpen)

end Effect

end StreamStore
