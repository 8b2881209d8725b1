import Mathlib.Data.List.Nodup
import StreamStore.Proofs.RecordedCalls

/-!
# Every scanner is deleted once

Callers run scans over one backend, about which nothing is known but that it never
gives an id twice.  A caller goes on with a scan, or abandons it, only on its own
table and with the cursor of its latest page, and forgets the cursor when the scan
has ended, has failed or was abandoned.  A `World` is what such callers have done so
far: the log of the operations on scanners, and the cursors that they hold.

Then every scanner that was created is *in use*, held in the cursor of one caller
and never deleted, or it is *over*, deleted once and named in no operation since
(`InUse`, `IsOver`).  `Accounts` is this with what makes it go through from step to
step: nothing is held or named that was not created.

A call consists of at most three operations, and each of them is one move of the
accounts.  While a call works its lease counts as held by the caller, so opening adds
to the cursors held, fetching needs one of them, and a deletion takes it away.
-/

namespace StreamStore

/-! ### Callers and their cursors -/

/-- A cursor that a caller holds, with the table of its scan. -/
structure Holding where
  /-- The caller. -/
  caller : Nat
  /-- The table and the scanner. -/
  lease : Lease
  deriving DecidableEq

/-- The cursors of a scanner among those held. -/
def holdingsOf (held : List Holding) (id : String) : List Holding :=
  held.filter fun h => h.lease.scanner == id

/-- The cursors held without one of them. -/
def without (held : List Holding) (h : Holding) : List Holding :=
  held.filter fun h' => h' != h

/-- Whether a caller may present a cursor on a table: it is empty or held by it. -/
def Owns (held : List Holding) (caller : Nat) (table : String) (cursor : Cursor) : Prop :=
  ∀ id, cursor.scanner? = some id → ⟨caller, ⟨table, id⟩⟩ ∈ held

/-- The cursors held after a caller has presented one. -/
def presenting (held : List Holding) (caller : Nat) (table : String) (cursor : Cursor) :
    List Holding :=
  match cursor.scanner? with
  | some id => without held ⟨caller, ⟨table, id⟩⟩
  | none => held

/-- The cursor that a caller receives with a page. -/
def received (caller : Nat) (table : String) : Except AccessError Page → List Holding
  | .ok page => page.cursor.scanner?.toList.map fun id => ⟨caller, ⟨table, id⟩⟩
  | .error _ => []

/-- What callers have done with a backend, and where it stands. -/
structure World (σ : Type) where
  /-- What the backend keeps. -/
  state : σ
  /-- The operations on scanners. -/
  log : List Exchange
  /-- The cursors that callers hold. -/
  held : List Holding

namespace World

variable {σ : Type} (b : Backend (StateM σ))

/-- A caller asks for a page. -/
def execute (w : World σ) (caller : Nat) (table : String) (cursor : Cursor) (spec : ScanSpec) :
    World σ :=
  let r := perform (b.recorded.nextPage table cursor spec) (w.state, w.log)
  ⟨r.2.1, r.2.2, presenting w.held caller table cursor ++ received caller table r.1⟩

/-- A caller abandons a scan. -/
def abandon (w : World σ) (caller : Nat) (table : String) (cursor : Cursor) : World σ :=
  let r := perform (b.recorded.abandon table cursor) (w.state, w.log)
  ⟨r.2.1, r.2.2, presenting w.held caller table cursor⟩

/-- The worlds that callers of a backend can come to. -/
inductive Reachable : World σ → Prop where
  /-- Nothing has happened. -/
  | start (s : σ) : Reachable ⟨s, [], []⟩
  /-- A caller asks for a page. -/
  | execute {w : World σ} (h : Reachable w) (caller : Nat) (table : String) (cursor : Cursor)
      (spec : ScanSpec) (howns : Owns w.held caller table cursor) :
      Reachable (w.execute b caller table cursor spec)
  /-- A caller abandons a scan. -/
  | abandon {w : World σ} (h : Reachable w) (caller : Nat) (table : String) (cursor : Cursor)
      (howns : Owns w.held caller table cursor) : Reachable (w.abandon b caller table cursor)
  /-- The backend does something of its own. -/
  | drift {w : World σ} (h : Reachable w) (s : σ) : Reachable { w with state := s }

end World

/-! ### The accounts -/

/-- The scanners that were created. -/
def created (log : List Exchange) : List Lease :=
  log.filterMap Exchange.created?

/-- Whether the backend gave no id twice. -/
def NeverRepeats (log : List Exchange) : Prop :=
  ((created log).map Lease.scanner).Nodup

/-- Whether a scanner is held in the cursor of one caller, and no deletion of it has
been requested. -/
def InUse (log : List Exchange) (held : List Holding) (l : Lease) : Prop :=
  (∃ caller, holdingsOf held l.scanner = [⟨caller, l⟩]) ∧
    ∀ x ∈ log, x.deleted? ≠ some l.scanner

/-- Whether a scanner is held by nobody, its deletion has been requested once, on its
own table, and no later operation names it. -/
def IsOver (log : List Exchange) (held : List Holding) (l : Lease) : Prop :=
  holdingsOf held l.scanner = [] ∧
    ∃ before answer after, log = before ++ .deleted l answer :: after ∧
      (∀ x ∈ before, x.deleted? ≠ some l.scanner) ∧ ∀ x ∈ after, x.named? ≠ some l.scanner

/-- Whether every scanner is accounted for. -/
structure Accounts (log : List Exchange) (held : List Holding) : Prop where
  /-- What callers hold was created. -/
  holdings : ∀ h ∈ held, h.lease ∈ created log
  /-- What operations name was created. -/
  named : ∀ x ∈ log, ∀ id, x.named? = some id → id ∈ (created log).map Lease.scanner
  /-- What was created is in use or over. -/
  each : ∀ l ∈ created log, InUse log held l ∨ IsOver log held l

section Accounting

variable {log new : List Exchange} {held held' : List Holding} {l : Lease} {caller : Nat}

theorem holdingsOf_append (id : String) :
    holdingsOf (held ++ held') id = holdingsOf held id ++ holdingsOf held' id :=
  List.filter_append ..

theorem mem_holdingsOf {h : Holding} {id : String} :
    h ∈ holdingsOf held id ↔ h ∈ held ∧ h.lease.scanner = id := by
  rw [holdingsOf, List.mem_filter, beq_iff_eq]

theorem holdingsOf_without_of_ne {h : Holding} {id : String} (hid : h.lease.scanner ≠ id) :
    holdingsOf (without held h) id = holdingsOf held id := by
  unfold holdingsOf without
  rw [List.filter_filter]
  refine List.filter_congr fun h' _ => ?_
  by_cases heq : h' = h
  · simp [heq, hid]
  · simp [heq]

theorem holdingsOf_without_self {h : Holding} (hself : holdingsOf held h.lease.scanner = [h]) :
    holdingsOf (without held h) h.lease.scanner = [] := by
  refine List.eq_nil_iff_forall_not_mem.2 fun h' hmem => ?_
  obtain ⟨hmem, hid⟩ := mem_holdingsOf.1 hmem
  obtain ⟨hheld, hne⟩ := List.mem_filter.1 hmem
  have hsingle : h' ∈ holdingsOf held h.lease.scanner := mem_holdingsOf.2 ⟨hheld, hid⟩
  rw [hself] at hsingle
  simp [List.mem_singleton.1 hsingle] at hne

/-- A cursor that is given up and received again is held as before. -/
theorem holdingsOf_renewed {h : Holding} (hself : holdingsOf held h.lease.scanner = [h])
    (id : String) : holdingsOf (without held h ++ [h]) id = holdingsOf held id := by
  rw [holdingsOf_append]
  by_cases hid : h.lease.scanner = id
  · subst hid
    rw [holdingsOf_without_self hself, hself]
    simp [holdingsOf]
  · rw [holdingsOf_without_of_ne hid]
    simp [holdingsOf, hid]

theorem without_append_self {h : Holding} (hnot : h ∉ held) : without (held ++ [h]) h = held := by
  unfold without
  rw [List.filter_append, List.filter_eq_self.2]
  · simp
  · intro h' hmem
    exact bne_iff_ne.2 fun heq => hnot (heq ▸ hmem)

theorem created_append : created (log ++ new) = created log ++ created new :=
  List.filterMap_append

theorem NeverRepeats.of_append (h : NeverRepeats (log ++ new)) : NeverRepeats log := by
  unfold NeverRepeats at h
  rw [created_append, List.map_append] at h
  exact (List.nodup_append.1 h).1

/-- Two scanners that were created have different ids. -/
theorem NeverRepeats.lease_eq (h : NeverRepeats log) {l l' : Lease} (hl : l ∈ created log)
    (hl' : l' ∈ created log) (hid : l.scanner = l'.scanner) : l = l' :=
  List.inj_on_of_nodup_map h hl hl' hid

/-- A scanner that operations do not name stays in use. -/
theorem InUse.append (h : InUse log held l)
    (hheld : holdingsOf held' l.scanner = holdingsOf held l.scanner)
    (hnew : ∀ x ∈ new, x.deleted? ≠ some l.scanner) : InUse (log ++ new) held' l := by
  obtain ⟨⟨caller, hcaller⟩, hlog⟩ := h
  refine ⟨⟨caller, hheld.trans hcaller⟩, fun x hx => ?_⟩
  rcases List.mem_append.1 hx with hx | hx
  · exact hlog x hx
  · exact hnew x hx

/-- A scanner that operations do not name stays over. -/
theorem IsOver.append (h : IsOver log held l)
    (hheld : holdingsOf held' l.scanner = holdingsOf held l.scanner)
    (hnew : ∀ x ∈ new, x.named? ≠ some l.scanner) : IsOver (log ++ new) held' l := by
  obtain ⟨hnil, before, answer, after, rfl, hbefore, hafter⟩ := h
  refine ⟨hheld.trans hnil, before, answer, after ++ new, by simp, hbefore, fun x hx => ?_⟩
  rcases List.mem_append.1 hx with hx | hx
  · exact hafter x hx
  · exact hnew x hx

namespace Accounts

theorem of_nothing : Accounts [] [] where
  holdings := fun _ h => nomatch h
  named := fun _ h => nomatch h
  each := fun _ h => nomatch h

/-- What a caller holds is in use. -/
theorem inUse_of_held (h : Accounts log held) (hheld : ⟨caller, l⟩ ∈ held) :
    holdingsOf held l.scanner = [⟨caller, l⟩] ∧ ∀ x ∈ log, x.deleted? ≠ some l.scanner := by
  have hmem : ⟨caller, l⟩ ∈ holdingsOf held l.scanner := mem_holdingsOf.2 ⟨hheld, rfl⟩
  rcases h.each l (h.holdings _ hheld) with ⟨⟨caller', hcaller⟩, hlog⟩ | ⟨hnil, -⟩
  · rw [hcaller] at hmem
    rw [← List.mem_singleton.1 hmem] at hcaller
    exact ⟨hcaller, hlog⟩
  · rw [hnil] at hmem
    cases hmem

/-! ### The moves -/

/-- One operation, about one scanner: the accounts of the others stand. -/
theorem move {x : Exchange} (h : Accounts log held) (hnever : NeverRepeats (log ++ [x]))
    (hl : l ∈ created (log ++ [x])) (hcreated : ∀ l', x.created? = some l' → l' = l)
    (hnamed : ∀ id, x.named? = some id → id = l.scanner)
    (hframe : ∀ id, id ≠ l.scanner → holdingsOf held' id = holdingsOf held id)
    (hself : InUse (log ++ [x]) held' l ∨ IsOver (log ++ [x]) held' l) :
    Accounts (log ++ [x]) held' where
  holdings := by
    intro h' hmem
    have hmem' : h' ∈ holdingsOf held' h'.lease.scanner := mem_holdingsOf.2 ⟨hmem, rfl⟩
    by_cases hid : h'.lease.scanner = l.scanner
    · rw [hid] at hmem'
      rcases hself with ⟨⟨caller, hcaller⟩, -⟩ | ⟨hnil, -⟩
      · rw [hcaller] at hmem'
        rw [List.mem_singleton.1 hmem']
        exact hl
      · rw [hnil] at hmem'
        cases hmem'
    · rw [hframe _ hid] at hmem'
      rw [created_append]
      exact List.mem_append_left _ (h.holdings h' (mem_holdingsOf.1 hmem').1)
  named := by
    intro y hy id hid
    rcases List.mem_append.1 hy with hy | hy
    · rw [created_append, List.map_append]
      exact List.mem_append_left _ (h.named y hy id hid)
    · rw [List.mem_singleton.1 hy] at hid
      exact List.mem_map.2 ⟨l, hl, (hnamed id hid).symm⟩
  each := by
    intro l' hl'
    by_cases heq : l' = l
    · rw [heq]
      exact hself
    · have hid : l'.scanner ≠ l.scanner := fun hid => heq (hnever.lease_eq hl' hl hid)
      have hnew : ∀ y ∈ [x], y.named? ≠ some l'.scanner := by
        intro y hy hname
        rw [List.mem_singleton.1 hy] at hname
        exact hid (hnamed _ hname)
      have hold : l' ∈ created log := by
        rw [created_append] at hl'
        refine (List.mem_append.1 hl').resolve_right fun hmem => ?_
        obtain ⟨y, hy, hcreate⟩ := List.mem_filterMap.1 hmem
        rw [List.mem_singleton.1 hy] at hcreate
        exact heq (hcreated l' hcreate)
      rcases h.each l' hold with huse | hover
      · exact .inl (huse.append (hframe _ hid) fun y hy hdelete =>
          hnew y hy (Exchange.named?_of_deleted? hdelete))
      · exact .inr (hover.append (hframe _ hid) hnew)

/-- No scanner is opened. -/
theorem refuse (h : Accounts log held) (table : String) (spec : ScanSpec) (e : AccessError) :
    Accounts (log ++ [.opened table spec (.error e)]) held := by
  have hcreated : created (log ++ [.opened table spec (.error e)]) = created log := by
    rw [created_append]
    exact List.append_nil _
  have hnew : ∀ id, ∀ x ∈ [Exchange.opened table spec (.error e)], x.named? ≠ some id := by
    intro id x hx
    rw [List.mem_singleton.1 hx]
    exact nofun
  refine ⟨hcreated ▸ h.holdings, ?_, ?_⟩
  · rw [hcreated]
    intro x hx id hid
    rcases List.mem_append.1 hx with hx | hx
    · exact h.named x hx id hid
    · exact absurd hid (hnew id x hx)
  · rw [hcreated]
    intro l hl
    rcases h.each l hl with huse | hover
    · exact .inl (huse.append rfl fun x hx hdelete =>
        hnew _ x hx (Exchange.named?_of_deleted? hdelete))
    · exact .inr (hover.append rfl (hnew _))

/-- An id that was not given yet is neither held nor named. -/
theorem unused (h : Accounts log held) (hl : l.scanner ∉ (created log).map Lease.scanner) :
    holdingsOf held l.scanner = [] ∧ ∀ x ∈ log, x.deleted? ≠ some l.scanner := by
  refine ⟨List.eq_nil_iff_forall_not_mem.2 fun h' hmem => ?_, fun x hx hdelete => ?_⟩
  · obtain ⟨hheld, hid⟩ := mem_holdingsOf.1 hmem
    exact hl (List.mem_map.2 ⟨h'.lease, h.holdings h' hheld, hid⟩)
  · exact hl (h.named x hx _ (Exchange.named?_of_deleted? hdelete))

/-- A scanner is opened, and its caller holds it. -/
theorem opens (h : Accounts log held) (caller : Nat) {table id : String} {spec : ScanSpec}
    (hnever : NeverRepeats (log ++ [.opened table spec (.ok id)])) :
    ⟨caller, ⟨table, id⟩⟩ ∉ held ∧
      Accounts (log ++ [.opened table spec (.ok id)]) (held ++ [⟨caller, ⟨table, id⟩⟩]) := by
  have hcreated : created (log ++ [.opened table spec (.ok id)]) = created log ++ [⟨table, id⟩] :=
    created_append
  have hfresh : id ∉ (created log).map Lease.scanner := by
    have hnodup := hnever
    unfold NeverRepeats at hnodup
    rw [hcreated, List.map_append] at hnodup
    exact fun hmem => (List.nodup_append.1 hnodup).2.2 id hmem id (List.mem_singleton_self id) rfl
  obtain ⟨hnil, hlog⟩ := h.unused (l := ⟨table, id⟩) hfresh
  refine ⟨fun hmem => ?_, h.move (l := ⟨table, id⟩) hnever ?_ ?_ ?_ ?_ (.inl ⟨⟨caller, ?_⟩, ?_⟩)⟩
  · exact hfresh (List.mem_map.2 ⟨_, h.holdings _ hmem, rfl⟩)
  · rw [hcreated]
    exact List.mem_append_right _ (List.mem_singleton_self _)
  · exact fun l' hl' => (Option.some.inj hl').symm
  · exact nofun
  · intro id' hid
    have hother : holdingsOf [⟨caller, ⟨table, id⟩⟩] id' = [] := by
      simp [holdingsOf, Ne.symm hid]
    rw [holdingsOf_append, hother, List.append_nil]
  · rw [holdingsOf_append, hnil]
    simp [holdingsOf]
  · intro x hx
    rcases List.mem_append.1 hx with hx | hx
    · exact hlog x hx
    · rw [List.mem_singleton.1 hx]
      exact nofun

/-- A caller fetches from a scanner that it holds, and goes on holding it. -/
theorem fetches (h : Accounts log held) {answer : Except AccessError (Option (List Cell))}
    (hnever : NeverRepeats (log ++ [.fetched l answer])) (hheld : ⟨caller, l⟩ ∈ held)
    (hsame : ∀ id, holdingsOf held' id = holdingsOf held id) :
    Accounts (log ++ [.fetched l answer]) held' := by
  obtain ⟨hcaller, hlog⟩ := h.inUse_of_held hheld
  have hl : l ∈ created (log ++ [.fetched l answer]) := by
    rw [created_append]
    exact List.mem_append_left _ (h.holdings _ hheld)
  refine h.move hnever hl nofun (fun id hid => (Option.some.inj hid).symm)
    (fun id _ => hsame id) (.inl ⟨⟨caller, (hsame _).trans hcaller⟩, fun x hx => ?_⟩)
  rcases List.mem_append.1 hx with hx | hx
  · exact hlog x hx
  · rw [List.mem_singleton.1 hx]
    exact nofun

/-- A caller has a scanner deleted that it holds, and holds it no longer. -/
theorem deletes (h : Accounts log held) {answer : Except AccessError Unit}
    (hnever : NeverRepeats (log ++ [.deleted l answer])) (hheld : ⟨caller, l⟩ ∈ held) :
    Accounts (log ++ [.deleted l answer]) (without held ⟨caller, l⟩) := by
  obtain ⟨hcaller, hlog⟩ := h.inUse_of_held hheld
  have hl : l ∈ created (log ++ [.deleted l answer]) := by
    rw [created_append]
    exact List.mem_append_left _ (h.holdings _ hheld)
  refine h.move hnever hl nofun (fun id hid => (Option.some.inj hid).symm) ?_
    (.inr ⟨holdingsOf_without_self hcaller, log, answer, [], rfl, hlog, nofun⟩)
  exact fun id hid => holdingsOf_without_of_ne (Ne.symm hid)

/-! ### The calls -/

/-- The page of a scanner that a caller holds. -/
theorem page (h : Accounts log held) {outcome : Except AccessError Page}
    (hpaged : Paged l outcome new) (hnever : NeverRepeats (log ++ new))
    (hheld : ⟨caller, l⟩ ∈ held) :
    Accounts (log ++ new) (without held ⟨caller, l⟩ ++ received caller l.table outcome) := by
  cases hpaged with
  | active c cs => exact h.fetches hnever hheld (holdingsOf_renewed (h.inUse_of_held hheld).1)
  | exhausted cells? _ deletion =>
      rw [List.append_cons] at hnever ⊢
      have hfetched : Accounts (log ++ [.fetched l (.ok cells?)]) held :=
        h.fetches hnever.of_append hheld fun _ => rfl
      show Accounts _ (without held ⟨caller, l⟩ ++ [])
      rw [List.append_nil]
      exact hfetched.deletes hnever hheld
  | failed e deletion =>
      rw [List.append_cons] at hnever ⊢
      have hfetched : Accounts (log ++ [.fetched l (.error e)]) held :=
        h.fetches hnever.of_append hheld fun _ => rfl
      show Accounts _ (without held ⟨caller, l⟩ ++ [])
      rw [List.append_nil]
      exact hfetched.deletes hnever hheld

/-- A call for a page. -/
theorem execute (h : Accounts log held) {table : String} {cursor : Cursor} {spec : ScanSpec}
    {outcome : Except AccessError Page} (hexecuted : Executed table spec cursor outcome new)
    (hnever : NeverRepeats (log ++ new)) (howns : Owns held caller table cursor) :
    Accounts (log ++ new)
      (presenting held caller table cursor ++ received caller table outcome) := by
  cases hexecuted with
  | refused e =>
      show Accounts _ (held ++ [])
      rw [List.append_nil]
      exact h.refuse table spec e
  | begun id hpaged =>
      rw [List.append_cons] at hnever ⊢
      obtain ⟨hnot, hopened⟩ := h.opens caller hnever.of_append
      have hpage := hopened.page hpaged hnever
        (List.mem_append_right held (List.mem_singleton_self _))
      rw [without_append_self hnot] at hpage
      exact hpage
  | resumed id hpaged => exact h.page hpaged hnever (howns id rfl)

/-- A call that abandons a scan. -/
theorem abandon (h : Accounts log held) {table : String} {cursor : Cursor}
    {answer : Except AccessError Unit}
    (hnever : NeverRepeats
      (log ++ cursor.scanner?.toList.map fun id => .deleted ⟨table, id⟩ answer))
    (howns : Owns held caller table cursor) :
    Accounts (log ++ cursor.scanner?.toList.map fun id => .deleted ⟨table, id⟩ answer)
      (presenting held caller table cursor) := by
  rcases cursor.eq_fresh_or_resume with rfl | ⟨id, rfl⟩
  · show Accounts (log ++ []) held
    rw [List.append_nil]
    exact h
  · exact h.deletes hnever (howns id rfl)

end Accounts

end Accounting

/-- **Every reachable world is accounted for.** -/
theorem World.Reachable.accounts {σ : Type} {b : Backend (StateM σ)} {w : World σ}
    (h : w.Reachable b) (hnever : NeverRepeats w.log) : Accounts w.log w.held := by
  induction h with
  | start s => exact .of_nothing
  | @execute w h caller table cursor spec howns ih =>
      obtain ⟨new, hexecuted, hrecorded⟩ :=
        recorded_nextPage b w.state w.log table cursor spec
      unfold World.execute at hnever ⊢
      rw [hrecorded] at hnever ⊢
      exact (ih hnever.of_append).execute hexecuted hnever howns
  | @abandon w h caller table cursor howns ih =>
      obtain ⟨answer, hrecorded⟩ := recorded_abandon b w.state w.log table cursor
      unfold World.abandon at hnever ⊢
      rw [hrecorded] at hnever ⊢
      exact (ih hnever.of_append).abandon hnever howns
  | drift h s ih => exact ih hnever

/-- **Every scanner is deleted once.**  Whatever a backend answers, as long as it gives
no id twice: after every call of callers that keep to their cursors, each scanner that
was created is in use or over.  A call for a page requests a deletion exactly when the
fetch failed or answered no cells, and its outcome follows from the answer to the fetch
(`Executed`, `Paged`).  So the answers to deletions do not change it, nor, with a cursor,
does the specification of the scan. -/
theorem every_scanner_deleted_once {σ : Type} (b : Backend (StateM σ)) :
    (∀ w : World σ, w.Reachable b → NeverRepeats w.log →
        ∀ l ∈ created w.log, InUse w.log w.held l ∨ IsOver w.log w.held l) ∧
      (∀ s log table cursor spec, ∃ new,
        Executed table spec cursor (perform (b.nextPage table cursor spec) s).1 new ∧
          perform (b.recorded.nextPage table cursor spec) (s, log) =
            ((perform (b.nextPage table cursor spec) s).1,
              (perform (b.nextPage table cursor spec) s).2, log ++ new)) ∧
      (∀ s deletions table cursor spec,
        (perform ({ b with deleteScanner := deletions }.nextPage table cursor spec) s).1 =
          (perform (b.nextPage table cursor spec) s).1) ∧
      ∀ table id spec spec', b.nextPage table (.resume id) spec =
        b.nextPage table (.resume id) spec' := by
  refine ⟨?_, recorded_nextPage b, nextPage_withDeletions b, b.nextPage_resume⟩
  intro w hreachable hnever
  exact (hreachable.accounts hnever).each

/-- A backend that counts the operations on scanners, gives the count as an id, has a
cell for each of the first four fetches only, and deletes nothing. -/
def unreliable : Backend (StateM Nat) where
  endpoint := "nowhere"
  createTable _ := pure ()
  getRow _ _ _ := pure []
  putCells _ _ := pure ()
  openScanner _ _ := do
    let n ← get
    set (n + 1)
    return toString n
  fetch table id := do
    let n ← get
    set (n + 1)
    if n < 4 then
      return some [⟨"a", "d:x", n, "1"⟩]
    throw (.backend "scanner_get" table "gone" (some id))
  deleteScanner table id := throw (.backend "scanner_delete" table "gone" (some id))

/-- Two callers scan one table, and the first one's second page fails. -/
def failedScan : World Nat :=
  let spec : ScanSpec := ⟨1, "a", "z", [], none⟩
  let first := (⟨0, [], []⟩ : World Nat).execute unreliable 1 "plant" .fresh spec
  let second := first.execute unreliable 2 "plant" .fresh spec
  second.execute unreliable 1 "plant" (.resume "0") spec

/-- The failed scan is over, although its scanner could not be deleted; the other scan
goes on. -/
theorem failed_scan_over :
    IsOver failedScan.log failedScan.held ⟨"plant", "0"⟩ ∧
      InUse failedScan.log failedScan.held ⟨"plant", "2"⟩ := by
  have hreachable : failedScan.Reachable unreliable :=
    .execute (.execute (.execute (.start 0) 1 "plant" .fresh _ nofun) 2 "plant" .fresh _ nofun)
      1 "plant" (.resume "0") _ fun id hid => by cases hid; decide
  obtain ⟨haccounts, -, -, -⟩ := every_scanner_deleted_once unreliable
  have heach := haccounts failedScan hreachable (by unfold NeverRepeats; decide)
  refine ⟨(heach ⟨"plant", "0"⟩ (by decide)).resolve_left ?_,
    (heach ⟨"plant", "2"⟩ (by decide)).resolve_right ?_⟩
  · rintro ⟨⟨caller, hcaller⟩, -⟩
    cases hcaller
  · rintro ⟨hnil, -⟩
    cases hnil

end StreamStore
