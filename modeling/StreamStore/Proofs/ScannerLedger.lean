import Mathlib.Data.List.Induction
import StreamStore.Proofs.ScannerEffects

/-!
# The ledger of scanners

Any number of clients work on one store, which starts empty, in any order and with
any arguments; `history` is what they asked and were answered, and the store they
left.  From the answers alone one can tell which scanners should be open: those
handed out as a cursor and not ended since (`Held`).  `Ledger` says that the store
agrees with this, and is what every step keeps.

The step lemma reads nothing but the step's `Effect`.  Ids matter twice: a scanner
that is opened is none of those that are open or over, because ids are numbered
(`Store.AllGiven`), and a cursor whose scanner is over is refused for ever, because
the number of a scanner that is gone is not given again.
-/

namespace StreamStore

/-! ### Runs -/

/-- What clients asked of a store that was empty at first, each with the answer, and
the store in the end. -/
def history (calls : List ClientCall) : List Entry × Store :=
  calls.foldl (fun (events, s) call => (events ++ [(call.on s).1], (call.on s).2)) ([], .empty)

theorem history_concat (calls : List ClientCall) (call : ClientCall) :
    history (calls ++ [call]) =
      ((history calls).1 ++ [(call.on (history calls).2).1], (call.on (history calls).2).2) := by
  unfold history
  rw [List.foldl_append]
  rfl

/-! ### What the answers say -/

/-- Whether a scanner was handed out as a cursor and not ended since: neither
reported exhausted on its table nor abandoned there. -/
def Held (events : List Entry) (l : Lease) : Prop :=
  ∃ before e after, events = before ++ e :: after ∧ e.handed? = some l ∧
    ∀ d ∈ after, d.ended? ≠ some l

theorem not_held_nil (l : Lease) : ¬Held [] l := by
  rintro ⟨before, e, after, heq, -⟩
  exact absurd heq (by simp)

theorem held_concat {events : List Entry} {e : Entry} {l : Lease} :
    Held (events ++ [e]) l ↔ e.handed? = some l ∨ Held events l ∧ e.ended? ≠ some l := by
  constructor
  · rintro ⟨before, d, after, heq, hhanded, hafter⟩
    -- the scanner was handed out in the last entry or earlier
    rcases after.eq_nil_or_concat with rfl | ⟨after, last, rfl⟩
    · obtain ⟨-, hd⟩ := List.append_inj' heq rfl
      cases hd
      exact .inl hhanded
    · rw [List.concat_eq_append] at heq hafter
      have hsplit : events ++ [e] = (before ++ d :: after) ++ [last] := by simpa using heq
      obtain ⟨rfl, hlast⟩ := List.append_inj' hsplit rfl
      cases hlast
      refine .inr ⟨⟨before, d, after, rfl, hhanded, fun d hd => ?_⟩, ?_⟩
      · exact hafter d (List.mem_append_left _ hd)
      · exact hafter e (List.mem_append_right _ (List.mem_singleton_self e))
  · rintro (hhanded | ⟨⟨before, d, after, rfl, hhanded, hafter⟩, hended⟩)
    · exact ⟨events, e, [], rfl, hhanded, fun d hd => nomatch hd⟩
    · refine ⟨before, d, after ++ [e], by simp, hhanded, fun d hd => ?_⟩
      rcases List.mem_append.1 hd with hd | hd
      · exact hafter d hd
      · rw [List.mem_singleton.1 hd]
        exact hended

/-- Whether the second of two entries fails if it presents, on any table, a scanner
that the first one ended. -/
def EndsFor (d e : Entry) : Prop :=
  ∀ l, d.ended? = some l → e.operation.presented? = some l.scanner →
    ∃ fault, e.answer = .error fault

/-! ### What an effect does to the ledger -/

/-- Whether the ids of all open scanners have been given out. -/
def Store.AllGiven (s : Store) : Prop :=
  ∀ id c, s.scanners.get? id = some c → s.Given id

namespace Store.AllGiven

variable {s s' : Store}

/-- The next id is not in use. -/
theorem next_unused (h : s.AllGiven) : s.scanners.get? (scannerId s.opened) = none := by
  cases hc : s.scanners.get? (scannerId s.opened) with
  | none => rfl
  | some c => exact absurd rfl (h _ c hc).ne_next

theorem of_sets {id : String} {c? : Option Scanner} (h : s.AllGiven) (hsets : s.Sets s' id c?)
    (hle : s.opened ≤ s'.opened) (hid : c? ≠ none → s'.Given id) : s'.AllGiven := by
  intro id' c hc
  rw [hsets id'] at hc
  split at hc
  · next heq =>
      rw [heq]
      exact hid (hc ▸ Option.some_ne_none c)
  · exact (h id' c hc).mono hle

end Store.AllGiven

namespace Effect

variable {s s' : Store} {e : Entry} {l : Lease}

theorem opened_le (h : Effect s s' e) : s.opened ≤ s'.opened := by
  cases h with
  | still _ _ opened => exact Nat.le_of_eq opened.symm
  | opened c _ _ opened => exact opened ▸ Nat.le_succ _
  | passed r _ _ _ opened => exact opened ▸ Nat.le_succ _
  | fetched l c _ _ _ _ opened => exact Nat.le_of_eq opened.symm
  | closed l _ _ _ opened => exact Nat.le_of_eq opened.symm

theorem allGiven (h : Effect s s' e) (hs : s.AllGiven) : s'.AllGiven := by
  have hle : s.opened ≤ s'.opened := h.opened_le
  cases h with
  | still _ scanners => exact fun id c hc => (hs id c (scanners ▸ hc)).mono hle
  | opened c _ scanners opened =>
      exact hs.of_sets scanners hle fun _ => ⟨s.opened, opened ▸ Nat.lt_succ_self _, rfl⟩
  | passed r _ _ scanners => exact hs.of_sets scanners hle fun hne => absurd rfl hne
  | fetched l c _ isOpen _ scanners =>
      obtain ⟨old, hold, -⟩ := isOpen
      exact hs.of_sets scanners hle fun _ => (hs _ old hold).mono hle
  | closed l _ _ scanners => exact hs.of_sets scanners hle fun hne => absurd rfl hne

/-- The open scanners after an operation, from those before it and from its answer. -/
theorem isOpen_iff (h : Effect s s' e) (hs : s.AllGiven) :
    s'.IsOpen l ↔ e.handed? = some l ∨ s.IsOpen l ∧ e.ended? ≠ some l := by
  have hnext : s.IsOpen l → l.scanner ≠ scannerId s.opened := by
    rintro ⟨c, hc, -⟩ heq
    rw [heq, hs.next_unused] at hc
    cases hc
  cases h with
  | still _ scanners _ handed ended =>
      rw [handed, ended]
      unfold Store.IsOpen
      rw [scanners]
      simp
  | opened c _ scanners _ handed ended =>
      rw [Store.isOpen_of_sets_some scanners, and_iff_right_of_imp hnext, handed, ended]
      simp [eq_comm]
  | passed r presented entry scanners =>
      have hhanded : e.handed? = none := by rw [entry]; rfl
      have hended : e.ended? = none := by
        rw [entry]
        show (r.cursor.scanner?.map fun id => (⟨r.tableName, id⟩ : Lease)) = none
        rw [presented]
        rfl
      rw [Store.isOpen_of_sets_none scanners, and_iff_right_of_imp hnext, hhanded, hended]
      simp
  | fetched l' c _ isOpen table scanners _ handed ended =>
      rw [Store.isOpen_of_sets_some scanners, handed, ended, table]
      by_cases hl : l = l'
      · simp [hl]
      · have hne : s.IsOpen l → l.scanner ≠ l'.scanner := fun h hid => hl (h.unique isOpen hid)
        simpa [hl, eq_comm (a := l')] using hne
  | closed l' _ isOpen scanners _ handed ended =>
      rw [Store.isOpen_of_sets_none scanners, handed, ended]
      have hne : s.IsOpen l → (l.scanner ≠ l'.scanner ↔ l' ≠ l) := fun h =>
        ⟨fun hid heq => hid (heq ▸ rfl), fun heq hid => heq (h.unique isOpen hid).symm⟩
      simp only [reduceCtorEq, false_or, ne_eq, Option.some.injEq]
      exact ⟨fun h => ⟨h.2, (hne h.2).1 h.1⟩, fun h => ⟨(hne h.1).2 h.2, h.1⟩⟩

/-- A scanner that is gone does not come back. -/
theorem stays_gone (h : Effect s s' e) {id : String} (hid : s.Given id)
    (hgone : s.scanners.get? id = none) : s'.scanners.get? id = none := by
  cases h with
  | still _ scanners => rw [scanners, hgone]
  | opened c _ scanners => rw [scanners id, if_neg hid.ne_next, hgone]
  | passed r _ _ scanners => rw [scanners id, if_neg hid.ne_next, hgone]
  | fetched l c _ isOpen _ scanners =>
      have hne : id ≠ l.scanner := by
        rintro rfl
        obtain ⟨d, hd, -⟩ := isOpen
        rw [hgone] at hd
        cases hd
      rw [scanners id, if_neg hne, hgone]
  | closed l _ _ scanners =>
      rw [scanners id, hgone]
      split <;> rfl

/-- A scanner that came to its end was open before and is gone. -/
theorem gone_of_ended (h : Effect s s' e) (hended : e.ended? = some l) :
    s.IsOpen l ∧ s'.scanners.get? l.scanner = none := by
  cases h with
  | still _ _ _ _ ended => simp [hended] at ended
  | opened c _ _ _ _ ended => simp [hended] at ended
  | passed r presented entry =>
      subst entry
      have hnone : (r.cursor.scanner?.map fun id => (⟨r.tableName, id⟩ : Lease)) = some l := hended
      rw [presented] at hnone
      cases hnone
  | fetched l' c _ _ _ _ _ _ ended => simp [hended] at ended
  | closed l' _ isOpen scanners _ _ ended =>
      obtain rfl : l' = l := Option.some.inj (ended.symm.trans hended)
      exact ⟨isOpen, by rw [scanners l'.scanner, if_pos rfl]⟩

end Effect

/-! ### The invariant -/

/-- Whether the scanners of a store are what the answers given so far say. -/
structure Ledger (events : List Entry) (s : Store) : Prop where
  /-- The ids of open scanners have been given out. -/
  given : s.AllGiven
  /-- The open scanners are those that callers hold. -/
  held : ∀ l, s.IsOpen l ↔ Held events l
  /-- A scanner that came to its end is gone, and its id is used up. -/
  gone : ∀ e ∈ events, ∀ l, e.ended? = some l →
    s.Given l.scanner ∧ s.scanners.get? l.scanner = none
  /-- A scanner that came to its end is of no use afterwards. -/
  useless : events.Pairwise EndsFor

theorem ledger_empty : Ledger [] .empty where
  given := fun _ _ h => nomatch h
  held := fun l => ⟨fun ⟨_, h, _⟩ => (nomatch h), fun h => absurd h (not_held_nil l)⟩
  gone := fun _ h => nomatch h
  useless := .nil

/-- **One operation keeps the ledger.** -/
theorem Ledger.step {events : List Entry} {s s' : Store} {e : Entry} (h : Ledger events s)
    (heffect : Effect s s' e) : Ledger (events ++ [e]) s' where
  given := heffect.allGiven h.given
  held := by
    intro l
    rw [heffect.isOpen_iff h.given, held_concat, h.held l]
  gone := by
    intro d hd l hended
    rcases List.mem_append.1 hd with hd | hd
    · obtain ⟨hgiven, hgone⟩ := h.gone d hd l hended
      exact ⟨hgiven.mono heffect.opened_le, heffect.stays_gone hgiven hgone⟩
    · obtain rfl := List.mem_singleton.1 hd
      obtain ⟨⟨c, hc, -⟩, hgone⟩ := heffect.gone_of_ended hended
      exact ⟨(h.given _ c hc).mono heffect.opened_le, hgone⟩
  useless := by
    refine List.pairwise_append.2 ⟨h.useless, List.pairwise_singleton _ _, ?_⟩
    intro d hd e' he' l hended hpresented
    obtain rfl := List.mem_singleton.1 he'
    exact heffect.fails_of_unknown hpresented (h.gone d hd l hended).2

/-- **Every run keeps the ledger.** -/
theorem ledger_history (calls : List ClientCall) :
    Ledger (history calls).1 (history calls).2 := by
  induction calls using List.reverseRecOn with
  | nil => exact ledger_empty
  | append_singleton calls call ih =>
      rw [history_concat]
      exact ih.step (call.effect _)

/-- **The accounts of scanners balance.**  After every run, the open scanners are
those that were handed out as a cursor and neither reported exhausted on their table
nor abandoned since; an operation that fails, reads or writes leaves every scanner as
it is, with all its cells; and a cursor whose scanner was exhausted or abandoned is
refused ever after. -/
theorem scanner_accounts_balance (calls : List ClientCall) :
    (∀ l, (history calls).2.IsOpen l ↔ Held (history calls).1 l) ∧
      (∀ call : ClientCall, (call.on (history calls).2).1.IsQuiet →
        (call.on (history calls).2).2.scanners = (history calls).2.scanners) ∧
      (history calls).1.Pairwise EndsFor := by
  have h : Ledger (history calls).1 (history calls).2 := ledger_history calls
  refine ⟨h.held, ?_, h.useless⟩
  intro call hquiet
  exact (call.effect _).scanners_of_isQuiet hquiet

/-- A query for a column of stream 7, one row at a time. -/
def oneByOne (cursor : Cursor) : LoadRequest where
  table := "plant"
  type := .data
  streamId := "7"
  columns := "temp"
  limit := some 1
  cursor := cursor

/-- Two scans of one table, of which the first one is abandoned and asked for a page
once more. -/
def twoScans : List ClientCall :=
  [⟨true, 5, .createTable "plant" .data⟩,
    ⟨true, 6, .putCells "plant" .data
      [{ rowKey := "000000000007:922337203684500:north", column := "temp", value := "21" },
        { rowKey := "000000000007:922337203684400:south", column := "temp", value := "22" }]⟩,
    ⟨true, 7, .loadRange (oneByOne .fresh)⟩,
    ⟨false, 8, .loadRange (oneByOne .fresh)⟩,
    ⟨true, 9, .abandonScan "plant" .data (.resume (scannerId 0))⟩,
    ⟨true, 9, .loadRange (oneByOne (.resume (scannerId 0)))⟩]

set_option maxRecDepth 4096 in
/-- The second scan of `twoScans` is held and open, also after someone tried to abandon
it on another table; the first one is not, and its cursor was refused. -/
theorem scanner_accounts_of_two_scans :
    Held (history twoScans).1 ⟨"plant_stream_realtime", scannerId 1⟩ ∧
      ¬Held (history twoScans).1 ⟨"plant_stream_realtime", scannerId 0⟩ ∧
      ((ClientCall.on ⟨false, 10, .abandonScan "plant" .event (.resume (scannerId 1))⟩
        (history twoScans).2).2.scanners.entries.map Prod.fst) = [scannerId 1] ∧
      ∃ fault, (history twoScans).1[5].answer = .error fault := by
  obtain ⟨hopen, hquiet, huseless⟩ := scanner_accounts_balance twoScans
  have hsecond : (history twoScans).2.scanners.get? (scannerId 1) =
      some ⟨"plant_stream_realtime", 1,
        [⟨"000000000007:922337203684500:north", "DF:temp", 6, "21"⟩]⟩ := by
    rfl
  have hfirst : (history twoScans).2.scanners.get? (scannerId 0) = none := by
    rfl
  refine ⟨(hopen _).1 ⟨_, hsecond, rfl⟩, ?_, ?_, ?_⟩
  · rw [← hopen]
    rintro ⟨c, hc, -⟩
    exact nomatch hfirst.symm.trans hc
  · rw [hquiet _ (.inl ⟨_, rfl⟩)]
    rfl
  · exact List.pairwise_iff_getElem.1 huseless 4 5 (by decide) (by decide) (by decide)
      ⟨"plant_stream_realtime", scannerId 0⟩ rfl rfl

end StreamStore
