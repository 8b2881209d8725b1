import StreamStore.Proofs.OtherTables
import StreamStore.Proofs.RenamedScanners

/-!
# Runs that are matched

Two runs with the same operations on a table, whatever they do elsewhere, are compared while
a renaming of the ids grows with them (`Matched`).  When both open a scanner on the table, the
renaming is changed by a swap, so that it sends the new id of the one run to that of the other.
The swap spares the ids that the table's scanners have had, because both new ids are new.

What was answered before stays right under the changed renaming, except that a caller may have
presented an id that no scanner of the table had.  Such an operation is refused under any name,
and does nothing (`Matched.on_rename_snd`).
-/

namespace StreamStore

/-! ### Operations on the table -/

/-- Whether an operation begins a scan. -/
def Operation.begins : Operation → Prop
  | loadRange r => r.cursor.scanner? = none
  | _ => False

/-- An operation that presents a scanner which its table does not have changes nothing. -/
theorem ClientCall.on_snd_of_missing {call : ClientCall} {s : Store} {id : String}
    (hpresented : call.operation.presented? = some id)
    (hmissing : s.scanner? call.operation.tableName id = none) : (call.on s).2 = s := by
  obtain ⟨split, now, operation⟩ := call
  cases operation with
  | loadRange r =>
      have hcursor : r.cursor = .resume id := congrArg Cursor.mk hpresented
      rw [on_loadRange]
      cases hplan : r.plan with
      | error fault => rw [Client.perform_loadRange_of_error hplan]
      | ok plan =>
          obtain ⟨p, spec⟩ := plan
          rw [Client.perform_loadRange hplan, hcursor, perform_nextPage_resume]
          exact congrArg Prod.snd (Store.pageOf_missing hmissing)
  | abandonScan table t cursor =>
      have hcursor : cursor = .resume id := congrArg Cursor.mk hpresented
      rw [on_abandonScan, hcursor]
      show (perform (Lease.release ⟨t.tableName table, id⟩ Store.backend) s).2 = s
      rw [perform_release]
      exact congrArg Prod.snd (Store.deleteScanner_of_none hmissing)
  | _ => cases hpresented

namespace Effect

variable {s s' : Store} {e : Entry}

/-- A scanner is opened only by the beginning of a scan. -/
theorem begins_of_opened (h : Effect s s' e) (hopened : s'.opened ≠ s.opened) :
    e.operation.begins := by
  cases h with
  | still _ _ opened => exact absurd opened hopened
  | opened c presented _ _ handed =>
      obtain ⟨op, answer⟩ := e
      cases op with
      | loadRange r => exact presented
      | _ => cases handed
  | passed r presented entry =>
      subst entry
      exact presented
  | fetched l c _ _ _ _ opened => exact absurd opened hopened
  | closed l _ _ _ opened => exact absurd opened hopened

/-- A scanner that is open was open before, or it was opened. -/
theorem isOpen_before (h : Effect s s' e) {l : Lease} (hl : s'.IsOpen l) :
    s.IsOpen l ∨ l.scanner = scannerId s.opened ∧ s'.opened ≠ s.opened := by
  cases h with
  | still _ scanners =>
      rw [Store.IsOpen, scanners] at hl
      exact .inl hl
  | opened c _ scanners opened =>
      rcases (Store.isOpen_of_sets_some scanners).1 hl with rfl | ⟨-, hl⟩
      · exact .inr ⟨rfl, by omega⟩
      · exact .inl hl
  | passed r _ _ scanners => exact .inl ((Store.isOpen_of_sets_none scanners).1 hl).2
  | fetched k c _ isOpen table scanners =>
      rcases (Store.isOpen_of_sets_some scanners).1 hl with rfl | ⟨-, hl⟩
      · rw [table]
        exact .inl isOpen
      · exact .inl hl
  | closed k _ _ scanners => exact .inl ((Store.isOpen_of_sets_none scanners).1 hl).2

end Effect

/-! ### Runs that are matched -/

namespace Store

/-- Whether an id is that of a scanner to come. -/
def ToCome (s : Store) (id : String) : Prop :=
  ∃ n, s.opened ≤ n ∧ id = scannerId n

variable {s s' : Store} {id : String}

theorem toCome_next (s : Store) : s.ToCome (scannerId s.opened) :=
  ⟨s.opened, Nat.le_refl _, rfl⟩

theorem ToCome.of_le (h : s'.ToCome id) (hle : s.opened ≤ s'.opened) : s.ToCome id := by
  obtain ⟨n, hn, hid⟩ := h
  exact ⟨n, hle.trans hn, hid⟩

theorem Given.not_toCome (h : s.Given id) : ¬s.ToCome id := by
  rintro ⟨n, hn, hid⟩
  obtain ⟨m, hm, rfl⟩ := h
  exact (hm.trans_le hn).ne (scannerId_inj hid)

end Store

/-- How the stores of two runs stand to each other: they are the same for the users of a table
up to a renaming, and the renaming is settled for the ids that are known.  These are those of
all scanners on the table, and of none that is to come in either run. -/
structure Matched (table : String) (known : Set String) (ρ : Equiv.Perm String)
    (s s' : Store) : Prop extends Store.Renamed table ρ s s' where
  given : s.AllGiven
  given' : s'.AllGiven
  isKnown : ∀ id, s.IsOpen ⟨table, id⟩ → id ∈ known
  past : ∀ id ∈ known, ¬s.ToCome id
  past' : ∀ id ∈ known, ¬s'.ToCome (ρ id)

namespace Matched

variable {table : String} {known : Set String} {ρ ρ' ρ₁ : Equiv.Perm String} {s s' t : Store}

/-- Renamings that agree on what is known do alike. -/
theorem renamed_of_agree (h : Matched table known ρ s s') (hagree : ∀ id ∈ known, ρ' id = ρ id) :
    Store.Renamed table ρ' s s' := by
  have hnone : ∀ id, id ∉ known → s.scanner? table id = none := by
    intro id hid
    cases hc : s.scanner? table id with
    | none => rfl
    | some c => exact absurd (h.isKnown id (Store.isOpen_of_scanner? hc)) hid
  refine ⟨h.tables, fun id => ?_⟩
  by_cases hid : id ∈ known
  · rw [hagree id hid, h.scanners]
  · -- no known id has this new id, so neither store has a scanner there
    have hother : ρ.symm (ρ' id) ∉ known := by
      intro hmem
      have heq := hagree _ hmem
      rw [ρ.apply_symm_apply] at heq
      exact hid (ρ'.injective heq ▸ hmem)
    rw [hnone id hid, ← ρ.apply_symm_apply (ρ' id), h.scanners, hnone _ hother]

/-- What is done elsewhere in the one run does not matter. -/
theorem left (h : Matched table known ρ s s') (hsame : s.SameOn table t) (ht : t.AllGiven)
    (hle : s.opened ≤ t.opened) : Matched table known ρ t s' where
  tables := h.tables.trans hsame.tables.symm
  scanners id := (h.scanners id).trans (hsame.scanners id).symm
  given := ht
  given' := h.given'
  isKnown id hid := by
    obtain ⟨c, hc, htable⟩ := hid
    have hscanner : t.scanner? table id = some c := Store.scanner?_eq_some_iff.2 ⟨hc, htable⟩
    exact h.isKnown id (Store.isOpen_of_scanner? ((hsame.scanners id).symm.trans hscanner))
  past id hid hcome := h.past id hid (hcome.of_le hle)
  past' := h.past'

/-- What is done elsewhere in the other run does not matter either. -/
theorem right (h : Matched table known ρ s s') (hsame : s'.SameOn table t) (ht : t.AllGiven)
    (hle : s'.opened ≤ t.opened) : Matched table known ρ s t where
  tables := hsame.tables.trans h.tables
  scanners id := (hsame.scanners (ρ id)).trans (h.scanners id)
  given := h.given
  given' := ht
  isKnown := h.isKnown
  past := h.past
  past' id hid hcome := h.past' id hid (hcome.of_le hle)

/-- The renaming can be changed to send the next id of the one run to that of the other. -/
theorem exists_next (h : Matched table known ρ s s') :
    ∃ ρ₁ : Equiv.Perm String, (∀ id ∈ known, ρ₁ id = ρ id) ∧
      ρ₁ (scannerId s.opened) = scannerId s'.opened := by
  refine ⟨ρ.trans (Equiv.swap (ρ (scannerId s.opened)) (scannerId s'.opened)), ?_, ?_⟩
  · intro id hid
    have hne : ρ id ≠ ρ (scannerId s.opened) := by
      intro heq
      exact h.past id hid (ρ.injective heq ▸ s.toCome_next)
    have hne' : ρ id ≠ scannerId s'.opened := by
      intro heq
      exact h.past' id hid (heq ▸ s'.toCome_next)
    exact Equiv.swap_apply_of_ne_of_ne hne hne'
  · exact Equiv.swap_apply_left _ _

variable {call : ClientCall}

/-- What an operation does in the other run does not depend on the names of unknown ids. -/
theorem on_rename_snd (h : Matched call.operation.tableName known ρ s s')
    (hagree : ∀ id ∈ known, ρ' id = ρ id) (hagree₁ : ∀ id ∈ known, ρ₁ id = ρ id) :
    ((call.rename ρ').on s').2 = ((call.rename ρ₁).on s').2 := by
  by_cases hid : ∀ id, call.operation.presented? = some id → id ∈ known
  · have hsame : call.rename ρ' = call.rename ρ₁ := ClientCall.rename_congr fun id hp =>
      (hagree id (hid id hp)).trans (hagree₁ id (hid id hp)).symm
    rw [hsame]
  · -- the operation is refused in both ways
    obtain ⟨id, hid⟩ := not_forall.1 hid
    obtain ⟨hp, hunknown⟩ := Classical.not_imp.1 hid
    have hstill : ∀ τ : Equiv.Perm String, (∀ id ∈ known, τ id = ρ id) →
        ((call.rename τ).on s').2 = s' := by
      intro τ hτ
      have hp' : (call.rename τ).operation.presented? = some (τ id) := by
        rw [ClientCall.presented?_rename, hp, Option.map_some]
      refine ClientCall.on_snd_of_missing hp' ?_
      rw [ClientCall.tableName_rename, (h.renamed_of_agree hτ).scanners]
      cases hc : s.scanner? call.operation.tableName id with
      | none => rfl
      | some c => exact absurd (h.isKnown id (Store.isOpen_of_scanner? hc)) hunknown
    rw [hstill ρ' hagree, hstill ρ₁ hagree₁]

/-- The ids that are known after an operation. -/
def knownAfter (known : Set String) (call : ClientCall) (s : Store) : Set String :=
  { id | id ∈ known ∨ id = scannerId s.opened ∧ (call.on s).2.opened ≠ s.opened }

/-- **A step of matched runs.**  An operation on the table leaves two stores that are matched. -/
theorem after (h : Matched call.operation.tableName known ρ s s')
    (hagree : ∀ id ∈ known, ρ₁ id = ρ id)
    (hnext : (call.on s).2.opened ≠ s.opened → ρ₁ (scannerId s.opened) = scannerId s'.opened) :
    Matched call.operation.tableName (knownAfter known call s) ρ₁ (call.on s).2
      ((call.rename ρ₁).on s').2 := by
  have halike := call.alike (h.renamed_of_agree hagree) hnext
  have hcount : (call.on s).2.opened + s'.opened = ((call.rename ρ₁).on s').2.opened + s.opened :=
    halike.opened
  have heffect := call.effect s
  have heffect' := (call.rename ρ₁).effect s'
  have hle : s.opened ≤ (call.on s).2.opened := heffect.opened_le
  refine ⟨halike.stores, heffect.allGiven h.given, heffect'.allGiven h.given', ?_, ?_, ?_⟩
  · intro id hid
    rcases heffect.isOpen_before hid with hbefore | hnew
    · exact .inl (h.isKnown id hbefore)
    · exact .inr hnew
  · rintro id (hid | ⟨rfl, hopened⟩) hcome
    · exact h.past id hid (hcome.of_le hle)
    · exact Store.Given.not_toCome ⟨s.opened, hle.lt_of_ne' hopened, rfl⟩ hcome
  · rintro id (hid | ⟨rfl, hopened⟩) hcome
    · rw [hagree id hid] at hcome
      exact h.past' id hid (hcome.of_le heffect'.opened_le)
    · rw [hnext hopened] at hcome
      exact Store.Given.not_toCome ⟨s'.opened, by omega, rfl⟩ hcome

/-- The renaming of a step: it is changed only where a scan is begun. -/
theorem exists_step (h : Matched call.operation.tableName known ρ s s') :
    ∃ ρ₁ : Equiv.Perm String, (∀ id ∈ known, ρ₁ id = ρ id) ∧
      (¬call.operation.begins → ρ₁ = ρ) ∧
      ((call.on s).2.opened ≠ s.opened → ρ₁ (scannerId s.opened) = scannerId s'.opened) := by
  by_cases hopened : (call.on s).2.opened = s.opened
  · exact ⟨ρ, fun _ _ => rfl, fun _ => rfl, fun hne => absurd hopened hne⟩
  · obtain ⟨ρ₁, hagree, hnext⟩ := h.exists_next
    exact ⟨ρ₁, hagree, fun hquiet => absurd ((call.effect s).begins_of_opened hopened) hquiet,
      fun _ => hnext⟩

end Matched

/-- The stores of a run and of one in which something happened elsewhere are matched under no
renaming.  All ids are known but those to come. -/
theorem Matched.of_sameOn {table : String} {s s' : Store} (h : s.SameOn table s')
    (hs : s.AllGiven) (hs' : s'.AllGiven) (hle : s.opened ≤ s'.opened) :
    Matched table { id | ¬s.ToCome id } (Equiv.refl String) s s' where
  tables := h.tables
  scanners := h.scanners
  given := hs
  given' := hs'
  isKnown id hid := by
    obtain ⟨c, hc, -⟩ := hid
    exact (hs id c hc).not_toCome
  past _ hid := hid
  past' _ hid hcome := hid (hcome.of_le hle)

end StreamStore
