import Mathlib.Data.List.TakeWhile
import StreamStore.Text.Pieces

/-!
# Laws of cutting at a separator

Two ways of cutting a text have laws here.  `pieces` cuts at every separator, which is
what the library's `List.splitOn` does (`pieces_eq_splitOn`); a text that is put together
from two around a separator is cut in two (`pieces_append`).  `cutOnce` cuts at the first
separator only, and is described by what stands before and after it
(`cutOnce_eq_some_iff`).
-/

namespace StreamStore.Text

variable {sep : Char} {cs : List Char}

/-! ### All separators -/

/-- Cutting at every separator is the library's cutting. -/
theorem pieces_eq_splitOn (sep : Char) (cs : List Char) : pieces sep cs = cs.splitOn sep := by
  induction cs with
  | nil => rfl
  | cons c cs ih =>
      obtain ⟨p, ps, hp⟩ := List.exists_cons_of_ne_nil (pieces_ne_nil sep cs)
      rw [List.splitOn_cons_eq_if_modifyHead, ← ih, pieces, hp]
      by_cases h : c = sep
      · simp [h]
      · simp [h]

/-- Cutting at a separator cuts what stands before it and what stands after it. -/
theorem pieces_append (sep : Char) (cs ds : List Char) :
    pieces sep (cs ++ sep :: ds) = pieces sep cs ++ pieces sep ds := by
  induction cs with
  | nil => rw [List.nil_append, pieces_cons_self, pieces_nil, List.singleton_append]
  | cons c cs ih =>
      obtain ⟨p, ps, hp⟩ := List.exists_cons_of_ne_nil (pieces_ne_nil sep cs)
      rw [List.cons_append, pieces, pieces, ih, hp]
      split <;> rfl

theorem pieces_of_notMem (h : sep ∉ cs) : pieces sep cs = [cs] := by
  induction cs with
  | nil => rfl
  | cons c cs ih =>
      rw [List.mem_cons, not_or] at h
      rw [pieces, if_neg (Ne.symm h.1), ih h.2]

theorem notMem_of_mem_pieces {p : List Char} (h : p ∈ pieces sep cs) : sep ∉ p := by
  induction cs generalizing p with
  | nil =>
      obtain rfl := List.mem_singleton.1 h
      exact List.not_mem_nil
  | cons c cs ih =>
      obtain ⟨q, qs, hq⟩ := List.exists_cons_of_ne_nil (pieces_ne_nil sep cs)
      rw [pieces, hq] at h
      rw [hq] at ih
      split at h
      · rcases List.mem_cons.1 h with rfl | h
        · exact List.not_mem_nil
        · exact ih h
      · next hne =>
          rcases List.mem_cons.1 h with rfl | h
          · rw [List.mem_cons, not_or]
            exact ⟨Ne.symm hne, ih List.mem_cons_self⟩
          · exact ih (List.mem_cons_of_mem _ h)

/-- The first piece goes up to the first separator. -/
theorem head?_pieces (sep : Char) (cs : List Char) :
    (pieces sep cs).head? = some (cs.takeWhile (· != sep)) := by
  induction cs with
  | nil => rfl
  | cons c cs ih =>
      obtain ⟨p, ps, hp⟩ := List.exists_cons_of_ne_nil (pieces_ne_nil sep cs)
      rw [hp] at ih
      obtain rfl : p = cs.takeWhile (· != sep) := Option.some.inj ih
      by_cases hc : c = sep
      · subst hc
        simp
      · rw [pieces, if_neg hc, hp, List.takeWhile_cons_of_pos (by simpa using hc)]
        rfl

/-! ### The first separator -/

/-- What has no separator is cut off in front of the first one. -/
theorem cutOnce_append {before : List Char} (h : sep ∉ before) (after : List Char) :
    cutOnce sep (before ++ sep :: after) = some (before, after) := by
  induction before with
  | nil => exact cutOnce_cons_self sep after
  | cons c cs ih =>
      rw [List.mem_cons, not_or] at h
      rw [List.cons_append, cutOnce, if_neg (Ne.symm h.1), ih h.2]
      rfl

/-- What is cut off stands in front of the first separator. -/
theorem cutOnce_eq_some_iff {before after : List Char} :
    cutOnce sep cs = some (before, after) ↔ cs = before ++ sep :: after ∧ sep ∉ before := by
  constructor
  · intro h
    induction cs generalizing before with
    | nil => cases h
    | cons c cs ih =>
        rw [cutOnce] at h
        split at h
        · next hc =>
            cases h
            exact ⟨by rw [hc, List.nil_append], List.not_mem_nil⟩
        · next hc =>
            obtain ⟨⟨front, back⟩, hcut, heq⟩ := Option.map_eq_some_iff.1 h
            cases heq
            obtain ⟨rfl, hfront⟩ := ih hcut
            refine ⟨rfl, fun hmem => ?_⟩
            rcases List.mem_cons.1 hmem with hsep | hmem
            · exact hc hsep.symm
            · exact hfront hmem
  · rintro ⟨rfl, hbefore⟩
    exact cutOnce_append hbefore after

theorem cutOnce_isSome_of_mem (h : sep ∈ cs) : (cutOnce sep cs).isSome = true := by
  induction cs with
  | nil => cases h
  | cons c cs ih =>
      rw [cutOnce]
      split
      · rfl
      · next hne =>
          rw [Option.isSome_map]
          exact ih ((List.mem_cons.1 h).resolve_left fun heq => hne heq.symm)

/-- What stands before the first separator is all in front of it. -/
theorem takeWhile_ne_eq (sep : Char) (cs : List Char) :
    cs.takeWhile (· != sep) = ((cutOnce sep cs).map Prod.fst).getD cs := by
  induction cs with
  | nil => rfl
  | cons c cs ih =>
      rw [cutOnce, List.takeWhile_cons]
      by_cases h : c = sep
      · simp [h]
      · rw [if_pos (by simpa using h), if_neg h, ih]
        cases cutOnce sep cs <;> rfl

end StreamStore.Text
