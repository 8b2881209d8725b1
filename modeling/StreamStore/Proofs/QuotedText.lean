import StreamStore.Json.Parser
import StreamStore.Json.Printer

/-!
# Quoted texts read back

A text is written character by character, and most characters stand for
themselves.  The quote, the backslash and the control characters are escaped: five
of them by a letter, the others by their number in four hexadecimal digits.  An
escape of either form is read as the character it was written for
(`quoted_escape`), whatever follows it, so a text is read up to its closing quote
and not further (`quoted_flatMap_escape`).
-/

namespace StreamStore

namespace Text

/-- A digit that was written in small letters reads back. -/
theorem hexValue?_toLower {n : Nat} (h : n < 16) :
    hexValue? (hexDigit n).toLower = some n := by
  have all : ∀ m : Fin 16, hexValue? (hexDigit m.val).toLower = some m.val := by decide
  exact all ⟨n, h⟩

end Text

namespace Json.Parser

@[simp] theorem consTo_some (c : Char) (s rest : List Char) :
    consTo c (some (s, rest)) = some (c :: s, rest) := rfl

/-- An escape by number reads back; a control character is no half of a pair. -/
theorem quoted_control {c : Char} (h : c.toNat < 0x20) (cs : List Char) :
    quoted ('\\' :: 'u' :: '0' :: '0' :: (Text.hexDigit (c.toNat / 16)).toLower
      :: (Text.hexDigit (c.toNat % 16)).toLower :: cs) = consTo c (quoted cs) := by
  have h1 := Text.hexValue?_toLower (n := c.toNat / 16) (by omega)
  have h2 := Text.hexValue?_toLower (n := c.toNat % 16) (by omega)
  have hzero : Text.hexValue? '0' = some 0 := by decide
  have hhex : hex4? '0' '0' (Text.hexDigit (c.toNat / 16)).toLower
      (Text.hexDigit (c.toNat % 16)).toLower = some c.toNat := by
    have hsum : c.toNat / 16 * 16 + c.toNat % 16 = c.toNat := by omega
    simp [hex4?, h1, h2, hzero, hsum]
  have hlow : isLowHalf c.toNat = false := by
    simp only [isLowHalf, Bool.and_eq_false_iff, decide_eq_false_iff_not]
    omega
  have hhigh : isHighHalf c.toNat = false := by
    simp only [isHighHalf, Bool.and_eq_false_iff, decide_eq_false_iff_not]
    omega
  rw [quoted]
  simp only [hhex, hlow, hhigh, Char.ofNat_toNat]
  rfl

/-- An escape by letter reads back.  The letter `u` opens an escape by number. -/
theorem quoted_short {s c : Char} (hs : shortEscape? s = some c) (hu : s ≠ 'u') (cs : List Char) :
    quoted ('\\' :: s :: cs) = consTo c (quoted cs) := by
  rw [quoted]
  · simp [hs]
  · intro _ _ _ _ _ h
    exact absurd h hu

/-- A character that was escaped reads back. -/
theorem quoted_escape (c : Char) (cs : List Char) :
    quoted (escape c ++ cs) = consTo c (quoted cs) := by
  unfold escape
  split
  · next h => subst h; exact quoted_short rfl (by decide) cs
  split
  · next h => subst h; exact quoted_short rfl (by decide) cs
  split
  · next h => subst h; exact quoted_short rfl (by decide) cs
  split
  · next h => subst h; exact quoted_short rfl (by decide) cs
  split
  · next h => subst h; exact quoted_short rfl (by decide) cs
  split
  · next h => subst h; exact quoted_short rfl (by decide) cs
  split
  · next h => subst h; exact quoted_short rfl (by decide) cs
  split
  · next h => exact quoted_control h cs
  · next hquote hslash _ _ _ _ _ hctrl =>
      rw [List.cons_append, List.nil_append, quoted]
      · simp [hctrl, hslash]
      · exact hquote
      · intro _ _ _ _ _ h
        exact absurd h hslash
      · intro _ _ h
        exact absurd h hslash

/-- **A text reads back** up to its closing quote. -/
theorem quoted_flatMap_escape (s rest : List Char) :
    quoted (s.flatMap escape ++ '"' :: rest) = some (s, rest) := by
  induction s with
  | nil => simp [quoted]
  | cons c s ih => rw [List.flatMap_cons, List.append_assoc, quoted_escape, ih, consTo_some]

end Json.Parser

end StreamStore
