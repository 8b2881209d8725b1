import StreamStore.Proofs.JsonNumbers
import StreamStore.Proofs.RoundingOrder

/-!
# Short numbers are read exactly

The reader makes a double of the digits of a literal and multiplies or divides it by a
double that is a power of ten.  Digits below `2 ^ 53` are a double, and so are the powers
of ten up to the twenty-second.  Then only the last step rounds, and the result is the
double nearest to the literal (`scaled_eq_ofDecimal`).

So a literal with so few digits, and with its point or exponent so near, stands for the
nearest number (`numberOf_eq_nearestOf`), and a double that is written as such a literal
reads back (`JsonNumber.readsBack_of_short`).
-/

namespace StreamStore

namespace Binary64

/-! ### Whole numbers that are doubles -/

/-- A whole number of at most 53 bits, with zeros behind them, is a double. -/
theorem exists_ofRatio_shifted (negative : Bool) {m j : Nat} (hm : m ≠ 0) (hlt : m < 2 ^ 53)
    (hj : j ≤ 900) :
    ∃ x : Binary64, ofRatio negative (m * 2 ^ j) 1 = some x ∧ x.negative = negative ∧
      x.mantissa ≠ 0 ∧ x.absValue = (m * 2 ^ j : Nat) := by
  have hlog : m.log2 < 53 := (Nat.log2_lt hm).2 hlt
  obtain ⟨k, hk⟩ : ∃ k, m.log2 + k = 52 := ⟨52 - m.log2, by omega⟩
  have hlow : 2 ^ 52 ≤ m * 2 ^ k := by
    calc 2 ^ 52 = 2 ^ m.log2 * 2 ^ k := by rw [← Nat.pow_add, hk]
      _ ≤ m * 2 ^ k := Nat.mul_le_mul_right _ (Nat.log2_self_le hm)
  have hhigh : m * 2 ^ k < 2 ^ 53 := by
    calc m * 2 ^ k < 2 ^ (m.log2 + 1) * 2 ^ k :=
          Nat.mul_lt_mul_of_pos_right Nat.lt_log2_self (Nat.pow_pos (by decide))
      _ = 2 ^ 53 := by rw [← Nat.pow_add, show m.log2 + 1 + k = 53 by omega]
  have hne : m * 2 ^ k ≠ 0 := by omega
  let x : Binary64 := ⟨negative, m * 2 ^ k, (j : Int) - k,
    ⟨hhigh, by omega, by omega, .inl hlow⟩⟩
  have habs : x.absValue = (m * 2 ^ j : Nat) := by
    simp only [absValue, x]
    rw [zpow_sub₀ two_ne_zero, zpow_natCast, zpow_natCast]
    push_cast
    field_simp
  refine ⟨x, ?_, rfl, hne, habs⟩
  have hvalue : ((m * 2 ^ j : Nat) : ℚ) / (1 : Nat) = (x.ratio.1 : ℚ) / x.ratio.2 := by
    rw [← absValue_eq_ratio, habs, Nat.cast_one, div_one]
  rw [ofRatio_congr negative Nat.one_pos x.ratio_snd_pos hvalue, ofRatio_ratio negative x hne]

/-- The powers of ten up to the twenty-second are doubles. -/
theorem exists_powerOfTen {k : Nat} (hk : k ≤ 22) :
    ∃ p, powerOfTen k = some p ∧ p.mantissa ≠ 0 ∧ p.absValue = (10 : ℚ) ^ k := by
  have hlt : 5 ^ k < 2 ^ 53 :=
    (Nat.pow_le_pow_right (by decide) hk).trans_lt (by decide)
  obtain ⟨p, hp, -, hne, habs⟩ := exists_ofRatio_shifted false (j := k)
    (Nat.pow_pos (by decide)).ne' hlt (by omega)
  have hten : 5 ^ k * 2 ^ k = 10 ^ k := (Nat.mul_pow 5 2 k).symm
  rw [hten] at hp habs
  exact ⟨p, hp, hne, by rw [habs]; push_cast; rfl⟩

/-! ### One step that rounds -/

variable {n : Nat} {k : Nat} {e : Int} {x : Binary64}

theorem ofDecimal_eq_of_short (negative : Bool) (hn : n ≠ 0) (hlt : n < 2 ^ 53) (hlow : -22 ≤ e)
    (hhigh : e ≤ 22) {num den : Nat} (hden : 0 < den)
    (hvalue : (num : ℚ) / den = n * (10 : ℚ) ^ e) :
    ofDecimal negative ⟨n, e⟩ = ofRatio negative num den := by
  have hcount : digitCount n ≤ 16 := (digitCount_le_iff (by decide)).2 (by omega)
  exact ofDecimal_eq negative hn (by dsimp only; omega) (by dsimp only; omega) hden hvalue

theorem raised_eq_ofDecimal (hx : x.mantissa ≠ 0) (habs : x.absValue = n) (hn : n ≠ 0)
    (hlt : n < 2 ^ 53) (hk : k ≤ 22) : x.raised k = ofDecimal x.negative ⟨n, k⟩ := by
  obtain ⟨p, hp, hne, hpower⟩ := exists_powerOfTen hk
  have hvalue : ((x.ratio.1 * p.ratio.1 : Nat) : ℚ) / (x.ratio.2 * p.ratio.2 : Nat) =
      n * (10 : ℚ) ^ (k : Int) := by
    rw [zpow_natCast, ← habs, ← hpower, absValue_eq_ratio, absValue_eq_ratio]
    push_cast
    exact mul_div_mul_comm ..
  have hden : 0 < x.ratio.2 * p.ratio.2 := Nat.mul_pos x.ratio_snd_pos p.ratio_snd_pos
  rw [raised, if_neg (mt isZero_iff.1 hx), if_neg (by unfold maxPower; omega), hp,
    ofDecimal_eq_of_short x.negative hn hlt (by omega) (by omega) hden hvalue]
  rfl

theorem lowered_eq_ofDecimal (habs : x.absValue = n) (hn : n ≠ 0) (hlt : n < 2 ^ 53)
    (hk : k ≤ 22) : x.lowered k = ofDecimal x.negative ⟨n, -k⟩ := by
  obtain ⟨p, hp, hne, hpower⟩ := exists_powerOfTen hk
  have hvalue : ((x.ratio.1 * p.ratio.2 : Nat) : ℚ) / (x.ratio.2 * p.ratio.1 : Nat) =
      n * (10 : ℚ) ^ (-(k : Int)) := by
    rw [zpow_neg, zpow_natCast, ← habs, ← hpower, absValue_eq_ratio, absValue_eq_ratio, inv_div]
    push_cast
    exact mul_div_mul_comm ..
  have hden : 0 < x.ratio.2 * p.ratio.1 :=
    Nat.mul_pos x.ratio_snd_pos (p.ratio_fst_pos hne)
  rw [lowered, hp, ofDecimal_eq_of_short x.negative hn hlt (by omega) (by omega) hden hvalue]
  rfl

/-- **A short decimal is scaled to the nearest double.** -/
theorem scaled_eq_ofDecimal (negative : Bool) (hn : n ≠ 0) (hlt : n < 2 ^ 53) (hlow : -22 ≤ e)
    (hhigh : e ≤ 22) : scaled negative n e = ofDecimal negative ⟨n, e⟩ := by
  obtain ⟨x, hx, rfl, hne, habs⟩ := exists_ofRatio_shifted negative (j := 0) hn hlt (by omega)
  rw [Nat.pow_zero, Nat.mul_one] at hx habs
  rw [scaled, hx, Option.bind_eq_bind, Option.bind_some]
  by_cases he : 0 ≤ e
  · obtain ⟨k, rfl⟩ := Int.eq_ofNat_of_zero_le he
    rw [if_pos he]
    exact raised_eq_ofDecimal hne habs hn hlt (by omega)
  · obtain ⟨k, hk⟩ : ∃ k : Nat, e = -((k + 1 : Nat) : Int) := ⟨(-e).toNat - 1, by omega⟩
    subst hk
    have hplaces : (-(-((k + 1 : Nat) : Int))).toNat - 1 = k := by omega
    have hk : k < maxPower := by
      unfold maxPower
      omega
    rw [if_neg he, hplaces]
    dsimp only
    rw [Nat.div_eq_of_lt hk, Nat.mod_eq_of_lt hk, loweredBy]
    exact lowered_eq_ofDecimal habs hn hlt (by omega)

end Binary64

/-! ### Short literals -/

namespace Text

theorem le_valueFrom (n : Nat) (cs : List Char) : n ≤ valueFrom n cs := by
  induction cs generalizing n with
  | nil => exact Nat.le_refl n
  | cons c cs ih =>
      rw [valueFrom_cons]
      exact Nat.le_trans (by omega) (ih _)

/-- Digits of a word are read to their end. -/
theorem wordFrom_eq {n : Nat} {cs : List Char} (h : valueFrom n cs < wordLimit) :
    wordFrom n cs = (valueFrom n cs, []) := by
  induction cs generalizing n with
  | nil => rfl
  | cons c cs ih =>
      rw [valueFrom_cons] at h
      have hdigit : n * 10 + digitValue c < wordLimit := Nat.lt_of_le_of_lt (le_valueFrom _ cs) h
      rw [wordFrom, if_pos hdigit, ih h, valueFrom_cons]

end Text

namespace Json.Parser

variable {negative : Bool} {w f : List Char} {e : Option Int}

theorem doubleOf_eq_ofDecimal (hne : Text.valueOf (w ++ f) ≠ 0)
    (hlt : Text.valueOf (w ++ f) < 2 ^ 53) (hlow : -22 ≤ e.getD 0 - (f.length : Int))
    (hhigh : e.getD 0 - (f.length : Int) ≤ 22) :
    doubleOf negative w f e =
      Binary64.ofDecimal negative ⟨Text.valueOf (w ++ f), e.getD 0 - (f.length : Int)⟩ := by
  have hvalue : Text.valueOf (w ++ f) = Text.valueFrom (Text.valueOf w) f :=
    Text.valueFrom_append 0 w f
  have hword : Text.valueFrom (Text.valueOf w) f < Text.wordLimit :=
    (hvalue ▸ hlt).trans (by decide)
  have hwhole : Text.wordFrom 0 w = (Text.valueOf w, []) :=
    Text.wordFrom_eq ((Text.le_valueFrom _ f).trans_lt hword)
  rw [doubleOf, hwhole]
  dsimp only
  rw [Text.wordFrom_eq hword, ← hvalue]
  dsimp only
  have hplaces : e.getD 0 + (([] : List Char).length : Int) -
      ((f.length : Int) - (([] : List Char).length : Int)) = e.getD 0 - (f.length : Int) := by
    simp
  rw [hplaces, Binary64.scaled_eq_ofDecimal negative hne hlt hlow hhigh]

/-- **A short literal stands for the number nearest to it.** -/
theorem numberOf_eq_nearestOf (hne : Text.valueOf (w ++ f) ≠ 0)
    (hlt : Text.valueOf (w ++ f) < 2 ^ 53) (hlow : -22 ≤ e.getD 0 - (f.length : Int))
    (hhigh : e.getD 0 - (f.length : Int) ≤ 22) :
    numberOf negative w f e = nearestOf negative w f e := by
  have hdouble : doubleOf negative w f e = _ := doubleOf_eq_ofDecimal hne hlt hlow hhigh
  unfold numberOf nearestOf
  cases integerOf? negative w f e with
  | none => exact congrArg (Option.map JsonNumber.double) hdouble
  | some n => rfl

end Json.Parser

/-- Whether a decimal has few digits, also with zeros up to the first place behind the point,
and few places behind the point. -/
def Decimal.Short (d : Decimal) : Prop :=
  d.digits * 10 ^ (d.exponent.toNat + 1) < 2 ^ 53 ∧ -22 ≤ d.exponent

instance (d : Decimal) : Decidable d.Short :=
  inferInstanceAs (Decidable (_ ∧ _))

/-- The literal of a short decimal has few digits, and its point or exponent is near. -/
theorem Json.Parser.Spells.bounds {d : Decimal} {w f : List Char} {e : Option Int}
    (h : Spells d w f e) (hd : d.digits ≠ 0) (hshort : d.Short) :
    Text.valueOf (w ++ f) ≠ 0 ∧ Text.valueOf (w ++ f) < 2 ^ 53 ∧
      -22 ≤ e.getD 0 - (f.length : Int) ∧ e.getD 0 - (f.length : Int) ≤ 22 := by
  obtain ⟨zeros, hdigits, hexponent, hpoint⟩ := h.value
  obtain ⟨hlt, hplaces⟩ := hshort
  have hzeros : zeros ≤ d.exponent.toNat + 1 := by omega
  have hvalue : d.digits * 10 ^ zeros < 2 ^ 53 :=
    (Nat.mul_le_mul_left _ (Nat.pow_le_pow_right (by decide) hzeros)).trans_lt hlt
  have hpower : 10 ^ (d.exponent.toNat + 1) < 10 ^ 16 :=
    ((Nat.le_mul_of_pos_left _ (Nat.pos_of_ne_zero hd)).trans_lt hlt).trans (by decide)
  have hfew : d.exponent.toNat + 1 < 16 := (Nat.pow_lt_pow_iff_right (by decide)).1 hpower
  rw [hdigits, hexponent]
  exact ⟨(Nat.mul_pos (Nat.pos_of_ne_zero hd) (Nat.pow_pos (by decide))).ne', hvalue,
    by omega, by omega⟩

/-- **A double with a short decimal reads back.** -/
theorem JsonNumber.readsBack_of_short {x : Binary64} (hx : x.mantissa ≠ 0)
    (hshort : (x.shortest .toEven).Short) : (double x).ReadsBack := by
  obtain ⟨w, f, e, htext, hspells⟩ := Json.Parser.exists_spells_double hx
  obtain ⟨hne, hlt, hlow, hhigh⟩ :=
    hspells.bounds (Binary64.digits_shortest_ne_zero .toEven x hx) hshort
  have hwrites := Json.Parser.writes_of_spells hspells (Binary64.ofDecimal_shortest .toEven x hx)
  have hread : Json.Parser.number (Json.Parser.literalChars x.negative w f e ++ []) =
      some (double x, []) := by
    rw [Json.Parser.number_literalChars hwrites.isWhole hwrites.digit Json.Parser.endsNumber_nil,
      Json.Parser.numberOf_eq_nearestOf hne hlt hlow hhigh, hwrites.value, Option.map_some]
  rwa [List.append_nil, ← htext] at hread

/-- A longer decimal may be read as a neighbour of the double that it was written from. -/
example : (Binary64.ofDecimal false ⟨51248178375505404, -15⟩).map
    (fun x => decide (JsonNumber.double x).ReadsBack) = some false := by
  decide +kernel

end StreamStore
