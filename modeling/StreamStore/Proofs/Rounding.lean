import Mathlib.Algebra.Order.Field.Power
import Mathlib.Algebra.Order.Field.Rat
import Mathlib.Tactic.FieldSimp
import Mathlib.Tactic.Positivity
import Mathlib.Tactic.Linarith
import Mathlib.Tactic.Ring
import StreamStore.Number.Shortest

/-!
# Reading a number back from its decimals

Rounding to the nearest double is a function of the value of a quotient, not of the
numerator and the denominator that it is formed from (`ofRatio_congr`); over `ℚ` the
exponent it chooses is the one that leaves 53 bits before the point
(`exponentFor_spec`), and no two exponents do (`Leaves53Bits.unique`).

From this it follows that zeros at the end of a decimal do not matter
(`ofDecimal_padBy`), that a double is read from its own quotient without rounding
(`ofRatio_ratio`), and that the decimal with which it is written reads back
(`ofDecimal_shortest`): the trial asks the reader, and the exact expansion, which
stands for it when no trial succeeds, has the double's value.
-/

namespace StreamStore

theorem powerRatio_snd_pos {n b : Nat} {k : Int} (hb : 0 < b) : 0 < (powerRatio n b k).2 := by
  unfold powerRatio
  split
  · exact Nat.one_pos
  · exact Nat.pow_pos hb

/-- The quotient that `powerRatio` forms. -/
theorem powerRatio_value (n : Nat) {b : Nat} (k : Int) :
    ((powerRatio n b k).1 : ℚ) / (powerRatio n b k).2 = n * (b : ℚ) ^ k := by
  unfold powerRatio
  split
  · next hk =>
      obtain ⟨j, rfl⟩ := Int.eq_ofNat_of_zero_le hk
      simp
  · next hk =>
      obtain ⟨j, hj⟩ := Int.eq_ofNat_of_zero_le (a := -k) (by omega)
      have hk : k = -(j : Int) := by omega
      subst hk
      simp [div_eq_mul_inv]

namespace Binary64

/-- What a scaled quotient is. -/
theorem scaled_value (num den : Nat) (k : Int) :
    ((powerRatio num 2 (-k)).1 : ℚ) / ((powerRatio num 2 (-k)).2 * den : Nat) =
      num / den / (2 : ℚ) ^ k := by
  have hvalue := powerRatio_value num (b := 2) (-k)
  push_cast at hvalue ⊢
  rw [← div_div, hvalue, zpow_neg]
  field_simp

theorem scaled_pos (num : Nat) {den : Nat} (hden : 0 < den) (k : Int) :
    0 < (powerRatio num 2 (-k)).2 * den :=
  Nat.mul_pos (powerRatio_snd_pos (by decide)) hden

/-- A floor of a scaled quotient is below a bound exactly when the quotient is. -/
theorem div_lt_iff_value (num den b : Nat) (hden : 0 < den) (k : Int) :
    (powerRatio num 2 (-k)).1 / ((powerRatio num 2 (-k)).2 * den) < b ↔
      (num : ℚ) / den < b * (2 : ℚ) ^ k := by
  have hscaled := scaled_value num den k
  have hpos := scaled_pos num hden k
  generalize (powerRatio num 2 (-k)).1 = n at hscaled
  generalize (powerRatio num 2 (-k)).2 * den = d at hscaled hpos
  have hd : (0 : ℚ) < d := by exact_mod_cast hpos
  have hp : (0 : ℚ) < (2 : ℚ) ^ k := by positivity
  calc n / d < b
      ↔ n < b * d := Nat.div_lt_iff_lt_mul hpos
    _ ↔ (n : ℚ) < b * d := by exact_mod_cast Iff.rfl
    _ ↔ (n : ℚ) / d < b := (div_lt_iff₀ hd).symm
    _ ↔ (num : ℚ) / den < b * (2 : ℚ) ^ k := by rw [hscaled, div_lt_iff₀ hp]

/-- The exponent that leaves 53 bits before the point of a quotient. -/
def Leaves53Bits (num den : Nat) (e : Int) : Prop :=
  (2 : ℚ) ^ (52 + e) ≤ (num : ℚ) / den ∧ (num : ℚ) / den < (2 : ℚ) ^ (53 + e)

theorem Leaves53Bits.unique {num den : Nat} {e e' : Int} (h : Leaves53Bits num den e)
    (h' : Leaves53Bits num den e') : e = e' := by
  have hlt := (zpow_lt_zpow_iff_right₀ (by norm_num : (1 : ℚ) < 2)).1 (h.1.trans_lt h'.2)
  have hgt := (zpow_lt_zpow_iff_right₀ (by norm_num : (1 : ℚ) < 2)).1 (h'.1.trans_lt h.2)
  omega

/-- The logarithms of numerator and denominator bound their quotient. -/
theorem value_bounds_of_log2 {num den : Nat} (hnum : 0 < num) (hden : 0 < den) :
    (2 : ℚ) ^ ((num.log2 : Int) - den.log2 - 1) < (num : ℚ) / den ∧
      (num : ℚ) / den < (2 : ℚ) ^ ((num.log2 : Int) - den.log2 + 1) := by
  have hden' : (0 : ℚ) < den := by exact_mod_cast hden
  have hnumlow : (2 : ℚ) ^ (num.log2 : Int) ≤ num := by
    exact_mod_cast Nat.log2_self_le hnum.ne'
  have hnumhigh : (num : ℚ) < (2 : ℚ) ^ ((num.log2 : Int) + 1) := by
    exact_mod_cast Nat.lt_log2_self
  have hdenlow : (2 : ℚ) ^ (den.log2 : Int) ≤ den := by
    exact_mod_cast Nat.log2_self_le hden.ne'
  have hdenhigh : (den : ℚ) < (2 : ℚ) ^ ((den.log2 : Int) + 1) := by
    exact_mod_cast Nat.lt_log2_self
  have htwo : (2 : ℚ) ≠ 0 := by norm_num
  constructor
  · rw [lt_div_iff₀ hden']
    calc (2 : ℚ) ^ ((num.log2 : Int) - den.log2 - 1) * den
        < (2 : ℚ) ^ ((num.log2 : Int) - den.log2 - 1) * (2 : ℚ) ^ ((den.log2 : Int) + 1) :=
          mul_lt_mul_of_pos_left hdenhigh (by positivity)
      _ = (2 : ℚ) ^ (num.log2 : Int) := by rw [← zpow_add₀ htwo]; congr 1; omega
      _ ≤ num := hnumlow
  · rw [div_lt_iff₀ hden']
    calc (num : ℚ) < (2 : ℚ) ^ ((num.log2 : Int) + 1) := hnumhigh
      _ = (2 : ℚ) ^ ((num.log2 : Int) - den.log2 + 1) * (2 : ℚ) ^ (den.log2 : Int) := by
          rw [← zpow_add₀ htwo]; congr 1; omega
      _ ≤ (2 : ℚ) ^ ((num.log2 : Int) - den.log2 + 1) * den :=
          mul_le_mul_of_nonneg_left hdenlow (by positivity)

/-- What `exponentFor` finds: the exponent that leaves 53 bits, or the least one. -/
theorem exponentFor_spec {num den : Nat} (hnum : 0 < num) (hden : 0 < den) :
    ∃ e, Leaves53Bits num den e ∧ exponentFor num den = max e (-1074) := by
  obtain ⟨hlow, hhigh⟩ := value_bounds_of_log2 hnum hden
  generalize hguess : (num.log2 : Int) - den.log2 - 52 = guess
  have htest := div_lt_iff_value num den (Nat.pow 2 52) hden guess
  have hbound : ((Nat.pow 2 52 : Nat) : ℚ) * (2 : ℚ) ^ guess = (2 : ℚ) ^ (52 + guess) := by
    rw [zpow_add₀ (by norm_num)]
    norm_num
  rw [hbound] at htest
  have hfor : exponentFor num den =
      max (if (num : ℚ) / den < (2 : ℚ) ^ (52 + guess) then guess - 1 else guess) (-1074) := by
    unfold exponentFor
    simp only [hguess, htest]
  rw [hfor]
  split
  · next h =>
      have hlower : 52 + (guess - 1) = (num.log2 : Int) - den.log2 - 1 := by omega
      have hupper : 53 + (guess - 1) = 52 + guess := by omega
      exact ⟨guess - 1, ⟨hlower ▸ hlow.le, hupper ▸ h⟩, rfl⟩
  · next h =>
      have hupper : 53 + guess = (num.log2 : Int) - den.log2 + 1 := by omega
      exact ⟨guess, ⟨not_lt.1 h, hupper ▸ hhigh⟩, rfl⟩

/-- Scaling numerator and denominator alike changes nothing about the quotient. -/
theorem exponentFor_scale {num den k : Nat} (hnum : 0 < num) (hden : 0 < den) (hk : 0 < k) :
    exponentFor (k * num) (k * den) = exponentFor num den := by
  obtain ⟨e, he, hfor⟩ := exponentFor_spec hnum hden
  obtain ⟨e', he', hfor'⟩ := exponentFor_spec (Nat.mul_pos hk hnum) (Nat.mul_pos hk hden)
  have hk' : (k : ℚ) ≠ 0 := by exact_mod_cast hk.ne'
  have hsame : ((k * num : Nat) : ℚ) / (k * den : Nat) = num / den := by
    push_cast
    exact mul_div_mul_left _ _ hk'
  rw [Leaves53Bits, hsame] at he'
  rw [hfor, hfor', Leaves53Bits.unique he he']

theorem roundToEven_scale {num den k : Nat} (hk : 0 < k) :
    roundToEven (k * num) (k * den) = roundToEven num den := by
  have hlt : 2 * (k * (num % den)) < k * den ↔ 2 * (num % den) < den := by
    rw [Nat.mul_left_comm]
    exact Nat.mul_lt_mul_left hk
  have heq : 2 * (k * (num % den)) = k * den ↔ 2 * (num % den) = den := by
    rw [Nat.mul_left_comm]
    exact Nat.mul_right_inj hk.ne'
  unfold roundToEven
  simp only [Nat.mul_div_mul_left _ _ hk, Nat.mul_mod_mul_left, hlt, heq]

theorem powerRatio_mul (k n b : Nat) (e : Int) :
    powerRatio (k * n) b e = (k * (powerRatio n b e).1, (powerRatio n b e).2) := by
  unfold powerRatio
  split
  · rw [Nat.mul_assoc]
  · rfl

/-- **Rounding a quotient** depends on its value only. -/
theorem ofRatio_scale (negative : Bool) {num den k : Nat} (hden : 0 < den) (hk : 0 < k) :
    ofRatio negative (k * num) (k * den) = ofRatio negative num den := by
  rcases Nat.eq_zero_or_pos num with rfl | hnum
  · rfl
  · have hne : k * num ≠ 0 := (Nat.mul_pos hk hnum).ne'
    unfold ofRatio
    simp only [if_neg hne, if_neg hnum.ne', exponentFor_scale hnum hden hk, powerRatio_mul,
      Nat.mul_left_comm _ k, roundToEven_scale hk]

/-- Equal quotients are crosswise equal products. -/
theorem cross_eq_of_value_eq {num den num' den' : Nat} (hden : 0 < den) (hden' : 0 < den')
    (h : (num : ℚ) / den = (num' : ℚ) / den') : den' * num = den * num' := by
  have hd : (den : ℚ) ≠ 0 := by exact_mod_cast hden.ne'
  have hd' : (den' : ℚ) ≠ 0 := by exact_mod_cast hden'.ne'
  rw [div_eq_div_iff hd hd'] at h
  have : num * den' = num' * den := by exact_mod_cast h
  rw [Nat.mul_comm den', this, Nat.mul_comm]

theorem ofRatio_congr (negative : Bool) {num den num' den' : Nat} (hden : 0 < den)
    (hden' : 0 < den') (h : (num : ℚ) / den = (num' : ℚ) / den') :
    ofRatio negative num den = ofRatio negative num' den' := by
  have hcross := cross_eq_of_value_eq hden hden' h
  calc ofRatio negative num den
      = ofRatio negative (den' * num) (den' * den) := (ofRatio_scale negative hden hden').symm
    _ = ofRatio negative (den * num') (den * den') := by rw [hcross, Nat.mul_comm den']
    _ = ofRatio negative num' den' := ofRatio_scale negative hden' hden

/-! ### Numbers of the format -/

theorem roundToEven_mul (m : Nat) {den : Nat} (hden : 0 < den) : roundToEven (m * den) den = m := by
  unfold roundToEven
  simp [Nat.mul_div_cancel m hden, hden]

/-- The quotient that stands for the magnitude. -/
theorem ratio_value (x : Binary64) :
    (x.ratio.1 : ℚ) / x.ratio.2 = x.mantissa * (2 : ℚ) ^ x.exponent := by
  rw [ratio, powerRatio_value, Nat.cast_ofNat]

theorem ratio_snd_pos (x : Binary64) : 0 < x.ratio.2 :=
  powerRatio_snd_pos (by decide)

theorem ratio_fst_pos (x : Binary64) (hx : x.mantissa ≠ 0) : 0 < x.ratio.1 := by
  unfold ratio powerRatio
  split
  · exact Nat.mul_pos (Nat.pos_of_ne_zero hx) (Nat.pow_pos (by decide))
  · exact Nat.pos_of_ne_zero hx

/-- The exponent of a number of the format is the one that is found for it. -/
theorem exponentFor_ratio (x : Binary64) (hx : x.mantissa ≠ 0) :
    exponentFor x.ratio.1 x.ratio.2 = x.exponent := by
  obtain ⟨hmantissa, hleast, -, hnormal⟩ := x.canonical
  have hvalue := x.ratio_value
  obtain ⟨e, he, hfor⟩ := exponentFor_spec (x.ratio_fst_pos hx) x.ratio_snd_pos
  have hhigh : (x.mantissa : ℚ) * (2 : ℚ) ^ x.exponent < (2 : ℚ) ^ (53 + x.exponent) := by
    have hm : (x.mantissa : ℚ) < (2 : ℚ) ^ (53 : Int) := by exact_mod_cast hmantissa
    rw [zpow_add₀ (by norm_num)]
    exact mul_lt_mul_of_pos_right hm (by positivity)
  rw [hfor]
  rcases hnormal with hfirst | hsubnormal
  · have hlow : (2 : ℚ) ^ (52 + x.exponent) ≤ (x.mantissa : ℚ) * (2 : ℚ) ^ x.exponent := by
      have hm : (2 : ℚ) ^ (52 : Int) ≤ x.mantissa := by exact_mod_cast hfirst
      rw [zpow_add₀ (by norm_num)]
      exact mul_le_mul_of_nonneg_right hm (by positivity)
    rw [Leaves53Bits.unique he ⟨hvalue ▸ hlow, hvalue ▸ hhigh⟩]
    exact max_eq_left hleast
  · -- no exponent above the least one leaves fewer bits
    have hlt : (2 : ℚ) ^ (52 + e) < (2 : ℚ) ^ (53 + x.exponent) :=
      he.1.trans_lt (hvalue ▸ hhigh)
    have hle := (zpow_lt_zpow_iff_right₀ (by norm_num : (1 : ℚ) < 2)).1 hlt
    omega

/-- **A number of the format is read from its own quotient** without rounding. -/
theorem ofRatio_ratio (negative : Bool) (x : Binary64) (hx : x.mantissa ≠ 0) :
    ofRatio negative x.ratio.1 x.ratio.2 = some { x with negative := negative } := by
  have hexact : ∃ den, 0 < den ∧
      (powerRatio x.ratio.1 2 (-x.exponent)).1 = x.mantissa * den ∧
        (powerRatio x.ratio.1 2 (-x.exponent)).2 * x.ratio.2 = den := by
    refine ⟨_, Nat.mul_pos (powerRatio_snd_pos (by decide)) x.ratio_snd_pos, ?_, rfl⟩
    unfold ratio powerRatio
    rcases lt_trichotomy x.exponent 0 with hneg | hzero | hpos
    · simp [not_le.2 hneg, hneg.le]
    · simp [hzero]
    · simp [hpos.le, not_le.2 hpos]
  obtain ⟨den, hden, hnum, hsnd⟩ := hexact
  have hne : x.ratio.1 ≠ 0 := (x.ratio_fst_pos hx).ne'
  have hbits : x.mantissa ≠ Nat.pow 2 53 := x.canonical.1.ne
  unfold ofRatio
  simp only [if_neg hne, exponentFor_ratio x hx, hnum, hsnd, roundToEven_mul _ hden, if_neg hbits,
    dif_pos x.canonical]

/-! ### Decimals -/

theorem digitCount_mul_ten {n : Nat} (hn : n ≠ 0) : digitCount (n * 10) = digitCount n + 1 := by
  have hten : 10 ≤ n * 10 := by omega
  unfold digitCount
  rw [Nat.toDigits_of_base_le (by decide) hten, List.length_append,
    Nat.mul_div_cancel n (by decide)]
  rfl

/-- The value of a decimal, as the quotient that is formed of it. -/
theorem ofDecimal_eq (negative : Bool) {d : Decimal} (hd : d.digits ≠ 0)
    (hlow : -400 ≤ (digitCount d.digits : Int) + d.exponent)
    (hhigh : (digitCount d.digits : Int) + d.exponent ≤ 400) {num den : Nat} (hden : 0 < den)
    (hvalue : (num : ℚ) / den = d.digits * (10 : ℚ) ^ d.exponent) :
    ofDecimal negative d = ofRatio negative num den := by
  unfold ofDecimal
  simp only [if_neg hd, if_neg (not_lt.2 hlow), if_neg (not_lt.2 hhigh)]
  refine ofRatio_congr negative (powerRatio_snd_pos (by decide)) hden ?_
  rw [hvalue, powerRatio_value]
  norm_num

/-- A zero at the end of the digits, counted by the exponent, changes nothing. -/
theorem ofDecimal_pad (negative : Bool) (n : Nat) (e : Int) :
    ofDecimal negative ⟨n * 10, e - 1⟩ = ofDecimal negative ⟨n, e⟩ := by
  by_cases hn : n = 0
  · simp [ofDecimal, hn]
  have hten : n * 10 ≠ 0 := by omega
  have htop : (digitCount (n * 10) : Int) + (e - 1) = digitCount n + e := by
    rw [digitCount_mul_ten hn]
    omega
  by_cases hlow : (digitCount n : Int) + e < -400
  · simp [ofDecimal, hn, htop, hlow]
  by_cases hhigh : 400 < (digitCount n : Int) + e
  · simp [ofDecimal, hn, htop, hlow, hhigh]
  · have hpos := powerRatio_snd_pos (n := n) (b := 10) (k := e) (by decide)
    have hvalue := powerRatio_value n (b := 10) e
    have hsame : (n : ℚ) * (10 : ℚ) ^ e = (n * 10 : Nat) * (10 : ℚ) ^ (e - 1) := by
      rw [zpow_sub_one₀ (by norm_num)]
      push_cast
      field_simp
    rw [ofDecimal_eq negative (d := ⟨n, e⟩) hn (not_lt.1 hlow) (not_lt.1 hhigh) hpos hvalue]
    exact ofDecimal_eq negative (d := ⟨n * 10, e - 1⟩) hten (by rw [htop]; exact not_lt.1 hlow)
      (by rw [htop]; exact not_lt.1 hhigh) hpos (hvalue.trans hsame)

theorem ofDecimal_padBy (negative : Bool) (n : Nat) (e : Int) (k : Nat) :
    ofDecimal negative ⟨n * 10 ^ k, e - k⟩ = ofDecimal negative ⟨n, e⟩ := by
  induction k with
  | zero => simp
  | succ k ih =>
      have hexp : e - ((k + 1 : Nat) : Int) = e - k - 1 := by omega
      rw [hexp, Nat.pow_succ, ← Nat.mul_assoc, ofDecimal_pad, ih]

theorem ofDecimal_strippedBy (negative : Bool) (fuel : Nat) (d : Decimal) :
    ofDecimal negative (d.strippedBy fuel) = ofDecimal negative d := by
  induction fuel generalizing d with
  | zero => rfl
  | succ fuel ih =>
      rw [Decimal.strippedBy]
      split
      · next h =>
          have hdigits : d.digits / 10 * 10 = d.digits := by omega
          have hpad := ofDecimal_pad negative (d.digits / 10) (d.exponent + 1)
          rw [hdigits, Int.add_sub_cancel] at hpad
          rw [ih, ← hpad]
      · rfl

/-- The sign is decided by nothing else. -/
theorem ofRatio_sign (negative : Bool) (num den : Nat) :
    ofRatio negative num den =
      (ofRatio false num den).map fun x => { x with negative := negative } := by
  unfold ofRatio
  by_cases hnum : num = 0
  · simp [hnum, zero]
  · simp only [if_neg hnum]
    generalize (if roundToEven _ _ = Nat.pow 2 53 then _ else _ : Nat × Int) = me
    by_cases h : Canonical me.1 me.2
    · simp only [dif_pos h, Option.map_some]
    · simp only [dif_neg h, Option.map_none]

theorem ofDecimal_sign (negative : Bool) (d : Decimal) :
    ofDecimal negative d = (ofDecimal false d).map fun x => { x with negative := negative } := by
  unfold ofDecimal
  by_cases hd : d.digits = 0
  · simp [hd, zero]
  · simp only [if_neg hd]
    split
    · rfl
    · split
      · rfl
      · exact ofRatio_sign negative _ _

/-! ### The shortest decimal -/

theorem digitCount_le_iff {n j : Nat} (hj : 0 < j) : digitCount n ≤ j ↔ n < 10 ^ j :=
  Nat.length_toDigits_le_iff (by decide) hj

/-- The expansion has the value of the number. -/
theorem expansion_value (x : Binary64) :
    (x.ratio.1 : ℚ) / x.ratio.2 = x.expansion.digits * (10 : ℚ) ^ x.expansion.exponent := by
  rw [x.ratio_value]
  unfold expansion
  split
  · next he =>
      obtain ⟨k, hk⟩ := Int.eq_ofNat_of_zero_le he
      simp [hk]
  · next he =>
      obtain ⟨k, hk⟩ := Int.eq_ofNat_of_zero_le (a := -x.exponent) (by omega)
      have hexp : x.exponent = -(k : Int) := by omega
      have hto : (-x.exponent).toNat = k := by omega
      have hten : (10 : ℚ) ^ k = 2 ^ k * 5 ^ k := by
        rw [← mul_pow]
        norm_num
      have hfive : ((Nat.pow 5 k : Nat) : ℚ) = 5 ^ k := Nat.cast_pow 5 k
      rw [hto, hexp]
      simp only [zpow_neg, zpow_natCast, hten, Nat.cast_mul, hfive]
      field_simp

/-- A whole number of the format has at most 400 digits. -/
theorem digitCount_shifted_le {m k : Nat} (hm : m < 2 ^ 53) (hk : k ≤ 971) :
    digitCount (m * 2 ^ k) ≤ 400 := by
  refine (digitCount_le_iff (by decide)).2 ?_
  calc m * 2 ^ k < 2 ^ 53 * 2 ^ k := Nat.mul_lt_mul_of_pos_right hm (Nat.pow_pos (by decide))
    _ ≤ 2 ^ 53 * 2 ^ 971 := Nat.mul_le_mul_left _ (Nat.pow_le_pow_right (by decide) hk)
    _ ≤ 10 ^ 400 := by decide +kernel

/-- The first digit of `m · 10 ^ -k · 5 ^ k` stands at most 400 places before the point. -/
theorem digitCount_halved_le {m : Nat} (k : Nat) (hm : m < 2 ^ 53) :
    digitCount (m * 5 ^ k) ≤ k + 400 := by
  refine (digitCount_le_iff (by omega)).2 ?_
  calc m * 5 ^ k < 2 ^ 53 * 5 ^ k := Nat.mul_lt_mul_of_pos_right hm (Nat.pow_pos (by decide))
    _ ≤ 10 ^ 400 * 10 ^ k :=
        Nat.mul_le_mul (by decide +kernel) (Nat.pow_le_pow_left (by decide) k)
    _ = 10 ^ (k + 400) := by rw [Nat.pow_add, Nat.mul_comm]

/-- The first digit of `m · 10 ^ -k · 5 ^ k` stands at most 400 places after the point. -/
theorem le_digitCount_halved {m k : Nat} (hm : m ≠ 0) (hk : k ≤ 1074) :
    k ≤ digitCount (m * 5 ^ k) + 400 := by
  by_cases hsmall : k ≤ 401
  · have hpos : 0 < digitCount (m * 5 ^ k) := Nat.length_toDigits_pos
    omega
  · obtain ⟨j, rfl⟩ : ∃ j, k = j + 401 := ⟨k - 401, by omega⟩
    have hle : 10 ^ j ≤ m * 5 ^ (j + 401) := by
      calc 10 ^ j = 2 ^ j * 5 ^ j := by rw [← Nat.mul_pow]
        _ ≤ 5 ^ 401 * 5 ^ j := by
            refine Nat.mul_le_mul_right _ ?_
            calc 2 ^ j ≤ 2 ^ 673 := Nat.pow_le_pow_right (by decide) (by omega)
              _ ≤ 5 ^ 401 := by decide +kernel
        _ = 5 ^ (j + 401) := by rw [Nat.pow_add, Nat.mul_comm]
        _ ≤ m * 5 ^ (j + 401) := Nat.le_mul_of_pos_left _ (Nat.pos_of_ne_zero hm)
    have hcount := mt (digitCount_le_iff (by omega)).1 (Nat.not_lt.2 hle)
    omega

/-- The exact expansion of a number reads back. -/
theorem ofDecimal_expansion (negative : Bool) (x : Binary64) (hx : x.mantissa ≠ 0) :
    ofDecimal negative x.expansion = some { x with negative := negative } := by
  obtain ⟨hmantissa, hleast, hgreatest, -⟩ := x.canonical
  have hvalue := x.expansion_value
  rw [← ofRatio_ratio negative x hx]
  unfold expansion at hvalue ⊢
  split at hvalue
  · next he =>
      have hdigits : x.mantissa * 2 ^ x.exponent.toNat ≠ 0 :=
        (Nat.mul_pos (Nat.pos_of_ne_zero hx) (Nat.pow_pos (by decide))).ne'
      have hcount : digitCount (x.mantissa * 2 ^ x.exponent.toNat) ≤ 400 :=
        digitCount_shifted_le hmantissa (by omega)
      rw [if_pos he]
      refine ofDecimal_eq negative hdigits ?_ ?_ x.ratio_snd_pos hvalue
      · dsimp only
        omega
      · show (digitCount (x.mantissa * 2 ^ x.exponent.toNat) : Int) + 0 ≤ 400
        omega
  · next he =>
      have hdigits : x.mantissa * 5 ^ (-x.exponent).toNat ≠ 0 :=
        (Nat.mul_pos (Nat.pos_of_ne_zero hx) (Nat.pow_pos (by decide))).ne'
      have hhigh := digitCount_halved_le (-x.exponent).toNat hmantissa
      have hlow := le_digitCount_halved (k := (-x.exponent).toNat) hx (by omega)
      rw [if_neg he]
      refine ofDecimal_eq negative hdigits ?_ ?_ x.ratio_snd_pos hvalue
      · show -400 ≤ (digitCount (x.mantissa * 5 ^ (-x.exponent).toNat) : Int) + x.exponent
        omega
      · show (digitCount (x.mantissa * 5 ^ (-x.exponent).toNat) : Int) + x.exponent ≤ 400
        omega

/-- A neighbour is a decimal that reads back. -/
theorem readsBack_of_neighbour? {tie : Tie} {x : Binary64} {n : Nat} {d : Decimal}
    (h : x.neighbour? tie n = some d) : x.readsBack d = true := by
  unfold neighbour? at h
  dsimp only at h
  split at h
  · cases h
  · next hlower _ =>
      cases h
      exact hlower
  · next _ hupper =>
      cases h
      exact hupper
  · next hlower hupper =>
      obtain rfl := Option.some.inj h
      split
      · exact hlower
      · exact hupper

/-- **The shortest decimal reads back.** -/
theorem ofDecimal_shortest (tie : Tie) (x : Binary64) (hx : x.mantissa ≠ 0) :
    ofDecimal x.negative (x.shortest tie) = some x := by
  have hread : ∀ d, ofDecimal false d = some x.magnitude → ofDecimal x.negative d = some x := by
    intro d hd
    rw [ofDecimal_sign, hd]
    rfl
  rw [shortest, Decimal.stripped, ofDecimal_strippedBy]
  refine hread _ ?_
  cases hfound : (List.range 17).findSome? fun i => x.neighbour? tie (i + 1) with
  | none => exact ofDecimal_expansion false x hx
  | some d =>
      obtain ⟨i, -, hi⟩ := List.exists_of_findSome?_eq_some hfound
      exact eq_of_beq (readsBack_of_neighbour? hi)

theorem digits_shortest_ne_zero (tie : Tie) (x : Binary64) (hx : x.mantissa ≠ 0) :
    (x.shortest tie).digits ≠ 0 := by
  intro hzero
  have hread := ofDecimal_shortest tie x hx
  rw [ofDecimal, if_pos hzero] at hread
  apply hx
  rw [← Option.some.inj hread]
  rfl

end Binary64

end StreamStore
