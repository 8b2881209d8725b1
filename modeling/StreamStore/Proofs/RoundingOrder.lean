import StreamStore.Proofs.Rounding

/-!
# Rounding keeps the order

A double has an exact value (`Binary64.value`), and a double that is not zero is
determined by it (`Binary64.value_inj`).  Reading is monotone in this value: a greater
quotient rounds to a double that is not smaller (`Binary64.absValue_le_of_ofRatio`),
and so does a greater decimal (`Binary64.absValue_le_of_ofDecimal`).

Two consequences are about the shortest decimal of a double.  Where its first digit
stands is decided by comparing the double with the power of ten of that place, as this
power is read (`Binary64.le_lead_shortest_iff`).  And if it has no digits behind the
point, then the double is a whole number (`Binary64.isWhole_of_exponent_shortest`).
-/

namespace StreamStore

/-! ### Rounding to a natural number -/

/-- A rounded quotient is off by one half at most. -/
theorem roundToEven_error (num : Nat) {den : Nat} (hden : 0 < den) :
    (num : ℚ) / den - 1 / 2 ≤ roundToEven num den ∧
      (roundToEven num den : ℚ) ≤ num / den + 1 / 2 := by
  have hden' : (0 : ℚ) < den := by exact_mod_cast hden
  have hsplit : (num : ℚ) / den = (num / den : Nat) + ((num % den : Nat) : ℚ) / den := by
    have hnum : (num : ℚ) = den * (num / den : Nat) + (num % den : Nat) := by
      exact_mod_cast (Nat.div_add_mod num den).symm
    rw [hnum]
    field_simp
  have hrest : (0 : ℚ) ≤ ((num % den : Nat) : ℚ) / den := by positivity
  have hwhole : ((num % den : Nat) : ℚ) / den < 1 := by
    rw [div_lt_one hden']
    exact_mod_cast Nat.mod_lt num hden
  rw [hsplit, roundToEven]
  split
  · next hdown =>
      have hhalf : ((num % den : Nat) : ℚ) / den ≤ 1 / 2 := by
        rw [div_le_div_iff₀ hden' (by norm_num)]
        have : 2 * (num % den) ≤ den := by omega
        have : (2 : ℚ) * (num % den : Nat) ≤ den := by exact_mod_cast this
        linarith
      constructor <;> linarith
  · next hup =>
      have hhalf : 1 / 2 ≤ ((num % den : Nat) : ℚ) / den := by
        rw [div_le_div_iff₀ (by norm_num) hden']
        have : den ≤ 2 * (num % den) := by omega
        have : (den : ℚ) ≤ 2 * (num % den : Nat) := by exact_mod_cast this
        linarith
      push_cast
      constructor <;> linarith

theorem roundToEven_congr {num den num' den' : Nat} (hden : 0 < den) (hden' : 0 < den')
    (h : (num : ℚ) / den = (num' : ℚ) / den') : roundToEven num den = roundToEven num' den' := by
  calc roundToEven num den
      = roundToEven (den' * num) (den' * den) := (Binary64.roundToEven_scale hden').symm
    _ = roundToEven (den * num') (den * den') := by
        rw [Binary64.cross_eq_of_value_eq hden hden' h, Nat.mul_comm den']
    _ = roundToEven num' den' := Binary64.roundToEven_scale hden

/-- Rounding to a natural number keeps the order: two quotients can only change places when
both are halfway, and then they are equal. -/
theorem roundToEven_mono {num den num' den' : Nat} (hden : 0 < den) (hden' : 0 < den')
    (h : (num : ℚ) / den ≤ (num' : ℚ) / den') : roundToEven num den ≤ roundToEven num' den' := by
  by_contra hlt
  have hstep : (roundToEven num' den' : ℚ) + 1 ≤ roundToEven num den := by
    exact_mod_cast Nat.succ_le_of_lt (not_le.1 hlt)
  have herror := roundToEven_error num hden
  have herror' := roundToEven_error num' hden'
  have hsame : (num : ℚ) / den = (num' : ℚ) / den' := le_antisymm h (by linarith)
  exact hlt (roundToEven_congr hden hden' hsame).le

namespace Binary64

/-! ### The value of a number -/

/-- The exact magnitude of a number. -/
def absValue (x : Binary64) : ℚ :=
  x.mantissa * (2 : ℚ) ^ x.exponent

/-- The exact value of a number. -/
def value (x : Binary64) : ℚ :=
  if x.negative then -x.absValue else x.absValue

theorem absValue_eq_ratio (x : Binary64) : x.absValue = (x.ratio.1 : ℚ) / x.ratio.2 :=
  x.ratio_value.symm

theorem absValue_nonneg (x : Binary64) : 0 ≤ x.absValue := by
  unfold absValue
  positivity

@[simp] theorem absValue_eq_zero_iff {x : Binary64} : x.absValue = 0 ↔ x.mantissa = 0 := by
  have hpow : (2 : ℚ) ^ x.exponent ≠ 0 := by positivity
  simp [absValue, hpow]

@[simp] theorem absValue_zero (negative : Bool) : (zero negative).absValue = 0 :=
  absValue_eq_zero_iff.2 rfl

theorem absValue_pos {x : Binary64} (hx : x.mantissa ≠ 0) : 0 < x.absValue :=
  x.absValue_nonneg.lt_of_ne fun h => hx (absValue_eq_zero_iff.1 h.symm)

/-- A number that is not zero is determined by its sign and its magnitude. -/
theorem absValue_inj {x y : Binary64} (hx : x.mantissa ≠ 0) (hy : y.mantissa ≠ 0)
    (h : x.absValue = y.absValue) : x.magnitude = y.magnitude := by
  rw [absValue_eq_ratio, absValue_eq_ratio] at h
  have hread := ofRatio_congr false x.ratio_snd_pos y.ratio_snd_pos h
  rw [ofRatio_ratio false x hx, ofRatio_ratio false y hy] at hread
  exact Option.some.inj hread

/-- A number that is not zero is determined by its value. -/
theorem value_inj {x y : Binary64} (hx : x.mantissa ≠ 0) (h : x.value = y.value) : x = y := by
  have hpos := absValue_pos hx
  have hnonneg := y.absValue_nonneg
  have habs : x.absValue = y.absValue ∧ x.negative = y.negative := by
    unfold value at h
    cases hsign : x.negative <;> cases hsign' : y.negative <;>
      simp only [hsign, hsign', if_true, Bool.false_eq_true, if_false] at h
    · exact ⟨h, rfl⟩
    · linarith
    · linarith
    · exact ⟨neg_inj.1 h, rfl⟩
  have hy : y.mantissa ≠ 0 := by
    rwa [Ne, ← absValue_eq_zero_iff, ← habs.1, absValue_eq_zero_iff]
  have hmagnitude := absValue_inj hx hy habs.1
  obtain ⟨negative, mantissa, exponent, hcanonical⟩ := x
  obtain ⟨negative', mantissa', exponent', hcanonical'⟩ := y
  obtain rfl : negative = negative' := habs.2
  cases hmagnitude
  rfl

/-! ### The rounding of a quotient -/

/-- The mantissa to which a quotient rounds at an exponent. -/
def mantissaAt (num den : Nat) (e : Int) : Nat :=
  roundToEven (powerRatio num 2 (-e)).1 ((powerRatio num 2 (-e)).2 * den)

variable {num den num' den' : Nat} {e : Int}

theorem mantissaAt_mono (hden : 0 < den) (hden' : 0 < den')
    (h : (num : ℚ) / den ≤ (num' : ℚ) / den') : mantissaAt num den e ≤ mantissaAt num' den' e := by
  refine roundToEven_mono (scaled_pos num hden e) (scaled_pos num' hden' e) ?_
  rw [scaled_value, scaled_value]
  exact div_le_div_of_nonneg_right h (by positivity)

theorem mantissaAt_le (hden : 0 < den) (h : (num : ℚ) / den < (2 : ℚ) ^ (53 + e)) :
    mantissaAt num den e ≤ 2 ^ 53 := by
  have herror := (roundToEven_error (powerRatio num 2 (-e)).1 (scaled_pos num hden e)).2
  rw [scaled_value] at herror
  have hlt : (num : ℚ) / den / (2 : ℚ) ^ e < 2 ^ 53 := by
    rw [div_lt_iff₀ (by positivity), ← zpow_natCast, ← zpow_add₀ (by norm_num)]
    exact h
  have hbound : (mantissaAt num den e : ℚ) < (2 ^ 53 + 1 : Nat) := by
    push_cast
    exact herror.trans_lt (by linarith)
  exact Nat.lt_succ_iff.1 (by exact_mod_cast hbound)

theorem le_mantissaAt (hden : 0 < den) (h : (2 : ℚ) ^ (52 + e) ≤ (num : ℚ) / den) :
    2 ^ 52 ≤ mantissaAt num den e := by
  have herror := (roundToEven_error (powerRatio num 2 (-e)).1 (scaled_pos num hden e)).1
  rw [scaled_value] at herror
  have hle : (2 : ℚ) ^ 52 ≤ (num : ℚ) / den / (2 : ℚ) ^ e := by
    rw [le_div_iff₀ (by positivity), ← zpow_natCast, ← zpow_add₀ (by norm_num)]
    exact h
  have hbound : ((2 ^ 52 : Nat) : ℚ) < (mantissaAt num den e + 1 : Nat) := by
    push_cast
    have : (2 : ℚ) ^ 52 - 1 / 2 ≤ mantissaAt num den e := (by linarith : _ ≤ _).trans herror
    linarith
  exact Nat.lt_succ_iff.1 (by exact_mod_cast hbound)

/-- The magnitude of the number that a quotient rounds to: the mantissa at the exponent that
is found for it, also when the mantissa is carried over to the next exponent. -/
theorem absValue_of_ofRatio {negative : Bool} {x : Binary64} (hnum : num ≠ 0)
    (h : ofRatio negative num den = some x) :
    x.absValue = mantissaAt num den (exponentFor num den) * (2 : ℚ) ^ exponentFor num den := by
  unfold ofRatio at h
  rw [if_neg hnum] at h
  dsimp only at h
  rw [← mantissaAt] at h
  generalize exponentFor num den = e at h ⊢
  by_cases hcarry : mantissaAt num den e = Nat.pow 2 53
  · simp only [if_pos hcarry] at h
    split at h
    · obtain rfl := Option.some.inj h
      have hpow : ((Nat.pow 2 53 : Nat) : ℚ) = (Nat.pow 2 52 : Nat) * 2 := by norm_num
      show ((Nat.pow 2 52 : Nat) : ℚ) * (2 : ℚ) ^ (e + 1) = _
      rw [hcarry, hpow, zpow_add_one₀ (by norm_num)]
      ring
    · cases h
  · simp only [if_neg hcarry] at h
    split at h
    · obtain rfl := Option.some.inj h
      rfl
    · cases h

/-- **Rounding keeps the order.** -/
theorem absValue_le_of_ofRatio {negative negative' : Bool} {x y : Binary64} (hden : 0 < den)
    (hden' : 0 < den') (hx : ofRatio negative num den = some x)
    (hy : ofRatio negative' num' den' = some y) (h : (num : ℚ) / den ≤ (num' : ℚ) / den') :
    x.absValue ≤ y.absValue := by
  rcases Nat.eq_zero_or_pos num with rfl | hnum
  · cases hx
    rw [absValue_zero]
    exact y.absValue_nonneg
  have hvalue : (0 : ℚ) < num / den := by positivity
  have hnum' : 0 < num' := by
    refine Nat.pos_of_ne_zero fun hzero => ?_
    rw [hzero, Nat.cast_zero, zero_div] at h
    linarith
  obtain ⟨e, he, hfor⟩ := exponentFor_spec hnum hden
  obtain ⟨e', he', hfor'⟩ := exponentFor_spec hnum' hden'
  have hexp : e ≤ e' := by
    have hlt := he.1.trans_lt (h.trans_lt he'.2)
    have := (zpow_lt_zpow_iff_right₀ (by norm_num : (1 : ℚ) < 2)).1 hlt
    omega
  rw [absValue_of_ofRatio hnum.ne' hx, absValue_of_ofRatio hnum'.ne' hy]
  have hmax : exponentFor num den ≤ exponentFor num' den' := by
    rw [hfor, hfor']
    exact max_le_max hexp le_rfl
  rcases hmax.eq_or_lt with heq | hlt
  · rw [heq]
    have hmono : mantissaAt num den (exponentFor num' den') ≤
        mantissaAt num' den' (exponentFor num' den') := mantissaAt_mono hden hden' h
    exact mul_le_mul_of_nonneg_right (by exact_mod_cast hmono) (by positivity)
  · -- the greater quotient has a power of two between itself and the smaller one
    have htop : exponentFor num' den' = e' := by
      rw [hfor] at hlt
      rw [hfor'] at hlt ⊢
      omega
    have hupper : (num : ℚ) / den < (2 : ℚ) ^ (53 + exponentFor num den) := by
      refine he.2.trans_le (zpow_le_zpow_right₀ (by norm_num) ?_)
      rw [hfor]
      omega
    have hlow := mantissaAt_le hden hupper
    have hhigh := le_mantissaAt hden' (htop ▸ he'.1)
    calc (mantissaAt num den (exponentFor num den) : ℚ) * (2 : ℚ) ^ exponentFor num den
        ≤ 2 ^ 53 * (2 : ℚ) ^ exponentFor num den :=
          mul_le_mul_of_nonneg_right (by exact_mod_cast hlow) (by positivity)
      _ = (2 : ℚ) ^ (53 + exponentFor num den) := by rw [zpow_add₀ (by norm_num)]; norm_num
      _ ≤ (2 : ℚ) ^ (52 + exponentFor num' den') :=
          zpow_le_zpow_right₀ (by norm_num) (by omega)
      _ = 2 ^ 52 * (2 : ℚ) ^ exponentFor num' den' := by rw [zpow_add₀ (by norm_num)]; norm_num
      _ ≤ mantissaAt num' den' (exponentFor num' den') * (2 : ℚ) ^ exponentFor num' den' :=
          mul_le_mul_of_nonneg_right (by exact_mod_cast hhigh) (by positivity)

/-! ### Whole numbers -/

/-- The magnitude is a natural number exactly when the number is whole, and then it is the
whole part. -/
theorem absValue_eq_natCast_iff {x : Binary64} {n : Nat} :
    x.absValue = n ↔ x.isWhole = true ∧ x.wholePart = n := by
  have hden := x.ratio_snd_pos
  have hden' : (x.ratio.2 : ℚ) ≠ 0 := by exact_mod_cast hden.ne'
  have hwhole : x.isWhole = true ↔ x.ratio.1 % x.ratio.2 = 0 := beq_iff_eq
  have hpart : x.wholePart = x.ratio.1 / x.ratio.2 := rfl
  rw [absValue_eq_ratio, div_eq_iff hden', hwhole, hpart]
  constructor
  · intro h
    have h : x.ratio.1 = n * x.ratio.2 := by exact_mod_cast h
    rw [h]
    exact ⟨Nat.mul_mod_left n _, Nat.mul_div_cancel n hden⟩
  · rintro ⟨hrest, rfl⟩
    exact_mod_cast (Nat.div_mul_cancel (Nat.dvd_of_mod_eq_zero hrest)).symm

/-- A natural number rounds to a whole number: when the exponent is negative nothing is
rounded, and otherwise no number with this exponent has a fraction. -/
theorem isWhole_of_ofRatio_one {negative : Bool} {n : Nat} {x : Binary64}
    (h : ofRatio negative n 1 = some x) : x.isWhole = true := by
  suffices hvalue : ∃ m : Nat, x.absValue = m by
    obtain ⟨m, hm⟩ := hvalue
    exact (absValue_eq_natCast_iff.1 hm).1
  by_cases hn : n = 0
  · subst hn
    cases h
    exact ⟨0, by simp⟩
  rw [absValue_of_ofRatio hn h]
  generalize exponentFor n 1 = e
  rcases le_total 0 e with he | he
  · obtain ⟨k, rfl⟩ := Int.eq_ofNat_of_zero_le he
    exact ⟨mantissaAt n 1 k * 2 ^ k, by push_cast; rw [zpow_natCast]⟩
  · obtain ⟨k, hk⟩ := Int.eq_ofNat_of_zero_le (neg_nonneg.2 he)
    obtain rfl : e = -(k : Int) := by omega
    have hexact : mantissaAt n 1 (-(k : Int)) = n * 2 ^ k := by
      have hscaled : powerRatio n 2 k = (n * 2 ^ k, 1) := if_pos (Int.natCast_nonneg k)
      have hround := roundToEven_mul (n * 2 ^ k) Nat.one_pos
      rw [mantissaAt, neg_neg, hscaled]
      rwa [Nat.mul_one] at hround
    refine ⟨n, ?_⟩
    rw [hexact, zpow_neg, zpow_natCast]
    push_cast
    field_simp

end Binary64

/-! ### Decimals -/

/-- The exact value of a decimal. -/
def Decimal.value (d : Decimal) : ℚ :=
  d.digits * (10 : ℚ) ^ d.exponent

theorem digitCount_bounds {n : Nat} (hn : n ≠ 0) :
    10 ^ (digitCount n - 1) ≤ n ∧ n < 10 ^ digitCount n := by
  have hpos : 0 < digitCount n := Nat.length_toDigits_pos
  refine ⟨?_, (Binary64.digitCount_le_iff hpos).1 le_rfl⟩
  rcases Nat.eq_zero_or_pos (digitCount n - 1) with hone | hmore
  · rw [hone]
    exact Nat.pos_of_ne_zero hn
  · have hfewer : ¬digitCount n ≤ digitCount n - 1 := by omega
    exact not_lt.1 (mt (Binary64.digitCount_le_iff hmore).2 hfewer)

namespace Decimal

variable {d d' : Decimal}

/-- The first digit tells between which powers of ten a decimal lies. -/
theorem value_bounds (hd : d.digits ≠ 0) :
    (10 : ℚ) ^ d.lead ≤ d.value ∧ d.value < (10 : ℚ) ^ (d.lead + 1) := by
  obtain ⟨hlow, hhigh⟩ := digitCount_bounds hd
  have hpos : 0 < digitCount d.digits := Nat.length_toDigits_pos
  have hfirst : d.lead = (digitCount d.digits - 1 : Nat) + d.exponent := by
    unfold lead
    omega
  have hnext : d.lead + 1 = digitCount d.digits + d.exponent := by omega
  have hten : (10 : ℚ) ≠ 0 := by norm_num
  rw [hnext, hfirst, zpow_add₀ hten, zpow_add₀ hten, zpow_natCast, zpow_natCast]
  constructor
  · exact mul_le_mul_of_nonneg_right (by exact_mod_cast hlow) (by positivity)
  · exact mul_lt_mul_of_pos_right (by exact_mod_cast hhigh) (by positivity)

theorem lead_le_of_value_le (hd : d.digits ≠ 0) (hd' : d'.digits ≠ 0) (h : d.value ≤ d'.value) :
    d.lead ≤ d'.lead := by
  have hlt := ((value_bounds hd).1.trans h).trans_lt (value_bounds hd').2
  have := (zpow_lt_zpow_iff_right₀ (by norm_num : (1 : ℚ) < 10)).1 hlt
  omega

/-- The power of ten of a place is the decimal whose only digit, a one, stands there. -/
theorem value_one (k : Int) : Decimal.value ⟨1, k⟩ = (10 : ℚ) ^ k := by
  simp [value]

end Decimal

namespace Binary64

/-- A decimal that is not zero is read as a number of its sign and of at most 401 digits
before the point or zeros behind it; beyond these it is zero. -/
theorem ofDecimal_eq_some {negative : Bool} {d : Decimal} {x : Binary64} (hd : d.digits ≠ 0)
    (h : ofDecimal negative d = some x) :
    (d.lead < -401 ∧ x = zero negative) ∨
      (d.lead ≤ 399 ∧ -401 ≤ d.lead ∧
        ofRatio negative (powerRatio d.digits 10 d.exponent).1
          (powerRatio d.digits 10 d.exponent).2 = some x) := by
  unfold ofDecimal at h
  rw [if_neg hd] at h
  unfold Decimal.lead
  dsimp only at h
  split at h
  · next hlow => exact .inl ⟨by omega, (Option.some.inj h).symm⟩
  · next hlow =>
      split at h
      · cases h
      · next hhigh => exact .inr ⟨by omega, by omega, h⟩

/-- **Reading a decimal keeps the order.** -/
theorem absValue_le_of_ofDecimal {negative negative' : Bool} {d d' : Decimal} {x y : Binary64}
    (hd : d.digits ≠ 0) (hd' : d'.digits ≠ 0) (hx : ofDecimal negative d = some x)
    (hy : ofDecimal negative' d' = some y) (h : d.value ≤ d'.value) : x.absValue ≤ y.absValue := by
  have hlead := Decimal.lead_le_of_value_le hd hd' h
  have hvalue (e : Decimal) : ((powerRatio e.digits 10 e.exponent).1 : ℚ) /
      (powerRatio e.digits 10 e.exponent).2 = e.value := by
    rw [powerRatio_value, Decimal.value, Nat.cast_ofNat]
  rcases ofDecimal_eq_some hd hx with ⟨-, rfl⟩ | ⟨-, hlow, hread⟩
  · rw [absValue_zero]
    exact y.absValue_nonneg
  · rcases ofDecimal_eq_some hd' hy with ⟨hlow', -⟩ | ⟨-, -, hread'⟩
    · omega
    · refine absValue_le_of_ofRatio (powerRatio_snd_pos (by decide))
        (powerRatio_snd_pos (by decide)) hread hread' ?_
      rwa [hvalue, hvalue]

/-! ### The shortest decimal -/

/-- **Where the first digit of the shortest decimal stands** is decided by a comparison with
the power of ten of that place, which is itself read as some number. -/
theorem le_lead_shortest_iff {tie : Tie} {k : Int} {power x : Binary64}
    (hpower : ofDecimal false ⟨1, k⟩ = some power) (hk : (power.shortest tie).lead = k)
    (hx : x.mantissa ≠ 0) : k ≤ (x.shortest tie).lead ↔ power.absValue ≤ x.absValue := by
  have hread := ofDecimal_shortest tie x hx
  have hdigits := digits_shortest_ne_zero tie x hx
  have hbounds := Decimal.value_bounds hdigits
  constructor
  · intro hle
    refine absValue_le_of_ofDecimal Nat.one_ne_zero hdigits hpower hread ?_
    rw [Decimal.value_one]
    exact (zpow_le_zpow_right₀ (by norm_num) hle).trans hbounds.1
  · intro hle
    by_contra hlt
    have hbelow : (x.shortest tie).value ≤ Decimal.value ⟨1, k⟩ := by
      rw [Decimal.value_one]
      exact hbounds.2.le.trans (zpow_le_zpow_right₀ (by norm_num) (by omega))
    -- so the number is the power itself, and has its first digit at that place
    have hge : x.absValue ≤ power.absValue :=
      absValue_le_of_ofDecimal hdigits Nat.one_ne_zero hread hpower hbelow
    have habs : x.absValue = power.absValue := le_antisymm hge hle
    have hpos : power.mantissa ≠ 0 := by
      rwa [Ne, ← absValue_eq_zero_iff, ← habs, absValue_eq_zero_iff]
    have hsame : x.magnitude = power.magnitude := absValue_inj hx hpos habs
    have hlead : (x.shortest tie).lead = k := by
      calc (x.shortest tie).lead = (x.magnitude.shortest tie).lead := rfl
        _ = (power.magnitude.shortest tie).lead := by rw [hsame]
        _ = k := hk
    omega

/-- A number whose shortest decimal has no digits behind the point is whole. -/
theorem isWhole_of_exponent_shortest {tie : Tie} {x : Binary64} (hx : x.mantissa ≠ 0)
    (h : 0 ≤ (x.shortest tie).exponent) : x.isWhole = true := by
  have hread := ofDecimal_shortest tie x hx
  rcases ofDecimal_eq_some (digits_shortest_ne_zero tie x hx) hread with ⟨-, hzero⟩ | ⟨-, -, hratio⟩
  · exact absurd (congrArg mantissa hzero) hx
  · rw [powerRatio, if_pos h] at hratio
    exact isWhole_of_ofRatio_one hratio

end Binary64

end StreamStore
