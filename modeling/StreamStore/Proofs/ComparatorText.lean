import StreamStore.Filter
import StreamStore.Proofs.NumberText
import StreamStore.Proofs.RoundingOrder

/-!
# Numbers as comparators spell them

The stored values are texts, so a comparison with a number is one with its spelling
(`comparatorText`), and equal numbers must be spelled alike whether they come as
integers or as doubles.

A double is written positionally or in scientific notation.  Which one is a matter of
its magnitude (`Binary64.lead_range_iff`), so that a double with the value of a 64-bit
integer is always spelled as the integer (`comparatorDouble_of_fits64`).  The other way
round a spelling tells its number: it is a literal, and the number nearest to this literal
has that value (`exists_nearest_comparatorText`).  What a reader makes of the literal does
not matter here.
-/

namespace StreamStore

/-- The exact value of a number. -/
def JsonNumber.value : JsonNumber → ℚ
  | .integer n _ => n
  | .double x => x.value

namespace Binary64

/-! ### The range of the positional notation -/

/-- The double nearest to a millionth. -/
def millionth : Binary64 :=
  ⟨false, 4722366482869645, -72, by decide⟩

/-- The double `10 ^ 21`. -/
def sextillion : Binary64 :=
  ⟨false, 7629394531250000, 17, by decide⟩

theorem absValue_sextillion : sextillion.absValue = 10 ^ 21 := by
  norm_num [absValue, sextillion]

theorem absValue_millionth_le_one : millionth.absValue ≤ 1 := by
  norm_num [absValue, millionth]

/-- The first digit of a double stands between the sixth place behind the point and the
twenty-first before it exactly when the magnitude is not below the double that a millionth is
read as, and below `10 ^ 21`. -/
theorem lead_range_iff {x : Binary64} (hx : x.mantissa ≠ 0) :
    (-6 ≤ (x.shortest .up).lead ∧ (x.shortest .up).lead < 21) ↔
      millionth.absValue ≤ x.absValue ∧ x.absValue < 10 ^ 21 := by
  have hlow : -6 ≤ (x.shortest .up).lead ↔ millionth.absValue ≤ x.absValue :=
    le_lead_shortest_iff (by decide +kernel) (by decide +kernel) hx
  have hhigh : 21 ≤ (x.shortest .up).lead ↔ sextillion.absValue ≤ x.absValue :=
    le_lead_shortest_iff (by decide +kernel) (by decide +kernel) hx
  rw [hlow, ← not_le, hhigh, absValue_sextillion, not_le]

/-! ### Doubles with whole values -/

variable {x : Binary64} {n : Int}

theorem absValue_eq_natAbs (h : x.value = n) : x.absValue = n.natAbs := by
  have hnonneg := x.absValue_nonneg
  rw [Nat.cast_natAbs, Int.cast_abs, ← h, value]
  split
  · rw [abs_neg, abs_of_nonneg hnonneg]
  · rw [abs_of_nonneg hnonneg]

theorem negative_eq_decide (hx : x.mantissa ≠ 0) (h : x.value = n) :
    x.negative = decide (n < 0) := by
  have hpos := absValue_pos hx
  rw [Bool.eq_iff_iff, decide_eq_true_iff, ← Int.cast_lt_zero (R := ℚ), ← h, value]
  split
  · next hsign => exact iff_of_true hsign (neg_neg_of_pos hpos)
  · next hsign => exact iff_of_false hsign hpos.le.not_gt

theorem exists_value_eq_of_isWhole (h : x.isWhole = true) : ∃ n : Int, x.value = n := by
  have habs : x.absValue = x.wholePart := absValue_eq_natCast_iff.2 ⟨h, rfl⟩
  unfold value
  split
  · exact ⟨-x.wholePart, by rw [habs]; push_cast; rfl⟩
  · exact ⟨x.wholePart, by rw [habs]; push_cast; rfl⟩

theorem value_of_mantissa_eq_zero (hx : x.mantissa = 0) : x.value = (0 : Int) := by
  simp [value, absValue_eq_zero_iff.2 hx]

end Binary64

variable {x : Binary64} {n : Int}

/-- In the range of the positional notation a double with a whole value is spelled as the
integer. -/
theorem comparatorDouble_of_value (hx : x.mantissa ≠ 0)
    (hrange : -6 ≤ (x.shortest .up).lead ∧ (x.shortest .up).lead < 21) (h : x.value = n) :
    comparatorDouble x = Json.integerText n := by
  have hzero : ¬x.isZero = true := mt Binary64.isZero_iff.1 hx
  obtain ⟨hwhole, hpart⟩ := Binary64.absValue_eq_natCast_iff.1 (Binary64.absValue_eq_natAbs h)
  unfold comparatorDouble
  simp only [if_neg hzero, if_pos hrange, if_pos hwhole, hpart, Binary64.signText,
    Binary64.negative_eq_decide hx h, decide_eq_true_eq, Json.integerText]
  split <;> rfl

/-- **A double with the value of a 64-bit integer is spelled as that integer.** -/
theorem comparatorDouble_of_fits64 (hn : fits64 n) (h : x.value = n) :
    comparatorDouble x = Json.integerText n := by
  have habs := Binary64.absValue_eq_natAbs h
  by_cases hx : x.mantissa = 0
  · have hnzero : n = 0 := by
      rw [Binary64.absValue_eq_zero_iff.2 hx] at habs
      exact Int.natAbs_eq_zero.1 (by exact_mod_cast habs.symm)
    rw [comparatorDouble, if_pos (Binary64.isZero_iff.2 hx), hnzero]
    rfl
  · refine comparatorDouble_of_value hx ((Binary64.lead_range_iff hx).2 ?_) h
    have hpos := Binary64.absValue_pos hx
    rw [habs] at hpos ⊢
    have hone : (1 : ℚ) ≤ n.natAbs := by exact_mod_cast hpos
    have hword : (n.natAbs : ℚ) < (10 ^ 21 : Nat) := by
      have : n.natAbs < 10 ^ 21 := by
        obtain ⟨hlow, hhigh⟩ := hn
        omega
      exact_mod_cast this
    exact ⟨Binary64.absValue_millionth_le_one.trans hone, by exact_mod_cast hword⟩

namespace Json.Parser

/-! ### Spellings read back -/

/-- The digits of a double with a whole value are a literal that writes this value: as an
integer when it is one of 64 bits, and otherwise as the double. -/
theorem exists_writes_whole (hx : x.mantissa ≠ 0) (hbound : x.absValue < 10 ^ 21)
    (h : x.value = n) :
    ∃ k, Writes k (decide (n < 0)) (Nat.toDigits 10 n.natAbs) [] none ∧ k.value = n := by
  by_cases hn : fits64 n
  · exact ⟨.integer n hn, writes_integer hn, rfl⟩
  refine ⟨.double x, ⟨isWhole_toDigits _, nofun, ?_⟩, h⟩
  have habs := Binary64.absValue_eq_natAbs h
  have hne : n.natAbs ≠ 0 := by
    have hpos := Binary64.absValue_pos hx
    rw [habs] at hpos
    exact_mod_cast hpos.ne'
  have hcount : digitCount n.natAbs ≤ 21 := by
    refine (Binary64.digitCount_le_iff (by decide)).2 ?_
    rw [habs] at hbound
    exact_mod_cast hbound
  have hvalue : (x.ratio.1 : ℚ) / x.ratio.2 = n.natAbs * (10 : ℚ) ^ (0 : Int) := by
    rw [← Binary64.absValue_eq_ratio, habs, zpow_zero, mul_one]
  have hread : Binary64.ofDecimal x.negative ⟨n.natAbs, 0⟩ = some x :=
    (Binary64.ofDecimal_eq x.negative hne (by dsimp only; omega) (by dsimp only; omega)
      x.ratio_snd_pos hvalue).trans (Binary64.ofRatio_ratio x.negative x hx)
  have hinteger : integerOf? (decide (n < 0)) (Nat.toDigits 10 n.natAbs) [] none = none := by
    unfold integerOf?
    simp only [Text.valueOf_toDigits, signed_natAbs]
    exact dif_neg fun hint => hn hint.2.2.2
  rw [nearestOf, hinteger, ← Binary64.negative_eq_decide hx h]
  simp [Text.valueOf_toDigits, hread]

/-- A decimal with digits behind the point is written in the same way whether whole numbers
end in a point and a zero or not. -/
theorem positional_of_exponent_neg {d : Decimal} (h : d.exponent < 0) :
    d.positional false = d.positional true := by
  simp only [Decimal.positional, if_neg h.not_ge]

/-- The spelling of a double is a literal that writes a number of the same value. -/
theorem exists_writes_comparatorDouble (x : Binary64) :
    ∃ k negative w f e, comparatorDouble x = literalChars negative w f e ∧
      Writes k negative w f e ∧ k.value = x.value := by
  by_cases hx : x.mantissa = 0
  · have hvalue := Binary64.value_of_mantissa_eq_zero hx
    have hfits : fits64 0 := by decide
    exact ⟨.integer 0 hfits, _, _, _, _,
      (comparatorDouble_of_fits64 hfits hvalue).trans (integerText_eq 0), writes_integer hfits,
      hvalue.symm⟩
  have hzero : ¬x.isZero = true := mt Binary64.isZero_iff.1 hx
  have hread := Binary64.ofDecimal_shortest .up x hx
  have hdigits := Binary64.digits_shortest_ne_zero .up x hx
  by_cases hrange : -6 ≤ (x.shortest .up).lead ∧ (x.shortest .up).lead < 21
  · by_cases hwhole : x.isWhole = true
    · obtain ⟨n, hn⟩ := Binary64.exists_value_eq_of_isWhole hwhole
      obtain ⟨k, hwrites, hk⟩ := exists_writes_whole hx ((Binary64.lead_range_iff hx).1 hrange).2 hn
      exact ⟨k, _, _, _, _, (comparatorDouble_of_value hx hrange hn).trans (integerText_eq n),
        hwrites, hk.trans hn.symm⟩
    · have hfraction : (x.shortest .up).exponent < 0 :=
        not_le.1 (mt (Binary64.isWhole_of_exponent_shortest hx) hwhole)
      obtain ⟨w, f, htext, hspells⟩ := exists_spells_positional hdigits
      refine ⟨.double x, _, w, f, none, ?_, writes_of_spells hspells hread, rfl⟩
      unfold comparatorDouble
      simp only [if_neg hzero, if_pos hrange, if_neg hwhole]
      rw [positional_of_exponent_neg hfraction, htext, Binary64.signText, ← signChars,
        ← literalChars_sign]
  · obtain ⟨w, f, htext, hspells⟩ := exists_spells_scientific hdigits
    refine ⟨.double x, _, w, f, _, ?_, writes_of_spells hspells hread, rfl⟩
    unfold comparatorDouble
    simp only [if_neg hzero, if_neg hrange]
    rw [htext, Binary64.signText, ← signChars, ← literalChars_sign]

end Json.Parser

/-- **A spelling tells its number**: it is a literal, and the number nearest to this literal
has the same value. -/
theorem exists_nearest_comparatorText (n : JsonNumber) :
    ∃ negative w f e, Json.Parser.literal (comparatorText n).toList =
        some ((negative, w, f, e), []) ∧
      ∃ k, Json.Parser.nearestOf negative w f e = some k ∧ k.value = n.value := by
  obtain ⟨k, negative, w, f, e, htext, hwrites, hk⟩ :
      ∃ k negative w f e, (comparatorText n).toList = Json.Parser.literalChars negative w f e ∧
        Json.Parser.Writes k negative w f e ∧ k.value = n.value := by
    cases n with
    | integer n fits =>
        exact ⟨.integer n fits, _, _, [], none,
          String.toList_ofList.trans (Json.Parser.integerText_eq n),
          Json.Parser.writes_integer fits, rfl⟩
    | double x =>
        obtain ⟨k, negative, w, f, e, htext, hwrites, hk⟩ :=
          Json.Parser.exists_writes_comparatorDouble x
        exact ⟨k, negative, w, f, e, String.toList_ofList.trans htext, hwrites, hk⟩
  have hliteral : Json.Parser.literal (Json.Parser.literalChars negative w f e ++ []) =
      some ((negative, w, f, e), []) :=
    Json.Parser.literal_append hwrites.isWhole hwrites.digit nofun
  rw [List.append_nil, ← htext] at hliteral
  exact ⟨negative, w, f, e, hliteral, k, hwrites.value, hk⟩

/-- Equal numbers are spelled alike. -/
theorem comparatorText_of_value_eq {m n : JsonNumber} (h : m.value = n.value) :
    comparatorText m = comparatorText n := by
  have hmixed {i : Int} (fits : fits64 i) {x : Binary64} (hx : x.value = i) :
      comparatorText (.double x) = comparatorText (.integer i fits) :=
    congrArg String.ofList (comparatorDouble_of_fits64 fits hx)
  cases m with
  | integer i fits =>
      cases n with
      | integer j _ =>
          obtain rfl : i = j := Int.cast_injective h
          rfl
      | double y => exact (hmixed fits h.symm).symm
  | double x =>
      cases n with
      | integer j fits => exact hmixed fits h
      | double y =>
          by_cases hx : x.mantissa = 0
          -- there are two zeros among the doubles, and both are the integer zero
          · have hfits : fits64 0 := by decide
            have hzero := Binary64.value_of_mantissa_eq_zero hx
            exact (hmixed hfits hzero).trans (hmixed hfits (h.symm.trans hzero)).symm
          · obtain rfl := Binary64.value_inj hx h
            rfl

/-- **The spellings of numbers are canonical.**  Two numbers, integers of 64 bits or doubles,
are spelled alike by comparators exactly when they are the same number.  So a comparison of a
column with the one and with the other mean the same filter exactly then. -/
theorem comparator_texts_canonical (m n : JsonNumber) :
    (comparatorText m = comparatorText n ↔ m.value = n.value) ∧
    ∀ (t : RecordType) (column : String) (relation : Relation),
      (Constraint.compare column relation (.number m)).compile t =
          (Constraint.compare column relation (.number n)).compile t ↔
        m.value = n.value := by
  have htext : comparatorText m = comparatorText n ↔ m.value = n.value := by
    refine ⟨fun h => ?_, comparatorText_of_value_eq⟩
    obtain ⟨negative, w, f, e, hliteral, k, hnearest, hk⟩ := exists_nearest_comparatorText m
    obtain ⟨_, _, _, _, hliteral', l, hnearest', hl⟩ := exists_nearest_comparatorText n
    rw [h, hliteral'] at hliteral
    cases hliteral
    rw [hnearest'] at hnearest
    cases hnearest
    exact hk.symm.trans hl
  refine ⟨htext, fun t column relation => ?_⟩
  rw [← htext, Constraint.compile, Constraint.compile, Constraint.valueFilter,
    Constraint.valueFilter, Filter.value.injEq]
  exact ⟨fun h => h.2.2.2, fun h => ⟨rfl, rfl, rfl, h⟩⟩

/-- Numbers of one value are spelled alike, and so are integers above those that doubles tell
apart; a literal of such a number with a fraction is read as a double near it. -/
example : (["5", "5.0", "5e0", "-0.0", "9007199254740993", "9007199254740993.0"].map fun literal =>
      (Json.Parser.number literal.toList).map fun read => comparatorText read.1) =
    ["5", "5", "5", "0", "9007199254740993", "9007199254740994"].map some := by
  decide +kernel

end StreamStore
