import Mathlib.Algebra.Group.Nat.Defs
import StreamStore.Text.Natural

/-!
# Numbers written in decimal, and their order as texts

A number is written without leading zeros, so a list of numerals in the order of
texts is not in the order of the numbers: `10` comes before `9`.  This module
says exactly how the two orders are related.

* Numerals of *equal length* are ordered as their values are
  (`numeral_append_lt_iff`), whatever follows them.
* Of numerals of different length, the longer one is cut to the length of the
  shorter one, which divides its value by a power of ten (`toDigits_leading`).
  What decides when these are equal is the character after the shorter numeral.

`WrittenLe a b` is the resulting order for numerals that are closed by a
separator greater than every digit; `closed_le_iff` is the proof that it is.
-/

namespace StreamStore.Text

/-! ### Values -/

/-- The value of a numeral is the one the core library reads. -/
theorem valueFrom_eq_ofDigitChars (start : Nat) (cs : List Char) :
    valueFrom start cs = Nat.ofDigitChars 10 cs start := by
  induction cs generalizing start with
  | nil => rw [valueFrom_nil, Nat.ofDigitChars_nil]
  | cons c cs ih =>
      rw [valueFrom_cons, Nat.ofDigitChars_cons, ih, Nat.mul_comm start]
      rfl

/-- A number that was written reads back. -/
@[simp] theorem valueOf_toDigits (n : Nat) : valueOf (Nat.toDigits 10 n) = n := by
  rw [valueOf, valueFrom_eq_ofDigitChars, Nat.ofDigitChars_ten_toDigits]

@[simp] theorem valueOf_nil : valueOf [] = 0 := rfl

/-- The first digit counts as often as the digits after it can be written. -/
theorem valueOf_cons (c : Char) (cs : List Char) :
    valueOf (c :: cs) = digitValue c * 10 ^ cs.length + valueOf cs := by
  have shift : ∀ (cs : List Char) (n : Nat),
      valueFrom n cs = n * 10 ^ cs.length + valueOf cs := by
    intro cs
    induction cs with
    | nil => intro n; rw [valueFrom_nil, List.length_nil, valueOf_nil]; omega
    | cons d ds ih =>
        intro n
        rw [valueOf, valueFrom_cons, valueFrom_cons, ih, ih (0 * 10 + digitValue d),
          List.length_cons, Nat.pow_succ']
        rw [Nat.add_mul, Nat.zero_mul, Nat.zero_add, Nat.mul_assoc, Nat.add_assoc]
  rw [valueOf, valueFrom_cons, shift, Nat.zero_mul, Nat.zero_add]

/-- The digits are the characters from `0` to `9`. -/
theorem digit_bounds {c : Char} (h : c.isDigit = true) : 48 ≤ c.toNat ∧ c.toNat ≤ 57 := by
  simp only [Char.isDigit, Bool.and_eq_true, decide_eq_true_eq] at h
  exact h

/-- The separator of keys comes after every digit. -/
theorem digit_lt_colon {c : Char} (h : c.isDigit = true) : c < ':' := by
  have h := (digit_bounds h).2
  show c.toNat < 58
  omega

theorem valueOf_lt {cs : List Char} (h : ∀ c ∈ cs, c.isDigit = true) :
    valueOf cs < 10 ^ cs.length := by
  induction cs with
  | nil => exact Nat.one_pos
  | cons c cs ih =>
      have hc := digit_bounds (h c List.mem_cons_self)
      have hcs := ih fun d hd => h d (List.mem_cons_of_mem c hd)
      have hv : digitValue c ≤ 9 := by rw [digitValue]; omega
      rw [valueOf_cons, List.length_cons, Nat.pow_succ']
      have := Nat.mul_le_mul_right (10 ^ cs.length) hv
      omega

/-- Numerals of equal length are ordered as their values are; equal ones leave
the order to what follows them. -/
theorem numeral_append_lt_iff {as bs : List Char} (ha : ∀ c ∈ as, c.isDigit = true)
    (hb : ∀ c ∈ bs, c.isDigit = true) (hlen : as.length = bs.length) (u w : List Char) :
    as ++ u < bs ++ w ↔ valueOf as < valueOf bs ∨ as = bs ∧ u < w := by
  induction as generalizing bs with
  | nil =>
      obtain rfl := List.eq_nil_of_length_eq_zero hlen.symm
      simp
  | cons a as ih =>
      cases bs with
      | nil => simp at hlen
      | cons b bs =>
          have hlen' : as.length = bs.length := by simpa using hlen
          have ha' : ∀ c ∈ as, c.isDigit = true := fun c hc => ha c (List.mem_cons_of_mem a hc)
          have hb' : ∀ c ∈ bs, c.isDigit = true := fun c hc => hb c (List.mem_cons_of_mem b hc)
          have hda := digit_bounds (ha a List.mem_cons_self)
          have hdb := digit_bounds (hb b List.mem_cons_self)
          have hva := valueOf_lt ha'
          have hvb := valueOf_lt hb'
          rw [List.cons_append, List.cons_append, List.cons_lt_cons_iff, ih ha' hb' hlen',
            valueOf_cons, valueOf_cons, hlen', digitValue, digitValue]
          rw [hlen'] at hva
          -- A difference of one in the first digit outweighs all the digits behind it.
          rcases Nat.lt_trichotomy a.toNat b.toNat with hlt | heq | hgt
          · have : (a.toNat - 48 + 1) * 10 ^ bs.length ≤ (b.toNat - 48) * 10 ^ bs.length :=
              Nat.mul_le_mul_right _ (by omega)
            rw [Nat.add_mul, Nat.one_mul] at this
            exact iff_of_true (.inl hlt) (.inl (by omega))
          · obtain rfl := Char.toNat_inj.1 heq
            have hirr : ¬a < a := Nat.lt_irrefl _
            rw [or_iff_right hirr, and_iff_right rfl, Nat.add_lt_add_iff_left, List.cons_inj_right]
          · have : (b.toNat - 48 + 1) * 10 ^ bs.length ≤ (a.toNat - 48) * 10 ^ bs.length :=
              Nat.mul_le_mul_right _ (by omega)
            rw [Nat.add_mul, Nat.one_mul] at this
            have hnlt : ¬a < b := Nat.lt_asymm hgt
            have hne : a ≠ b := fun h => Nat.lt_irrefl _ (h ▸ hgt)
            refine iff_of_false ?_ ?_
            · rintro (h | ⟨h, -⟩)
              · exact hnlt h
              · exact hne h
            · rintro (h | ⟨h, -⟩)
              · omega
              · exact hne (List.cons.inj h).1

/-! ### Leading digits -/

/-- How many digits a number is written with. -/
def width (n : Nat) : Nat :=
  (Nat.toDigits 10 n).length

theorem isDigit_of_mem {n : Nat} : ∀ c ∈ Nat.toDigits 10 n, c.isDigit = true :=
  fun _ hc => Nat.isDigit_of_mem_toDigits (by decide) (by decide) hc

/-- A number has more than `j` digits exactly when it reaches the `j`-th power of ten. -/
theorem lt_width_iff {n j : Nat} (hj : 0 < j) : j < width n ↔ 10 ^ j ≤ n := by
  have h : width n ≤ j ↔ n < 10 ^ j := Nat.length_toDigits_le_iff (by decide) hj
  omega

/-- Numbers below the same power of ten and not below the one before it have
equally many digits. -/
theorem width_eq_of_bounds {n j : Nat} (hj : 0 < j) (hlow : 10 ^ j ≤ n) (hhigh : n < 10 ^ (j + 1)) :
    width n = j + 1 := by
  have h₁ := (lt_width_iff hj).2 hlow
  have h₂ := mt (lt_width_iff (Nat.succ_pos j)).1 (Nat.not_le.2 hhigh)
  omega

/-- A greater number does not have fewer digits. -/
theorem width_mono {a b : Nat} (h : a ≤ b) : width a ≤ width b := by
  have hpos : 0 < width b := Nat.length_toDigits_pos
  have hb : b < 10 ^ width b := (Nat.length_toDigits_le_iff (by decide) hpos).1 (Nat.le_refl _)
  exact (Nat.length_toDigits_le_iff (by decide) hpos).2 (Nat.lt_of_le_of_lt h hb)

/-- All but the last `j` digits of a number are the digits of its quotient by the
`j`-th power of ten. -/
theorem toDigits_leading {n : Nat} :
    ∀ j, j < width n → ∃ rest, Nat.toDigits 10 n = Nat.toDigits 10 (n / 10 ^ j) ++ rest ∧
      rest.length = j := by
  intro j
  induction j with
  | zero => exact fun _ => ⟨[], by rw [Nat.pow_zero, Nat.div_one, List.append_nil], rfl⟩
  | succ j ih =>
      intro hj
      obtain ⟨rest, hrest, hlen⟩ := ih (by omega)
      have hn := (lt_width_iff (Nat.succ_pos j)).1 hj
      rw [Nat.pow_succ] at hn
      have hten : 10 ≤ n / 10 ^ j := (Nat.le_div_iff_mul_le (Nat.pow_pos (by decide))).2
        (Nat.mul_comm .. ▸ hn)
      -- One more digit moves from the quotient to the rest.
      refine ⟨(n / 10 ^ j % 10).digitChar :: rest, ?_, by rw [List.length_cons, hlen]⟩
      rw [hrest, Nat.toDigits_of_base_le (by decide) hten, Nat.div_div_eq_div_mul, ← Nat.pow_succ,
        List.append_assoc, List.singleton_append]

/-- A number with more digits than another one begins with as many digits as that
one has, and goes on with a digit. -/
theorem toDigits_cut {a b : Nat} (h : width b < width a) :
    ∃ d ds, d.isDigit = true ∧
      Nat.toDigits 10 a = Nat.toDigits 10 (a / 10 ^ (width a - width b)) ++ d :: ds ∧
      width (a / 10 ^ (width a - width b)) = width b := by
  have hb : 0 < width b := Nat.length_toDigits_pos
  obtain ⟨rest, hrest, hlen⟩ := toDigits_leading (n := a) (width a - width b) (by omega)
  have hwidth : width a = width (a / 10 ^ (width a - width b)) + rest.length := by
    conv => lhs; rw [width, hrest]
    exact List.length_append
  obtain ⟨d, ds, rfl⟩ : ∃ d ds, rest = d :: ds :=
    List.exists_cons_of_length_pos (by omega)
  refine ⟨d, ds, isDigit_of_mem (n := a) d ?_, hrest, by omega⟩
  rw [hrest]
  exact List.mem_append_right _ List.mem_cons_self

theorem toDigits_inj {a b : Nat} (h : Nat.toDigits 10 a = Nat.toDigits 10 b) : a = b := by
  rw [← valueOf_toDigits a, h, valueOf_toDigits]

/-! ### Numerals that are closed by a separator -/

/-- The order of numerals of which each is closed by a character greater than
every digit.  The longer numeral is cut to the length of the shorter one; when
nothing else decides, the shorter one, whose closing character is met first,
comes last. -/
def WrittenLe (a b : Nat) : Prop :=
  if width a < width b then a < b / 10 ^ (width b - width a)
  else a / 10 ^ (width a - width b) ≤ b

instance (a b : Nat) : Decidable (WrittenLe a b) :=
  inferInstanceAs (Decidable (if width a < width b then a < b / 10 ^ (width b - width a)
    else a / 10 ^ (width a - width b) ≤ b))

/-- Between numbers with equally many digits the order is the one of numbers. -/
theorem writtenLe_of_width_eq {a b : Nat} (h : width a = width b) : WrittenLe a b ↔ a ≤ b := by
  rw [WrittenLe, h, if_neg (Nat.lt_irrefl _), Nat.sub_self, Nat.pow_zero, Nat.div_one]

theorem writtenLe_refl (a : Nat) : WrittenLe a a :=
  (writtenLe_of_width_eq rfl).2 (Nat.le_refl a)

/-- Of two different numbers exactly one is written before the other. -/
theorem not_writtenLe_iff {a b : Nat} (hne : a ≠ b) : ¬WrittenLe a b ↔ WrittenLe b a := by
  rcases Nat.lt_trichotomy (width a) (width b) with h | h | h
  · rw [WrittenLe, if_pos h, WrittenLe, if_neg (Nat.lt_asymm h), Nat.not_lt]
  · rw [writtenLe_of_width_eq h, writtenLe_of_width_eq h.symm]
    omega
  · rw [WrittenLe, if_neg (Nat.lt_asymm h), WrittenLe, if_pos h, Nat.not_le]

/-- The smaller number is written first when it is below the greater one cut to as
many digits. -/
theorem writtenLe_iff_of_lt {a b : Nat} (h : a < b) :
    WrittenLe a b ↔ a < b / 10 ^ (width b - width a) := by
  have hwidth : width a ≤ width b := width_mono (Nat.le_of_lt h)
  rcases Nat.lt_or_eq_of_le hwidth with hlt | heq
  · rw [WrittenLe, if_pos hlt]
  · rw [writtenLe_of_width_eq heq, heq, Nat.sub_self, Nat.pow_zero, Nat.div_one]
    omega

/-- Different numerals, closed by characters greater than every digit, are in the
order `WrittenLe`, whatever follows. -/
theorem closed_lt_iff {a b : Nat} {x y : Char} (hne : a ≠ b)
    (hx : ∀ c : Char, c.isDigit = true → c < x) (hy : ∀ c : Char, c.isDigit = true → c < y)
    (u w : List Char) :
    Nat.toDigits 10 a ++ x :: u < Nat.toDigits 10 b ++ y :: w ↔ WrittenLe a b := by
  rcases Nat.lt_trichotomy (width a) (width b) with hlt | heq | hgt
  -- After the digits of `a`, its closing character meets a digit of `b`.
  · obtain ⟨d, ds, hd, hcut, hwidth⟩ := toDigits_cut hlt
    have hnlt : ¬x :: u < d :: ds ++ y :: w := fun h =>
      List.lt_asymm h (List.cons_lt_cons_iff.2 (.inl (hx d hd)))
    rw [hcut, List.append_assoc,
      numeral_append_lt_iff isDigit_of_mem isDigit_of_mem hwidth.symm, valueOf_toDigits,
      valueOf_toDigits, WrittenLe, if_pos hlt]
    exact or_iff_left fun h => hnlt h.2
  · rw [numeral_append_lt_iff isDigit_of_mem isDigit_of_mem heq, valueOf_toDigits,
      valueOf_toDigits, writtenLe_of_width_eq heq, Nat.le_iff_lt_or_eq]
    exact or_congr_right (iff_of_false (fun h => hne (toDigits_inj h.1)) hne)
  -- After the digits of `b`, its closing character meets a digit of `a`.
  · obtain ⟨d, ds, hd, hcut, hwidth⟩ := toDigits_cut hgt
    have hlt : d :: ds ++ x :: u < y :: w := List.cons_lt_cons_iff.2 (.inl (hy d hd))
    rw [hcut, List.append_assoc,
      numeral_append_lt_iff isDigit_of_mem isDigit_of_mem hwidth, valueOf_toDigits,
      valueOf_toDigits, WrittenLe, if_neg (Nat.lt_asymm hgt), Nat.le_iff_lt_or_eq]
    exact or_congr_right ⟨fun h => toDigits_inj h.1, fun h => ⟨congrArg _ h, hlt⟩⟩

end StreamStore.Text
