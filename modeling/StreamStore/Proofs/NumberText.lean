import StreamStore.Json.Parser
import StreamStore.Json.Printer
import StreamStore.Proofs.Decimal
import StreamStore.Proofs.Rounding

/-!
# Numbers of a document read back

Every number is written as a literal: a sign, a whole part, a fraction and an
exponent, of which all but the whole part may be missing.  `literalChars` is the
literal of given parts, and a literal is read as the parts it was written from
(`literal_append`), as long as what follows cannot belong to it.

What remains is what the parts stand for.  An integer is its digits.  A double is
written with the digits of its shortest decimal in one of four layouts (a whole
number, a point among the digits, a point before them, an exponent), and each layout
spells this decimal, possibly with zeros at its end (`Spells`).  So every number is
the one nearest to its literal (`exists_writes`).

The reader finds the nearest double by way of other doubles and need not hit it, so
that a number reads back is a property of the number (`JsonNumber.ReadsBack`).
Integers have it.
-/

namespace StreamStore

namespace Text

/-- A number that is not zero is written without a zero at its front. -/
theorem head_toDigits_ne_zero {n : Nat} (hn : n ≠ 0) {ds : List Char} :
    Nat.toDigits 10 n ≠ '0' :: ds := by
  intro h
  have hvalue : valueOf ds = n := by
    have hn := valueOf_toDigits n
    rw [h, valueOf_cons] at hn
    simpa [digitValue] using hn
  have hdigits : ∀ c ∈ ds, c.isDigit = true := by
    intro c hc
    have hmem : c ∈ Nat.toDigits 10 n := h ▸ List.mem_cons_of_mem _ hc
    exact isDigit_of_mem c hmem
  have hlt : n < 10 ^ ds.length := hvalue ▸ valueOf_lt hdigits
  have hwidth : width n = ds.length + 1 := by
    simp [width, h]
  rcases Nat.eq_zero_or_pos ds.length with hzero | hpos
  · simp [hzero] at hlt
    exact hn hlt
  · have := (lt_width_iff (n := n) hpos).1 (by omega)
    omega

theorem valueFrom_zeros (n k : Nat) : valueFrom n (List.replicate k '0') = n * 10 ^ k := by
  induction k generalizing n with
  | zero => simp
  | succ k ih =>
      rw [List.replicate_succ, valueFrom_cons, ih, Nat.pow_succ']
      simp [digitValue, Nat.mul_assoc]

theorem valueOf_append_zeros (ds : List Char) (k : Nat) :
    valueOf (ds ++ List.replicate k '0') = valueOf ds * 10 ^ k := by
  rw [valueOf, valueFrom_append, valueFrom_zeros, ← valueOf]

theorem valueOf_zeros_append (k : Nat) (ds : List Char) :
    valueOf (List.replicate k '0' ++ ds) = valueOf ds := by
  rw [valueOf, valueFrom_append, valueFrom_zeros, Nat.zero_mul, ← valueOf]

end Text

namespace Json.Parser

/-! ### Literals -/

theorem isSpace_iff {c : Char} :
    isSpace c = true ↔ c = ' ' ∨ c = '\n' ∨ c = '\t' ∨ c = '\r' := by
  simp only [isSpace, Bool.or_eq_true, beq_iff_eq, or_assoc]

/-- Whether what follows a number cannot belong to it. -/
def EndsNumber (rest : List Char) : Prop :=
  ∀ c ∈ rest.head?, isSpace c = true ∨ c = ',' ∨ c = ']' ∨ c = '}'

theorem endsNumber_nil : EndsNumber [] :=
  nofun

theorem digits_append {ds rest : List Char} (hds : ∀ c ∈ ds, c.isDigit = true)
    (hrest : ∀ c ∈ rest.head?, c.isDigit = false) : digits (ds ++ rest) = (ds, rest) := by
  have htake : rest.takeWhile Char.isDigit = [] := by
    cases rest with
    | nil => rfl
    | cons c cs => simp [hrest c rfl]
  have hdrop : rest.dropWhile Char.isDigit = rest := by
    cases rest with
    | nil => rfl
    | cons c cs => simp [hrest c rfl]
  rw [digits, List.takeWhile_append_of_pos hds, List.dropWhile_append_of_pos hds, htake, hdrop,
    List.append_nil]

/-- Whether digits are the whole part of a number: at least one, and no zero before others. -/
structure IsWhole (ds : List Char) : Prop where
  ne_nil : ds ≠ []
  digit : ∀ c ∈ ds, c.isDigit = true
  zero : ∀ cs, ds = '0' :: cs → cs = []

theorem isWhole_toDigits (n : Nat) : IsWhole (Nat.toDigits 10 n) where
  ne_nil := Nat.toDigits_ne_nil
  digit := Text.isDigit_of_mem
  zero := by
    intro cs h
    by_cases hn : n = 0
    · subst hn
      cases h
      rfl
    · exact absurd h (Text.head_toDigits_ne_zero hn)

theorem whole_append {ds rest : List Char} (hds : IsWhole ds)
    (hrest : ∀ c ∈ rest.head?, c.isDigit = false) : whole (ds ++ rest) = some (ds, rest) := by
  obtain ⟨d, ds, rfl⟩ := List.exists_cons_of_ne_nil hds.ne_nil
  by_cases hzero : d = '0'
  · subst hzero
    obtain rfl := hds.zero ds rfl
    cases rest with
    | nil => rfl
    | cons c cs => simp [whole, hrest c rfl]
  · have hcut : digits (d :: ds ++ rest) = (d :: ds, rest) := digits_append hds.digit hrest
    rw [List.cons_append] at hcut ⊢
    rw [whole, hcut]
    intro cs h
    exact absurd (List.cons.inj h).1 hzero

/-- The sign of a literal. -/
def signChars (negative : Bool) : List Char :=
  if negative then ['-'] else []

/-- The fraction of a literal; no digits are written as nothing. -/
def fractionChars (ds : List Char) : List Char :=
  if ds = [] then [] else '.' :: ds

/-- The exponent of a literal, if it has one. -/
def exponentChars : Option Int → List Char
  | none => []
  | some n =>
      'e' :: if 0 ≤ n then '+' :: Nat.toDigits 10 n.toNat else '-' :: Nat.toDigits 10 (-n).toNat

theorem EndsNumber.head {rest : List Char} (h : EndsNumber rest) :
    ∀ c ∈ rest.head?, c.isDigit = false ∧ c ≠ '.' ∧ c ≠ 'e' ∧ c ≠ 'E' := by
  intro c hc
  rcases h c hc with hspace | rfl | rfl | rfl
  · rcases isSpace_iff.1 hspace with rfl | rfl | rfl | rfl <;> decide
  · decide
  · decide
  · decide

theorem digits_toDigits (n : Nat) {rest : List Char}
    (hrest : ∀ c ∈ rest.head?, c.isDigit = false) :
    ∃ d ds, Nat.toDigits 10 n = d :: ds ∧ digits (Nat.toDigits 10 n ++ rest) = (d :: ds, rest) := by
  obtain ⟨d, ds, hds⟩ := List.exists_cons_of_ne_nil (Nat.toDigits_ne_nil (b := 10) (n := n))
  exact ⟨d, ds, hds, hds ▸ digits_append Text.isDigit_of_mem hrest⟩

theorem exponentAfterMark_plus (n : Nat) {rest : List Char}
    (hrest : ∀ c ∈ rest.head?, c.isDigit = false) :
    exponentAfterMark ('+' :: (Nat.toDigits 10 n ++ rest)) = some ((n : Int), rest) := by
  obtain ⟨d, ds, hds, hcut⟩ := digits_toDigits n hrest
  simp [exponentAfterMark, hcut, ← hds]

theorem exponentAfterMark_minus (n : Nat) {rest : List Char}
    (hrest : ∀ c ∈ rest.head?, c.isDigit = false) :
    exponentAfterMark ('-' :: (Nat.toDigits 10 n ++ rest)) = some (-(n : Int), rest) := by
  obtain ⟨d, ds, hds, hcut⟩ := digits_toDigits n hrest
  simp [exponentAfterMark, hcut, ← hds]

theorem exponent_append {e : Option Int} {rest : List Char} (hrest : EndsNumber rest) :
    exponent (exponentChars e ++ rest) = some (e, rest) := by
  have hdigit : ∀ c ∈ rest.head?, c.isDigit = false := fun c hc => (hrest.head c hc).1
  cases e with
  | none =>
      cases rest with
      | nil => rfl
      | cons c cs =>
          obtain ⟨-, -, he, hE⟩ := hrest.head c rfl
          simp [exponentChars, exponent, he, hE]
  | some n =>
      by_cases hn : 0 ≤ n
      · have hvalue : (n.toNat : Int) = n := Int.toNat_of_nonneg hn
        simp [exponentChars, exponent, hn, exponentAfterMark_plus _ hdigit, hvalue]
      · have hread := exponentAfterMark_minus (-n).toNat hdigit
        have hvalue : -((-n).toNat : Int) = n := by omega
        rw [hvalue] at hread
        simp [exponentChars, exponent, hn, hread]

theorem fraction_append {f rest : List Char} (hf : ∀ c ∈ f, c.isDigit = true)
    (hrest : ∀ c ∈ rest.head?, c.isDigit = false ∧ c ≠ '.') :
    fraction (fractionChars f ++ rest) = some (f, rest) := by
  cases f with
  | nil =>
      cases rest with
      | nil => rfl
      | cons c cs => simp [fractionChars, fraction, (hrest c rfl).2]
  | cons d ds =>
      have hcut : digits (d :: ds ++ rest) = (d :: ds, rest) :=
        digits_append hf fun c hc => (hrest c hc).1
      rw [List.cons_append] at hcut
      simp [fractionChars, fraction, hcut]

theorem head?_exponentChars {e : Option Int} {rest : List Char} (hrest : EndsNumber rest) :
    ∀ c ∈ (exponentChars e ++ rest).head?, c.isDigit = false ∧ c ≠ '.' := by
  cases e with
  | none => exact fun c hc => ⟨(hrest.head c hc).1, (hrest.head c hc).2.1⟩
  | some n =>
      intro c hc
      obtain rfl : 'e' = c := by simpa [exponentChars] using hc
      decide

theorem head?_fractionChars {f rest : List Char}
    (hrest : ∀ c ∈ rest.head?, c.isDigit = false) :
    ∀ c ∈ (fractionChars f ++ rest).head?, c.isDigit = false := by
  cases f with
  | nil => exact hrest
  | cons d ds =>
      intro c hc
      obtain rfl : '.' = c := by simpa [fractionChars] using hc
      decide

/-- The literal of a sign, the digits of a whole part and of a fraction, and an exponent. -/
def literalChars (negative : Bool) (w f : List Char) (e : Option Int) : List Char :=
  signChars negative ++ w ++ fractionChars f ++ exponentChars e

/-- **A literal reads back** as the parts it was written from. -/
theorem literal_append {negative : Bool} {w f rest : List Char} {e : Option Int} (hw : IsWhole w)
    (hf : ∀ c ∈ f, c.isDigit = true) (hrest : EndsNumber rest) :
    literal (literalChars negative w f e ++ rest) = some ((negative, w, f, e), rest) := by
  have hexponent := exponent_append (e := e) hrest
  have hfraction := fraction_append hf (head?_exponentChars (e := e) hrest)
  have hwhole := whole_append hw (head?_fractionChars (f := f)
    fun c hc => (head?_exponentChars (e := e) hrest c hc).1)
  cases negative with
  | true =>
      simp [literal, literalChars, signChars, hwhole, hfraction, hexponent]
  | false =>
      obtain ⟨d, ds, hds⟩ := List.exists_cons_of_ne_nil hw.ne_nil
      have hd : d ≠ '-' := by
        rintro rfl
        exact absurd (hw.digit '-' (hds ▸ List.mem_cons_self)) (by decide)
      rw [hds, List.cons_append] at hwhole
      simp [literal, literalChars, signChars, hds, hd, hwhole, hfraction, hexponent]

/-! ### Numbers -/

theorem signed_natAbs (n : Int) :
    (if decide (n < 0) = true then -(n.natAbs : Int) else n.natAbs) = n := by
  by_cases hneg : n < 0
  · rw [if_pos (decide_eq_true hneg)]
    omega
  · rw [if_neg (by simpa using hneg)]
    omega

/-- The number nearest to what a literal stands for. -/
def nearestOf (negative : Bool) (whole fraction : List Char) (power : Option Int) :
    Option JsonNumber :=
  match integerOf? negative whole fraction power with
  | some n => some n
  | none =>
      (Binary64.ofDecimal negative
        ⟨Text.valueOf (whole ++ fraction), power.getD 0 - (fraction.length : Int)⟩).map .double

theorem integerOf?_toDigits {n : Int} (hn : fits64 n) :
    integerOf? (decide (n < 0)) (Nat.toDigits 10 n.natAbs) [] none = some (.integer n hn) := by
  have hminus : ¬(decide (n < 0) = true ∧ n.natAbs = 0) := by
    rintro ⟨hneg, hzero⟩
    have := of_decide_eq_true hneg
    omega
  unfold integerOf?
  simp only [Text.valueOf_toDigits, signed_natAbs]
  exact dif_pos ⟨trivial, trivial, hminus, hn⟩

/-- A literal with a fraction or an exponent is no integer. -/
theorem integerOf?_eq_none {negative : Bool} {w f : List Char} {e : Option Int}
    (h : ¬(f = [] ∧ e = none)) : integerOf? negative w f e = none :=
  dif_neg fun hint => h ⟨hint.1, hint.2.1⟩

end Json.Parser

/-- Zero is read with its sign, whatever the exponent says. -/
theorem Binary64.ofDecimal_of_isZero {x : Binary64} (hx : x.isZero = true) (e : Int) :
    ofDecimal x.negative ⟨0, e⟩ = some x := by
  obtain ⟨negative, mantissa, exponent, hcanonical⟩ := x
  obtain rfl : mantissa = 0 := isZero_iff.1 hx
  obtain rfl : exponent = -1074 := by
    rcases hcanonical.2.2.2 with h | h
    · exact absurd h (by decide)
    · exact h
  simp [ofDecimal, zero]

namespace Json.Parser

/-- Whether the parts of a literal that is no integer spell a decimal.  Zeros may follow its
digits, as many as lead to the first place behind the point. -/
structure Spells (d : Decimal) (w f : List Char) (e : Option Int) : Prop where
  isWhole : IsWhole w
  digit : ∀ c ∈ f, c.isDigit = true
  notInteger : ¬(f = [] ∧ e = none)
  value : ∃ zeros : Nat, Text.valueOf (w ++ f) = d.digits * 10 ^ zeros ∧
    e.getD 0 - (f.length : Int) = d.exponent - zeros ∧ (zeros ≠ 0 → d.exponent + 1 = zeros)

theorem digit_of_mem_replicate {k : Nat} : ∀ c ∈ List.replicate k '0', c.isDigit = true := by
  intro c hc
  obtain rfl := (List.mem_replicate.1 hc).2
  rfl

theorem isWhole_text_append {d : Decimal} (hd : d.digits ≠ 0) {ds : List Char}
    (hds : ∀ c ∈ ds, c.isDigit = true) : IsWhole (d.text ++ ds) where
  ne_nil := by simp [Decimal.text, Nat.toDigits_ne_nil]
  digit := by
    intro c hc
    rcases List.mem_append.1 hc with hc | hc
    · exact Text.isDigit_of_mem c hc
    · exact hds c hc
  zero := by
    intro cs h
    obtain ⟨e, es, hes⟩ := List.exists_cons_of_ne_nil (Nat.toDigits_ne_nil (b := 10) (n := d.digits))
    rw [Decimal.text, hes, List.cons_append] at h
    have hzero : e = '0' := (List.cons.inj h).1
    exact absurd (hzero ▸ hes) (Text.head_toDigits_ne_zero hd)

theorem isWhole_take_text {d : Decimal} (hd : d.digits ≠ 0) (n : Nat) :
    IsWhole (d.text.take (n + 1)) := by
  obtain ⟨e, es, hes⟩ := List.exists_cons_of_ne_nil (Nat.toDigits_ne_nil (b := 10) (n := d.digits))
  have htext : d.text = e :: es := hes
  rw [htext, List.take_succ_cons]
  constructor
  · simp
  · intro c hc
    have hmem : c ∈ d.text.take (n + 1) := by rwa [htext, List.take_succ_cons]
    exact Text.isDigit_of_mem c (List.mem_of_mem_take hmem)
  · intro cs h
    have hzero : e = '0' := (List.cons.inj h).1
    exact absurd (hzero ▸ hes) (Text.head_toDigits_ne_zero hd)

/-- An integral decimal: its digits, and a zero for each power of ten. -/
theorem spells_integral {d : Decimal} (hd : d.digits ≠ 0) {k : Nat} (hk : d.exponent = k) :
    Spells d (d.text ++ List.replicate k '0') ['0'] none := by
  constructor
  · exact isWhole_text_append hd digit_of_mem_replicate
  · simp
  · simp
  · refine ⟨k + 1, ?_, by simp [hk], by simp [hk]⟩
    have hzeros : d.text ++ List.replicate k '0' ++ ['0'] =
        d.text ++ List.replicate (k + 1) '0' := by
      rw [List.replicate_succ', List.append_assoc]
    rw [hzeros, Text.valueOf_append_zeros, Decimal.text, Text.valueOf_toDigits]

/-- The digits of a decimal, cut at its point. -/
theorem spells_cut {d : Decimal} (hd : d.digits ≠ 0) (he : d.exponent < 0) (hlead : 0 ≤ d.lead) :
    d.text.drop (d.lead.toNat + 1) ≠ [] ∧
      Spells d (d.text.take (d.lead.toNat + 1)) (d.text.drop (d.lead.toNat + 1)) none := by
  have hlength : d.text.length = digitCount d.digits := rfl
  have hdrop : (d.text.drop (d.lead.toNat + 1)).length = (-d.exponent).toNat := by
    rw [List.length_drop, hlength]
    unfold Decimal.lead at *
    omega
  have hne : d.text.drop (d.lead.toNat + 1) ≠ [] := by
    intro h
    rw [h] at hdrop
    simp at hdrop
    omega
  refine ⟨hne, ?_⟩
  constructor
  · exact isWhole_take_text hd _
  · exact fun c hc => Text.isDigit_of_mem c (List.mem_of_mem_drop hc)
  · exact fun h => hne h.1
  · refine ⟨0, ?_, ?_, by simp⟩
    · rw [List.take_append_drop, Decimal.text, Text.valueOf_toDigits]
      simp
    · rw [hdrop]
      simp only [Option.getD_none]
      omega

/-- The digits of a decimal below one, behind zeros. -/
theorem spells_below_one {d : Decimal} (hlead : d.lead < 0) :
    Spells d ['0'] (List.replicate (-d.lead - 1).toNat '0' ++ d.text) none := by
  have hlength : d.text.length = digitCount d.digits := rfl
  have hne : d.text ≠ [] := Nat.toDigits_ne_nil
  constructor
  · exact isWhole_toDigits 0
  · intro c hc
    rcases List.mem_append.1 hc with hc | hc
    · exact digit_of_mem_replicate c hc
    · exact Text.isDigit_of_mem c hc
  · simp [hne]
  · refine ⟨0, ?_, ?_, by simp⟩
    · have hzeros : ['0'] ++ (List.replicate (-d.lead - 1).toNat '0' ++ d.text) =
          List.replicate ((-d.lead - 1).toNat + 1) '0' ++ d.text := by
        rw [List.replicate_succ]
        rfl
      rw [hzeros, Text.valueOf_zeros_append, Decimal.text, Text.valueOf_toDigits]
      simp
    · rw [List.length_append, List.length_replicate, hlength]
      unfold Decimal.lead at *
      simp only [Option.getD_none]
      omega

theorem exists_spells_positional {d : Decimal} (hd : d.digits ≠ 0) :
    ∃ w f, d.positional true = literalChars false w f none ∧ Spells d w f none := by
  unfold Decimal.positional
  dsimp only
  split
  · next he =>
      obtain ⟨k, hk⟩ := Int.eq_ofNat_of_zero_le he
      refine ⟨_, _, ?_, spells_integral hd hk⟩
      simp [literalChars, signChars, fractionChars, exponentChars, hk]
  · next he =>
      split
      · next hlead =>
          obtain ⟨hne, hspells⟩ := spells_cut hd (Int.not_le.1 he) hlead
          refine ⟨_, _, ?_, hspells⟩
          simp [literalChars, signChars, fractionChars, exponentChars, hne]
      · next hlead =>
          have hne : d.text ≠ [] := Nat.toDigits_ne_nil
          refine ⟨_, _, ?_, spells_below_one (Int.not_le.1 hlead)⟩
          simp [literalChars, signChars, fractionChars, exponentChars, hne]

theorem exists_spells_scientific {d : Decimal} (hd : d.digits ≠ 0) :
    ∃ w f, d.scientific = literalChars false w f (some d.lead) ∧ Spells d w f (some d.lead) := by
  have hlength : d.text.length = digitCount d.digits := rfl
  obtain ⟨c, cs, hcs⟩ := List.exists_cons_of_ne_nil (Nat.toDigits_ne_nil (b := 10) (n := d.digits))
  have htext : d.text = c :: cs := hcs
  have hwhole : IsWhole [c] := by
    have h := isWhole_take_text hd 0
    rwa [htext, List.take_succ_cons, List.take_zero] at h
  refine ⟨[c], cs, ?_, hwhole, ?_, by simp, 0, ?_, ?_, by simp⟩
  · unfold Decimal.scientific
    rw [htext]
    cases cs <;> simp [literalChars, signChars, fractionChars, exponentChars]
  · intro e he
    exact Text.isDigit_of_mem (n := d.digits) e (hcs ▸ List.mem_cons_of_mem c he)
  · rw [List.singleton_append, ← hcs, Text.valueOf_toDigits]
    simp
  · rw [htext, List.length_cons] at hlength
    unfold Decimal.lead
    simp only [Option.getD_some]
    omega

/-- The number nearest to a spelling is the one that the decimal rounds to. -/
theorem nearestOf_of_spells {d : Decimal} {w f : List Char} {e : Option Int} (h : Spells d w f e)
    (negative : Bool) :
    nearestOf negative w f e = (Binary64.ofDecimal negative d).map .double := by
  obtain ⟨zeros, hdigits, hexponent, -⟩ := h.value
  rw [nearestOf, integerOf?_eq_none h.notInteger]
  dsimp only
  rw [hdigits, hexponent, Binary64.ofDecimal_padBy]

theorem spells_zero : Spells ⟨0, 0⟩ ['0'] ['0'] none where
  isWhole := isWhole_toDigits 0
  digit := by simp
  notInteger := by simp
  value := ⟨1, rfl, rfl, fun _ => rfl⟩

theorem literalChars_sign (negative : Bool) (w f : List Char) (e : Option Int) :
    literalChars negative w f e = signChars negative ++ literalChars false w f e := by
  simp [literalChars, signChars]

/-! ### Numbers -/

/-- Whether the parts of a literal write a number: it is the nearest one. -/
structure Writes (n : JsonNumber) (negative : Bool) (w f : List Char) (e : Option Int) : Prop where
  isWhole : IsWhole w
  digit : ∀ c ∈ f, c.isDigit = true
  value : nearestOf negative w f e = some n

theorem integerText_eq (n : Int) :
    integerText n = literalChars (decide (n < 0)) (Nat.toDigits 10 n.natAbs) [] none := by
  unfold integerText literalChars signChars
  split <;> simp [fractionChars, exponentChars, *]

theorem writes_integer {n : Int} (fits : fits64 n) :
    Writes (.integer n fits) (decide (n < 0)) (Nat.toDigits 10 n.natAbs) [] none where
  isWhole := isWhole_toDigits _
  digit := nofun
  value := by rw [nearestOf, integerOf?_toDigits fits]

theorem writes_of_spells {x : Binary64} {d : Decimal} {w f : List Char} {e : Option Int}
    (h : Spells d w f e) (hread : Binary64.ofDecimal x.negative d = some x) :
    Writes (.double x) x.negative w f e where
  isWhole := h.isWhole
  digit := h.digit
  value := by rw [nearestOf_of_spells h, hread, Option.map_some]

/-- A double is written as a literal that spells its shortest decimal. -/
theorem exists_spells_double {x : Binary64} (hx : x.mantissa ≠ 0) :
    ∃ w f e, doubleText x = literalChars x.negative w f e ∧
      Spells (x.shortest .toEven) w f e := by
  have hdigits := Binary64.digits_shortest_ne_zero .toEven x hx
  rw [doubleText, if_neg (mt Binary64.isZero_iff.1 hx)]
  dsimp only
  split
  · obtain ⟨w, f, htext, hspells⟩ := exists_spells_positional hdigits
    refine ⟨w, f, none, ?_, hspells⟩
    rw [htext, Binary64.signText, ← signChars, ← literalChars_sign]
  · obtain ⟨w, f, htext, hspells⟩ := exists_spells_scientific hdigits
    refine ⟨w, f, _, ?_, hspells⟩
    rw [htext, Binary64.signText, ← signChars, ← literalChars_sign]

theorem exists_writes_double (x : Binary64) :
    ∃ w f e, doubleText x = literalChars x.negative w f e ∧ Writes (.double x) x.negative w f e := by
  by_cases hzero : x.isZero = true
  · refine ⟨['0'], ['0'], none, ?_,
      writes_of_spells spells_zero (Binary64.ofDecimal_of_isZero hzero 0)⟩
    rw [doubleText, if_pos hzero]
    simp [literalChars, signChars, Binary64.signText, fractionChars, exponentChars]
  · have hx : x.mantissa ≠ 0 := mt Binary64.isZero_iff.2 hzero
    obtain ⟨w, f, e, htext, hspells⟩ := exists_spells_double hx
    exact ⟨w, f, e, htext, writes_of_spells hspells (Binary64.ofDecimal_shortest .toEven x hx)⟩

/-- **A number is written as a literal that it is nearest to.** -/
theorem exists_writes (n : JsonNumber) :
    ∃ negative w f e, numberText n = literalChars negative w f e ∧ Writes n negative w f e := by
  cases n with
  | integer n fits =>
      exact ⟨_, _, [], none, integerText_eq n, writes_integer fits⟩
  | double x => exact ⟨x.negative, exists_writes_double x⟩

/-- A number begins with a sign or a digit. -/
theorem numberText_eq_cons (n : JsonNumber) :
    ∃ c cs, numberText n = c :: cs ∧ (c = '-' ∨ c.isDigit = true) := by
  obtain ⟨negative, w, f, e, htext, hwrites⟩ := exists_writes n
  rw [htext, literalChars, List.append_assoc, List.append_assoc]
  cases negative with
  | true => exact ⟨'-', _, rfl, .inl rfl⟩
  | false =>
      obtain ⟨d, ds, rfl⟩ := List.exists_cons_of_ne_nil hwrites.isWhole.ne_nil
      exact ⟨d, _, rfl, .inr (hwrites.isWhole.digit d List.mem_cons_self)⟩

end Json.Parser

/-! ### Numbers that read back -/

/-- Whether a number is read from its own text. -/
def JsonNumber.ReadsBack (n : JsonNumber) : Prop :=
  Json.Parser.number (Json.numberText n) = some (n, [])

instance (n : JsonNumber) : Decidable n.ReadsBack :=
  inferInstanceAs (Decidable (_ = _))

namespace Json.Parser

/-- What follows a literal does not matter, if it cannot belong to it. -/
theorem number_literalChars {negative : Bool} {w f rest : List Char} {e : Option Int}
    (hw : IsWhole w) (hf : ∀ c ∈ f, c.isDigit = true) (hrest : EndsNumber rest) :
    number (literalChars negative w f e ++ rest) =
      (numberOf negative w f e).map fun n => (n, rest) := by
  rw [number, literal_append hw hf hrest, Option.bind_eq_bind, Option.bind_some]
  dsimp only
  cases numberOf negative w f e <;> rfl

/-- A number that reads back is read from its text wherever this stands. -/
theorem number_numberText {n : JsonNumber} (h : n.ReadsBack) {rest : List Char}
    (hrest : EndsNumber rest) : number (numberText n ++ rest) = some (n, rest) := by
  obtain ⟨negative, w, f, e, htext, hwrites⟩ := exists_writes n
  have hread : number (literalChars negative w f e ++ []) = some (n, []) := by
    rw [List.append_nil, ← htext]
    exact h
  rw [number_literalChars hwrites.isWhole hwrites.digit endsNumber_nil] at hread
  obtain ⟨m, hm, heq⟩ := Option.map_eq_some_iff.1 hread
  obtain rfl : m = n := (Prod.mk.inj heq).1
  rw [htext, number_literalChars hwrites.isWhole hwrites.digit hrest, hm, Option.map_some]

end Json.Parser

/-- Integers read back. -/
theorem JsonNumber.readsBack_integer {n : Int} (fits : fits64 n) : (integer n fits).ReadsBack := by
  have hnumber : Json.Parser.numberOf (decide (n < 0)) (Nat.toDigits 10 n.natAbs) [] none =
      some (.integer n fits) := by
    rw [Json.Parser.numberOf, Json.Parser.integerOf?_toDigits fits]
  have htext : Json.numberText (.integer n fits) =
      Json.Parser.literalChars (decide (n < 0)) (Nat.toDigits 10 n.natAbs) [] none ++ [] := by
    rw [List.append_nil]
    exact Json.Parser.integerText_eq n
  rw [ReadsBack, htext, Json.Parser.number_literalChars (Json.Parser.isWhole_toDigits _)
    (List.forall_mem_nil _) Json.Parser.endsNumber_nil, hnumber, Option.map_some]

end StreamStore
