/-!
# Finite binary64 numbers, exactly

A number in a document that is not a 64-bit integer is a finite IEEE 754
binary64 number.  Everything this library does with such a number (read it from
decimal text, compare it with an integer, write it) is decided by its exact
value, so the type holds that value: a sign and `mantissa · 2 ^ exponent`, in
the one canonical form that the format can store.  There is no infinity and no
not-a-number, because no document can spell one.

* `ofRatio` rounds a non-negative quotient to the nearest number, a tie to the
  even mantissa, and answers nothing when the result would not be finite.
* `ofDecimal` reads `digits · 10 ^ exponent` that way.  An exponent far outside
  the range is settled before any power is computed.

All arithmetic is on natural numbers, so these definitions evaluate in a proof
as they do when run.
-/

namespace StreamStore

/-- The pairs of mantissa and exponent that the format stores: 53 bits, of which
the first is set unless the exponent is the least one. -/
def Binary64.Canonical (mantissa : Nat) (exponent : Int) : Prop :=
  mantissa < Nat.pow 2 53 ∧ -1074 ≤ exponent ∧ exponent ≤ 971
    ∧ (Nat.pow 2 52 ≤ mantissa ∨ exponent = -1074)

instance (m : Nat) (e : Int) : Decidable (Binary64.Canonical m e) :=
  inferInstanceAs (Decidable (_ ∧ _))

/-- A finite number `± mantissa · 2 ^ exponent` in canonical form; zero has both signs. -/
structure Binary64 where
  /-- Whether the sign is a minus. -/
  negative : Bool
  /-- The integral significand. -/
  mantissa : Nat
  /-- The power of two. -/
  exponent : Int
  /-- The form is the one the format stores. -/
  canonical : Binary64.Canonical mantissa exponent
  deriving DecidableEq

/-- A positive decimal number `digits · 10 ^ exponent`. -/
structure Decimal where
  /-- The significant digits, read as one number. -/
  digits : Nat
  /-- The power of ten. -/
  exponent : Int
  deriving DecidableEq, Repr

/-- How many decimal digits a natural number is written with. -/
def digitCount (n : Nat) : Nat :=
  (Nat.toDigits 10 n).length

/-- The numerator and the denominator of `n · base ^ k`. -/
def powerRatio (n base : Nat) (k : Int) : Nat × Nat :=
  if 0 ≤ k then (n * Nat.pow base k.toNat, 1) else (n, Nat.pow base (-k).toNat)

/-- A quotient rounded to the nearest natural number, a tie to the even one. -/
def roundToEven (num den : Nat) : Nat :=
  let q := num / den
  let r := num % den
  if 2 * r < den ∨ (2 * r = den ∧ q % 2 = 0) then q else q + 1

namespace Binary64

/-- The number zero with a given sign. -/
def zero (negative : Bool) : Binary64 :=
  ⟨negative, 0, -1074, by decide⟩

/-- Whether the number is zero, with either sign. -/
def isZero (x : Binary64) : Bool :=
  x.mantissa == 0

theorem isZero_iff {x : Binary64} : x.isZero = true ↔ x.mantissa = 0 :=
  beq_iff_eq

/-- The numerator and the denominator of the magnitude. -/
def ratio (x : Binary64) : Nat × Nat :=
  powerRatio x.mantissa 2 x.exponent

/-- The exponent of the canonical form nearest to a positive quotient: the one
that leaves 53 bits before the point, but no less than the least exponent. -/
def exponentFor (num den : Nat) : Int :=
  let guess : Int := (num.log2 : Int) - den.log2 - 52
  let (n, d) := powerRatio num 2 (-guess)
  max (if n / (d * den) < Nat.pow 2 52 then guess - 1 else guess) (-1074)

/-- The number nearest to a non-negative quotient, a tie going to the even
mantissa; nothing when that number would be too large for the format. -/
def ofRatio (negative : Bool) (num den : Nat) : Option Binary64 :=
  if num = 0 then some (zero negative)
  else
    let e := exponentFor num den
    let (n, d) := powerRatio num 2 (-e)
    let m := roundToEven n (d * den)
    let (m, e) := if m = Nat.pow 2 53 then (Nat.pow 2 52, e + 1) else (m, e)
    if h : Canonical m e then some ⟨negative, m, e, h⟩ else none

/-- The number nearest to a decimal one.  Below `10 ^ -400` that is zero and from
`10 ^ 400` on there is none; only between these is the quotient formed. -/
def ofDecimal (negative : Bool) (d : Decimal) : Option Binary64 :=
  if d.digits = 0 then some (zero negative)
  else
    let top := (digitCount d.digits : Int) + d.exponent
    if top < -400 then some (zero negative)
    else if 400 < top then none
    else
      let (num, den) := powerRatio d.digits 10 d.exponent
      ofRatio negative num den

/-- Whether the number is a whole number. -/
def isWhole (x : Binary64) : Bool :=
  let (num, den) := x.ratio
  num % den == 0

/-- The magnitude without its fraction. -/
def wholePart (x : Binary64) : Nat :=
  let (num, den) := x.ratio
  num / den

end Binary64

end StreamStore
