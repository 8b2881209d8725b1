import StreamStore.Number.Binary64

/-!
# The shortest decimal that reads back

A binary64 number is written with the fewest digits from which reading to the
nearest gives the same number again.  `shortest` finds them by trial: for one,
two, … seventeen digits it takes the two neighbours of the number on that
decimal grid and asks the reader (`Binary64.ofDecimal`) which of them come back.
The first grid with a hit wins; of two hits the nearer is taken, and a number
exactly between the two goes by `Tie`.  Should no grid have a hit, the exact
decimal expansion is the answer, so what is written always reads back.

The layouts share one reading of a decimal: its digits, and the power of ten of
the first one (`Decimal.lead`).
-/

namespace StreamStore

/-- Which of two equally near neighbours is taken. -/
inductive Tie where
  /-- The one with the even last digit. -/
  | toEven
  /-- The larger one. -/
  | up
  deriving DecidableEq, Repr

namespace Decimal

/-- A decimal without the zeros at its end; `fuel` bounds how many are taken away. -/
def strippedBy : Nat → Decimal → Decimal
  | 0, d => d
  | fuel + 1, d =>
      if d.digits ≠ 0 ∧ d.digits % 10 = 0 then strippedBy fuel ⟨d.digits / 10, d.exponent + 1⟩
      else d

/-- A decimal without the zeros at its end. -/
def stripped (d : Decimal) : Decimal :=
  strippedBy (digitCount d.digits) d

/-- The digits as characters, first digit first. -/
def text (d : Decimal) : List Char :=
  Nat.toDigits 10 d.digits

/-- The power of ten of the first digit. -/
def lead (d : Decimal) : Int :=
  d.exponent + digitCount d.digits - 1

/-- Positional notation; `pointZero` says whether a whole number ends in `.0`. -/
def positional (pointZero : Bool) (d : Decimal) : List Char :=
  let ds := d.text
  if 0 ≤ d.exponent then
    ds ++ List.replicate d.exponent.toNat '0' ++ (if pointZero then ['.', '0'] else [])
  else if 0 ≤ d.lead then
    ds.take (d.lead.toNat + 1) ++ '.' :: ds.drop (d.lead.toNat + 1)
  else
    '0' :: '.' :: List.replicate (-d.lead - 1).toNat '0' ++ ds

/-- Scientific notation: one digit before the point, and an exponent with its sign. -/
def scientific (d : Decimal) : List Char :=
  let mantissa := match d.text with
    | [] => []
    | [c] => [c]
    | c :: cs => c :: '.' :: cs
  let exponent := if 0 ≤ d.lead then '+' :: Nat.toDigits 10 d.lead.toNat
    else '-' :: Nat.toDigits 10 (-d.lead).toNat
  mantissa ++ 'e' :: exponent

end Decimal

namespace Binary64

/-- The number without its sign. -/
def magnitude (x : Binary64) : Binary64 :=
  { x with negative := false }

/-- Whether reading a decimal gives the magnitude of `x`. -/
def readsBack (x : Binary64) (d : Decimal) : Bool :=
  ofDecimal false d == some x.magnitude

/-- The power of ten of the first digit of a positive quotient. -/
def leadOf (num den : Nat) : Int :=
  if den ≤ num then (digitCount (num / den) : Int) - 1
  else -(digitCount ((den - 1) / num) : Int)

/-- The neighbour of `x` among the decimals of `n` digits that reads back, if
there is one: the nearer of two, and by `tie` when both are equally near. -/
def neighbour? (tie : Tie) (x : Binary64) (n : Nat) : Option Decimal :=
  let (num, den) := x.ratio
  let grid : Int := leadOf num den - (n : Int) + 1
  let (a, b) := powerRatio num 10 (-grid)
  let unit := b * den
  let lower : Decimal := ⟨a / unit, grid⟩
  let upper : Decimal := ⟨a / unit + 1, grid⟩
  match x.readsBack lower, x.readsBack upper with
  | false, false => none
  | true, false => some lower
  | false, true => some upper
  | true, true =>
      let r := 2 * (a % unit)
      let down := decide (r < unit) || (decide (r = unit) && tie == .toEven && (a / unit) % 2 == 0)
      some (if down then lower else upper)

/-- The exact decimal expansion of the magnitude. -/
def expansion (x : Binary64) : Decimal :=
  if 0 ≤ x.exponent then ⟨x.mantissa * Nat.pow 2 x.exponent.toNat, 0⟩
  else ⟨x.mantissa * Nat.pow 5 (-x.exponent).toNat, x.exponent⟩

/-- The shortest decimal that reads back to the magnitude of a number that is not zero. -/
def shortest (tie : Tie) (x : Binary64) : Decimal :=
  (((List.range 17).findSome? fun i => x.neighbour? tie (i + 1)).getD x.expansion).stripped

/-- The sign of a number as text: a minus or nothing. -/
def signText (x : Binary64) : List Char :=
  if x.negative then ['-'] else []

end Binary64

end StreamStore
