import StreamStore.Number.Binary64

/-!
# Doubles scaled by powers of ten

The quick way to a decimal number goes through doubles.  Its digits are a whole
number, which is rounded to a double; a power of ten is rounded to a double; and
so is the product or the quotient of the two.  Every one of these steps is
rounded as well as can be (`Binary64.ofRatio`), but all of them together need not
lead to the double nearest to the number, which `Binary64.ofDecimal` finds.

Powers of ten are doubles up to `10 ^ 308`.  A number is divided by that one as
often as it takes to bring the exponent into this range, unless it is zero by then.
-/

namespace StreamStore.Binary64

/-- The largest exponent of a power of ten that is a double. -/
def maxPower : Nat := 308

/-- The double nearest to a power of ten. -/
def powerOfTen (k : Nat) : Option Binary64 :=
  ofRatio false (Nat.pow 10 k) 1

/-- The rounded product with a power of ten; nothing when it would be too large. -/
def raised (x : Binary64) (k : Nat) : Option Binary64 :=
  if x.isZero then some x
  else if maxPower < k then none
  else do
    let p ← powerOfTen k
    ofRatio x.negative (x.ratio.1 * p.ratio.1) (x.ratio.2 * p.ratio.2)

/-- The rounded quotient by a power of ten. -/
def lowered (x : Binary64) (k : Nat) : Option Binary64 := do
  let p ← powerOfTen k
  ofRatio x.negative (x.ratio.1 * p.ratio.2) (x.ratio.2 * p.ratio.1)

/-- The rounded quotient by the largest power of ten, taken so many times, and then
by one more power of ten. -/
def loweredBy (k : Nat) : Nat → Binary64 → Option Binary64
  | 0, x => x.lowered k
  | times + 1, x => if x.isZero then some x else (x.lowered maxPower).bind (loweredBy k times)

/-- The double that `n · 10 ^ e` becomes step by step. -/
def scaled (negative : Bool) (n : Nat) (e : Int) : Option Binary64 := do
  let x ← ofRatio negative n 1
  if 0 ≤ e then x.raised e.toNat
  else
    let k := (-e).toNat - 1
    x.loweredBy (k % maxPower + 1) (k / maxPower)

end StreamStore.Binary64
