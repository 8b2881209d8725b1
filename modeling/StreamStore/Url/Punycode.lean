/-!
# Labels of host names outside ASCII

A label of a host name that is not ASCII is written as `xn--` and its Punycode
form: first the ASCII characters of the label, then, for every other character in
the order of the code points, how far the insertion point moves, as a number of
variable length whose digits adapt to the distances seen so far.

`encode` writes the form and `decode` reads it.  Reading is one pass over the
digits; what is known between two of them is a `Reading`.
-/

namespace StreamStore.Punycode

/-- The character for a digit below 36. -/
def digitChar (d : Nat) : Char :=
  if d < 26 then Char.ofNat (0x61 + d) else Char.ofNat (0x30 + (d - 26))

/-- The threshold of a digit: below it a number ends. -/
def threshold (k bias : Nat) : Nat :=
  if k ≤ bias then 1 else if bias + 26 ≤ k then 26 else k - bias

theorem threshold_pos (k bias : Nat) : 1 ≤ threshold k bias := by
  unfold threshold
  split
  · omega
  · split <;> omega

/-- Divides by 35 until the distance is small; answers the rest and 36 for every
division. -/
def shrink (delta k : Nat) : Nat × Nat :=
  if 455 < delta then shrink (delta / 35) (k + 36) else (delta, k)
termination_by delta
decreasing_by omega

/-- The bias after a distance, `count` characters having been placed. -/
def adapt (delta count : Nat) (isFirst : Bool) : Nat :=
  let d := if isFirst then delta / 700 else delta / 2
  let (rest, k) := shrink (d + d / count) 0
  k + 36 * rest / (rest + 38)

/-- A distance as digits of variable length. -/
def encodeDistance (bias k q : Nat) : List Char :=
  let t := threshold k bias
  if q < t then [digitChar q]
  else digitChar (t + (q - t) % (36 - t)) :: encodeDistance bias (k + 36) ((q - t) / (36 - t))
termination_by q
decreasing_by
  have h := threshold_pos k bias
  exact Nat.lt_of_le_of_lt (Nat.div_le_self ..) (by omega)

/-- What is known between two insertions. -/
structure Progress where
  /-- The digits written so far. -/
  out : List Char
  /-- The distance since the last insertion. -/
  delta : Nat
  /-- The present bias. -/
  bias : Nat
  /-- How many characters have been placed. -/
  placed : Nat

/-- One character of the label while the code point `m` is being placed. -/
def visit (basics m : Nat) (p : Progress) (c : Char) : Progress :=
  if c.toNat < m then { p with delta := p.delta + 1 }
  else if c.toNat = m then
    { out := p.out ++ encodeDistance p.bias 36 p.delta
      delta := 0
      bias := adapt p.delta (p.placed + 1) (p.placed == basics)
      placed := p.placed + 1 }
  else p

/-- Places every code point of a list, ascending, from `next` on. -/
def placeAll (label : List Char) (basics : Nat) : List Nat → Nat → Progress → Progress
  | [], _, p => p
  | m :: rest, next, p =>
      let p := { p with delta := p.delta + (m - next) * (p.placed + 1) }
      let p := label.foldl (visit basics m) p
      placeAll label basics rest (m + 1) { p with delta := p.delta + 1 }

/-- Puts a number into an ascending list, unless it is there. -/
def insertSorted (x : Nat) : List Nat → List Nat
  | [] => [x]
  | y :: ys =>
      if x < y then x :: y :: ys else if x = y then y :: ys else y :: insertSorted x ys

/-- The Punycode form of a label. -/
def encode (label : List Char) : List Char :=
  let basic := label.filter fun c => c.toNat < 0x80
  let others := (label.filter fun c => 0x80 ≤ c.toNat).map Char.toNat
  let p := placeAll label basic.length (others.foldr insertSorted []) 128
    ⟨[], 0, 72, basic.length⟩
  basic ++ (if basic.isEmpty then [] else ['-']) ++ p.out

/-- A label as it is written in a host name. -/
def asciiLabel (label : List Char) : List Char :=
  if label.all fun c => c.toNat < 0x80 then label else 'x' :: 'n' :: '-' :: '-' :: encode label

/-! ### Reading -/

/-- The digit that a character is. -/
def digit? (c : Char) : Option Nat :=
  if 'a' ≤ c ∧ c ≤ 'z' then some (c.toNat - 0x61)
  else if 'A' ≤ c ∧ c ≤ 'Z' then some (c.toNat - 0x41)
  else if '0' ≤ c ∧ c ≤ '9' then some (c.toNat - 0x30 + 26)
  else none

/-- What is known between two digits. -/
structure Reading where
  /-- The characters placed so far. -/
  out : List Char
  /-- The code point that is being placed. -/
  point : Nat
  /-- Where the last character was placed, and one more. -/
  start : Nat
  /-- Where the next one is placed, counted on from there, as far as it is known. -/
  place : Nat
  /-- What the next digit counts for. -/
  weight : Nat
  /-- The position of the next digit in its number. -/
  k : Nat
  /-- The present bias. -/
  bias : Nat

/-- What is known before the first digit. -/
def Reading.first (basic : List Char) : Reading :=
  ⟨basic, 128, 0, 0, 1, 36, 72⟩

/-- Places a character, its distance being complete. -/
def Reading.insert? (r : Reading) : Option Reading :=
  let count := r.out.length + 1
  let point := r.point + r.place / count
  let place := r.place % count
  if point.isValidChar then
    some ⟨r.out.take place ++ Char.ofNat point :: r.out.drop place, point, place + 1, place + 1,
      1, 36, adapt (r.place - r.start) count (r.start == 0)⟩
  else none

/-- Takes one digit. -/
def Reading.step? (r : Reading) (d : Nat) : Option Reading :=
  let t := threshold r.k r.bias
  let place := r.place + d * r.weight
  if d < t then { r with place := place }.insert?
  else some { r with place := place, weight := r.weight * (36 - t), k := r.k + 36 }

/-- Reads digits up to the end of a number. -/
def readDigits (r : Reading) : List Char → Option (List Char)
  | [] => if r.k = 36 then some r.out else none
  | c :: rest =>
      match (digit? c).bind r.step? with
      | some r => readDigits r rest
      | none => none

/-- What stands before the last dash and after it; a dash at the front is none. -/
def cutLastDash (cs : List Char) : List Char × List Char :=
  let digits := (cs.reverse.takeWhile (· != '-')).reverse
  let before := cs.take (cs.length - digits.length - 1)
  if before.isEmpty then ([], cs) else (before, digits)

/-- The label that has a Punycode form. -/
def decode (code : List Char) : Option (List Char) :=
  let (basic, digits) := cutLastDash code
  if basic.all fun c => c.toNat < 0x80 then readDigits (.first basic) digits else none

end StreamStore.Punycode
