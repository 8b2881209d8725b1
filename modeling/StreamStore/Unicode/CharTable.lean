import StreamStore.Text.Natural
import StreamStore.Text.Pieces

/-!
# Tables of characters

A property of characters is data: the stretches of code points that have it.  It
is written down as lines of words in hexadecimal, `A` for one code point and
`A-B` for a stretch with both its ends, and `CharTable.ofLines` reads them.
-/

namespace StreamStore.Unicode

/-- The number that hexadecimal digits spell. -/
def hexOf (cs : List Char) : Nat :=
  cs.foldl (fun n c => n * 16 + (Text.hexValue? c).getD 0) 0

/-- The words of a list of lines. -/
def wordsOf (lines : List String) : List (List Char) :=
  lines.flatMap fun line => Text.pieces ' ' line.toList

/-- A stretch of code points, both ends included. -/
structure Stretch where
  /-- The first code point. -/
  first : Nat
  /-- The last code point. -/
  last : Nat
  deriving DecidableEq, Repr

/-- The stretch that a word spells. -/
def Stretch.read (word : List Char) : Stretch :=
  match Text.cutOnce '-' word with
  | some (first, last) => ⟨hexOf first, hexOf last⟩
  | none => ⟨hexOf word, hexOf word⟩

/-- The characters with some property. -/
abbrev CharTable := List Stretch

/-- The table that lines spell. -/
def CharTable.ofLines (lines : List String) : CharTable :=
  (wordsOf lines).map Stretch.read

/-- Whether a character is in a table. -/
def CharTable.holds (t : CharTable) (c : Char) : Bool :=
  t.any fun s => s.first ≤ c.toNat && c.toNat ≤ s.last

end StreamStore.Unicode
