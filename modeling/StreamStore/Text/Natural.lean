/-!
# Natural numbers in decimal

Row keys, limits and gateway documents spell natural numbers with the ten ASCII
digits.  A *word* is a natural number below `2 ^ 64`, the range of timestamps,
counts and limits.

`valueOf` folds a list of digits into the number it spells; `wordOf` is the
strict reader (an optional `+`, at least one digit, nothing else, within the
range of words) that row keys and the command line use.
-/

namespace StreamStore.Text

/-- One more than the largest word. -/
def wordLimit : Nat := Nat.pow 2 64

/-- The value of a decimal digit. -/
def digitValue (c : Char) : Nat :=
  c.toNat - 48

/-- The number that a list of decimal digits spells, after the digits already
read as `start`. -/
def valueFrom (start : Nat) (cs : List Char) : Nat :=
  cs.foldl (fun n c => n * 10 + digitValue c) start

/-- The number that a list of decimal digits spells. -/
def valueOf (cs : List Char) : Nat :=
  valueFrom 0 cs

/-- The number that a list of decimal digits spells after those read as `start`, as far
as it stays a word, and the digits from the first one on that does not fit. -/
def wordFrom (start : Nat) : List Char → Nat × List Char
  | [] => (start, [])
  | c :: cs =>
      if start * 10 + digitValue c < wordLimit then wordFrom (start * 10 + digitValue c) cs
      else (start, c :: cs)

@[simp] theorem valueFrom_nil (n : Nat) : valueFrom n [] = n := rfl

theorem valueFrom_cons (n : Nat) (c : Char) (cs : List Char) :
    valueFrom n (c :: cs) = valueFrom (n * 10 + digitValue c) cs :=
  List.foldl_cons ..

theorem valueFrom_append (n : Nat) (cs ds : List Char) :
    valueFrom n (cs ++ ds) = valueFrom (valueFrom n cs) ds :=
  List.foldl_append

/-- A list of characters without the plus sign it may start with. -/
def withoutPlus : List Char → List Char
  | '+' :: cs => cs
  | cs => cs

/-- Whether a list of characters is one or more decimal digits. -/
def isNumeral (cs : List Char) : Bool :=
  !cs.isEmpty && cs.all Char.isDigit

/-- Reads a word: an optional plus sign and one or more digits that spell a
number below `2 ^ 64`. -/
def wordOf (cs : List Char) : Option Nat :=
  let digits := withoutPlus cs
  if isNumeral digits && valueOf digits < wordLimit then some (valueOf digits) else none

/-- A hexadecimal digit, in capitals. -/
def hexDigit (n : Nat) : Char :=
  if n < 10 then Char.ofNat ('0'.toNat + n) else Char.ofNat ('A'.toNat + (n - 10))

/-- The value of a hexadecimal digit in either case. -/
def hexValue? (c : Char) : Option Nat :=
  if '0' ≤ c ∧ c ≤ '9' then some (c.toNat - '0'.toNat)
  else if 'a' ≤ c ∧ c ≤ 'f' then some (c.toNat - 'a'.toNat + 10)
  else if 'A' ≤ c ∧ c ≤ 'F' then some (c.toNat - 'A'.toNat + 10)
  else none

/-- A digit that was written reads back. -/
theorem hexValue?_hexDigit {n : Nat} (h : n < 16) : hexValue? (hexDigit n) = some n := by
  have all : ∀ m : Fin 16, hexValue? (hexDigit m.val) = some m.val := by decide
  exact all ⟨n, h⟩

end StreamStore.Text
