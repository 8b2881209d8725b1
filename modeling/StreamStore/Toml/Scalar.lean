import StreamStore.Number.Binary64
import StreamStore.Toml.Basic
import StreamStore.Toml.Quoted

/-!
# Numbers, dates and times in TOML

Everything that starts with a digit or a sign, and the words `inf` and `nan`.
What a value is, shows in its first characters: four digits and a dash start a
date, two digits and a colon a time, a sign or a digit anything else.

Whole numbers have 64 bits with a sign; in the bases 16, 8 and 2 they have no
sign of their own.  Underscores may stand between digits, one at a time.  A
number with a fraction or an exponent must not be too large for a double, unless
it is negative.

A date is checked against the calendar, and a time against the clock, on which a
minute may have a second more.
-/

namespace StreamStore.Toml

/-! ### Digits -/

/-- The digits after a first one; an underscore may stand before each. -/
def digitsAfter (isDigit : Char → Bool) : List Char → Option (List Char × List Char)
  | [] => some ([], [])
  | '_' :: [] => none
  | '_' :: c :: rest => if isDigit c then consTo c (digitsAfter isDigit rest) else none
  | c :: rest =>
      if isDigit c then consTo c (digitsAfter isDigit rest) else some ([], c :: rest)

/-- One or more digits, with single underscores between them. -/
def digitRun (isDigit : Char → Bool) : List Char → Option (List Char × List Char)
  | c :: rest => if isDigit c then consTo c (digitsAfter isDigit rest) else none
  | [] => none

/-- The whole part of a decimal number: a zero, or digits that do not start with one. -/
def wholeDigits : List Char → Option (List Char × List Char)
  | '0' :: rest => some (['0'], rest)
  | cs => digitRun Char.isDigit cs

/-- Whether a character is a digit below a base. -/
def isDigitBelow (base : Nat) (c : Char) : Bool :=
  match Text.hexValue? c with
  | some d => d < base
  | none => false

/-- The number that digits spell in a base. -/
def valueIn (base : Nat) (cs : List Char) : Nat :=
  cs.foldl (fun n c => n * base + (Text.hexValue? c).getD 0) 0

/-- One more than the largest whole number of a document. -/
def signedLimit : Int := 9223372036854775808

/-- A whole number as a value, if it has 64 bits with its sign. -/
def wholeNumber? (n : Int) : Option Value :=
  if -signedLimit ≤ n ∧ n < signedLimit then some (.integer n) else none

/-! ### Numbers -/

/-- The fraction of a number, if there is one. -/
def fraction : List Char → Option (Option (List Char) × List Char)
  | '.' :: rest => (digitRun Char.isDigit rest).map fun (ds, rest) => (some ds, rest)
  | cs => some (none, cs)

/-- The exponent of a number, if there is one. -/
def exponent : List Char → Option (Option Int × List Char)
  | c :: rest =>
      if c = 'e' ∨ c = 'E' then
        let (negative, rest) := match rest with
          | '-' :: rest => (true, rest)
          | '+' :: rest => (false, rest)
          | rest => (false, rest)
        (digitRun Char.isDigit rest).map fun (ds, rest) =>
          let n : Int := Text.valueOf ds
          (some (if negative then -n else n), rest)
      else some (none, c :: rest)
  | [] => some (none, [])

/-- A decimal number after its sign. -/
def decimal (negative : Bool) (cs : List Char) : Option (Value × List Char) := do
  let (whole, cs) ← wholeDigits cs
  let (fraction, cs) ← fraction cs
  let (power, cs) ← exponent cs
  if fraction.isNone && power.isNone then
    let n : Int := Text.valueOf whole
    (wholeNumber? (if negative then -n else n)).map fun v => (v, cs)
  else
    let places := fraction.getD []
    let d : Decimal := ⟨Text.valueOf (whole ++ places), power.getD 0 - (places.length : Int)⟩
    if negative || (Binary64.ofDecimal false d).isSome then some (.real, cs) else none

/-- A whole number in another base, after the mark of the base. -/
def inBase (base : Nat) (cs : List Char) : Option (Value × List Char) := do
  let (ds, rest) ← digitRun (isDigitBelow base) cs
  (wholeNumber? (valueIn base ds)).map fun v => (v, rest)

/-- A number after its sign, or the words that stand for no finite one. -/
def unsigned (negative : Bool) : List Char → Option (Value × List Char)
  | 'i' :: 'n' :: 'f' :: rest => some (.real, rest)
  | 'n' :: 'a' :: 'n' :: rest => some (.real, rest)
  | cs => decimal negative cs

/-- A number. -/
def number : List Char → Option (Value × List Char)
  | '+' :: rest => unsigned false rest
  | '-' :: rest => unsigned true rest
  | '0' :: 'x' :: rest => inBase 16 rest
  | '0' :: 'o' :: rest => inBase 8 rest
  | '0' :: 'b' :: rest => inBase 2 rest
  | cs => unsigned false cs

/-! ### Dates and times -/

/-- The value of `n` decimal digits and what follows them. -/
def fixedDigits (n : Nat) (cs : List Char) : Option (Nat × List Char) :=
  let ds := cs.take n
  if ds.length = n ∧ ds.all Char.isDigit then some (Text.valueOf ds, cs.drop n) else none

/-- A number of `n` digits between two bounds. -/
def boundedDigits (n low high : Nat) (cs : List Char) : Option (Nat × List Char) :=
  match fixedDigits n cs with
  | some (v, rest) => if low ≤ v ∧ v ≤ high then some (v, rest) else none
  | none => none

/-- What follows a character that must stand at the front. -/
def expect (c : Char) : List Char → Option (List Char)
  | d :: rest => if d = c then some rest else none
  | [] => none

/-- Whether a year has 366 days. -/
def isLeapYear (year : Nat) : Bool :=
  year % 4 == 0 && (year % 100 != 0 || year % 400 == 0)

/-- How many days a month has. -/
def daysIn (year month : Nat) : Nat :=
  if month = 2 then if isLeapYear year then 29 else 28
  else if month = 4 ∨ month = 6 ∨ month = 9 ∨ month = 11 then 30
  else 31

/-- A fraction of a second, if there is one. -/
def secondFraction : List Char → List Char
  | '.' :: c :: rest => if c.isDigit then rest.dropWhile Char.isDigit else '.' :: c :: rest
  | cs => cs

/-- Reads a time of day and answers what follows it. -/
def time (cs : List Char) : Option (List Char) := do
  let (_, cs) ← boundedDigits 2 0 23 cs
  let cs ← expect ':' cs
  let (_, cs) ← boundedDigits 2 0 59 cs
  let cs ← expect ':' cs
  let (_, cs) ← boundedDigits 2 0 60 cs
  some (secondFraction cs)

/-- Reads the distance from universal time, if one is given. -/
def offset : List Char → Option (List Char)
  | c :: rest =>
      if c = 'Z' ∨ c = 'z' then some rest
      else if c = '+' ∨ c = '-' then do
        let (_, cs) ← boundedDigits 2 0 23 rest
        let cs ← expect ':' cs
        let (_, cs) ← boundedDigits 2 0 59 cs
        some cs
      else some (c :: rest)
  | [] => some []

/-- Reads a date, and the time of day if one follows, and answers what follows. -/
def date (cs : List Char) : Option (List Char) := do
  let (year, cs) ← fixedDigits 4 cs
  let cs ← expect '-' cs
  let (month, cs) ← boundedDigits 2 1 12 cs
  let cs ← expect '-' cs
  let (_, cs) ← boundedDigits 2 1 (daysIn year month) cs
  match cs with
  | c :: rest =>
      if c = 'T' ∨ c = 't' ∨ c = ' ' then
        match time rest with
        | some after => offset after
        | none => some (c :: rest)
      else some (c :: rest)
  | [] => some []

/-- Whether `n` digits and then `mark` stand at the front. -/
def startsWithDigits (n : Nat) (mark : Char) (cs : List Char) : Bool :=
  match fixedDigits n cs with
  | some (_, c :: _) => c == mark
  | _ => false

/-- Reads a number, a date or a time. -/
def scalar (cs : List Char) : Option (Value × List Char) :=
  if startsWithDigits 4 '-' cs then (date cs).map fun rest => (.table [], rest)
  else if startsWithDigits 2 ':' cs then (time cs).map fun rest => (.table [], rest)
  else number cs

end StreamStore.Toml
