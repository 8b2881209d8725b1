import StreamStore.Json.Basic
import StreamStore.Number.Scaled
import StreamStore.Text.Natural

/-!
# Reading JSON

The reader is strict: one document, blanks around its tokens and nothing else.
It refuses a control character inside a text, an escape that stands for half a
surrogate pair, a number with a leading zero, a number too large for a double,
and more than 127 arrays and objects inside one another.

All faults are alike to the callers, so every reader is a function
`List Char → Option (α × List Char)`: the thing read and what follows it.  The
three readers that call each other (`value`, `items`, `fields`) are structural on
a number of steps; `parse` allows two for every character, and no document needs
more, because every second step consumes one.  How deep a document may still go
is a separate argument, `levels`.

**Who reads a record does not look at members that the record does not have.**
`Shape` says which members there are.  A member that is not among them is passed
over: its form is checked, but not what its literals stand for, nor its depth,
and it is left out of the result.
-/

namespace StreamStore.Json

/-- What a reader expects of a document. -/
inductive Shape where
  /-- Anything; all of it is read. -/
  | whole
  /-- A record with these members; other members are passed over. -/
  | record (members : List (String × Shape))
  /-- A list of such items. -/
  | list (item : Shape)

/-- A record whose members may be anything. -/
def Shape.ofNames (names : List String) : Shape :=
  .record (names.map fun name => (name, .whole))

/-- What is expected of the member with a given name; nothing if it is passed over. -/
def Shape.member? (name : String) : Shape → Option Shape
  | .record members => members.lookup name
  | _ => some .whole

/-- What is expected of the item at a given place of an array. -/
def Shape.item (place : Nat) : Shape → Shape
  | .list item => item
  | .record members => ((members[place]?).map (·.2)).getD .whole
  | .whole => .whole

end StreamStore.Json

namespace StreamStore.Json.Parser

/-- The blanks between the tokens of a document. -/
def isSpace (c : Char) : Bool :=
  c == ' ' || c == '\n' || c == '\t' || c == '\r'

/-- What follows the blanks at the front. -/
def skip (cs : List Char) : List Char :=
  cs.dropWhile isSpace

/-! ### Texts -/

/-- The value of four hexadecimal digits. -/
def hex4? (a b c d : Char) : Option Nat := do
  let a ← Text.hexValue? a
  let b ← Text.hexValue? b
  let c ← Text.hexValue? c
  let d ← Text.hexValue? d
  some (((a * 16 + b) * 16 + c) * 16 + d)

/-- The character that a short escape stands for. -/
def shortEscape? (c : Char) : Option Char :=
  if c = '"' then some '"'
  else if c = '\\' then some '\\'
  else if c = '/' then some '/'
  else if c = 'b' then some (Char.ofNat 8)
  else if c = 'f' then some (Char.ofNat 12)
  else if c = 'n' then some '\n'
  else if c = 'r' then some '\r'
  else if c = 't' then some '\t'
  else none

/-- Whether a number is the first half of a surrogate pair. -/
def isHighHalf (n : Nat) : Bool :=
  0xD800 ≤ n && n ≤ 0xDBFF

/-- Whether a number is the second half of a surrogate pair. -/
def isLowHalf (n : Nat) : Bool :=
  0xDC00 ≤ n && n ≤ 0xDFFF

/-- Adds a character to what a reader read. -/
def consTo (c : Char) : Option (List Char × List Char) → Option (List Char × List Char)
  | some (s, rest) => some (c :: s, rest)
  | none => none

/-- Reads the inside of a quoted text and its closing quote. -/
def quoted : List Char → Option (List Char × List Char)
  | [] => none
  | '"' :: rest => some ([], rest)
  | '\\' :: 'u' :: a :: b :: c :: d :: rest =>
      match hex4? a b c d with
      | none => none
      | some high =>
          if isLowHalf high then none
          else if isHighHalf high then
            match rest with
            | '\\' :: 'u' :: a :: b :: c :: d :: rest =>
                match hex4? a b c d with
                | none => none
                | some low =>
                    if isLowHalf low then
                      consTo (Char.ofNat (0x10000 + (high - 0xD800) * 0x400 + (low - 0xDC00)))
                        (quoted rest)
                    else none
            | _ => none
          else consTo (Char.ofNat high) (quoted rest)
  | '\\' :: c :: rest =>
      match shortEscape? c with
      | none => none
      | some c => consTo c (quoted rest)
  | c :: rest => if c.toNat < 0x20 ∨ c = '\\' then none else consTo c (quoted rest)

/-! ### Numbers -/

/-- The digits at the front and what follows them. -/
def digits (cs : List Char) : List Char × List Char :=
  (cs.takeWhile Char.isDigit, cs.dropWhile Char.isDigit)

/-- The whole part of a number: a zero, or digits that do not start with one. -/
def whole : List Char → Option (List Char × List Char)
  | '0' :: rest =>
      match rest with
      | c :: _ => if c.isDigit then none else some (['0'], rest)
      | [] => some (['0'], [])
  | cs =>
      match digits cs with
      | ([], _) => none
      | (ds, rest) => some (ds, rest)

/-- The fraction of a number, if there is one: a point and at least one digit. -/
def fraction : List Char → Option (List Char × List Char)
  | '.' :: rest =>
      match digits rest with
      | ([], _) => none
      | (ds, rest) => some (ds, rest)
  | cs => some ([], cs)

/-- An exponent after its mark: a sign or none, and at least one digit. -/
def exponentAfterMark (cs : List Char) : Option (Int × List Char) :=
  let (negative, cs) := match cs with
    | '-' :: rest => (true, rest)
    | '+' :: rest => (false, rest)
    | cs => (false, cs)
  match digits cs with
  | ([], _) => none
  | (ds, rest) =>
      let n : Int := Text.valueOf ds
      some (if negative then -n else n, rest)

/-- The exponent of a number; none is written as nothing. -/
def exponent : List Char → Option (Option Int × List Char)
  | c :: rest =>
      if c = 'e' ∨ c = 'E' then (exponentAfterMark rest).map fun (n, rest) => (some n, rest)
      else some (none, c :: rest)
  | [] => some (none, [])

/-- The double that a literal stands for.  The digits of its whole part and of its
fraction are taken as far as they fit a word; a digit of the whole part that does
not fit counts as a zero, and one of the fraction not at all. -/
def doubleOf (negative : Bool) (whole fraction : List Char) (power : Option Int) :
    Option Binary64 :=
  let (n, zeros) := Text.wordFrom 0 whole
  let (n, rest) := Text.wordFrom n fraction
  let places : Int := (fraction.length : Int) - rest.length
  Binary64.scaled negative n (power.getD 0 + zeros.length - places)

/-- The integer of 64 bits that a literal stands for, if it has no fraction and no
exponent.  A zero with a minus is none. -/
def integerOf? (negative : Bool) (whole fraction : List Char) (power : Option Int) :
    Option JsonNumber :=
  let n := Text.valueOf whole
  let signed : Int := if negative then -(n : Int) else n
  if h : fraction = [] ∧ power = none ∧ ¬(negative = true ∧ n = 0) ∧ fits64 signed then
    some (.integer signed h.2.2.2)
  else none

/-- The number that a literal stands for: its sign, the digits of its whole part
and of its fraction, and its exponent. -/
def numberOf (negative : Bool) (whole fraction : List Char) (power : Option Int) :
    Option JsonNumber :=
  match integerOf? negative whole fraction power with
  | some n => some n
  | none => (doubleOf negative whole fraction power).map .double

/-- Reads a literal of a number: its sign, the digits of its whole part and of its
fraction, and its exponent. -/
def literal (cs : List Char) :
    Option ((Bool × List Char × List Char × Option Int) × List Char) := do
  let (negative, cs) := match cs with
    | '-' :: rest => (true, rest)
    | cs => (false, cs)
  let (w, cs) ← whole cs
  let (f, cs) ← fraction cs
  let (e, cs) ← exponent cs
  some ((negative, w, f, e), cs)

/-- Reads a number. -/
def number (cs : List Char) : Option (JsonNumber × List Char) := do
  let ((negative, w, f, e), cs) ← literal cs
  let n ← numberOf negative w f e
  some (n, cs)

/-! ### Passing over -/

/-- What follows the inside of a quoted text and its closing quote. -/
def passQuoted : List Char → Option (List Char)
  | [] => none
  | '"' :: rest => some rest
  | '\\' :: 'u' :: a :: b :: c :: d :: rest =>
      if (hex4? a b c d).isSome then passQuoted rest else none
  | '\\' :: c :: rest => if (shortEscape? c).isSome then passQuoted rest else none
  | c :: rest => if c.toNat < 0x20 ∨ c = '\\' then none else passQuoted rest

mutual

/-- What follows a document. -/
def pass : Nat → List Char → Option (List Char)
  | 0, _ => none
  | steps + 1, cs =>
      match skip cs with
      | 'n' :: 'u' :: 'l' :: 'l' :: rest => some rest
      | 't' :: 'r' :: 'u' :: 'e' :: rest => some rest
      | 'f' :: 'a' :: 'l' :: 's' :: 'e' :: rest => some rest
      | '"' :: rest => passQuoted rest
      | '[' :: rest =>
          match skip rest with
          | ']' :: rest => some rest
          | rest => passItems steps rest
      | '{' :: rest =>
          match skip rest with
          | '}' :: rest => some rest
          | rest => passFields steps rest
      | cs => (literal cs).map (·.2)

/-- What follows one or more items and the closing bracket. -/
def passItems : Nat → List Char → Option (List Char)
  | 0, _ => none
  | steps + 1, cs =>
      match pass steps cs with
      | none => none
      | some rest =>
          match skip rest with
          | ',' :: rest => passItems steps rest
          | ']' :: rest => some rest
          | _ => none

/-- What follows one or more fields and the closing brace. -/
def passFields : Nat → List Char → Option (List Char)
  | 0, _ => none
  | steps + 1, cs =>
      match skip cs with
      | '"' :: rest =>
          match passQuoted rest with
          | none => none
          | some rest =>
              match skip rest with
              | ':' :: rest =>
                  match pass steps rest with
                  | none => none
                  | some rest =>
                      match skip rest with
                      | ',' :: rest => passFields steps rest
                      | '}' :: rest => some rest
                      | _ => none
              | _ => none
      | _ => none

end

/-! ### Documents -/

mutual

/-- Reads a document of some shape; `levels` says how many arrays and objects may
still be opened. -/
def value : Nat → Nat → Shape → List Char → Option (Json × List Char)
  | 0, _, _, _ => none
  | steps + 1, levels, shape, cs =>
      match skip cs with
      | 'n' :: 'u' :: 'l' :: 'l' :: rest => some (.null, rest)
      | 't' :: 'r' :: 'u' :: 'e' :: rest => some (.bool true, rest)
      | 'f' :: 'a' :: 'l' :: 's' :: 'e' :: rest => some (.bool false, rest)
      | '"' :: rest => (quoted rest).map fun (s, rest) => (.string (String.ofList s), rest)
      | '[' :: rest =>
          match levels with
          | 0 => none
          | levels + 1 =>
              match skip rest with
              | ']' :: rest => some (.array [], rest)
              | rest => (items steps levels shape 0 rest).map fun (vs, rest) => (.array vs, rest)
      | '{' :: rest =>
          match levels with
          | 0 => none
          | levels + 1 =>
              match skip rest with
              | '}' :: rest => some (.object [], rest)
              | rest => (fields steps levels shape rest).map fun (es, rest) => (.object es, rest)
      | cs => (number cs).map fun (n, rest) => (.number n, rest)

/-- Reads one or more items, the first of them at a given place, and the closing
bracket. -/
def items : Nat → Nat → Shape → Nat → List Char → Option (List Json × List Char)
  | 0, _, _, _, _ => none
  | steps + 1, levels, shape, place, cs =>
      match value steps levels (shape.item place) cs with
      | none => none
      | some (v, rest) =>
          match skip rest with
          | ',' :: rest =>
              (items steps levels shape (place + 1) rest).map fun (vs, rest) => (v :: vs, rest)
          | ']' :: rest => some ([v], rest)
          | _ => none

/-- Reads one or more fields and the closing brace. -/
def fields : Nat → Nat → Shape → List Char → Option (List (String × Json) × List Char)
  | 0, _, _, _ => none
  | steps + 1, levels, shape, cs =>
      match skip cs with
      | '"' :: rest =>
          match quoted rest with
          | none => none
          | some (k, rest) =>
              match skip rest with
              | ':' :: rest =>
                  let name := String.ofList k
                  let read : Option (List (String × Json) × List Char) :=
                    match shape.member? name with
                    | some inner =>
                        (value steps levels inner rest).map fun (v, rest) => ([(name, v)], rest)
                    | none => (pass steps rest).map fun rest => ([], rest)
                  match read with
                  | none => none
                  | some (entry, rest) =>
                      match skip rest with
                      | ',' :: rest =>
                          (fields steps levels shape rest).map fun (es, rest) =>
                            (entry ++ es, rest)
                      | '}' :: rest => some (entry, rest)
                      | _ => none
              | _ => none
      | _ => none

end

end StreamStore.Json.Parser

namespace StreamStore.Json

/-- How many arrays and objects a document may have inside one another. -/
def maxDepth : Nat := 127

/-- Reads a text that is one document of some shape and nothing else. -/
def parseCharsAs (shape : Shape) (cs : List Char) : Option Json :=
  match Parser.value (2 * cs.length + 2) maxDepth shape cs with
  | some (v, rest) => if (Parser.skip rest).isEmpty then some v else none
  | none => none

/-- Reads a text that is one document of some shape and nothing else. -/
def parseAs (shape : Shape) (s : String) : Option Json :=
  parseCharsAs shape s.toList

/-- Reads a text that is one document and nothing else. -/
def parse (s : String) : Option Json :=
  parseAs .whole s

end StreamStore.Json
