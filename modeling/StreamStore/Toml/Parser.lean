import StreamStore.Toml.Scalar
import StreamStore.Toml.Table

/-!
# Reading TOML

A document is read in two steps: its text into statements, here, and the
statements into a tree, in `StreamStore.Toml.Table`.

All faults are alike to the callers, so every reader is a function
`List Char → Option (α × List Char)`: the thing read and what follows it.  The
readers of values call each other; they are structural on a number of steps, of
which two for every character are enough.  Lists and braces may stand inside one
another to a depth of 79, and a key has at most 79 names.

Line breaks are the single character `\n` here.  The pair of a carriage return
and a line feed means the same, so `unixBreaks` replaces it first; a carriage
return that is left stands nowhere.
-/

namespace StreamStore.Toml

/-! ### Keys -/

/-- Whether a character may stand in a name without quotes. -/
def isBare (c : Char) : Bool :=
  c.isAlphanum || c == '_' || c == '-'

/-- Reads one name of a key. -/
def name : List Char → Option (String × List Char)
  | c :: rest =>
      if c = '"' ∨ c = '\'' then
        (quotedLine (c :: rest)).map fun (s, rest) => (String.ofList s, rest)
      else if isBare c then
        some (String.ofList ((c :: rest).takeWhile isBare), (c :: rest).dropWhile isBare)
      else none
  | [] => none

/-- Reads a key of at most so many names, and the blanks around them. -/
def key : Nat → List Char → Option (Key × List Char)
  | 0, _ => none
  | most + 1, cs =>
      match name (skip cs) with
      | none => none
      | some (first, rest) =>
          match skip rest with
          | '.' :: rest =>
              (key most rest).map fun (k, rest) => (⟨first :: k.path, k.name⟩, rest)
          | rest => some (.ofName first, rest)

/-- How many names a key may have. -/
def maxNames : Nat := 79

/-! ### Values -/

/-- What follows the blanks, line breaks and comments at the front; the first
argument says whether a comment is open. -/
def skipLines : Bool → List Char → List Char
  | _, [] => []
  | false, c :: rest =>
      if isSpace c ∨ c = '\n' then skipLines false rest
      else if c = '#' then skipLines true rest
      else c :: rest
  | true, c :: rest =>
      if c = '\n' then skipLines false rest
      else if isPlain c then skipLines true rest
      else c :: rest

/-- How many lists and braces may stand inside one another. -/
def maxLevels : Nat := 79

mutual

/-- Reads a value; `levels` says how many lists and braces may still be opened. -/
def value : Nat → Nat → List Char → Option (Value × List Char)
  | 0, _, _ => none
  | steps + 1, levels, cs =>
      match cs with
      | 't' :: 'r' :: 'u' :: 'e' :: rest => some (.flag true, rest)
      | 'f' :: 'a' :: 'l' :: 's' :: 'e' :: rest => some (.flag false, rest)
      | '[' :: rest =>
          match levels with
          | 0 => none
          | levels + 1 => (items steps levels rest).map fun (vs, rest) => (.list vs, rest)
      | '{' :: rest =>
          match levels with
          | 0 => none
          | levels + 1 =>
              match skip rest with
              | '}' :: rest => some (.table [], rest)
              | rest =>
                  (pairs steps levels rest).bind fun (ps, rest) =>
                    (ofBraces ps).map fun v => (v, rest)
      | c :: rest =>
          if c = '"' ∨ c = '\'' then
            (quoted (c :: rest)).map fun (s, rest) => (.text (String.ofList s), rest)
          else scalar (c :: rest)
      | [] => none

/-- Reads the items of a list, the last of which a comma may follow, and the
closing bracket. -/
def items : Nat → Nat → List Char → Option (List Value × List Char)
  | 0, _, _ => none
  | steps + 1, levels, cs =>
      match skipLines false cs with
      | ']' :: rest => some ([], rest)
      | cs =>
          match value steps levels cs with
          | none => none
          | some (v, rest) =>
              match skipLines false rest with
              | ',' :: rest => (items steps levels rest).map fun (vs, rest) => (v :: vs, rest)
              | ']' :: rest => some ([v], rest)
              | _ => none

/-- Reads one or more assignments between braces, and the closing brace. -/
def pairs : Nat → Nat → List Char → Option (List (Key × Value) × List Char)
  | 0, _, _ => none
  | steps + 1, levels, cs =>
      match key maxNames cs with
      | some (k, '=' :: rest) =>
          match value steps levels (skip rest) with
          | none => none
          | some (v, rest) =>
              match skip rest with
              | ',' :: rest => (pairs steps levels rest).map fun (ps, rest) => ((k, v) :: ps, rest)
              | '}' :: rest => some ([(k, v)], rest)
              | _ => none
      | _ => none

end

/-- Reads a value of any depth that is allowed. -/
def topValue (cs : List Char) : Option (Value × List Char) :=
  value (2 * cs.length + 2) maxLevels cs

/-! ### Statements -/

/-- What follows the rest of a line that holds blanks and a comment at most, and
the line break. -/
def lineEnd (cs : List Char) : Option (List Char) :=
  let rest := match skip cs with
    | '#' :: comment => comment.dropWhile isPlain
    | rest => rest
  match rest with
  | '\n' :: rest => some rest
  | [] => some []
  | _ => none

/-- Reads one statement and the rest of its line. -/
def statement : List Char → Option (Statement × List Char)
  | '[' :: '[' :: rest =>
      match key maxNames rest with
      | some (k, ']' :: ']' :: rest) => (lineEnd rest).map fun rest => (.element k, rest)
      | _ => none
  | '[' :: rest =>
      match key maxNames rest with
      | some (k, ']' :: rest) => (lineEnd rest).map fun rest => (.section k, rest)
      | _ => none
  | cs =>
      match key maxNames cs with
      | some (k, '=' :: rest) =>
          (topValue (skip rest)).bind fun (v, rest) =>
            (lineEnd rest).map fun rest => (.assign k v, rest)
      | _ => none

/-- Reads the statements of a text in so many steps, one for a line. -/
def statementsIn : Nat → List Char → Option (List Statement)
  | 0, _ => none
  | steps + 1, cs =>
      match skip cs with
      | [] => some []
      | '\n' :: rest => statementsIn steps rest
      | '#' :: rest => (lineEnd ('#' :: rest)).bind (statementsIn steps)
      | cs => (statement cs).bind fun (s, rest) => (statementsIn steps rest).map (s :: ·)

/-- Reads the statements of a text. -/
def statements (cs : List Char) : Option (List Statement) :=
  statementsIn (cs.length + 1) cs

/-- Text with every carriage return before a line feed left out. -/
def unixBreaks : List Char → List Char
  | '\r' :: '\n' :: rest => '\n' :: unixBreaks rest
  | c :: rest => c :: unixBreaks rest
  | [] => []

/-- Text without the byte order mark that it may start with. -/
def withoutMark : List Char → List Char
  | c :: rest => if c.toNat = 0xFEFF then rest else c :: rest
  | [] => []

/-- Reads a document: the entries of its root table. -/
def parse (text : String) : Option (List (String × Value)) :=
  (statements (unixBreaks (withoutMark text.toList))).bind ofStatements

end StreamStore.Toml
