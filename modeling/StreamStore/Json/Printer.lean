import StreamStore.Json.Basic
import StreamStore.Number.Shortest
import StreamStore.Text.Natural

/-!
# Writing JSON

`render` writes a document in the compact form, without blanks: it is the form
of request bodies, of filters, of serialized results and of the fragments that
errors echo.  `renderPretty` is the form shown to people: one item a line,
indented by two blanks a level.

In a text only the quote, the backslash and the control characters are escaped;
everything else stands as it is.  A double is written with the fewest digits
that read back, a tie going to the even digit: positionally, with at least one
digit after the point, while its first digit has a power of ten from -5 to 15,
and otherwise in scientific notation.
-/

namespace StreamStore.Json

/-- A character inside a quoted text. -/
def escape (c : Char) : List Char :=
  if c = '"' then ['\\', '"']
  else if c = '\\' then ['\\', '\\']
  else if c = '\n' then ['\\', 'n']
  else if c = '\t' then ['\\', 't']
  else if c = '\r' then ['\\', 'r']
  else if c = Char.ofNat 8 then ['\\', 'b']
  else if c = Char.ofNat 12 then ['\\', 'f']
  else if c.toNat < 0x20 then
    ['\\', 'u', '0', '0', (Text.hexDigit (c.toNat / 16)).toLower,
      (Text.hexDigit (c.toNat % 16)).toLower]
  else [c]

/-- A text in quotes. -/
def quote (s : String) : List Char :=
  '"' :: s.toList.flatMap escape ++ ['"']

/-- An integer in decimal. -/
def integerText (n : Int) : List Char :=
  if n < 0 then '-' :: Nat.toDigits 10 n.natAbs else Nat.toDigits 10 n.natAbs

/-- A double as a document spells it. -/
def doubleText (x : Binary64) : List Char :=
  x.signText ++
    if x.isZero then ['0', '.', '0']
    else
      let d := x.shortest .toEven
      if -5 ≤ d.lead ∧ d.lead < 16 then d.positional true else d.scientific

/-- A number as a document spells it. -/
def numberText : JsonNumber → List Char
  | .integer n _ => integerText n
  | .double x => doubleText x

mutual

/-- The compact form of a document. -/
def renderChars : Json → List Char
  | .null => ['n', 'u', 'l', 'l']
  | .bool true => ['t', 'r', 'u', 'e']
  | .bool false => ['f', 'a', 'l', 's', 'e']
  | .number n => numberText n
  | .string s => quote s
  | .array [] => ['[', ']']
  | .array (v :: rest) => '[' :: renderChars v ++ renderItems rest
  | .object [] => ['{', '}']
  | .object ((k, v) :: rest) => '{' :: quote k ++ ':' :: renderChars v ++ renderFields rest

/-- The items after the first one, and the closing bracket. -/
def renderItems : List Json → List Char
  | [] => [']']
  | v :: rest => ',' :: renderChars v ++ renderItems rest

/-- The fields after the first one, and the closing brace. -/
def renderFields : List (String × Json) → List Char
  | [] => ['}']
  | (k, v) :: rest => ',' :: quote k ++ ':' :: renderChars v ++ renderFields rest

end

/-- The compact form of a document, as text. -/
def render (v : Json) : String :=
  String.ofList (renderChars v)

/-- A new line indented by `depth` levels. -/
def newLine (depth : Nat) : List Char :=
  '\n' :: List.replicate (2 * depth) ' '

mutual

/-- The indented form of a document at a given depth. -/
def prettyChars (depth : Nat) : Json → List Char
  | .array (v :: rest) =>
      '[' :: newLine (depth + 1) ++ prettyChars (depth + 1) v ++ prettyItems depth rest
  | .object ((k, v) :: rest) =>
      '{' :: newLine (depth + 1) ++ quote k ++ [':', ' '] ++ prettyChars (depth + 1) v
        ++ prettyFields depth rest
  | .array [] => ['[', ']']
  | .object [] => ['{', '}']
  | .null => ['n', 'u', 'l', 'l']
  | .bool true => ['t', 'r', 'u', 'e']
  | .bool false => ['f', 'a', 'l', 's', 'e']
  | .number n => numberText n
  | .string s => quote s

/-- The items after the first one of an array at a given depth, and the closing bracket. -/
def prettyItems (depth : Nat) : List Json → List Char
  | [] => newLine depth ++ [']']
  | v :: rest =>
      ',' :: newLine (depth + 1) ++ prettyChars (depth + 1) v ++ prettyItems depth rest

/-- The fields after the first one of an object at a given depth, and the closing brace. -/
def prettyFields (depth : Nat) : List (String × Json) → List Char
  | [] => newLine depth ++ ['}']
  | (k, v) :: rest =>
      ',' :: newLine (depth + 1) ++ quote k ++ [':', ' '] ++ prettyChars (depth + 1) v
        ++ prettyFields depth rest

end

/-- The indented form of a document, as text. -/
def renderPretty (v : Json) : String :=
  String.ofList (prettyChars 0 v)

end StreamStore.Json
