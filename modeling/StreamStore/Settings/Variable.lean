import StreamStore.Settings.Document
import StreamStore.Text.Pieces

/-!
# Settings from environment variables

A variable whose name starts with `HBASE_ACCESS_`, in capitals or not, is a
setting.  The rest of its name is the path of the setting, with two underscores
between the names: `HBASE_ACCESS_LOGGING__LEVEL` is `logging.level`.  All
variables together are one source, which lies over the document.

The text of a variable is read loosely.  It may be a list or a table in the
manner of a one-line document, with texts that need no quotes.  What starts with
`true` or `false` is that truth value, and nothing may follow it; what is not in
quotes is a number if it looks like one, and with a fraction only if it has a
point.  Whatever cannot be read in this way is a text as it stands, so a variable
is never at fault by its form, only by its type.
-/

namespace StreamStore

open Toml

namespace Variable

/-! ### Names -/

/-- What the names of the variables start with. -/
def mark : String :=
  "HBASE_ACCESS_"

/-- The characters of a name with a point in place of every two underscores. -/
def pointed : List Char → List Char
  | '_' :: '_' :: rest => '.' :: pointed rest
  | c :: rest => c :: pointed rest
  | [] => []

/-- The path of the setting that a variable is, if it is one. -/
def path? (name : String) : Option (List String) :=
  let cs := (Text.trim name).toList
  let n := mark.length
  if (cs.take n).map Char.toUpper = mark.toList then
    let names := Text.pieces '.' (Text.trim (String.ofList (pointed (cs.drop n)))).toList
    if names.any List.isEmpty then none
    else some (names.map fun cs => String.ofList (cs.map Char.toLower))
  else none

/-- A value at the end of a path. -/
def nested (path : List String) (v : Value) : Value :=
  path.foldr (fun name v => .table [(name, v)]) v

/-! ### Texts -/

/-- The blanks around the parts of a list or table. -/
def isSpace (c : Char) : Bool :=
  c == ' ' || c == '\t' || c == '\n' || c == '\r' || c.toNat == 0x0C

/-- What follows the blanks at the front. -/
def skip (cs : List Char) : List Char :=
  cs.dropWhile isSpace

/-- Whether a character may stand in a text without quotes. -/
def isBare (c : Char) : Bool :=
  !(c == ',' || c == '{' || c == '}' || c == '[' || c == ']')

/-- The characters without the sign that they may start with. -/
def withoutSign : List Char → List Char
  | '+' :: rest => rest
  | '-' :: rest => rest
  | cs => cs

/-- Whether a point with digits around it, at least one, is all there is. -/
def isPointed (cs : List Char) : Bool :=
  match Text.cutOnce '.' cs with
  | some (whole, fraction) =>
      whole.all Char.isDigit && fraction.all Char.isDigit && !(whole.isEmpty && fraction.isEmpty)
  | none => false

/-- Whether a text is a number with a point, and perhaps an exponent. -/
def isReal (cs : List Char) : Bool :=
  match Text.cutOnce 'e' ((withoutSign cs).map Char.toLower) with
  | some (digits, power) => isPointed digits && Text.isNumeral (withoutSign power)
  | none => isPointed (withoutSign cs)

/-- The negative number of 64 bits that a text is, if it is one. -/
def negative? : List Char → Option Int
  | '-' :: digits =>
      if Text.isNumeral digits ∧ (Text.valueOf digits : Int) ≤ signedLimit then
        some (-(Text.valueOf digits : Int))
      else none
  | _ => none

/-- A text without quotes as a value. -/
def bareValue (cs : List Char) : Value :=
  let cs := Text.dropTrailing (Text.dropLeading cs)
  let s := String.ofList cs
  match Text.wordOf cs with
  | some n => .natural n
  | none =>
      match negative? cs with
      | some n => .integer n
      | none => if isReal cs then .real else .text s

/-- A table's entries with one more; an earlier one of the same name is replaced. -/
def insert (name : String) (v : Value) (entries : List (String × Value)) :
    List (String × Value) :=
  match lookup? name entries with
  | some _ => replace name v entries
  | none => entries ++ [(name, v)]

/-- Reads the name of an entry. -/
def name : List Char → Option (String × List Char)
  | '"' :: rest => (escaped false .between rest).map fun (s, rest) => (String.ofList s, rest)
  | cs =>
      match cs.takeWhile Toml.isBare with
      | [] => none
      | s => some (String.ofList s, cs.dropWhile Toml.isBare)

mutual

/-- Reads a value and the blanks around it. -/
def value : Nat → List Char → Option (Value × List Char)
  | 0, _ => none
  | steps + 1, cs =>
      let read : Option (Value × List Char) := match skip cs with
        | [] => some (.text "", [])
        | 't' :: 'r' :: 'u' :: 'e' :: rest => some (.flag true, rest)
        | 'f' :: 'a' :: 'l' :: 's' :: 'e' :: rest => some (.flag false, rest)
        | '{' :: rest => (entries steps rest []).map fun (es, rest) => (.table es, rest)
        | '[' :: rest => (items steps rest).map fun (vs, rest) => (.list vs, rest)
        | '"' :: rest =>
            (escaped false .between rest).map fun (s, rest) => (.text (String.ofList s), rest)
        | '\'' :: c :: '\'' :: rest => some (.text (String.singleton c), rest)
        | '\'' :: _ => none
        | cs => some (bareValue (cs.takeWhile isBare), cs.dropWhile isBare)
      read.map fun (v, rest) => (v, skip rest)

/-- Reads the items of a list and the closing bracket. -/
def items : Nat → List Char → Option (List Value × List Char)
  | 0, _ => none
  | _ + 1, ']' :: rest => some ([], rest)
  | steps + 1, cs =>
      match value steps cs with
      | some (v, ',' :: rest) => (items steps rest).map fun (vs, rest) => (v :: vs, rest)
      | some (v, ']' :: rest) => some ([v], rest)
      | _ => none

/-- Reads the entries of a table after those already read, and the closing brace. -/
def entries : Nat → List Char → List (String × Value) →
    Option (List (String × Value) × List Char)
  | 0, _, _ => none
  | _ + 1, '}' :: rest, before => some (before, rest)
  | steps + 1, cs, before =>
      match name (skip cs) with
      | none => none
      | some (k, rest) =>
          match skip rest with
          | '=' :: rest =>
              match value steps rest with
              | some (v, ',' :: rest) => entries steps rest (insert k v before)
              | some (v, '}' :: rest) => some (insert k v before, rest)
              | _ => none
          | _ => none

end

/-- The value of a variable's text. -/
def read (text : String) : Value :=
  let cs := text.toList
  match value (2 * cs.length + 2) cs with
  | some (v, []) => v
  | _ => .text text

/-- What the variables of an environment set, a later one over an earlier one. -/
def source (environment : List (String × String)) : Value :=
  environment.foldl
    (fun v e => match path? e.1 with
      | some path => v.overlay (nested path (read e.2))
      | none => v)
    (.table [])

end Variable

/-! ### All sources together -/

/-- The name of the file that settings are read from when no other is named. -/
def defaultFile : String :=
  "hbase-access.toml"

/-- Settings from a file and an environment.  A file that does not exist sets
nothing; the environment lies over the file. -/
def Settings.load (file : String) (content : Option String)
    (environment : List (String × String)) : Except SettingsFault Settings := do
  let document ← match content with
    | some text => documentValue file text
    | none => .ok (.table [])
  Settings.ofSources [document, Variable.source environment]

end StreamStore
