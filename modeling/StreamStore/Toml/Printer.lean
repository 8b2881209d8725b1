import StreamStore.Toml.Basic
import StreamStore.Toml.Quoted

/-!
# Writing TOML

What this library writes is a list of *lines*: headers, and keys with a scalar
or an empty list.  Every name it writes is one that needs no quotes.  A header
has an empty line before it, unless it is the first line of all.

`Line.statement` says which statement a line is, so that reading what was
written is a law about two lists.
-/

namespace StreamStore.Toml

/-- What may follow the equals sign of a line. -/
inductive Datum where
  /-- A text. -/
  | text (content : String)
  /-- A number. -/
  | number (n : Nat)
  /-- A truth value. -/
  | flag (value : Bool)
  /-- The list without items. -/
  | nothing

/-- The value that a datum is. -/
def Datum.value : Datum → Value
  | .text s => .text s
  | .number n => .integer n
  | .flag b => .flag b
  | .nothing => .list []

/-- The text of a datum. -/
def Datum.render : Datum → List Char
  | .text s => quote s.toList
  | .number n => Nat.toDigits 10 n
  | .flag true => ['t', 'r', 'u', 'e']
  | .flag false => ['f', 'a', 'l', 's', 'e']
  | .nothing => ['[', ']']

/-- A line of a document. -/
inductive Line where
  /-- Opens a table. -/
  | section (key : Key)
  /-- Opens a new element of a list of tables. -/
  | element (key : Key)
  /-- Gives a value to a name. -/
  | entry (name : String) (datum : Datum)

/-- The statement that a line is. -/
def Line.statement : Line → Statement
  | .section k => .section k
  | .element k => .element k
  | .entry name d => .assign (.ofName name) d.value

/-- The text of a key. -/
def Key.render (k : Key) : List Char :=
  (k.path.flatMap fun name => name.toList ++ ['.']) ++ k.name.toList

/-- The text of a line without the line break after it. -/
def Line.render : Line → List Char
  | .section k => '[' :: k.render ++ [']']
  | .element k => '[' :: '[' :: k.render ++ [']', ']']
  | .entry name d => name.toList ++ ' ' :: '=' :: ' ' :: d.render

/-- Whether a line is a header. -/
def Line.isHeader : Line → Bool
  | .entry .. => false
  | _ => true

/-- The text of lines that follow other lines. -/
def renderAfter : List Line → List Char
  | [] => []
  | line :: rest =>
      (if line.isHeader then ['\n'] else []) ++ line.render ++ '\n' :: renderAfter rest

/-- The text of a document. -/
def render : List Line → String
  | [] => ""
  | line :: rest => String.ofList (line.render ++ '\n' :: renderAfter rest)

end StreamStore.Toml
