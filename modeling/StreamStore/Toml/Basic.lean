/-!
# TOML documents

Settings are written in TOML.  A document is a list of *statements*: headers that
open a table, headers that open the next element of a list of tables, and
assignments to a key of the table that is open.  What the statements build
together is a tree of values; which lists of statements build one is the matter
of `StreamStore.Toml.Table`.

Two decisions about values.  No setting is a number with a fraction, so such a
number is only known to be one (`Value.real`).  And no setting is a date or a
time, so one is read as a table without entries, which no scalar setting
accepts.
-/

namespace StreamStore.Toml

/-- A value of a document, or of another source of settings. -/
inductive Value where
  /-- A text. -/
  | text (content : String)
  /-- A whole number of a document. -/
  | integer (n : Int)
  /-- A whole number of a source that has numbers without a sign. -/
  | natural (n : Nat)
  /-- A number that is not whole. -/
  | real
  /-- A truth value. -/
  | flag (value : Bool)
  /-- A list. -/
  | list (items : List Value)
  /-- Named values; no name stands twice. -/
  | table (entries : List (String × Value))

/-- A key with its path: `a.b.c` is the name `c` under the path `a`, `b`. -/
structure Key where
  /-- The names of the tables on the way. -/
  path : List String
  /-- The last name. -/
  name : String
  deriving DecidableEq, Repr

/-- A key without a path. -/
def Key.ofName (name : String) : Key :=
  ⟨[], name⟩

/-- A statement of a document. -/
inductive Statement where
  /-- Opens a table: `[a.b]`. -/
  | section (key : Key)
  /-- Opens a new element of a list of tables: `[[a.b]]`. -/
  | element (key : Key)
  /-- Gives a value to a key of the open table: `a.b = 1`. -/
  | assign (key : Key) (value : Value)

/-- The value of a name in a list of entries. -/
def lookup? {α : Type} (name : String) : List (String × α) → Option α
  | [] => none
  | (k, v) :: rest => if k = name then some v else lookup? name rest

/-- The entries with the value of one name replaced; without that name they stay
as they are. -/
def replace {α : Type} (name : String) (v : α) : List (String × α) → List (String × α)
  | [] => []
  | (k, w) :: rest => if k = name then (k, v) :: rest else (k, w) :: replace name v rest

end StreamStore.Toml
