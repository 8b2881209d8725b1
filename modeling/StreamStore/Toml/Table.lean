import StreamStore.Toml.Basic

/-!
# What the statements of a document build

A table of a document comes about in one of three ways, and the way decides what
may be said about it later (`Origin`).

* It is *declared* by a header of its own, or it is an element of a list of
  tables.  It has one header only, and no assignment reaches into it from
  outside by a dotted key.
* It is *implied* by a header that names it on its path.  A header of its own may
  follow, which declares it.
* It is *dotted*: made by an assignment whose key names it on its path.  Further
  dotted keys may extend it, but no header may declare it.

While a document is read, a table also remembers whether its entries are
finished values; so the tree under construction has a type of its own, `Node`.
`within` is the one walk along a path: it makes the tables that are missing and
enters the last element of a list of tables.

A table written inside braces is built by the same walk from its assignments.
It is a finished value, so nothing reaches into it later.
-/

namespace StreamStore.Toml

/-- How a table came about. -/
inductive Origin where
  /-- A header names it on its path. -/
  | implied
  /-- A key of an assignment names it on its path. -/
  | dotted
  /-- It has a header, or is an element of a list of tables. -/
  | declared
  deriving DecidableEq, Repr

/-- A part of a document under construction. -/
inductive Node where
  /-- A finished value. -/
  | value (v : Value)
  /-- A table. -/
  | table (origin : Origin) (entries : List (String × Node))
  /-- A list of tables: the last one is open, the earlier ones are finished. -/
  | tables (earlier : List (List (String × Node))) (last : List (String × Node))

/-- The named parts of a table under construction. -/
abbrev Nodes := List (String × Node)

/-! ### The walk along a path -/

/-- Changes the table at the end of a path.  Tables that are missing on the way
are made with the origin `made`; an existing one that was declared stops a walk
that makes dotted tables. -/
def within (made : Origin) (change : Origin → Nodes → Option Nodes) :
    List String → Origin → Nodes → Option Nodes
  | [], origin, nodes => change origin nodes
  | name :: path, _, nodes =>
      match lookup? name nodes with
      | none =>
          (within made change path made []).map fun inner => nodes ++ [(name, .table made inner)]
      | some (.value _) => none
      | some (.table origin inner) =>
          if made = .dotted ∧ origin = .declared then none
          else (within made change path origin inner).map fun inner =>
            replace name (.table origin inner) nodes
      | some (.tables earlier last) =>
          (within made change path .declared last).map fun last =>
            replace name (.tables earlier last) nodes

/-- Gives a value to a new name.  A name without a path belongs to the table that
is open; a name with a path belongs to a table that such keys made. -/
def place (dotted : Bool) (name : String) (v : Value) (origin : Origin) (nodes : Nodes) :
    Option Nodes :=
  if dotted = (origin == .dotted) then
    match lookup? name nodes with
    | none => some (nodes ++ [(name, .value v)])
    | some _ => none
  else none

/-- Carries out an assignment in the table that is open. -/
def assign (key : Key) (v : Value) (origin : Origin) (nodes : Nodes) : Option Nodes :=
  within .dotted (place (!key.path.isEmpty) key.name v) key.path origin nodes

/-- Declares a table, new or implied so far. -/
def declare (name : String) (_ : Origin) (nodes : Nodes) : Option Nodes :=
  match lookup? name nodes with
  | none => some (nodes ++ [(name, .table .declared [])])
  | some (.table .implied inner) => some (replace name (.table .declared inner) nodes)
  | some _ => none

/-- Adds an element to a list of tables, new or there already. -/
def addElement (name : String) (_ : Origin) (nodes : Nodes) : Option Nodes :=
  match lookup? name nodes with
  | none => some (nodes ++ [(name, .tables [] [])])
  | some (.tables earlier last) => some (replace name (.tables (earlier ++ [last]) []) nodes)
  | some _ => none

/-! ### Documents and braces -/

/-- A document under construction: its root table and the path of the table that
is open. -/
structure Draft where
  /-- The parts of the root table. -/
  root : Nodes
  /-- The path of the open table, itself included. -/
  current : List String

/-- The document before its first statement. -/
def Draft.start : Draft :=
  ⟨[], []⟩

/-- Carries out one statement. -/
def Draft.run (d : Draft) : Statement → Option Draft
  | .section key =>
      (within .implied (declare key.name) key.path .declared d.root).map fun root =>
        ⟨root, key.path ++ [key.name]⟩
  | .element key =>
      (within .implied (addElement key.name) key.path .declared d.root).map fun root =>
        ⟨root, key.path ++ [key.name]⟩
  | .assign key v =>
      (within .implied (assign key v) d.current .declared d.root).map fun root =>
        ⟨root, d.current⟩

/-- Carries out a list of statements. -/
def Draft.runAll : Draft → List Statement → Option Draft
  | d, [] => some d
  | d, s :: rest => (d.run s).bind fun d => d.runAll rest

/-- Carries out the assignments between two braces. -/
def assignAll : List (Key × Value) → Nodes → Option Nodes
  | [], nodes => some nodes
  | (key, v) :: rest, nodes => (assign key v .declared nodes).bind (assignAll rest)

theorem Draft.runAll_cons (d : Draft) (s : Statement) (rest : List Statement) :
    d.runAll (s :: rest) = (d.run s).bind fun d => d.runAll rest := rfl

theorem Draft.runAll_append (d : Draft) (ss ts : List Statement) :
    d.runAll (ss ++ ts) = (d.runAll ss).bind fun d => d.runAll ts := by
  induction ss generalizing d with
  | nil => rfl
  | cons s ss ih =>
      rw [List.cons_append, runAll_cons, runAll_cons]
      cases d.run s with
      | none => rfl
      | some d => exact ih d

/-! ### Finished values -/

mutual

/-- A part as a finished value. -/
def Node.finish : Node → Value
  | .value v => v
  | .table _ entries => .table (finishAll entries)
  | .tables earlier last => .list (finishTables earlier ++ [.table (finishAll last)])

/-- The entries of a table as finished values. -/
def finishAll : Nodes → List (String × Value)
  | [] => []
  | (name, n) :: rest => (name, n.finish) :: finishAll rest

/-- Tables as finished values. -/
def finishTables : List Nodes → List Value
  | [] => []
  | entries :: rest => .table (finishAll entries) :: finishTables rest

end

/-- The entries that a list of statements builds. -/
def ofStatements (statements : List Statement) : Option (List (String × Value)) :=
  (Draft.start.runAll statements).map fun d => finishAll d.root

/-- The table that the assignments between two braces build. -/
def ofBraces (pairs : List (Key × Value)) : Option Value :=
  (assignAll pairs []).map fun nodes => .table (finishAll nodes)

end StreamStore.Toml
