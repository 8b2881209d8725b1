import StreamStore.Text.Pieces
import StreamStore.Unicode.Composed
import StreamStore.Unicode.Direction
import StreamStore.Unicode.Joining
import StreamStore.Url.NameMapping
import StreamStore.Url.Punycode

/-!
# Host names

A host name is a text of labels between points.  `asciiName?` is the form in which
a URL holds it: every character in its one form (`form?`), the whole of it
composed, and every label that is not ASCII in Punycode.

A name is refused if it has a character that is refused, or one that would end a
host, or a label that nobody could tell from another one:

* a label must not start with a mark;
* the characters that join letters or keep them apart must have a meaning where
  they stand;
* in a name with characters written from right to left, every label runs one way;
* a label that is given in Punycode must stand for what would be written so.

Names of ASCII without Punycode are all fit, but for the characters in them.
-/

namespace StreamStore.Url

open Unicode

/-- Whether a character is one of ASCII. -/
def isAscii (c : Char) : Bool :=
  c.toNat < 0x80

/-- The characters that no name may have. -/
def forbiddenInName (c : Char) : Bool :=
  c.toNat ≤ 0x20 || c.toNat == 0x7F
    || ['#', '/', ':', '<', '>', '?', '@', '[', '\\', ']', '^', '|', '%'].contains c

/-! ### Labels -/

/-- The longest label that is written in Punycode. -/
def longestLabel : Nat := 1000

/-- The longest Punycode that is read. -/
def longestCode : Nat := 2000

/-- What follows the mark of Punycode, if a label starts with it. -/
def codeOf? : List Char → Option (List Char)
  | 'x' :: 'n' :: '-' :: '-' :: code => some code
  | _ => none

/-- Whether a text is in the form that names have. -/
def isSettled (cs : List Char) : Bool :=
  cs.all (fun c => form? c == some [c]) && composed cs == cs

/-- The characters that a label in small letters stands for. -/
def shownLabel? (label : List Char) : Option (List Char) :=
  match codeOf? label with
  | none => some label
  | some code =>
      if code.length ≤ longestCode then
        (Punycode.decode code).filter fun cs => !cs.all isAscii && isSettled cs
      else none

/-- Whether a label outside ASCII can be told from others. -/
def isDistinct (label : List Char) : Bool :=
  label.all isAscii
    || (label.length ≤ longestLabel && !(label.head?.any isMark) && joinersFit [] label)

/-! ### Names -/

/-- The form of every character of a text, one after another. -/
def forms? : List Char → Option (List Char)
  | [] => some []
  | c :: rest =>
      match form? c, forms? rest with
      | some cs, some ds => some (cs ++ ds)
      | _, _ => none

/-- Whether a name is ASCII and has no label in Punycode. -/
def isPlain (cs : List Char) : Bool :=
  cs.all isAscii && (Text.pieces '.' (cs.map Char.toLower)).all fun label => (codeOf? label).isNone

/-- The labels of a name, fit to be written. -/
def labels? (cs : List Char) : Option (List (List Char)) := do
  let cs ← forms? cs
  let labels ← (Text.pieces '.' (composed cs)).mapM shownLabel?
  if labels.all isDistinct && (!labels.any (·.any turns) || labels.all runsOneWay) then some labels
  else none

/-- A name in the form in which a URL holds it. -/
def asciiName? (cs : List Char) : Option (List Char) :=
  if isPlain cs then
    let name := cs.map Char.toLower
    if name.any forbiddenInName then none else some name
  else do
    let labels ← labels? cs
    if labels.any (·.any forbiddenInName) then none
    else some (Text.joinWith '.' (labels.map Punycode.asciiLabel))

end StreamStore.Url
