import StreamStore.Unicode.Combining
import StreamStore.Unicode.Pair

/-!
# Composed text

One text can be written in several ways: a letter with its mark as one character
or as two, and marks that do not touch in any order.  `composed` is the one form
in which texts are compared.  It takes all pairs apart, puts the marks behind a
letter into the order of their classes, and puts letters and marks together again
as far as they go.

A mark reaches its letter only past marks of lower classes; one of the same class,
or anything of class zero, stands in its way.
-/

namespace StreamStore.Unicode

/-- The parts of a character, taken apart so many times. -/
def partsWithin : Nat → Char → List Char
  | 0, c => [c]
  | depth + 1, c =>
      match pairOf? c with
      | some (left, right) => partsWithin depth left ++ [right]
      | none => [c]

/-- The parts of a character. -/
def parts (c : Char) : List Char :=
  partsWithin pairDepth c

/-- Puts a mark in front of marks in order, past those of lower classes; anything
of class zero stays in front. -/
def placeMark (c : Char) : List Char → List Char
  | [] => [c]
  | d :: rest =>
      if 0 < combiningClass d ∧ combiningClass d < combiningClass c then d :: placeMark c rest
      else c :: d :: rest

/-- A text with its marks in the order of their classes. -/
def inOrder (cs : List Char) : List Char :=
  cs.foldr placeMark []

/-- Puts what follows a letter together with it.  `held` are the marks that did not
combine with it, and `top` is the class of the last of them. -/
def composeWith (letter : Char) (held : List Char) (top : Nat) : List Char → List Char
  | [] => letter :: held
  | c :: rest =>
      let combined := if held.isEmpty || top < combiningClass c then whole? letter c else none
      match combined with
      | some whole => composeWith whole held top rest
      | none =>
          if combiningClass c = 0 then letter :: held ++ composeWith c [] 0 rest
          else composeWith letter (held ++ [c]) (combiningClass c) rest

/-- Puts letters and marks together; marks without a letter stay as they are. -/
def compose : List Char → List Char
  | [] => []
  | c :: rest => if combiningClass c = 0 then composeWith c [] 0 rest else c :: compose rest

/-- The composed form of a text. -/
def composed (cs : List Char) : List Char :=
  compose (inOrder (cs.flatMap parts))

end StreamStore.Unicode
