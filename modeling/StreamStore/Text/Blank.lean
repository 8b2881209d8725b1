/-!
# Blank characters and trimming

Options, column lists and limits ignore blanks around (or inside) what the
caller wrote.  A character is *blank* when Unicode gives it the property
`White_Space`; the table below is that property, so it also covers the
no-break space, the line separators and the ideographic space, which the
ASCII test of the core library does not know.

Trimming is stated on lists of characters, where it is `dropWhile`, and lifted
to `String` once.
-/

namespace StreamStore.Text

/-- A character is blank exactly when Unicode gives it the property `White_Space`. -/
def isBlank (c : Char) : Bool :=
  let n := c.toNat
  (0x09 ≤ n && n ≤ 0x0D) || n == 0x20 || n == 0x85 || n == 0xA0 || n == 0x1680
    || (0x2000 ≤ n && n ≤ 0x200A) || n == 0x2028 || n == 0x2029 || n == 0x202F
    || n == 0x205F || n == 0x3000

/-- Every character the core library calls white space is blank. -/
theorem isBlank_of_isWhitespace {c : Char} (h : c.isWhitespace = true) : isBlank c = true := by
  simp only [Char.isWhitespace, Bool.or_eq_true, decide_eq_true_eq] at h
  rcases h with ((rfl | rfl) | rfl) | rfl <;> decide

/-- Drops the blanks at the front of a list of characters. -/
def dropLeading (cs : List Char) : List Char :=
  cs.dropWhile isBlank

/-- Drops the blanks at the end of a list of characters. -/
def dropTrailing (cs : List Char) : List Char :=
  (cs.reverse.dropWhile isBlank).reverse

theorem dropLeading_cons (c : Char) (cs : List Char) :
    dropLeading (c :: cs) = if isBlank c then dropLeading cs else c :: cs := by
  simp [dropLeading, List.dropWhile_cons]

/-- A text without the blanks at its front. -/
def trimStart (s : String) : String :=
  String.ofList (dropLeading s.toList)

/-- A text without the blanks at either end. -/
def trim (s : String) : String :=
  String.ofList (dropTrailing (dropLeading s.toList))

/-- A text is blank when trimming leaves nothing of it. -/
def isBlankText (s : String) : Bool :=
  s.toList.all isBlank

/-- A text in capitals, where only the letters `a` to `z` change. -/
def capitals (s : String) : String :=
  String.ofList (s.toList.map Char.toUpper)

/-- A text in small letters, where only the letters `A` to `Z` change. -/
def smallLetters (s : String) : String :=
  String.ofList (s.toList.map Char.toLower)

end StreamStore.Text
