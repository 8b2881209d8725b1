import StreamStore.Text.Natural

/-!
# Quoted text in TOML

A text is written in one of four forms: between double quotes with escapes or
between single quotes as it is, and each of the two on one line or, with the
quote three times, over several lines.  This module has the four readers and the
one writer, which takes the first form that shows the text as it is and falls
back on escapes.

**Escapes are read character by character.**  A reader of the escaped forms is
always at one of a few *places*: between characters, behind a backslash, inside a
numeric escape, or around an escaped line break.  With the place as an argument
the reader is structural on the text, also where one escape spans ten
characters.

**Three quotes end a text of several lines,** and up to two quotes more may stand
directly before them; those belong to the text.  A line break directly after the
opening quotes does not belong to it.
-/

namespace StreamStore.Toml

/-- Whether a character may stand in a text, or in a comment, as it is. -/
def isPlain (c : Char) : Bool :=
  c == '\t' || (0x20 ≤ c.toNat && c.toNat != 0x7F)

/-- The blanks inside a line. -/
def isSpace (c : Char) : Bool :=
  c == ' ' || c == '\t'

/-- What follows the blanks at the front. -/
def skip (cs : List Char) : List Char :=
  cs.dropWhile isSpace

/-- Adds a character to what a reader read. -/
def consTo (c : Char) : Option (List Char × List Char) → Option (List Char × List Char)
  | some (s, rest) => some (c :: s, rest)
  | none => none

@[simp] theorem consTo_some (c : Char) (s rest : List Char) :
    consTo c (some (s, rest)) = some (c :: s, rest) := rfl

/-! ### Reading -/

/-- Where a reader of escapes stands. -/
inductive Place where
  /-- Between two characters. -/
  | between
  /-- Behind a backslash. -/
  | escape
  /-- Before a digit of a numeric escape: so many digits follow that one, and the
  digits so far have this value. -/
  | code (following value : Nat)
  /-- Behind a backslash and blanks that a line break must follow. -/
  | beforeBreak
  /-- Behind an escaped line break: blanks and further line breaks are skipped. -/
  | afterBreak
  deriving DecidableEq, Repr

/-- The character that a short escape stands for. -/
def shortEscape? (c : Char) : Option Char :=
  if c = '"' then some '"'
  else if c = '\\' then some '\\'
  else if c = 'b' then some (Char.ofNat 8)
  else if c = 'f' then some (Char.ofNat 12)
  else if c = 'n' then some '\n'
  else if c = 'r' then some '\r'
  else if c = 't' then some '\t'
  else none

/-- How many digits follow the mark of a numeric escape. -/
def codeLength? (c : Char) : Option Nat :=
  if c = 'u' then some 4 else if c = 'U' then some 8 else none

/-- Reads the inside of a text with escapes and its closing quotes; `lines` says
whether it is of the form for several lines. -/
def escaped (lines : Bool) : Place → List Char → Option (List Char × List Char)
  | _, [] => none
  | .escape, c :: rest =>
      match shortEscape? c with
      | some d => consTo d (escaped lines .between rest)
      | none =>
          match codeLength? c with
          | some n => escaped lines (.code (n - 1) 0) rest
          | none =>
              if lines ∧ c = '\n' then escaped lines .afterBreak rest
              else if lines ∧ isSpace c then escaped lines .beforeBreak rest
              else none
  | .code following value, c :: rest =>
      match Text.hexValue? c with
      | none => none
      | some d =>
          let value := value * 16 + d
          match following with
          | following + 1 => escaped lines (.code following value) rest
          | 0 =>
              if value.isValidChar then consTo (Char.ofNat value) (escaped lines .between rest)
              else none
  | .beforeBreak, c :: rest =>
      if c = '\n' then escaped lines .afterBreak rest
      else if isSpace c then escaped lines .beforeBreak rest
      else none
  | place, c :: rest =>
      if place = .afterBreak ∧ (c = '\n' ∨ isSpace c) then escaped lines .afterBreak rest
      else if c = '\\' then escaped lines .escape rest
      else if c = '"' then
        if lines then
          match rest with
          | '"' :: '"' :: '"' :: '"' :: rest => some (['"', '"'], rest)
          | '"' :: '"' :: '"' :: rest => some (['"'], rest)
          | '"' :: '"' :: rest => some ([], rest)
          | _ => consTo '"' (escaped lines .between rest)
        else some ([], rest)
      else if isPlain c ∨ (lines ∧ c = '\n') then consTo c (escaped lines .between rest)
      else none

/-- Reads the inside of a text without escapes on one line, and its closing quote. -/
def verbatim : List Char → Option (List Char × List Char)
  | [] => none
  | c :: rest =>
      if c = '\'' then some ([], rest)
      else if isPlain c then consTo c (verbatim rest)
      else none

/-- Reads the inside of a text without escapes over several lines, and its
closing quotes. -/
def verbatimLines : List Char → Option (List Char × List Char)
  | [] => none
  | c :: rest =>
      if c = '\'' then
        match rest with
        | '\'' :: '\'' :: '\'' :: '\'' :: rest => some (['\'', '\''], rest)
        | '\'' :: '\'' :: '\'' :: rest => some (['\''], rest)
        | '\'' :: '\'' :: rest => some ([], rest)
        | _ => consTo '\'' (verbatimLines rest)
      else if isPlain c ∨ c = '\n' then consTo c (verbatimLines rest)
      else none

/-- The characters without the line break that they may start with. -/
def withoutBreak : List Char → List Char
  | '\n' :: rest => rest
  | cs => cs

/-- Reads a text in any of the four forms. -/
def quoted : List Char → Option (List Char × List Char)
  | '"' :: '"' :: '"' :: rest => escaped true .between (withoutBreak rest)
  | '"' :: rest => escaped false .between rest
  | '\'' :: '\'' :: '\'' :: rest => verbatimLines (withoutBreak rest)
  | '\'' :: rest => verbatim rest
  | _ => none

/-- Reads a text in one of the two forms of a single line. -/
def quotedLine : List Char → Option (List Char × List Char)
  | '"' :: rest => escaped false .between rest
  | '\'' :: rest => verbatim rest
  | _ => none

/-! ### Writing -/

/-- Whether a character can only be written as an escape. -/
def isControl (c : Char) : Bool :=
  !isPlain c && c != '\n'

/-- Whether `c` stands more than `n` times in a row, when it already stood `run`
times directly before. -/
def runExceeds (c : Char) (n : Nat) : Nat → List Char → Bool
  | _, [] => false
  | run, d :: rest =>
      if d = c then (n ≤ run) || runExceeds c n (run + 1) rest
      else runExceeds c n 0 rest

/-- A character that is not a quote, inside a text with escapes. -/
def escapeOf (lines : Bool) (c : Char) : List Char :=
  if c = '\\' then ['\\', '\\']
  else if c = '\t' then ['\\', 't']
  else if c = '\n' then if lines then ['\n'] else ['\\', 'n']
  else if c = '\r' then ['\\', 'r']
  else if c = Char.ofNat 8 then ['\\', 'b']
  else if c = Char.ofNat 12 then ['\\', 'f']
  else if isControl c then
    ['\\', 'u', '0', '0', Text.hexDigit (c.toNat / 16), Text.hexDigit (c.toNat % 16)]
  else [c]

/-- The inside of a text with escapes.  On one line every quote is escaped; over
several lines only a quote that follows two others, `run` of which are written. -/
def escapes (lines : Bool) : Nat → List Char → List Char
  | _, [] => []
  | run, c :: rest =>
      if c = '"' then
        if lines ∧ run < 2 then '"' :: escapes lines (run + 1) rest
        else '\\' :: '"' :: escapes lines 0 rest
      else escapeOf lines c ++ escapes lines 0 rest

/-- The line break that stands after opening quotes when the text has one itself. -/
def openingBreak (cs : List Char) : List Char :=
  if cs.contains '\n' then ['\n'] else []

/-- A text with escapes, on one line. -/
def escapedLine (cs : List Char) : List Char :=
  '"' :: escapes false 0 cs ++ ['"']

/-- A text with escapes, over several lines. -/
def escapedLines (cs : List Char) : List Char :=
  '"' :: '"' :: '"' :: openingBreak cs ++ escapes true 0 cs ++ ['"', '"', '"']

/-- A text in quotes.  The first of the four forms that can show it without
escaping more than a tab is taken; if there is none, a text of several lines
keeps its line breaks and any other stands on one line. -/
def quote (cs : List Char) : List Char :=
  let control := cs.any isControl
  let lines := cs.contains '\n'
  let slash := cs.contains '\\'
  if !control && !lines && !slash && !cs.contains '"' then escapedLine cs
  else if !control && !lines && !cs.contains '\'' then '\'' :: cs ++ ['\'']
  else if !control && !slash && !runExceeds '"' 2 0 cs then escapedLines cs
  else if !control && !runExceeds '\'' 2 0 cs then
    '\'' :: '\'' :: '\'' :: openingBreak cs ++ cs ++ ['\'', '\'', '\'']
  else if lines then escapedLines cs
  else escapedLine cs

/-! ### What was written reads back -/

theorem toNat_lt_of_isControl {c : Char} (h : isControl c = true) : c.toNat < 0x80 := by
  simp [isControl, isPlain] at h
  omega

/-- A numeric escape stands for the character it was written for. -/
theorem escaped_control (lines : Bool) {c : Char} (h : isControl c = true) (rest : List Char) :
    escaped lines .between
        ('\\' :: 'u' :: '0' :: '0' :: Text.hexDigit (c.toNat / 16)
          :: Text.hexDigit (c.toNat % 16) :: rest)
      = consTo c (escaped lines .between rest) := by
  have small := toNat_lt_of_isControl h
  have high : Text.hexValue? (Text.hexDigit (c.toNat / 16)) = some (c.toNat / 16) :=
    Text.hexValue?_hexDigit (by omega)
  have low : Text.hexValue? (Text.hexDigit (c.toNat % 16)) = some (c.toNat % 16) :=
    Text.hexValue?_hexDigit (by omega)
  have whole : c.toNat / 16 * 16 + c.toNat % 16 = c.toNat := by omega
  have zero : Text.hexValue? '0' = some 0 := by decide
  have noShort : shortEscape? 'u' = none := by decide
  have four : codeLength? 'u' = some 4 := by decide
  have valid : c.toNat.isValidChar := c.valid
  simp [escaped, high, low, zero, noShort, four, whole, valid, Char.ofNat_toNat]

/-- The written form of a character that is not a quote stands for that character. -/
theorem escaped_escapeOf (lines : Bool) {c : Char} (h : c ≠ '"') (rest : List Char) :
    escaped lines .between (escapeOf lines c ++ rest)
      = consTo c (escaped lines .between rest) := by
  unfold escapeOf
  split
  · next hc => subst hc; simp [escaped, shortEscape?]
  split
  · next hc => subst hc; simp [escaped, shortEscape?]
  split
  · next hc => subst hc; cases lines <;> simp [escaped, shortEscape?]
  split
  · next hc => subst hc; simp [escaped, shortEscape?]
  split
  · next hc => subst hc; simp [escaped, shortEscape?]
  split
  · next hc => subst hc; simp [escaped, shortEscape?]
  split
  · next hc => exact escaped_control lines hc rest
  · next slash _ newline _ _ _ control =>
      have plain : isPlain c = true := by simpa [isControl, newline] using control
      simp [escaped, slash, h, plain]

/-- A text with escapes on one line reads back. -/
theorem escaped_escapes (cs rest : List Char) :
    escaped false .between (escapes false 0 cs ++ '"' :: rest) = some (cs, rest) := by
  induction cs with
  | nil => simp [escapes, escaped]
  | cons c cs ih =>
      by_cases h : c = '"'
      · subst h
        simp [escapes, escaped, shortEscape?, ih]
      · simp [escapes, h, escaped_escapeOf, ih]

/-- A text without escapes on one line reads back. -/
theorem verbatim_append {cs : List Char} (h : ∀ c ∈ cs, isPlain c = true ∧ c ≠ '\'')
    (rest : List Char) : verbatim (cs ++ '\'' :: rest) = some (cs, rest) := by
  induction cs with
  | nil => simp [verbatim]
  | cons c cs ih =>
      obtain ⟨plain, quote⟩ := h c (by simp)
      simp [verbatim, plain, quote, ih fun d hd => h d (by simp [hd])]

end StreamStore.Toml
