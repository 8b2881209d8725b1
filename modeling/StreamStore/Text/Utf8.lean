/-!
# Text and bytes

Text travels as UTF-8.  Reading bytes back has two forms, for two duties:

* `textOf?` is strict.  Identifiers that came out of a base64 form must be text
  or they are refused.
* `lossyText` never fails.  The body of a gateway's response is shown to people
  even when it is damaged, so every ill-formed stretch becomes one replacement
  character.  A stretch is the longest beginning of a well-formed sequence, or
  a single byte that begins none; this is the practice the Unicode standard
  recommends.

`lossyText` is a machine with one state per place inside a sequence
(`Expecting`), so it is structural on the bytes.
-/

namespace StreamStore.Text

/-- The UTF-8 bytes of a text. -/
def bytesOf (s : String) : List UInt8 :=
  s.toUTF8.toList

/-- The text that a list of bytes encodes, if it is well-formed UTF-8. -/
def textOf? (bytes : List UInt8) : Option String :=
  String.fromUTF8? bytes.toByteArray

/-- The character that stands for an ill-formed stretch of bytes. -/
def replacement : Char := '\uFFFD'

/-- The place inside a sequence: how many bytes are still to come, the bounds on
the next one, and the bits collected so far. -/
structure Expecting where
  /-- Bytes still to come, the next one included. -/
  left : Nat
  /-- Least value of the next byte. -/
  low : Nat
  /-- Greatest value of the next byte. -/
  high : Nat
  /-- Bits collected so far. -/
  bits : Nat

/-- What a byte does between two sequences: it is a character of its own, or it
opens a sequence, or it is ill-formed. -/
def openSequence (b : Nat) : List Char × Option Expecting :=
  if b < 0x80 then ([Char.ofNat b], none)
  else if 0xC2 ≤ b ∧ b ≤ 0xDF then ([], some ⟨1, 0x80, 0xBF, b - 0xC0⟩)
  else if b = 0xE0 then ([], some ⟨2, 0xA0, 0xBF, b - 0xE0⟩)
  else if b = 0xED then ([], some ⟨2, 0x80, 0x9F, b - 0xE0⟩)
  else if 0xE1 ≤ b ∧ b ≤ 0xEF then ([], some ⟨2, 0x80, 0xBF, b - 0xE0⟩)
  else if b = 0xF0 then ([], some ⟨3, 0x90, 0xBF, b - 0xF0⟩)
  else if b = 0xF4 then ([], some ⟨3, 0x80, 0x8F, b - 0xF0⟩)
  else if 0xF1 ≤ b ∧ b ≤ 0xF3 then ([], some ⟨3, 0x80, 0xBF, b - 0xF0⟩)
  else ([replacement], none)

/-- What a byte does at a place inside a sequence.  A byte that does not fit ends
the stretch with a replacement character and is looked at afresh. -/
def continueSequence (e : Expecting) (b : Nat) : List Char × Option Expecting :=
  if e.low ≤ b ∧ b ≤ e.high then
    let bits := e.bits * 64 + (b - 0x80)
    if e.left ≤ 1 then ([Char.ofNat bits], none)
    else ([], some ⟨e.left - 1, 0x80, 0xBF, bits⟩)
  else
    let (out, next) := openSequence b
    (replacement :: out, next)

/-- Reads bytes from a given place. -/
def lossyFrom : Option Expecting → List UInt8 → List Char
  | none, [] => []
  | some _, [] => [replacement]
  | none, b :: bs =>
      let (out, next) := openSequence b.toNat
      out ++ lossyFrom next bs
  | some e, b :: bs =>
      let (out, next) := continueSequence e b.toNat
      out ++ lossyFrom next bs

/-- The text of a list of bytes, with a replacement character for every
ill-formed stretch. -/
def lossyText (bytes : List UInt8) : String :=
  String.ofList (lossyFrom none bytes)

end StreamStore.Text
