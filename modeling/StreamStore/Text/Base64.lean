import StreamStore.Text.Utf8

/-!
# Base64 identifiers

Row keys, qualifiers, values and column families travel through the gateway in
base64: three bytes are four characters of the alphabet `A–Z a–z 0–9 + /`, and a
last group of one or two bytes is completed with the padding character `=`.

The reader is strict, so that every identifier has one spelling only: padding is
required, nothing may follow it, and the bits that the last character has to
spare must be zero.  Both directions work on groups, by structural recursion.
-/

namespace StreamStore.Base64

/-- The character for a group of six bits. -/
def charOf (n : Nat) : Char :=
  if n < 26 then Char.ofNat ('A'.toNat + n)
  else if n < 52 then Char.ofNat ('a'.toNat + (n - 26))
  else if n < 62 then Char.ofNat ('0'.toNat + (n - 52))
  else if n = 62 then '+'
  else '/'

/-- The group of six bits for a character, if it belongs to the alphabet. -/
def valueOf? (c : Char) : Option Nat :=
  if 'A' ≤ c ∧ c ≤ 'Z' then some (c.toNat - 'A'.toNat)
  else if 'a' ≤ c ∧ c ≤ 'z' then some (c.toNat - 'a'.toNat + 26)
  else if '0' ≤ c ∧ c ≤ '9' then some (c.toNat - '0'.toNat + 52)
  else if c = '+' then some 62
  else if c = '/' then some 63
  else none

/-- The base64 form of a list of bytes. -/
def encodeBytes : List UInt8 → List Char
  | [] => []
  | [a] => [charOf (a.toNat / 4), charOf (a.toNat % 4 * 16), '=', '=']
  | [a, b] =>
      [charOf (a.toNat / 4), charOf (a.toNat % 4 * 16 + b.toNat / 16),
        charOf (b.toNat % 16 * 4), '=']
  | a :: b :: c :: rest =>
      charOf (a.toNat / 4) :: charOf (a.toNat % 4 * 16 + b.toNat / 16)
        :: charOf (b.toNat % 16 * 4 + c.toNat / 64) :: charOf (c.toNat % 64)
        :: encodeBytes rest

/-- The bytes of a base64 form.  The two forms of a padded last group come
first; every other group has four characters of the alphabet. -/
def decodeBytes : List Char → Option (List UInt8)
  | [] => some []
  | [w, x, '=', '='] => do
      let w ← valueOf? w
      let x ← valueOf? x
      if x % 16 = 0 then some [UInt8.ofNat (w * 4 + x / 16)] else none
  | [w, x, y, '='] => do
      let w ← valueOf? w
      let x ← valueOf? x
      let y ← valueOf? y
      if y % 4 = 0 then
        some [UInt8.ofNat (w * 4 + x / 16), UInt8.ofNat (x % 16 * 16 + y / 4)]
      else none
  | w :: x :: y :: z :: rest => do
      let w ← valueOf? w
      let x ← valueOf? x
      let y ← valueOf? y
      let z ← valueOf? z
      let bytes ← decodeBytes rest
      some (UInt8.ofNat (w * 4 + x / 16) :: UInt8.ofNat (x % 16 * 16 + y / 4)
        :: UInt8.ofNat (y % 4 * 64 + z) :: bytes)
  | _ => none

/-- The base64 form of a text. -/
def encode (s : String) : String :=
  String.ofList (encodeBytes (Text.bytesOf s))

/-- Why a base64 form is refused. -/
inductive Fault where
  /-- The characters are not a base64 form. -/
  | form
  /-- The bytes are not UTF-8. -/
  | bytes
  deriving DecidableEq, Repr

/-- The text of a base64 form. -/
def decode (s : String) : Except Fault String :=
  match decodeBytes s.toList with
  | none => .error .form
  | some bytes =>
      match Text.textOf? bytes with
      | none => .error .bytes
      | some t => .ok t

end StreamStore.Base64
