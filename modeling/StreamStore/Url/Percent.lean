import StreamStore.Text.Natural
import StreamStore.Text.Utf8

/-!
# Percent encoding

A URL may hold any character, but many of them only as `%XX`, one triple for
each of the character's UTF-8 bytes.  Which characters are encoded depends on
the place: the predicates below say it for a path that is read, for a segment
that is appended to a path, for credentials, for a query and for a fragment.  A
segment that is appended also encodes the characters that would end it, and the
percent sign.

Controls and everything outside ASCII are encoded everywhere.
-/

namespace StreamStore.Url

/-- The characters that are encoded in every place. -/
def isControlOrForeign (c : Char) : Bool :=
  c.toNat < 0x20 || 0x7F ≤ c.toNat

/-- The characters that are encoded in a fragment. -/
def encodedInFragment (c : Char) : Bool :=
  isControlOrForeign c || c == ' ' || c == '"' || c == '<' || c == '>' || c == Char.ofNat 96

/-- The characters that are encoded in a path that is read. -/
def encodedInPath (c : Char) : Bool :=
  encodedInFragment c || c == '#' || c == '?' || c == '{' || c == '}'

/-- The characters that are encoded in a segment that is appended to a path; the
backslash only where it would end the segment. -/
def encodedInSegment (special : Bool) (c : Char) : Bool :=
  encodedInPath c || c == '/' || c == '%' || (special && c == '\\')

/-- The characters that are encoded in credentials. -/
def encodedInCredentials (c : Char) : Bool :=
  encodedInPath c
    || ['/', ':', ';', '=', '@', '[', '\\', ']', '^', '|'].contains c

/-- The characters that are encoded in a query; the apostrophe only in the
schemes of the web. -/
def encodedInQuery (special : Bool) (c : Char) : Bool :=
  isControlOrForeign c || c == ' ' || c == '"' || c == '#' || c == '<' || c == '>'
    || (special && c.toNat == 39)

/-- One byte as a percent sign and two hexadecimal digits. -/
def percentByte (b : UInt8) : List Char :=
  ['%', Text.hexDigit (b.toNat / 16), Text.hexDigit (b.toNat % 16)]

/-- A text in which the characters of a class are percent-encoded. -/
def percentEncode (encoded : Char → Bool) (cs : List Char) : List Char :=
  cs.flatMap fun c =>
    if encoded c then (String.utf8EncodeChar c).flatMap percentByte else [c]

/-- The bytes of a text in which every triple `%XX` stands for its byte. -/
def percentDecode : List Char → List UInt8
  | [] => []
  | '%' :: a :: b :: rest =>
      match Text.hexValue? a, Text.hexValue? b with
      | some a, some b => UInt8.ofNat (a * 16 + b) :: percentDecode rest
      | _, _ => 37 :: percentDecode (a :: b :: rest)
  | c :: rest => String.utf8EncodeChar c ++ percentDecode rest

end StreamStore.Url
