import StreamStore.Text.Pieces
import StreamStore.Url.Percent

/-!
# Segments of paths

A path is a list of segments, each with a slash before it; the path `/` is one
empty segment.  Two things happen to segments, and both are stated here:

* a path that is read resolves the segments `.` and `..` (`ofPieces`);
* a path that requests are built from gets more segments (`appendSegment`).

Tabs and line ends inside a segment do not count.

**Drives.**  A segment of a letter and a colon, or a bar in its place, is a drive,
and `..` never leaves a drive, also if a backslash and more follow it where a
backslash separates nothing.  In the scheme `file` a drive that stands first is
written with a colon and belongs to no host, a drive that stands first is followed
by a slash even if only tabs and line ends part it from what comes next, and
empty segments at the front do not count.
-/

namespace StreamStore.Url

/-! ### Kinds of segments -/

/-- The characters that do not count wherever they stand. -/
def isLineChar (c : Char) : Bool :=
  c == '\t' || c == '\n' || c == '\r'

/-- A text without tabs and line ends. -/
def dropLineChars (cs : List Char) : List Char :=
  cs.filter fun c => !isLineChar c

/-- Whether a segment means the present directory. -/
def isSingleDot (s : List Char) : Bool :=
  let t := s.map Char.toLower
  t == ['.'] || t == ['%', '2', 'e']

/-- Whether a segment means the parent directory. -/
def isDoubleDot (s : List Char) : Bool :=
  let t := s.map Char.toLower
  t == ['.', '.'] || t == ['.', '%', '2', 'e'] || t == ['%', '2', 'e', '.']
    || t == ['%', '2', 'e', '%', '2', 'e']

/-- Whether a segment is a drive. -/
def isDrive : List Char → Bool
  | [letter, mark] => letter.isAlpha && (mark == ':' || mark == '|')
  | _ => false

/-- Whether a segment starts with a drive that ends there or at a backslash. -/
def startsWithDrive (s : List Char) : Bool :=
  isDrive (s.take 2) && (s[2]?.all fun c => c == '\\')

/-- The segments of the parent directory; a drive is never left. -/
def parent (segments : List String) : List String :=
  if segments.getLast?.any fun s => startsWithDrive s.toList then segments
  else segments.dropLast

/-- A drive as it is written: with a colon. -/
def driveText (s : List Char) : String :=
  String.ofList (s.take 1 ++ [':'])

/-- The drive at the front of a segment and what follows it, if tabs and line ends
are all that parts them. -/
def cutDrive? (raw : List Char) : Option (List Char × List Char) :=
  match raw.dropWhile isLineChar with
  | letter :: rest =>
      match rest.dropWhile isLineChar with
      | ':' :: c :: rest =>
          if letter.isAlpha && isLineChar c && !(dropLineChars rest).isEmpty then
            some ([letter, ':'], dropLineChars rest)
          else none
      | _ => none
  | [] => none

/-! ### Reading a path -/

/-- The segments of the part of a path that has been read. -/
structure Walk where
  /-- The segments, each of them followed by a slash unless it is the last. -/
  done : List String
  /-- Whether a drive was found in the first place of a path in the scheme `file`. -/
  drive : Bool
  deriving DecidableEq, Repr

/-- Takes one segment of a path; the last one is not followed by a slash. -/
def Walk.enter (inFile isLast : Bool) (w : Walk) (raw : List Char) : Walk :=
  let isFirst := inFile && w.done.isEmpty
  let s := percentEncode encodedInPath (dropLineChars raw)
  let slash := if isLast then [""] else []
  match if isFirst then cutDrive? raw else none with
  | some (drive, rest) =>
      { w with done := [String.ofList drive, String.ofList (percentEncode encodedInPath rest)] }
  | none =>
      if isDoubleDot s then { w with done := parent w.done ++ slash }
      else if isSingleDot s then { w with done := w.done ++ slash }
      else if isFirst && isDrive s then ⟨[driveText s], true⟩
      else { w with done := w.done ++ [String.ofList s] }

/-- Takes the segments of a path one after another. -/
def Walk.enterAll (inFile : Bool) : Walk → List (List Char) → Walk
  | w, [] => w
  | w, [raw] => w.enter inFile true raw
  | w, raw :: rest => Walk.enterAll inFile (w.enter inFile false raw) rest

/-- Segments without the empty ones at their front; the path `/` remains at least. -/
def dropEmpty (segments : List String) : List String :=
  let rest := segments.dropWhile String.isEmpty
  if rest.isEmpty then [""] else rest

/-- The segments of a path that is read, and whether its first is a drive that
belongs to no host. -/
def ofPieces (inFile : Bool) (pieces : List (List Char)) : Walk :=
  let w := Walk.enterAll inFile ⟨[], false⟩ pieces
  if inFile then { w with done := dropEmpty w.done } else w

/-! ### Appending segments -/

/-- Segments without one empty segment at their end; the path `/` is left alone. -/
def popEmpty (segments : List String) : List String :=
  if 1 < segments.length ∧ segments.getLast? = some "" then segments.dropLast else segments

/-- The segments that a text is in the first place of a path. -/
def firstSegments (inFile : Bool) (encode : List Char → String) (raw : List Char) : List String :=
  let s := dropLineChars raw
  if inFile then
    match cutDrive? raw with
    | some (drive, rest) => [encode drive, encode rest]
    | none => if isDrive s then [driveText s] else [encode s]
  else [encode s]

/-- Adds a segment at the end; it takes the place of the path `/`. -/
def addLast (inFile : Bool) (encode : List Char → String) (segments : List String)
    (raw : List Char) : List String :=
  if segments = [""] then firstSegments inFile encode raw
  else segments ++ [encode (dropLineChars raw)]

/-- Segments after one more. -/
def appendSegment (inFile special : Bool) (segments : List String) (s : String) : List String :=
  if s = "." ∨ s = ".." then segments
  else
    let encode (cs : List Char) := String.ofList (percentEncode (encodedInSegment special) cs)
    let cs := dropLineChars s.toList
    if cs = ['.'] then addLast inFile encode segments []
    else if cs = ['.', '.'] then parent segments ++ [""]
    else addLast inFile encode segments s.toList

end StreamStore.Url
