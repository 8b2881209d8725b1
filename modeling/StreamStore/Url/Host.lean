import StreamStore.Url.Name
import StreamStore.Url.Percent

/-!
# Hosts

The host of a URL is a name, an IPv4 address, an IPv6 address, or, outside the
schemes of the web, a text without structure.

A name is percent-decoded and written in ASCII (`asciiName?`); what is not UTF-8
becomes a character that no name has.  A name whose last label is a number is an
IPv4 address or nothing.  The parts of an
IPv4 address may be decimal, octal (`0…`) or hexadecimal (`0x…`), and the last
one may stand for several bytes.  An IPv6 address is written in brackets with
its longest run of zeros left out.
-/

namespace StreamStore.Url

/-- The host of a URL. -/
inductive Host where
  /-- A name, in ASCII. -/
  | name (text : String)
  /-- An IPv4 address, as one number. -/
  | ipv4 (address : Nat)
  /-- An IPv6 address, as eight groups of sixteen bits. -/
  | ipv6 (groups : List Nat)
  deriving DecidableEq, Repr

/-! ### IPv4 -/

/-- The number of one part of an IPv4 address. -/
def ipv4Part? (cs : List Char) : Option Nat :=
  match cs with
  | [] => none
  | '0' :: x :: rest =>
      if x = 'x' ∨ x = 'X' then
        (rest.mapM Text.hexValue?).map fun ds => ds.foldl (fun n d => n * 16 + d) 0
      else if (x :: rest).all fun c => '0' ≤ c && c ≤ '7' then
        some ((x :: rest).foldl (fun n c => n * 8 + Text.digitValue c) 0)
      else none
  | cs => if cs.all Char.isDigit then some (Text.valueOf cs) else none

/-- The labels of a name without the empty one after a final dot. -/
def labelsOf (cs : List Char) : List (List Char) :=
  let labels := Text.pieces '.' cs
  if 1 < labels.length ∧ labels.getLast? = some [] then labels.dropLast else labels

/-- Whether the last label of a name is a number, so that the name must be an
IPv4 address. -/
def endsInNumber (cs : List Char) : Bool :=
  match (labelsOf cs).getLast? with
  | some last =>
      !last.isEmpty &&
        (last.all Char.isDigit ||
          match last with
          | '0' :: x :: _ => (x == 'x' || x == 'X') && (ipv4Part? last).isSome
          | _ => false)
  | none => false

/-- The address that the parts of an IPv4 address make up: every part but the
last is one byte, and the last fills the bytes that remain. -/
def ipv4OfParts : List Nat → Nat → Option Nat
  | [], _ => none
  | [last], bytes => if last < Nat.pow 256 bytes then some last else none
  | part :: rest, bytes + 1 =>
      if part < 256 then (ipv4OfParts rest bytes).map fun n => part * Nat.pow 256 bytes + n
      else none
  | _, 0 => none

/-- The IPv4 address of a name that ends in a number. -/
def ipv4? (cs : List Char) : Option Nat := do
  let parts ← (labelsOf cs).mapM ipv4Part?
  if parts.length ≤ 4 then ipv4OfParts parts 4 else none

/-- An IPv4 address in dotted notation. -/
def ipv4Text (n : Nat) : String :=
  s!"{n / 16777216}.{n / 65536 % 256}.{n / 256 % 256}.{n % 256}"

/-! ### IPv6 -/

/-- One group of an IPv6 address: one to four hexadecimal digits. -/
def ipv6Group? (cs : List Char) : Option Nat :=
  if cs.isEmpty ∨ 4 < cs.length then none
  else (cs.mapM Text.hexValue?).map fun ds => ds.foldl (fun n d => n * 16 + d) 0

/-- One byte of an IPv4 address inside an IPv6 one: decimal, without leading zeros. -/
def byte? (cs : List Char) : Option Nat :=
  if cs.isEmpty ∨ !cs.all Char.isDigit ∨ (1 < cs.length ∧ cs.head? = some '0') ∨ 3 < cs.length
  then none
  else if Text.valueOf cs < 256 then some (Text.valueOf cs) else none

/-- The groups between colons; the last of them may be an IPv4 address, which is
two groups. -/
def ipv6Groups? (last : Bool) : List (List Char) → Option (List Nat)
  | [] => some []
  | [cs] =>
      if last && cs.contains '.' then
        match (Text.pieces '.' cs).mapM byte? with
        | some [a, b, c, d] => some [a * 256 + b, c * 256 + d]
        | _ => none
      else (ipv6Group? cs).map fun g => [g]
  | cs :: rest => do
      let g ← ipv6Group? cs
      let gs ← ipv6Groups? last rest
      some (g :: gs)

/-- What stands before and after the first `::`. -/
def cutDoubleColon : List Char → Option (List Char × List Char)
  | ':' :: ':' :: rest => some ([], rest)
  | c :: rest => (cutDoubleColon rest).map fun (before, after) => (c :: before, after)
  | [] => none

/-- The groups of one side of a `::`. -/
def sideGroups? (last : Bool) (cs : List Char) : Option (List Nat) :=
  if cs.isEmpty then some [] else ipv6Groups? last (Text.pieces ':' cs)

/-- The groups of an IPv6 address: eight, or fewer around one `::`. -/
def ipv6? (cs : List Char) : Option (List Nat) :=
  match cutDoubleColon cs with
  | none => do
      let groups ← ipv6Groups? true (Text.pieces ':' cs)
      if groups.length = 8 then some groups else none
  | some (before, after) => do
      let left ← sideGroups? false before
      let right ← sideGroups? true after
      if left.length + right.length ≤ 7 then
        some (left ++ List.replicate (8 - left.length - right.length) 0 ++ right)
      else none

/-- How many zeros a list starts with. -/
def leadingZeros (groups : List Nat) : Nat :=
  (groups.takeWhile (· == 0)).length

/-- The place and the length of the first of the longest runs of zeros; shorter
than two is none. -/
def longestZeros (groups : List Nat) : Option (Nat × Nat) :=
  let runs := (List.range groups.length).map fun i => (i, leadingZeros (groups.drop i))
  let best := runs.foldl (fun best run => if best.2 < run.2 then run else best) (0, 0)
  if 2 ≤ best.2 then some best else none

/-- Groups in hexadecimal with colons between them. -/
def groupsText (groups : List Nat) : String :=
  String.intercalate ":" (groups.map fun g => String.ofList (Nat.toDigits 16 g))

/-- An IPv6 address with its longest run of zeros left out. -/
def ipv6Text (groups : List Nat) : String :=
  match longestZeros groups with
  | none => groupsText groups
  | some (start, length) =>
      s!"{groupsText (groups.take start)}::{groupsText (groups.drop (start + length))}"

/-! ### Names -/

/-- The characters that no unstructured host may have. -/
def forbiddenInOpaque (c : Char) : Bool :=
  c.toNat == 0 || c == '\t' || c == '\n' || c == '\r' || c == ' '
    || ['#', '/', ':', '<', '>', '?', '@', '[', '\\', ']', '^', '|'].contains c

/-- The address in brackets. -/
def bracketed? : List Char → Option (List Char)
  | '[' :: rest =>
      match rest.reverse with
      | ']' :: cs => some cs.reverse
      | _ => none
  | _ => none

/-- The host of a URL with one of the schemes of the web. -/
def Host.parse? (cs : List Char) : Option Host :=
  if cs.head? = some '[' then (bracketed? cs).bind fun cs => (ipv6? cs).map .ipv6
  else
    match asciiName? (Text.lossyFrom none (percentDecode cs)) with
    | none => none
    | some ascii =>
        if ascii.isEmpty then none
        else if endsInNumber ascii then (ipv4? ascii).map .ipv4
        else some (.name (String.ofList ascii))

/-- The host of a URL with any other scheme. -/
def Host.parseOpaque? (cs : List Char) : Option Host :=
  if cs.head? = some '[' then (bracketed? cs).bind fun cs => (ipv6? cs).map .ipv6
  else if cs.any forbiddenInOpaque then none
  else some (.name (String.ofList (percentEncode isControlOrForeign cs)))

/-- A host as it stands in a URL. -/
def Host.text : Host → String
  | .name text => text
  | .ipv4 address => ipv4Text address
  | .ipv6 groups => s!"[{ipv6Text groups}]"

end StreamStore.Url
