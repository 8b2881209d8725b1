import StreamStore.Url.Basic

/-!
# Reading URLs

`Url.parse` reads an absolute URL by the rules of the URL standard for the web:

* controls and blanks at either end, and tabs and line ends anywhere, do not count;
* the scheme is put into small letters, and a port that the scheme implies is dropped;
* in the schemes of the web any number of slashes, also backslashes, stands
  before the host, and a backslash counts as a slash in the path;
* the segments `.` and `..` of a path are resolved, also when their dots are
  percent-encoded, and characters that a URL cannot hold are percent-encoded;
* what stands before the last `@` of the authority are credentials.

An address without a scheme is refused, for there is nothing it is relative to.
-/

namespace StreamStore.Url

/-! ### Paths -/

/-- What stands before the first character of a class, and from there on. -/
def cutBefore (stop : Char → Bool) (cs : List Char) : List Char × List Char :=
  (cs.takeWhile fun c => !stop c, cs.dropWhile fun c => !stop c)

/-- Whether a character separates the segments of a path. -/
def isSlash (special : Bool) (c : Char) : Bool :=
  c == '/' || (special && c == '\\')

/-- Whether a character ends a path. -/
def endsPath (c : Char) : Bool :=
  c == '?' || c == '#'

/-- Whether a character ends an authority. -/
def endsAuthority (special : Bool) (c : Char) : Bool :=
  isSlash special c || endsPath c

/-- The pieces of a path between its slashes. -/
def piecesOf (special : Bool) (cs : List Char) : List (List Char) :=
  Text.pieces '/' (cs.map fun c => if isSlash special c then '/' else c)

/-- The pieces of a path after the slash that it starts with; a path without one is
taken as if it had one. -/
def piecesAfterSlash (special : Bool) : List Char → List (List Char)
  | [] => [[]]
  | c :: rest => piecesOf special (if isSlash special c then rest else c :: rest)

/-- Reads the query and the fragment. -/
def queryAndFragment (special : Bool) (cs : List Char) : Option String × Option String :=
  let (beforeHash, fromHash) := cutBefore (· == '#') cs
  let query := match beforeHash with
    | '?' :: q => some (String.ofList (percentEncode (encodedInQuery special) q))
    | _ => none
  let fragment := match fromHash with
    | '#' :: f => some (String.ofList (percentEncode encodedInFragment f))
    | _ => none
  (query, fragment)

/-! ### Authorities -/

/-- What stands before and after the last `@`, if there is one. -/
def cutLastAt? (cs : List Char) : Option (List Char × List Char) :=
  if cs.contains '@' then
    let after := (cs.reverse.takeWhile (· != '@')).reverse
    some (cs.take (cs.length - after.length - 1), after)
  else none

/-- The credentials that stand before an `@`: a name and, after a colon, a password. -/
def credentials? (cs : List Char) : Option Credentials :=
  let (user, password) := (Text.cutOnce ':' cs).getD (cs, [])
  let encode (cs : List Char) := String.ofList (percentEncode encodedInCredentials cs)
  if user.isEmpty ∧ password.isEmpty then none
  else some ⟨encode user, if password.isEmpty then none else some (encode password)⟩

/-- The host and, after a colon outside brackets, what follows it. -/
def cutPort : Bool → List Char → List Char × Option (List Char)
  | _, [] => ([], none)
  | inside, c :: rest =>
      if c = ':' ∧ inside = false then ([], some rest)
      else
        let inside := if c = '[' then true else if c = ']' then false else inside
        let (host, port) := cutPort inside rest
        (c :: host, port)

/-- The port at the front of a text, and what follows its digits: nothing, or a
backslash.  No digits, or those of the port that the scheme implies, are no port. -/
def port? (scheme : String) (cs : List Char) : Option (Option Nat × List Char) :=
  let (digits, rest) := cutBefore (fun c => !c.isDigit) cs
  let n := Text.valueOf digits
  if !(rest.isEmpty || rest.head? = some '\\') || 65535 < n then none
  else if digits.isEmpty || impliedPort? scheme = some n then some (none, rest)
  else some (some n, rest)

/-- The host, the port and what follows them in an authority without credentials. -/
def server? (scheme : String) (cs : List Char) : Option (Host × Option Nat × List Char) := do
  let (host, port) := cutPort false cs
  let special := isSpecial scheme
  if host.isEmpty && (special || port.isSome) then none
  else
    let h ← if host.isEmpty then some (.name "")
      else if special then Host.parse? host
      else Host.parseOpaque? host
    let (p, rest) ← match port with
      | some p => port? scheme p
      | none => some (none, [])
    some (h, p, rest)

/-- Reads what follows the two slashes before an authority. -/
def withAuthority? (scheme : String) (cs : List Char) : Option Url := do
  let special := isSpecial scheme
  let (authority, rest) := cutBefore (endsAuthority special) cs
  let (credentials, server) := match cutLastAt? authority with
    | some (before, after) => (credentials? before, after)
    | none => (none, authority)
  if authority = ['@'] ∧ rest ≠ [] then none
  else
    let (host, port, tail) ← server? scheme server
    if credentials.isSome && host = .name "" then none
    else
      let (path, rest) := cutBefore endsPath (tail ++ rest)
      let segments :=
        if path.isEmpty && !special then []
        else (ofPieces false (piecesAfterSlash special path)).done
      let (query, fragment) := queryAndFragment special rest
      some ⟨scheme, credentials, some host, port, false, .segments segments, query, fragment⟩

/-- Reads what follows the colon of a scheme that is not one of the web's. -/
def otherUrl? (scheme : String) (cs : List Char) : Option Url :=
  match cs with
  | '/' :: '/' :: rest => withAuthority? scheme rest
  | cs =>
      let (path, rest) := cutBefore endsPath cs
      let (query, fragment) := queryAndFragment false rest
      if path.head? = some '/' then
        let segments := (ofPieces false (piecesAfterSlash false path)).done
        let dotted := segments.head? = some "" && 1 < segments.length
        some ⟨scheme, none, none, none, dotted, .segments segments, query, fragment⟩
      else
        some ⟨scheme, none, none, none, false,
          .opaqueText (String.ofList (percentEncode isControlOrForeign path)), query, fragment⟩

/-! ### Files -/

/-- A file at a host. -/
def fileAt (host : Host) (pieces : List (List Char)) (rest : List Char) : Url :=
  let path := ofPieces true pieces
  let (query, fragment) := queryAndFragment true (dropLineChars rest)
  ⟨fileScheme, none, some (if path.drive then .name "" else host), none, false,
    .segments path.done, query, fragment⟩

/-- The slashes at the front of a text, two at most, and what follows them; tabs and
line ends before a slash do not count. -/
def cutSlashes (raw : List Char) : Nat × List Char :=
  match raw.dropWhile isLineChar with
  | [] => (0, raw)
  | a :: rest =>
      if isSlash true a then
        match rest.dropWhile isLineChar with
        | [] => (1, rest)
        | b :: tail => if isSlash true b then (2, tail) else (1, rest)
      else (0, raw)

/-- Reads what follows the colon of the scheme `file`.  Tabs and line ends are still
in it, because of the drives. -/
def fileUrl? (raw : List Char) : Option Url :=
  let (slashes, raw) := cutSlashes raw
  if slashes < 2 then
    let (path, rest) := cutBefore endsPath raw
    some (fileAt (.name "") (piecesOf true path) rest)
  else
    let (host, rest) := cutBefore (endsAuthority true) raw
    let host := dropLineChars host
    if isDrive host then
      let (path, rest) := cutBefore endsPath raw
      some (fileAt (.name "") (piecesOf true path) rest)
    else
      let (path, rest) := cutBefore endsPath rest
      if host.isEmpty then some (fileAt (.name "") (piecesOf true path) rest)
      else
        match Host.parse? host with
        | none => none
        | some h =>
            if h = .name "localhost" then some (fileAt (.name "") (piecesOf true path) rest)
            else some (fileAt h (piecesAfterSlash true path) rest)

/-! ### Whole addresses -/

/-- Whether a character may stand in a scheme after its first letter. -/
def inScheme (c : Char) : Bool :=
  c.isAlphanum || c == '+' || c == '-' || c == '.'

/-- The scheme, in small letters, and what follows its colon. -/
def scheme? (cs : List Char) : Option (String × List Char) :=
  match cs with
  | c :: _ =>
      if c.isAlpha then
        let (scheme, rest) := cutBefore (fun c => !inScheme c) cs
        match rest with
        | ':' :: rest => some (String.ofList (scheme.map Char.toLower), rest)
        | _ => none
      else none
  | [] => none

/-- An address without the controls and blanks at its ends. -/
def trimmed (s : String) : List Char :=
  let ignorable (c : Char) : Bool := c.toNat ≤ 0x20
  ((s.toList.dropWhile ignorable).reverse.dropWhile ignorable).reverse

/-- Reads an absolute URL. -/
def parse (s : String) : Option Url := do
  let raw := trimmed s
  let (scheme, rest) ← scheme? (dropLineChars raw)
  if scheme = fileScheme then fileUrl? ((raw.dropWhile (· != ':')).drop 1)
  else if isSpecial scheme then
    withAuthority? scheme (rest.dropWhile fun c => c == '/' || c == '\\')
  else otherUrl? scheme rest

end StreamStore.Url
