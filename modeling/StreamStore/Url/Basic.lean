import StreamStore.Text.Base64
import StreamStore.Url.Host
import StreamStore.Url.Segments

/-!
# URLs

A URL that requests are built from.  Its path is a list of segments, so that
appending a segment is an operation on lists; a URL whose path is one text
(`mailto:…`) has no segments and cannot serve as a base.

`Url.append` is what turns the base of a gateway and the names of a table, a row
or a scanner into the address of a request:

* one empty segment at the end of the base is given up;
* the segments `.` and `..` are skipped;
* tabs and line ends inside a segment are dropped, and a segment that becomes
  `.` or `..` only thereby means the present and the parent directory;
* every other segment is percent-encoded and appended, except that the first
  segment takes the place of the path `/`.

Credentials that can be read do not travel in the address of a request but in a
header of it (`Url.signedOff`).
-/

namespace StreamStore

/-- The path of a URL. -/
inductive Url.Path where
  /-- One text without structure. -/
  | opaqueText (text : String)
  /-- The segments after the slashes; no segments is the empty path. -/
  | segments (segments : List String)
  deriving DecidableEq, Repr

/-- Who asks, as a URL says it, percent-encoded. -/
structure Url.Credentials where
  /-- The name of the user. -/
  user : String
  /-- The password, if there is one. -/
  password : Option String
  deriving DecidableEq, Repr

/-- The address of a resource. -/
structure Url where
  /-- The scheme, in small letters. -/
  scheme : String
  /-- Who asks, if the address says so. -/
  credentials : Option Url.Credentials
  /-- The host, if there is one. -/
  host : Option Url.Host
  /-- The port, unless it is the one the scheme implies. -/
  port : Option Nat
  /-- Whether `/.` stands before the path, which keeps a path that begins with two
  slashes from being read as a host. -/
  dotted : Bool
  /-- The path. -/
  path : Url.Path
  /-- What follows the question mark. -/
  query : Option String
  /-- What follows the hash sign. -/
  fragment : Option String
  deriving DecidableEq, Repr

namespace Url

/-- The scheme of files. -/
def fileScheme : String :=
  "file"

/-- The schemes of the web, whose URLs always have a host. -/
def isSpecial (scheme : String) : Bool :=
  ["http", "https", "ws", "wss", "ftp", fileScheme].contains scheme

/-- The port that a scheme implies. -/
def impliedPort? (scheme : String) : Option Nat :=
  if scheme = "http" ∨ scheme = "ws" then some 80
  else if scheme = "https" ∨ scheme = "wss" then some 443
  else if scheme = "ftp" then some 21
  else none

/-- A path as it stands in a URL. -/
def Path.text : Path → String
  | .opaqueText text => text
  | .segments parts => String.join (parts.map fun s => "/" ++ s)

/-- Credentials as they stand in a URL. -/
def Credentials.text (c : Credentials) : String :=
  match c.password with
  | some password => s!"{c.user}:{password}@"
  | none => s!"{c.user}@"

/-- The URL as text. -/
def text (u : Url) : String :=
  let credentials := (u.credentials.map Credentials.text).getD ""
  let host := match u.host with
    | some h => s!"//{credentials}{h.text}"
    | none => ""
  let port := match u.port with
    | some p => s!":{p}"
    | none => ""
  let dot := if u.dotted then "/." else ""
  let query := match u.query with
    | some q => "?" ++ q
    | none => ""
  let fragment := match u.fragment with
    | some f => "#" ++ f
    | none => ""
  s!"{u.scheme}:{host}{port}{dot}{u.path.text}{query}{fragment}"

/-- Whether there are paths under the URL. -/
def isBase (u : Url) : Bool :=
  match u.path with
  | .segments _ => true
  | .opaqueText _ => false

/-! ### Credentials -/

/-- The text that a percent-encoded text stands for, if it is one. -/
def plainText? (s : String) : Option String :=
  Text.textOf? (percentDecode s.toList)

/-- The name and the password that credentials stand for.  They cannot be read if
the name is no text, or if it is empty and the password is no text. -/
def Credentials.read? (c : Credentials) : Option (String × Option String) := do
  let user ← plainText? c.user
  let password := c.password.bind plainText?
  if user.isEmpty ∧ password.isNone then none else some (user, password)

/-- The header that says who asks, if the credentials of the URL can be read. -/
def authorization? (u : Url) : Option String :=
  (u.credentials.bind Credentials.read?).map fun (user, password) =>
    "Basic " ++ Base64.encode (user ++ ":" ++ password.getD "")

/-- The URL without its credentials, if they can be read. -/
def signedOff (u : Url) : Url :=
  if (u.credentials.bind Credentials.read?).isSome then { u with credentials := none } else u

/-! ### Appending -/

/-- The URL of a resource under a base. -/
def append (base : Url) (names : List String) : Url :=
  match base.path with
  | .opaqueText _ => base
  | .segments segments =>
      let special := isSpecial base.scheme
      let inFile := base.scheme == fileScheme
      { base with path :=
          .segments (names.foldl (appendSegment inFile special) (popEmpty segments)) }

/-- The parts of an address that say which server is meant stay as they are. -/
theorem server_append (u : Url) (names : List String) :
    (u.append names).scheme = u.scheme ∧ (u.append names).host = u.host
      ∧ (u.append names).port = u.port := by
  unfold append
  split <;> exact ⟨rfl, rfl, rfl⟩

theorem server_signedOff (u : Url) :
    u.signedOff.scheme = u.scheme ∧ u.signedOff.host = u.host ∧ u.signedOff.port = u.port := by
  unfold signedOff
  split <;> exact ⟨rfl, rfl, rfl⟩

end Url

end StreamStore
