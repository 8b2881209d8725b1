import StreamStore.Http
import StreamStore.Text.Natural

/-!
# Requests and responses as bytes

What a request looks like on a connection, and how the bytes that come back are a
reply.  A connection carries one request: it is closed after the response, so
the bytes of the reply are all that arrived until then.

A response has a head of lines, an empty line, and a body.  The head says how
long the body is, in one of three ways: by a number of bytes, by chunks that each
say their own length, or not at all; then it lasts until the connection is
closed.  Bytes that are no response count as a connection closed without one.
-/

namespace StreamStore.Http

/-! ### Requests -/

/-- The port of the server that a URL names. -/
def portOf (u : Url) : Option Nat :=
  u.port.or (Url.impliedPort? u.scheme)

/-- The server that a URL names, as a request mentions it. -/
def hostHeader (u : Url) : String :=
  let host := (u.host.map Url.Host.text).getD ""
  match u.port with
  | some p => s!"{host}:{p}"
  | none => host

/-- The path and the query of a URL, as a request line has them. -/
def target (u : Url) : String :=
  let path := if u.path.text.isEmpty then "/" else u.path.text
  match u.query with
  | some q => s!"{path}?{q}"
  | none => path

/-- The lines of a request's head. -/
def Request.headLines (r : Request) : List String :=
  [s!"{r.method.name} {target r.url} HTTP/1.1", s!"host: {hostHeader r.url}",
      s!"accept: {r.accept}"]
    ++ (r.authorization.toList.map fun header => s!"authorization: {header}")
    ++ (match r.contentType with
      | some type => [s!"content-type: {type}", s!"content-length: {(Text.bytesOf r.body).length}"]
      | none => [])
    ++ ["connection: close"]

/-- The text of a request. -/
def Request.wire (r : Request) : String :=
  String.join (r.headLines.map fun line => line ++ "\r\n") ++ "\r\n" ++ r.body

/-! ### Responses -/

/-- What stands before and after the first empty line. -/
def cutHead : List UInt8 → Option (List UInt8 × List UInt8)
  | 13 :: 10 :: 13 :: 10 :: rest => some ([], rest)
  | b :: rest => (cutHead rest).map fun (before, after) => (b :: before, after)
  | [] => none

/-- The name, in small letters, and the value of a line of the head. -/
def header? (line : String) : Option (String × String) :=
  match line.splitOn ":" with
  | name :: value :: more =>
      some (Text.smallLetters name, Text.trim (":".intercalate (value :: more)))
  | _ => none

/-- The status code of the first line of the head. -/
def status? (line : String) : Option Nat :=
  match line.splitOn " " with
  | version :: code :: _ =>
      if version.startsWith "HTTP/1." && code.length == 3 && Text.isNumeral code.toList then
        some (Text.valueOf code.toList)
      else none
  | _ => none

/-- The bytes of a line without its end, and what follows it. -/
def cutLine : List UInt8 → Option (List UInt8 × List UInt8)
  | 13 :: 10 :: rest => some ([], rest)
  | b :: rest => (cutLine rest).map fun (before, after) => (b :: before, after)
  | [] => none

/-- The number that hexadecimal digits at the front of a line spell. -/
def chunkSize? (line : List UInt8) : Option Nat :=
  match (Text.lossyText line).toList.takeWhile fun c => (Text.hexValue? c).isSome with
  | [] => none
  | ds => some (ds.foldl (fun n c => n * 16 + (Text.hexValue? c).getD 0) 0)

/-- The bytes of a body in chunks, in so many steps, and whether the last chunk is
there. -/
def chunks : Nat → List UInt8 → List UInt8 × Bool
  | 0, _ => ([], false)
  | steps + 1, bytes =>
      match cutLine bytes with
      | none => ([], false)
      | some (line, rest) =>
          match chunkSize? line with
          | none => ([], false)
          | some 0 => ([], true)
          | some n =>
              if rest.length < n then (rest, false)
              else
                let (body, complete) := chunks steps (rest.drop (n + 2))
                (rest.take n ++ body, complete)

/-- The body that follows a head with these lines, and whether all of it arrived. -/
def bodyOf (headers : List (String × String)) (bytes : List UInt8) : List UInt8 × Bool :=
  if (headers.lookup "transfer-encoding").map Text.smallLetters = some "chunked" then
    chunks (bytes.length + 1) bytes
  else
    match (headers.lookup "content-length").bind fun n => Text.wordOf n.toList with
    | some n => (bytes.take n, n ≤ bytes.length)
    | none => (bytes, true)

/-- The reply that the bytes of a connection are. -/
def replyOf (bytes : List UInt8) : Reply :=
  match cutHead bytes with
  | none => .dropped
  | some (head, rest) =>
      match (Text.lossyText head).splitOn "\r\n" with
      | [] => .dropped
      | first :: lines =>
          match status? first with
          | none => .dropped
          | some status =>
              let headers := lines.filterMap header?
              let (body, complete) := bodyOf headers rest
              .response ⟨status, headers.lookup "location", body, complete⟩

end StreamStore.Http
