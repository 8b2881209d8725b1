import StreamStore.Text.Blank
import StreamStore.Text.Utf8
import StreamStore.Url.Basic

/-!
# Exchanges with a server

A `Request` is what goes out, a `Reply` is all that can come back: the server
cannot be reached, it closes the connection without a word, or it responds.  A
response may promise more of a body than it delivers; then its text cannot be
read.  The statuses 204 and 304 have no body, whatever was sent.

Who exchanges requests for replies is not settled here; a backend takes that as
a function.
-/

namespace StreamStore.Http

/-- The methods that are used. -/
inductive Method where
  /-- Reads a resource. -/
  | get
  /-- Writes a resource. -/
  | put
  /-- Deletes a resource. -/
  | delete
  deriving DecidableEq, Repr

/-- The name of a method. -/
def Method.name : Method → String
  | get => "GET"
  | put => "PUT"
  | delete => "DELETE"

/-- What is sent to a server. -/
structure Request where
  /-- The method. -/
  method : Method
  /-- The address. -/
  url : Url
  /-- The header that says who asks, if it is known. -/
  authorization : Option String
  /-- The media types that are accepted in return. -/
  accept : String
  /-- The media type of the body, if there is one. -/
  contentType : Option String
  /-- The body. -/
  body : String
  deriving DecidableEq, Repr

/-- What a server responds. -/
structure Response where
  /-- The status code. -/
  status : Nat
  /-- The `Location` header. -/
  location : Option String
  /-- The bytes of the body that arrived. -/
  body : List UInt8
  /-- Whether all bytes that were promised arrived. -/
  complete : Bool
  deriving DecidableEq, Repr

/-- What comes of a request. -/
inductive Reply where
  /-- The server cannot be reached. -/
  | unreachable
  /-- The server closed the connection without a response. -/
  | dropped
  /-- The server responded. -/
  | response (r : Response)
  deriving DecidableEq, Repr

/-- The standard phrase of a status code. -/
def reason? : Nat → Option String
  | 100 => "Continue"
  | 101 => "Switching Protocols"
  | 102 => "Processing"
  | 200 => "OK"
  | 201 => "Created"
  | 202 => "Accepted"
  | 203 => "Non Authoritative Information"
  | 204 => "No Content"
  | 205 => "Reset Content"
  | 206 => "Partial Content"
  | 207 => "Multi-Status"
  | 208 => "Already Reported"
  | 226 => "IM Used"
  | 300 => "Multiple Choices"
  | 301 => "Moved Permanently"
  | 302 => "Found"
  | 303 => "See Other"
  | 304 => "Not Modified"
  | 305 => "Use Proxy"
  | 307 => "Temporary Redirect"
  | 308 => "Permanent Redirect"
  | 400 => "Bad Request"
  | 401 => "Unauthorized"
  | 402 => "Payment Required"
  | 403 => "Forbidden"
  | 404 => "Not Found"
  | 405 => "Method Not Allowed"
  | 406 => "Not Acceptable"
  | 407 => "Proxy Authentication Required"
  | 408 => "Request Timeout"
  | 409 => "Conflict"
  | 410 => "Gone"
  | 411 => "Length Required"
  | 412 => "Precondition Failed"
  | 413 => "Payload Too Large"
  | 414 => "URI Too Long"
  | 415 => "Unsupported Media Type"
  | 416 => "Range Not Satisfiable"
  | 417 => "Expectation Failed"
  | 418 => "I'm a teapot"
  | 421 => "Misdirected Request"
  | 422 => "Unprocessable Entity"
  | 423 => "Locked"
  | 424 => "Failed Dependency"
  | 426 => "Upgrade Required"
  | 428 => "Precondition Required"
  | 429 => "Too Many Requests"
  | 431 => "Request Header Fields Too Large"
  | 451 => "Unavailable For Legal Reasons"
  | 500 => "Internal Server Error"
  | 501 => "Not Implemented"
  | 502 => "Bad Gateway"
  | 503 => "Service Unavailable"
  | 504 => "Gateway Timeout"
  | 505 => "HTTP Version Not Supported"
  | 506 => "Variant Also Negotiates"
  | 507 => "Insufficient Storage"
  | 508 => "Loop Detected"
  | 510 => "Not Extended"
  | 511 => "Network Authentication Required"
  | _ => none

/-- A status code with its phrase. -/
def statusText (status : Nat) : String :=
  let phrase := (reason? status).getD "<unknown status code>"
  s!"{status} {phrase}"

namespace Response

/-- Whether the status says that the request succeeded. -/
def isSuccess (r : Response) : Bool :=
  200 ≤ r.status && r.status ≤ 299

/-- The text of the body, unless it was cut short. -/
def text? (r : Response) : Option String :=
  if r.status = 204 ∨ r.status = 304 then some ""
  else if r.complete then some (Text.lossyText r.body)
  else none

/-- The `Location` header without blanks around it; one that is not plain text
counts as absent. -/
def location? (r : Response) : Option String := do
  let location ← r.location
  let text := Text.trim location
  if text.toList.all fun c => c == '\t' || (0x20 ≤ c.toNat && c.toNat < 0x7F) then some text
  else none

end Response

end StreamStore.Http
