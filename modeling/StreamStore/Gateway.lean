import StreamStore.Backend
import StreamStore.Filter.Document
import StreamStore.Gateway.CellSet
import StreamStore.Http
import StreamStore.Url.Parser

/-!
# The gateway

A backend behind HTTP.  Every operation is one exchange with the gateway:

| operation        | method | address                        | body            |
|------------------|--------|--------------------------------|-----------------|
| create a table   | PUT    | `table/schema`                 | its layout      |
| read a row       | GET    | `table/row[/columns]`          |                 |
| write cells      | PUT    | `table/row`                    | a cell set      |
| open a scanner   | PUT    | `table/scanner`                | the scan        |
| fetch            | GET    | `table/scanner/id`             |                 |
| delete a scanner | DELETE | `table/scanner/id`             |                 |

A write that spans several rows goes to a fixed address and names its rows in
the body; a write without cells is not sent.  The id of a new scanner is the last
segment of the `Location` that the gateway answers.

The requests are pure functions of the gateway and the arguments, and what is
made of a reply is a pure function of the reply; only `send` is an effect, and
`Gateway.backend` takes it as an argument.
-/

namespace StreamStore

/-- A gateway: how it was named, and the address it was found at. -/
structure Gateway where
  /-- The address as it was given, without slashes at its end. -/
  endpoint : String
  /-- The address that requests are built from. -/
  base : Url
  deriving DecidableEq, Repr

namespace Gateway

/-- The gateway at an address, which must be a URL with paths under it. -/
def ofAddress (address : String) : Except SettingsFault Gateway :=
  match Url.parse address with
  | none => .error (.invalidUrl address)
  | some base =>
      if base.isBase then
        let trimmed := (address.toList.reverse.dropWhile (· == '/')).reverse
        .ok ⟨String.ofList trimmed, base⟩
      else .error (.notABase address)

/-! ### Requests -/

/-- The media type of all documents. -/
def json : String := "application/json"

/-- The address of a resource. -/
def address (g : Gateway) (names : List String) : Url :=
  (g.base.append names).signedOff

/-- A request that reads a resource. -/
def read (g : Gateway) (names : List String) : Http.Request :=
  ⟨.get, g.address names, g.base.authorization?, json, none, ""⟩

/-- A request that writes a document. -/
def write (g : Gateway) (names : List String) (body : Json) : Http.Request :=
  ⟨.put, g.address names, g.base.authorization?, json, some json, body.render⟩

/-- The request that creates a table. -/
def createTableRequest (g : Gateway) (schema : TableSchema) : Http.Request :=
  g.write [schema.name, "schema"] schema.toJson

/-- The request that reads a row. -/
def getRowRequest (g : Gateway) (table rowKey : String) (columns : List String) : Http.Request :=
  let joined := String.intercalate "," columns
  g.read ([table, rowKey] ++ if joined.isEmpty then [] else [joined])

/-- The row in the address of a write: the row of all its cells, or a name that
stands for several rows. -/
def addressedRow (first : Cell) (cells : List Cell) : String :=
  if cells.all fun c => c.rowKey == first.rowKey then first.rowKey else "false-row-key"

/-- Cells of one row are written to that row. -/
theorem addressedRow_of_forall {row : String} {first : Cell} {rest : List Cell}
    (h : ∀ c ∈ first :: rest, c.rowKey = row) : addressedRow first (first :: rest) = row := by
  have hfirst : first.rowKey = row := h first List.mem_cons_self
  rw [addressedRow, if_pos]
  · exact hfirst
  · exact List.all_eq_true.2 fun c hc => beq_iff_eq.2 ((h c hc).trans hfirst.symm)

/-- The request that writes cells, the first of which is `first`. -/
def putCellsRequest (g : Gateway) (table : String) (first : Cell) (cells : List Cell) :
    Http.Request :=
  g.write [table, addressedRow first cells] (CellSet.ofCells cells).toJson

/-- A scan as the document that opens a scanner. -/
def scanJson (spec : ScanSpec) : Json :=
  let filter : List (String × Json) := match spec.filter with
    | some f => [("filter", Json.string f.render)]
    | none => []
  .object ([("batch", Json.ofNat spec.batch),
    ("startRow", Json.string (Base64.encode spec.first)),
    ("endRow", Json.string (Base64.encode spec.stop)),
    ("column", Json.array (spec.columns.map fun c => Json.string (Base64.encode c)))] ++ filter)

/-- The request that opens a scanner. -/
def openScannerRequest (g : Gateway) (table : String) (spec : ScanSpec) : Http.Request :=
  g.write [table, "scanner"] (scanJson spec)

/-- The request that fetches from a scanner. -/
def fetchRequest (g : Gateway) (table scanner : String) : Http.Request :=
  g.read [table, "scanner", scanner]

/-- The request that deletes a scanner. -/
def deleteScannerRequest (g : Gateway) (table scanner : String) : Http.Request :=
  ⟨.delete, g.address [table, "scanner", scanner], g.base.authorization?, "*/*", none, ""⟩

/-! ### Replies -/

/-- The longest address that a request can have. -/
def longestAddress : Nat := 65534

/-- Whether a character of a host's name can stand in a request. -/
def fitsRequest (c : Char) : Bool :=
  !(c == '"' || c == '{' || c == '}' || c.toNat == 96)

/-- Whether requests can go to an address at all: to the web only, and not if the
name of the host or the length of the address does not fit a request. -/
def canReceive (u : Url) : Bool :=
  (u.scheme == "http" || u.scheme == "https")
    && (match u.host with
      | some host => host.text.toList.all fitsRequest
      | none => true)
    && u.text.utf8ByteSize ≤ longestAddress

/-- The response to a request, or why there is none. -/
def responseTo (g : Gateway) (operation table : String) (r : Http.Request) :
    Http.Reply → Except AccessError Http.Response
  | .unreachable =>
      .error (.connection g.endpoint s!"error sending request for url ({r.url.text})" none)
  | .dropped =>
      .error (.backend operation table s!"error sending request for url ({r.url.text})" none)
  | .response r => .ok r

/-- The failure that a response reports. -/
def failure (operation table : String) (r : Http.Response) : AccessError :=
  let text := r.text?.getD "Unknown error"
  .backend operation table s!"{Http.statusText r.status}: {text}" none

/-- Refuses a response that does not report success. -/
def expectSuccess (operation table : String) (r : Http.Response) : Except AccessError Unit :=
  if r.isSuccess then .ok () else .error (failure operation table r)

/-- The cells that a response carries; a blank body carries none. -/
def cellsOf (operation table : String) (r : Http.Response) : Except AccessError (List Cell) :=
  match r.text? with
  | none => .error (.backend operation table "error decoding response body" none)
  | some text =>
      if Text.isBlankText text then .ok []
      else (CellSet.parse text >>= CellSet.toCells).mapError .payload

/-- The cells of a row that a response carries; a row that is not found has none. -/
def rowOf (table : String) (r : Http.Response) : Except AccessError (List Cell) :=
  if r.status = 404 then .ok []
  else if r.isSuccess then cellsOf "get_row" table r
  else .error (failure "get_row" table r)

/-- The last segment of an address, slashes at its end left out; none when that
is empty. -/
def lastSegment? (address : String) : Option String :=
  let cs := (address.toList.reverse.dropWhile (· == '/')).takeWhile (· != '/')
  if cs.isEmpty then none else some (String.ofList cs.reverse)

/-- The id of the scanner that a response announces. -/
def scannerOf (table : String) (r : Http.Response) : Except AccessError String := do
  expectSuccess "scanner_create" table r
  match r.location?.bind lastSegment? with
  | some id => .ok id
  | none =>
      .error (.backend "scanner_create" table "scanner created without a Location header" none)

/-- The cells that a fetch brought; none when the scanner has no more. -/
def fetchedFrom (table : String) (r : Http.Response) : Except AccessError (Option (List Cell)) :=
  if r.status = 204 then .ok none
  else if r.isSuccess then (cellsOf "scanner_get" table r).map some
  else .error (failure "scanner_get" table r)

/-! ### The backend -/

variable {m : Type → Type} [Monad m]

/-- Sends a request and makes something of the response.  Nothing is sent to an
address that cannot receive requests. -/
def exchange (g : Gateway) (send : Http.Request → m Http.Reply) {α : Type}
    (operation table : String) (r : Http.Request)
    (use : Http.Response → Except AccessError α) : Access m α :=
  if canReceive r.url then do
    let reply ← ExceptT.lift (send r)
    liftFault id (g.responseTo operation table r reply >>= use)
  else
    throw (.backend operation table s!"builder error for url ({r.url.text})" none)

/-- An operation whose failures name the scanner it was about. -/
def naming {α : Type} (scanner : String) (action : Access m α) : Access m α :=
  tryCatch action fun e => throw (e.withScanner scanner)

/-- The gateway as a backend; `send` exchanges a request for a reply. -/
def backend (g : Gateway) (send : Http.Request → m Http.Reply) : Backend m where
  endpoint := g.endpoint
  createTable schema :=
    g.exchange send "create_table" schema.name (g.createTableRequest schema)
      (expectSuccess "create_table" schema.name)
  getRow table rowKey columns :=
    g.exchange send "get_row" table (g.getRowRequest table rowKey columns) (rowOf table)
  putCells table cells :=
    match cells with
    | [] => pure ()
    | first :: _ =>
        g.exchange send "put_cells" table (g.putCellsRequest table first cells)
          (expectSuccess "put_cells" table)
  openScanner table spec :=
    g.exchange send "scanner_create" table (g.openScannerRequest table spec) (scannerOf table)
  fetch table scanner :=
    naming scanner <|
      g.exchange send "scanner_get" table (g.fetchRequest table scanner) (fetchedFrom table)
  deleteScanner table scanner :=
    naming scanner <|
      g.exchange send "scanner_delete" table (g.deleteScannerRequest table scanner)
        (expectSuccess "scanner_delete" table)

end Gateway

end StreamStore
