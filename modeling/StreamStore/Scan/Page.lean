import StreamStore.Backend
import StreamStore.Scan.Cursor

/-!
# Pages of a scan

`Backend.nextPage` drives a scanner one page at a time.  While it works on a
scanner it holds a `Lease` on it, and a lease ends in one of three ways:

* the scanner is handed back to the caller as a cursor, when the page has cells;
* the scanner is deleted quietly, when there are no more cells or the fetch
  failed: then a failing deletion changes nothing about what the call answers;
* the scanner is deleted and a failure is reported, when the caller asks for it
  (`Backend.abandon`).

So after every call a scanner is in exactly one caller's cursor, or its deletion
has been requested once.  A lease that is dropped in the middle of a call is
deleted quietly too, as long as deletions can still be scheduled.
-/

namespace StreamStore

variable {m : Type → Type} [Monad m]

/-- Exclusive use of an open scanner. -/
structure Lease where
  /-- The table the scanner belongs to. -/
  table : String
  /-- The scanner. -/
  scanner : String
  deriving DecidableEq, Repr

/-- The outcome of an operation as a value, so that what follows can look at it. -/
def attempt {α : Type} (action : Access m α) : Access m (Except AccessError α) :=
  ExceptT.lift action.run

namespace Lease

/-- Deletes the scanner; a failure names it. -/
def release (l : Lease) (b : Backend m) : Access m Unit := do
  match ← attempt (b.deleteScanner l.table l.scanner) with
  | .ok () => pure ()
  | .error e => throw (e.withScanner l.scanner)

/-- Deletes the scanner; a failure does not matter. -/
def releaseQuietly (l : Lease) (b : Backend m) : Access m Unit := do
  let _ ← attempt (l.release b)

/-- Hands the scanner back as a cursor. -/
def toCursor (l : Lease) : Cursor :=
  .resume l.scanner

/-- Ends a lease that nobody ended: the scanner is deleted quietly if deletions
can be scheduled, and is otherwise left to expire. -/
def drop (l : Lease) (canSchedule : Bool) (b : Backend m) : Access m Unit :=
  if canSchedule then l.releaseQuietly b else pure ()

end Lease

/-- One page of a scan. -/
structure Page where
  /-- The cells, in scan order. -/
  cells : List Cell
  /-- Where the next page starts. -/
  cursor : Cursor
  /-- The state of the scan after this page. -/
  state : ScanState
  deriving DecidableEq, Repr

/-- The page after the last one. -/
def Page.exhausted : Page :=
  ⟨[], .fresh, .exhausted⟩

namespace Backend

/-- The lease a call works with: on the cursor's scanner, or on a new one. -/
def lease (b : Backend m) (table : String) (cursor : Cursor) (spec : ScanSpec) :
    Access m Lease :=
  match cursor.scanner? with
  | some id => pure ⟨table, id⟩
  | none => do
      let id ← b.openScanner table spec
      pure ⟨table, id⟩

/-- Fetches the next page of a leased scanner and ends the lease. -/
def pageOf (b : Backend m) (l : Lease) : Access m Page := do
  match ← attempt (b.fetch l.table l.scanner) with
  | .ok (some (c :: cs)) => pure ⟨c :: cs, l.toCursor, .active⟩
  | .ok _ =>
      l.releaseQuietly b
      pure .exhausted
  | .error e =>
      l.releaseQuietly b
      throw (e.withScanner l.scanner)

/-- Fetches the next page of a scan.  An empty cursor opens a scanner from
`spec`; otherwise `spec` is not looked at. -/
def nextPage (b : Backend m) (table : String) (cursor : Cursor) (spec : ScanSpec) :
    Access m Page := do
  b.pageOf (← b.lease table cursor spec)

/-- Deletes the scanner behind a cursor, if there is one. -/
def abandon (b : Backend m) (table : String) (cursor : Cursor) : Access m Unit :=
  match cursor.scanner? with
  | some id => Lease.release ⟨table, id⟩ b
  | none => pure ()

/-- A call that continues a scan does not look at the specification. -/
theorem nextPage_resume (b : Backend m) (table id : String) (spec spec' : ScanSpec) :
    b.nextPage table (.resume id) spec = b.nextPage table (.resume id) spec' := rfl

end Backend

end StreamStore
