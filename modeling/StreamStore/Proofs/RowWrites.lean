import StreamStore.Proofs.FailedFetch
import StreamStore.Proofs.TracedCalls

/-!
# Writes of one row

A client writes several columns of one row, or cells that may span several rows.  Each
has its own loop of checks: the first looks at the row key once and then at every
column, the second at the row key and the column of each cell in turn.  Both find the
same fault first (`forM_validate_writes`), because the cells of one row have one row
key: it is found blank at the first cell or at none.

What is left after the checks is one call with the same cells, and behind a gateway that
is one request, to the address of the row.
-/

namespace StreamStore

variable {σ : Type}

/-- A loop that requires an option of every item stops at the first blank one. -/
theorem forM_require {α : Type} (option : String) (text : α → String) (xs : List α) :
    (xs.forM fun x => require option (text x)) =
      if xs.any fun x => Text.isBlankText (text x) then .error (.missing option) else .ok () := by
  induction xs with
  | nil => rfl
  | cons x xs ih =>
      have hstep : ((x :: xs).forM fun x => require option (text x)) =
          (require option (text x) >>= fun _ => xs.forM fun x => require option (text x)) := rfl
      rw [hstep, ih, List.any_cons, require]
      cases Text.isBlankText (text x) <;> rfl

namespace PutRequest

variable (r : PutRequest)

/-- The cells of the write, each as a write of its own. -/
def writes : List CellWrite :=
  r.values.map fun v => ⟨r.rowKey, v.1, r.timestamp, v.2⟩

/-- What is wrong with a write that has values. -/
def fault? : Option RequestFault :=
  if Text.isBlankText r.rowKey then some (.missing "row_key")
  else if r.values.any fun v => Text.isBlankText v.1 then some (.missing "column")
  else none

/-- What a check answers that finds the fault of the write. -/
def verdict : Except RequestFault Unit :=
  match r.fault? with
  | some fault => .error fault
  | none => .ok ()

variable {r}

/-- The check of the row finds the fault of the write. -/
theorem validate_eq (hvalues : r.values ≠ []) : r.validate = r.verdict := by
  have hsome : r.values.isEmpty = false := List.isEmpty_eq_false_iff.2 hvalues
  have hcolumns := forM_require "column" Prod.fst r.values
  have hstep : r.validate = (require "row_key" r.rowKey >>= fun _ =>
      (if r.values.isEmpty then throw .noValues else pure PUnit.unit) >>= fun _ =>
        r.values.forM fun v => require "column" v.1) := by
    rw [validate, hsome]
    rfl
  rw [hstep, hcolumns, hsome, verdict, fault?, require]
  cases Text.isBlankText r.rowKey with
  | true => rfl
  | false => cases r.values.any fun v => Text.isBlankText v.1 <;> rfl

/-- **The checks of the cells find the fault of the write** too: a blank row key at the
first cell, and a blank column where it stands. -/
theorem forM_validate_writes (hvalues : r.values ≠ []) :
    r.writes.forM CellWrite.validate = r.verdict := by
  obtain ⟨v, rest, hcons⟩ := List.exists_cons_of_ne_nil hvalues
  cases hkey : Text.isBlankText r.rowKey with
  | true =>
      have hfirst : CellWrite.validate ⟨r.rowKey, v.1, r.timestamp, v.2⟩ =
          .error (.missing "row_key") := by
        rw [CellWrite.validate, require, hkey]
        rfl
      have hverdict : r.verdict = .error (.missing "row_key") := by
        rw [verdict, fault?, hkey]
        rfl
      rw [hverdict, writes, hcons, List.map_cons]
      show (CellWrite.validate _ >>= fun _ => _) = _
      rw [hfirst]
      rfl
  | false =>
      have hcell : ∀ v : String × String,
          CellWrite.validate ⟨r.rowKey, v.1, r.timestamp, v.2⟩ = require "column" v.1 := by
        intro v
        rw [CellWrite.validate, require, hkey]
        rfl
      have hloop : r.writes.forM CellWrite.validate =
          r.values.forM fun v => require "column" v.1 := by
        rw [← funext hcell]
        exact List.forM_map
      rw [hloop, forM_require "column" Prod.fst, verdict, fault?, hkey]
      cases r.values.any fun v => Text.isBlankText v.1 <;> rfl

theorem map_cell_writes (now : Nat) : (r.writes.map fun w => w.cell r.type now) = r.cells now :=
  List.map_map

/-- Cells that have a timestamp of their own do not depend on the time. -/
theorem cells_congr {now now' : Nat} (h : r.timestamp = none → now = now') :
    r.cells now = r.cells now' := by
  cases htime : r.timestamp with
  | none => rw [h htime]
  | some t => simp only [cells, htime, Option.getD_some]

theorem rowKey_of_mem_cells {now : Nat} {c : Cell} (h : c ∈ r.cells now) : c.rowKey = r.rowKey := by
  obtain ⟨v, -, rfl⟩ := List.mem_map.1 h
  rfl

end PutRequest

/-! ### The two operations -/

section Operations

variable {table : String} {r : PutRequest} {split split' : Bool} {now now' : Nat}

/-- The write of a row, on any backend. -/
theorem action_putValue (b : Backend (StateM σ)) (hvalues : r.values ≠ []) :
    (⟨split, now, .putValue table r⟩ : ClientCall).action b =
      ((do
        liftFault .request r.verdict
        b.putCells (r.type.tableName table) (r.cells now)) >>= fun _ => pure none) := by
  rw [← PutRequest.validate_eq hvalues]
  rfl

/-- The bulk write of its cells, on any backend. -/
theorem action_putCells_writes (b : Backend (StateM σ)) (hvalues : r.values ≠ []) :
    (⟨split, now, .putCells table r.type r.writes⟩ : ClientCall).action b =
      ((do
        liftFault .request r.verdict
        b.putCells (r.type.tableName table) (r.cells now)) >>= fun _ => pure none) := by
  rw [← PutRequest.forM_validate_writes hvalues, ← PutRequest.map_cell_writes now]
  rfl

/-- **The write of a row is the bulk write of its cells**, on any backend. -/
theorem action_putValue_eq (b : Backend (StateM σ)) (hvalues : r.values ≠ [])
    (htime : r.timestamp = none → now = now') :
    (⟨split, now, .putValue table r⟩ : ClientCall).action b =
      (⟨split', now', .putCells table r.type r.writes⟩ : ClientCall).action b := by
  rw [action_putValue b hvalues, action_putCells_writes b hvalues, PutRequest.cells_congr htime]

end Operations

/-! ### Behind a gateway -/

namespace Gateway

variable (g : Gateway)

/-- The request that writes cells of one row. -/
def rowRequest (table rowKey : String) (cells : List Cell) : Http.Request :=
  g.write [table, rowKey] (CellSet.ofCells cells).toJson

/-- A write of cells of one row is one exchange, with the address of the row. -/
theorem putCells_row (send : Http.Request → StateM σ Http.Reply) (table : String) {rowKey : String}
    {cells : List Cell} (hne : cells ≠ []) (h : ∀ c ∈ cells, c.rowKey = rowKey) :
    (g.backend send).putCells table cells =
      g.exchange send "put_cells" table (g.rowRequest table rowKey cells)
        (expectSuccess "put_cells" table) := by
  obtain ⟨first, rest, rfl⟩ := List.exists_cons_of_ne_nil hne
  show g.exchange send "put_cells" table (g.putCellsRequest table first (first :: rest)) _ = _
  rw [putCellsRequest, addressedRow_of_forall h, rowRequest]

variable {table : String} {r : PutRequest} {split : Bool} {now : Nat}

/-- What a write of a row sends: nothing when it is refused, and otherwise one request, if
the address of the row can receive requests. -/
theorem sent_putValue (send : Http.Request → StateM σ Http.Reply) (s : σ)
    (log : List (Http.Request × Http.Reply)) (hvalues : r.values ≠ []) :
    (perform ((⟨split, now, .putValue table r⟩ : ClientCall).action
        (g.backend (Http.recorded send))) (s, log)).2.2 =
      log ++ if r.fault?.isSome then [] else
        sentFor send s (g.rowRequest (r.type.tableName table) r.rowKey (r.cells now)) := by
  have hcells : r.cells now ≠ [] := fun h => hvalues (List.map_eq_nil_iff.1 h)
  rw [action_putValue _ hvalues, perform_bind_pure,
    g.putCells_row _ _ hcells fun _ => PutRequest.rowKey_of_mem_cells, PutRequest.verdict]
  cases r.fault? with
  | some fault =>
      rw [perform_refused rfl, Option.isSome_some, if_pos rfl, List.append_nil]
  | none =>
      rw [perform_checked rfl, perform_exchange_recorded, Option.isSome_none]
      rfl

end Gateway

/-- **The write of a row and the bulk write agree.**  Take a write with values, and either
with a timestamp or at one time.  On any backend in any state it does what the bulk write of
its cells does: the outcome is the same, and so are the state and the calls that are made.
Both are refused for the same fault, and otherwise make one call with the same cells.  Behind
a gateway they send the same single request, to the address of the row and with these cells
in its body. -/
theorem row_write_is_bulk_write (table : String) (r : PutRequest) (hvalues : r.values ≠ [])
    (split split' : Bool) (now now' : Nat) (htime : r.timestamp = none → now = now') :
    let row : ClientCall := ⟨split, now, .putValue table r⟩
    let bulk : ClientCall := ⟨split', now', .putCells table r.type r.writes⟩
    (∀ (σ : Type) (b : Backend (StateM σ)) (s : σ),
      perform (row.action b) s = perform (bulk.action b) s ∧
      row.calls b s = bulk.calls b s ∧
      (∀ fault, r.fault? = some fault →
        perform (row.action b) s = (.error (.request fault), s) ∧ row.calls b s = []) ∧
      (r.fault? = none →
        row.calls b s = [.putCells (r.type.tableName table) (r.cells now)])) ∧
    ∀ (σ : Type) (g : Gateway) (send : Http.Request → StateM σ Http.Reply) (s : σ)
      (log : List (Http.Request × Http.Reply)),
      let sent := log ++ if r.fault?.isSome then [] else Gateway.sentFor send s
        (g.rowRequest (r.type.tableName table) r.rowKey (r.cells now))
      (perform (row.action (g.backend (Http.recorded send))) (s, log)).2.2 = sent ∧
        (perform (bulk.action (g.backend (Http.recorded send))) (s, log)).2.2 = sent := by
  intro row bulk
  have hsame : ∀ (σ : Type) (b : Backend (StateM σ)), row.action b = bulk.action b :=
    fun σ b => action_putValue_eq b hvalues htime
  refine ⟨fun σ b s => ⟨congrArg (perform · s) (hsame σ b), ?_, ?_, ?_⟩,
    fun σ g send s log => ?_⟩
  · exact congrArg (fun action => (perform action (s, [])).2.2) (hsame _ b.traced)
  · intro fault hfault
    have hcheck : row.operation.check = .error fault := by
      show r.validate = _
      rw [PutRequest.validate_eq hvalues, PutRequest.verdict, hfault]
    exact ⟨row.perform_action_of_refused b s hcheck, row.calls_of_refused b s hcheck⟩
  · intro hnone
    show (perform (row.action b.traced) (s, [])).2.2 = _
    rw [action_putValue b.traced hvalues, perform_bind_pure, PutRequest.verdict, hnone,
      perform_checked rfl]
    rfl
  · have hsent : (perform (row.action (g.backend (Http.recorded send))) (s, log)).2.2 = _ :=
      g.sent_putValue send s log hvalues
    exact ⟨hsent, hsame _ (g.backend (Http.recorded send)) ▸ hsent⟩

/-- Two readings of one row. -/
def twoReadings : PutRequest :=
  ⟨.data, "7:9:north", [("temp", "21"), ("humidity", "40")], some 5⟩

/-- Two readings of one row are sent in one request, at whatever times the clients run. -/
theorem two_readings_sent_once :
    twoReadings.values ≠ [] ∧ (twoReadings.timestamp = none → 1 = 2) ∧
      ∃ body reply,
        (perform ((⟨true, 1, .putValue "plant" twoReadings⟩ : ClientCall).action
            (Gateway.plain.backend (Http.recorded (Gateway.fetching .dropped)))) ((), [])).2.2 =
          [(⟨.put, Gateway.plain.address ["plant_stream_realtime", "7:9:north"], none,
            Gateway.json, some Gateway.json, body⟩, reply)] ∧
        (perform ((⟨false, 2, .putCells "plant" .data twoReadings.writes⟩ : ClientCall).action
            (Gateway.plain.backend (Http.recorded (Gateway.fetching .dropped)))) ((), [])).2.2 =
          [(⟨.put, Gateway.plain.address ["plant_stream_realtime", "7:9:north"], none,
            Gateway.json, some Gateway.json, body⟩, reply)] := by
  have hvalues : twoReadings.values ≠ [] := List.cons_ne_nil _ _
  have htime : twoReadings.timestamp = none → 1 = 2 := nofun
  have hreceives : Gateway.canReceive
      (Gateway.plain.address ["plant_stream_realtime", "7:9:north"]) = true := by decide +kernel
  obtain ⟨-, hsent⟩ := row_write_is_bulk_write "plant" twoReadings hvalues true false 1 2 htime
  obtain ⟨hrow, hbulk⟩ := hsent Unit Gateway.plain (Gateway.fetching .dropped) () []
  have hone : Gateway.sentFor (Gateway.fetching .dropped) () (Gateway.plain.rowRequest
      "plant_stream_realtime" "7:9:north" (twoReadings.cells 1)) = [(_, _)] := if_pos hreceives
  exact ⟨hvalues, htime, _, _, hrow.trans hone, hbulk.trans hone⟩

end StreamStore
