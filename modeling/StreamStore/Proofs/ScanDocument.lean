import StreamStore.Proofs.Base64
import StreamStore.Proofs.FailedFetch
import StreamStore.Proofs.FilterDocument

/-!
# The document that opens a scanner

A scan goes to the gateway as a document: a number, base64 texts, and a filter that is
itself a document, written as text and put into the outer one as a text.  So the texts
that a filter compares with are escaped twice, and the base64 ones never.

`Json.DescribesScan` says member by member what a document has to hold for a scan, and
`scan?` reads a document that does.  What is sent holds these members
(`describesScan_scanJson`), so the scan can be read back from it, and no other scan has
the same body.
-/

namespace StreamStore

namespace Json

/-- The text that a document holds in base64. -/
def identifier? (v : Json) : Option String := do
  (decodeIdentifier (← v.string?)).toOption

/-- The filter whose text a document is. -/
def filter? (v : Json) : Option Filter := do
  (Filter.parse (← v.string?)).toOption

/-- The scan that a document describes.  Without a filter it has no such member. -/
def scan? (doc : Json) : Option ScanSpec := do
  let batch ← (← doc.field? "batch").word?
  let first ← (← doc.field? "startRow").identifier?
  let stop ← (← doc.field? "endRow").identifier?
  let columns ← (← doc.field? "column").list? identifier?
  match doc.field? "filter" with
  | none => some ⟨batch, first, stop, columns, none⟩
  | some v => some ⟨batch, first, stop, columns, some (← v.filter?)⟩

/-- Whether a document describes a scan, member by member. -/
structure DescribesScan (doc : Json) (spec : ScanSpec) : Prop where
  /-- The size of a page is a number. -/
  batch : ∃ v, doc.field? "batch" = some v ∧ v.word? = some spec.batch
  /-- The first row is a text in base64. -/
  first : ∃ text, doc.field? "startRow" = some (.string text) ∧
    decodeIdentifier text = .ok spec.first
  /-- The row before which the scan stops is a text in base64. -/
  stop : ∃ text, doc.field? "endRow" = some (.string text) ∧ decodeIdentifier text = .ok spec.stop
  /-- The columns are texts in base64, in their order. -/
  columns : ∃ texts : List String, doc.field? "column" = some (.array (texts.map .string)) ∧
    texts.mapM decodeIdentifier = .ok spec.columns
  /-- There is a filter in the document exactly when the scan has one. -/
  unfiltered : doc.field? "filter" = none ↔ spec.filter = none
  /-- The filter is a text, and the text is read as the filter. -/
  filtered : ∀ f, spec.filter = some f →
    ∃ text, doc.field? "filter" = some (.string text) ∧ Filter.parse text = .ok f

theorem identifier?_string {text s : String} (h : decodeIdentifier text = .ok s) :
    (Json.string text).identifier? = some s := by
  show (decodeIdentifier text).toOption = some s
  rw [h]
  rfl

theorem filter?_string {text : String} {f : Filter} (h : Filter.parse text = .ok f) :
    (Json.string text).filter? = some f := by
  show (Filter.parse text).toOption = some f
  rw [h]
  rfl

/-- Identifiers are read one by one. -/
theorem mapM_identifier? {texts names : List String} (h : texts.mapM decodeIdentifier = .ok names) :
    (texts.map Json.string).mapM identifier? = some names := by
  induction texts generalizing names with
  | nil =>
      cases h
      rfl
  | cons text texts ih =>
      rw [List.mapM_cons] at h
      obtain ⟨name, hname, h⟩ := bind_eq_ok.1 h
      obtain ⟨rest, hrest, h⟩ := bind_eq_ok.1 h
      cases h
      exact mapM_cons_eq_some.2 ⟨name, rest, identifier?_string hname, ih hrest, rfl⟩

namespace DescribesScan

variable {doc : Json} {spec : ScanSpec}

/-- A document that describes a scan is read as that scan. -/
theorem scan?_eq (h : doc.DescribesScan spec) : doc.scan? = some spec := by
  obtain ⟨v, hv, hbatch⟩ := h.batch
  obtain ⟨first, hfirst, hstart⟩ := h.first
  obtain ⟨stop, hstop, hend⟩ := h.stop
  obtain ⟨columns, hcolumns, hnames⟩ := h.columns
  have hlist : (Json.array (columns.map .string)).list? identifier? = some spec.columns :=
    mapM_identifier? hnames
  rw [scan?, hv, hfirst, hstop, hcolumns]
  simp only [Option.bind_eq_bind, Option.bind_some, hbatch, identifier?_string hstart,
    identifier?_string hend, hlist]
  obtain ⟨batch, first, stop, columns, filter⟩ := spec
  cases filter with
  | none => rw [h.unfiltered.2 rfl]
  | some f =>
      obtain ⟨text, htext, hparse⟩ := h.filtered f rfl
      rw [htext]
      dsimp only
      rw [filter?_string hparse, Option.bind_some]

/-- A document describes one scan. -/
theorem unique {spec' : ScanSpec} (h : doc.DescribesScan spec) (h' : doc.DescribesScan spec') :
    spec = spec' :=
  Option.some.inj (h.scan?_eq.symm.trans h'.scan?_eq)

end DescribesScan

end Json

/-! ### What is sent -/

/-- Whether a scan can be written as it is: the size of its pages is a word, and the document
of its filter is no deeper than a reader goes. -/
structure ScanSpec.Writable (spec : ScanSpec) : Prop where
  batch_lt : spec.batch < 18446744073709551616
  depth_le : ∀ f, spec.filter = some f → f.toJson.depth ≤ Json.maxDepth

namespace Gateway

variable {spec : ScanSpec}

/-- The member that holds the filter of a scan, if it has one. -/
def filterMember (spec : ScanSpec) : List (String × Json) :=
  match spec.filter with
  | some f => [("filter", .string f.render)]
  | none => []

/-- The members of the document of a scan, the size of its pages being written as `batch`. -/
def scanMembers (batch : Json) (spec : ScanSpec) : List (String × Json) :=
  [("batch", batch), ("startRow", .string (Base64.encode spec.first)),
    ("endRow", .string (Base64.encode spec.stop)),
    ("column", .array ((spec.columns.map Base64.encode).map .string))] ++ filterMember spec

theorem scanJson_eq (spec : ScanSpec) :
    scanJson spec = .object (scanMembers (.ofNat spec.batch) spec) := by
  rw [scanMembers, List.map_map]
  rfl

theorem depth_scanMembers_le {batch : Json} (hbatch : batch.depth = 0) (spec : ScanSpec) :
    (Json.object (scanMembers batch spec)).depth ≤ 2 := by
  have hcolumns : Json.depthItems ((spec.columns.map Base64.encode).map .string) ≤ 0 := by
    refine Json.depthItems_le_iff.2 fun v hv => ?_
    obtain ⟨c, -, rfl⟩ := List.mem_map.1 hv
    rw [Json.depth]
  have hfilter : Json.depthFields (filterMember spec) = 0 := by
    unfold filterMember
    split <;> rfl
  simp only [scanMembers, Json.depth, Json.depthFields_append, Json.depthFields, hbatch, hfilter]
  omega

/-- The document of a scan has an object, and an array in it. -/
theorem depth_scanJson_le (spec : ScanSpec) : (scanJson spec).depth ≤ 2 := by
  rw [scanJson_eq]
  exact depth_scanMembers_le (Json.depth_ofNat _) spec

theorem numbersReadBack_scanJson (spec : ScanSpec) : (scanJson spec).NumbersReadBack := by
  have hfilter : ∀ e ∈ filterMember spec, e.2.NumbersReadBack := by
    unfold filterMember
    split <;> simp
  simpa [scanJson_eq, scanMembers] using hfilter

/-- **The document of a scan describes it.** -/
theorem describesScan_scanJson (h : spec.Writable) : (scanJson spec).DescribesScan spec := by
  have hbatch : (Json.ofNat spec.batch).word? = some spec.batch := Json.word?_ofNat h.batch_lt
  have hcolumns : (spec.columns.map Base64.encode).mapM decodeIdentifier = .ok spec.columns := by
    rw [List.mapM_map]
    exact (mapM_eq_ok fun c _ => decodeIdentifier_encode c).trans (by rw [List.map_id'])
  rw [scanJson_eq]
  generalize Json.ofNat spec.batch = batch at hbatch
  have hdepth := h.depth_le
  obtain ⟨size, first, stop, columns, filter⟩ := spec
  cases filter with
  | none =>
      exact ⟨⟨batch, rfl, hbatch⟩, ⟨_, rfl, decodeIdentifier_encode first⟩,
        ⟨_, rfl, decodeIdentifier_encode stop⟩, ⟨_, rfl, hcolumns⟩, ⟨fun _ => rfl, fun _ => rfl⟩, nofun⟩
  | some f =>
      refine ⟨⟨batch, rfl, hbatch⟩, ⟨_, rfl, decodeIdentifier_encode first⟩,
        ⟨_, rfl, decodeIdentifier_encode stop⟩, ⟨_, rfl, hcolumns⟩, ⟨nofun, nofun⟩, ?_⟩
      rintro g ⟨⟩
      exact ⟨f.render, rfl, Filter.parse_render_of_depth (hdepth f rfl)⟩

/-- The body that opens a scanner is read as a document that describes the scan. -/
theorem parse_openScannerRequest (g : Gateway) (table : String) (h : spec.Writable) :
    ∃ doc, Json.parse (g.openScannerRequest table spec).body = some doc ∧ doc.DescribesScan spec := by
  have hdepth : (scanJson spec).depth ≤ Json.maxDepth :=
    (depth_scanJson_le spec).trans (by decide)
  exact ⟨scanJson spec, Json.parse_render hdepth (numbersReadBack_scanJson spec),
    describesScan_scanJson h⟩

end Gateway

/-- **The document that opens a scanner determines the scan.**  What is sent is one request,
if its address can receive requests.  Its body is read as a document that holds every member
of the scan, with a filter exactly when the scan has one, and reading these members gives the
scan.  So no other scan is sent with the same body, whatever the gateway and the table. -/
theorem scan_document_determines (g : Gateway) (table : String) (spec : ScanSpec)
    (hspec : spec.Writable) :
    (∀ (σ : Type) (send : Http.Request → StateM σ Http.Reply) (s : σ)
      (log : List (Http.Request × Http.Reply)),
      (perform ((g.backend (Http.recorded send)).openScanner table spec) (s, log)).2.2 =
        log ++ Gateway.sentFor send s (g.openScannerRequest table spec)) ∧
    (∃ doc, Json.parse (g.openScannerRequest table spec).body = some doc ∧
      doc.DescribesScan spec ∧ doc.scan? = some spec) ∧
    ∀ (g' : Gateway) (table' : String) (spec' : ScanSpec), spec'.Writable →
      (g'.openScannerRequest table' spec').body = (g.openScannerRequest table spec).body →
        spec' = spec := by
  obtain ⟨doc, hdoc, hdescribes⟩ := Gateway.parse_openScannerRequest g table hspec
  refine ⟨fun σ send s log => ?_, ⟨doc, hdoc, hdescribes, hdescribes.scan?_eq⟩, ?_⟩
  · rw [Gateway.openScanner_recorded]
  · intro g' table' spec' hspec' hbody
    obtain ⟨doc', hdoc', hdescribes'⟩ := Gateway.parse_openScannerRequest g' table' hspec'
    rw [hbody, hdoc] at hdoc'
    obtain rfl := Option.some.inj hdoc'
    exact hdescribes'.unique hdescribes

/-- A scan with the largest page, quotes in its bounds, and a filter or none. -/
def quotedScan (filter : Option Filter) : ScanSpec :=
  ⟨18446744073709551615, "a\"*", "ü", ["DF:temp", "DF:x,\\"], filter⟩

/-- The document of a scan with quotes in its filter is read as the scan, and is not that of
the scan without the filter. -/
theorem quoted_scan_determined :
    (quotedScan (some quotedFilter)).Writable ∧ (quotedScan none).Writable ∧
      (∃ doc, Json.parse (Gateway.plain.openScannerRequest "t" (quotedScan (some quotedFilter))).body =
        some doc ∧ doc.scan? = some (quotedScan (some quotedFilter))) ∧
      (Gateway.plain.openScannerRequest "t" (quotedScan none)).body ≠
        (Gateway.plain.openScannerRequest "t" (quotedScan (some quotedFilter))).body := by
  have hfiltered : (quotedScan (some quotedFilter)).Writable := by
    refine ⟨by decide, ?_⟩
    rintro f ⟨⟩
    decide +kernel
  have hplain : (quotedScan none).Writable := ⟨by decide, nofun⟩
  obtain ⟨-, ⟨doc, hdoc, -, hread⟩, hunique⟩ :=
    scan_document_determines Gateway.plain "t" (quotedScan (some quotedFilter)) hfiltered
  refine ⟨hfiltered, hplain, ⟨doc, hdoc, hread⟩, fun hbody => ?_⟩
  cases congrArg ScanSpec.filter (hunique Gateway.plain "t" (quotedScan none) hplain hbody)

end StreamStore
