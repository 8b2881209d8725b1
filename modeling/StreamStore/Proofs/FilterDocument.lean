import StreamStore.Filter.Document
import StreamStore.Proofs.JsonReadBack
import StreamStore.Proofs.RecordMembers

/-!
# Filters read back

A filter is written with its members in one order, and read from them in any.
Reading what was written takes as many levels as lists stand inside one another, which
are fewer than the document is deep (`ofJsonWithin_toJson`).

For a filter that was read there is nothing to assume: writing it makes a document no
deeper than the one it was read from (`depth_toJson_le_of_ofJsonWithin`).  Each level
of a list stands in a record and in an array there too, and a comparison in a record
around the record or array of its comparator.
-/

namespace StreamStore.Filter

open Json

/-! ### What was written -/

theorem connective?_filterName (c : Connective) : connective? (.string c.filterName) = some c := by
  cases c <;> decide

theorem relation?_filterName (r : Relation) : relation? (.string r.filterName) = some r := by
  cases r <;> decide

theorem splitKind?_list (inList : Bool) (c : Connective) (items : List Json) :
    splitKind? inList (.object [("type", .string listKind), ("op", .string c.filterName),
        ("filters", .array items)]) =
      some (true, .object [("op", .string c.filterName), ("filters", .array items)]) := by
  cases inList <;> rfl

theorem splitKind?_value (inList : Bool) (op family column comparator : Json) :
    splitKind? inList (.object [("type", .string valueKind), ("op", op), ("family", family),
        ("qualifier", column), ("comparator", comparator)]) =
      some (false, .object [("op", op), ("family", family), ("qualifier", column),
        ("comparator", comparator)]) := by
  cases inList <;> rfl

theorem comparison?_written (r : Relation) (family column text : String) :
    comparison? (.object [("op", .string r.filterName), ("family", .string family),
        ("qualifier", .string column),
        ("comparator", .object [("value", .string text), ("type", .string comparatorKind)])]) =
      some (.value r family column text) := by
  have hop := relation?_filterName r
  show (do
    let op ← relation? (.string r.filterName)
    some (Filter.value op family column text)) = _
  rw [hop]
  rfl

theorem depth_toJson_list (c : Connective) (filters : List Filter) :
    (toJson (.list c filters)).depth = depthItems (toJsons filters) + 2 := by
  simp [toJson, depth, depthFields]

theorem depth_toJson_value (r : Relation) (family column text : String) :
    (toJson (.value r family column text)).depth = 2 := by
  simp [toJson, depth, depthFields]

mutual

/-- A filter is read from its document with as much depth as the document has. -/
theorem ofJsonWithin_toJson : ∀ (f : Filter) (n : Nat) (inList : Bool),
    f.toJson.depth ≤ n → ofJsonWithin n inList f.toJson = some f
  | .list c filters, n, inList, h => by
      rw [depth_toJson_list] at h
      obtain ⟨n, rfl⟩ : ∃ m, n = m + 1 := ⟨n - 1, by omega⟩
      have hitems := mapM_toJsons filters n (by omega)
      have hop := connective?_filterName c
      rw [toJson, ofJsonWithin, splitKind?_list]
      show (do
        let op ← connective? (.string c.filterName)
        let items ← (toJsons filters).mapM (ofJsonWithin n true)
        some (Filter.list op items)) = _
      rw [hop, hitems]
      rfl
  | .value r family column text, n, inList, h => by
      rw [depth_toJson_value] at h
      obtain ⟨n, rfl⟩ : ∃ m, n = m + 1 := ⟨n - 1, by omega⟩
      rw [toJson, ofJsonWithin, splitKind?_value]
      exact comparison?_written r family column text

theorem mapM_toJsons : ∀ (filters : List Filter) (n : Nat), depthItems (toJsons filters) ≤ n →
    (toJsons filters).mapM (ofJsonWithin n true) = some filters
  | [], _, _ => rfl
  | f :: rest, n, h => by
      rw [toJsons, depthItems] at h
      rw [toJsons, mapM_cons_eq_some]
      exact ⟨f, rest, ofJsonWithin_toJson f n true (by omega), mapM_toJsons rest n (by omega), rfl⟩

end

mutual

/-- The document of a filter holds only texts. -/
theorem numbersReadBack_toJson : ∀ f : Filter, f.toJson.NumbersReadBack
  | .list c filters => by
      have hitems := numbersReadBack_toJsons filters
      simpa [toJson] using hitems
  | .value r family column text => by simp [toJson]

theorem numbersReadBack_toJsons : ∀ filters : List Filter,
    ∀ v ∈ toJsons filters, v.NumbersReadBack
  | [] => List.forall_mem_nil _
  | f :: rest => by
      rw [toJsons, List.forall_mem_cons]
      exact ⟨numbersReadBack_toJson f, numbersReadBack_toJsons rest⟩

end

/-! ### What was read -/

/-- The record without its kind is no deeper. -/
theorem depth_le_of_splitKind? {inList : Bool} {v record : Json} {isList : Bool}
    (h : splitKind? inList v = some (isList, record)) : record.depth ≤ v.depth := by
  unfold splitKind? at h
  split at h
  · next fields =>
      obtain ⟨found, hfound, h⟩ := Option.bind_eq_some_iff.1 h
      obtain ⟨kind, hkind, h⟩ := Option.bind_eq_some_iff.1 h
      obtain ⟨k, hk, h⟩ := Option.bind_eq_some_iff.1 h
      cases h
      rw [depth, depth]
      refine Nat.succ_le_succ (depthFields_le_iff.2 fun e he => ?_)
      exact depth_le_depthFields (List.mem_filter.1 he).1
  · next kind rest =>
      obtain ⟨k, hk, h⟩ := Option.map_eq_some_iff.1 h
      cases h
      rw [depth, depth, depthItems]
      omega
  · cases h

theorem depth_pos_of_comparator? {v : Json} {text : String} (h : comparator? v = some text) :
    0 < v.depth := by
  obtain ⟨found, hfound, -⟩ := Option.bind_eq_some_iff.1 h
  exact depth_pos_of_members? hfound

/-- A comparison is written no deeper than the record it was read from. -/
theorem depth_toJson_le_of_comparison? {v : Json} {f : Filter} (h : comparison? v = some f) :
    f.toJson.depth ≤ v.depth := by
  obtain ⟨found, hfound, h⟩ := Option.bind_eq_some_iff.1 h
  obtain ⟨values, hvalues, h⟩ := Option.bind_eq_some_iff.1 h
  have hall := eq_of_allPresent? hvalues
  split at h
  · next op family column comparator =>
      obtain ⟨r, hr, h⟩ := Option.bind_eq_some_iff.1 h
      obtain ⟨family', hfamily, h⟩ := Option.bind_eq_some_iff.1 h
      obtain ⟨column', hcolumn, h⟩ := Option.bind_eq_some_iff.1 h
      obtain ⟨text, htext, h⟩ := Option.bind_eq_some_iff.1 h
      cases h
      have hpos : 0 < comparator.depth := depth_pos_of_comparator? htext
      have hlt : comparator.depth < v.depth := by
        refine depth_lt_of_members? hfound ?_
        rw [hall]
        simp
      rw [depth_toJson_value]
      omega
  · cases h

theorem depthItems_toJsons_le {n : Nat} {filters : List Filter}
    (h : ∀ f ∈ filters, f.toJson.depth ≤ n) : depthItems (toJsons filters) ≤ n := by
  induction filters with
  | nil => exact Nat.zero_le n
  | cons f rest ih =>
      obtain ⟨hf, hrest⟩ := List.forall_mem_cons.1 h
      rw [toJsons, depthItems]
      exact Nat.max_le.2 ⟨hf, ih hrest⟩

/-- What one level of reading goes through: the record without its kind is a
comparison, or it holds an array whose items are read one level further down. -/
theorem ofJsonWithin_succ_cases {n : Nat} {inList : Bool} {v : Json} {f : Filter}
    (h : ofJsonWithin (n + 1) inList v = some f) :
    ∃ record : Json, record.depth ≤ v.depth ∧
      (comparison? record = some f ∨
        ∃ c items filters, f = .list c filters ∧ (Json.array items).depth < record.depth ∧
          items.mapM (ofJsonWithin n true) = some filters) := by
  rw [ofJsonWithin] at h
  obtain ⟨⟨isList, record⟩, hsplit, h⟩ := Option.bind_eq_some_iff.1 h
  refine ⟨record, depth_le_of_splitKind? hsplit, ?_⟩
  cases isList with
  | false => exact .inl h
  | true =>
      obtain ⟨found, hfound, h⟩ := Option.bind_eq_some_iff.1 h
      obtain ⟨values, hvalues, h⟩ := Option.bind_eq_some_iff.1 h
      have hall := eq_of_allPresent? hvalues
      split at h
      · next op filters =>
          obtain ⟨c, hc, h⟩ := Option.bind_eq_some_iff.1 h
          obtain ⟨items, hitems, h⟩ := Option.bind_eq_some_iff.1 h
          obtain ⟨fs, hfs, h⟩ := Option.bind_eq_some_iff.1 h
          have harray : filters = .array items := by
            cases filters with
            | array vs => exact congrArg Json.array (Option.some.inj hitems)
            | _ => cases hitems
          have hmem : some (Json.array items) ∈ found := by
            rw [hall, harray]
            simp
          exact .inr ⟨c, items, fs, (Option.some.inj h).symm,
            depth_lt_of_members? hfound hmem, hfs⟩
      · cases h

/-- A filter is written no deeper than the document it was read from. -/
theorem depth_toJson_le_of_ofJsonWithin {n : Nat} {inList : Bool} {v : Json} {f : Filter}
    (h : ofJsonWithin n inList v = some f) : f.toJson.depth ≤ v.depth := by
  induction n generalizing inList v f with
  | zero =>
      rw [ofJsonWithin] at h
      cases h
  | succ n ih =>
      obtain ⟨record, hrecord, hcases⟩ := ofJsonWithin_succ_cases h
      rcases hcases with hcomparison | ⟨c, items, filters, rfl, hlt, hfilters⟩
      · exact (depth_toJson_le_of_comparison? hcomparison).trans hrecord
      · have hinner : depthItems (toJsons filters) ≤ depthItems items := by
          refine depthItems_toJsons_le fun g hg => ?_
          obtain ⟨w, hw, hread⟩ := exists_of_mem_mapM hfilters hg
          exact (ih hread).trans (depth_le_depthItems hw)
        rw [depth] at hlt
        rw [depth_toJson_list]
        omega

/-! ### Texts of filters -/

/-- A filter whose document the reader can open reads back from its text. -/
theorem parse_render_of_depth {f : Filter} (h : f.toJson.depth ≤ maxDepth) :
    parse f.render = .ok f := by
  have hdocument : Json.parse f.render = some f.toJson :=
    Json.parse_render h (numbersReadBack_toJson f)
  have hfilter : ofJsonWithin (maxDepth + 1) false f.toJson = some f :=
    ofJsonWithin_toJson f (maxDepth + 1) false (h.trans (Nat.le_succ _))
  rw [parse, hdocument, Option.bind_some, hfilter]

/-- Filters with the same text are the same filter. -/
theorem eq_of_render_eq {f g : Filter} (hf : f.toJson.depth ≤ maxDepth)
    (hg : g.toJson.depth ≤ maxDepth) (h : f.render = g.render) : f = g := by
  have hread := parse_render_of_depth hf
  rw [h, parse_render_of_depth hg] at hread
  exact (Except.ok.inj hread).symm

/-- A filter that was read is one whose document the reader can open. -/
theorem depth_toJson_of_parse {text : String} {f : Filter} (h : parse text = .ok f) :
    f.toJson.depth ≤ maxDepth := by
  unfold parse at h
  split at h
  · next g hread =>
      cases h
      obtain ⟨v, hv, hf⟩ := Option.bind_eq_some_iff.1 hread
      exact (depth_toJson_le_of_ofJsonWithin hf).trans (depth_le_of_parseAs hv)
  · cases h

/-- A text is read as a filter when what it is read as has the filter's text. -/
theorem parse_eq_ok_of_render {text : String} {f : Filter} (hf : f.toJson.depth ≤ maxDepth)
    (h : (parse text).toOption.map render = some f.render) : parse text = .ok f := by
  cases hread : parse text with
  | error e =>
      rw [hread] at h
      cases h
  | ok g =>
      rw [hread] at h
      rw [eq_of_render_eq (depth_toJson_of_parse hread) hf (Option.some.inj h)]

end Filter

/-- **The document of a filter is faithful.**  A filter whose text has no more arrays
and objects inside one another than the reader opens is read from that text.  And
whatever text a filter was read from, in any order of members and with members that a
filter does not have, writing it gives a text that is read as the same filter and
written as itself. -/
theorem filter_document_faithful :
    (∀ f : Filter, f.toJson.depth ≤ Json.maxDepth → Filter.parse f.render = .ok f) ∧
      ∀ (text : String) (f : Filter), Filter.parse text = .ok f →
        Filter.parse f.render = .ok f ∧
          (Filter.parse f.render).map Filter.render = .ok f.render := by
  refine ⟨fun f hdepth => Filter.parse_render_of_depth hdepth, ?_⟩
  intro text f hread
  have hback : Filter.parse f.render = .ok f :=
    Filter.parse_render_of_depth (Filter.depth_toJson_of_parse hread)
  refine ⟨hback, ?_⟩
  rw [hback]
  rfl

/-- A list of one comparison, with a control character and a quote in its texts. -/
def quotedFilter : Filter :=
  .list .any [.value .equal "DF" "a\x01" "\""]

/-- The same filter in another order, with a foreign member, and with the comparison as
an array that gives its kind by number. -/
def quotedFilterText : String :=
  "\x7b\"op\":\"MUST_PASS_ONE\",\"x\":0,\"filters\":[[1,\"EQUAL\",\"DF\",\"a\\u0001\"," ++
    "[\"\\\"\",\"BinaryComparator\"]]],\"type\":\"FilterList\"\x7d"

theorem quotedFilter_faithful :
    quotedFilter.toJson.depth ≤ Json.maxDepth ∧ Filter.parse quotedFilterText = .ok quotedFilter ∧
      Filter.parse quotedFilter.render = .ok quotedFilter ∧
        (Filter.parse quotedFilter.render).map Filter.render = .ok quotedFilter.render := by
  have hdepth : quotedFilter.toJson.depth ≤ Json.maxDepth := by decide +kernel
  have hread : Filter.parse quotedFilterText = .ok quotedFilter :=
    Filter.parse_eq_ok_of_render hdepth (by decide +kernel)
  have hwritten := filter_document_faithful.1 quotedFilter hdepth
  exact ⟨hdepth, hread, hwritten, (filter_document_faithful.2 _ _ hread).2⟩

end StreamStore
