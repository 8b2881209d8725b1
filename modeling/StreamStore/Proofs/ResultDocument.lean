import StreamStore.Proofs.JsonReadBack
import StreamStore.Proofs.Outcome
import StreamStore.Proofs.RecordMembers
import StreamStore.ResultSet

/-!
# Result documents read back

A page holds two maps, one of them with maps for values, and their order is part of the
page: the rows, and the columns of a row, stand as their cells arrived.  Keys are
distinct, so a map is written with one field for each entry, and reading it merges
nothing.  Hence a page is read from its own text as the page it is, order included.

The numbers of a page must be words (`Worded`), since a document keeps no others.  This
restricts no page that was read: what is read as a word is one (`worded_of_ofJson?`), and
a text in which keys are repeated, or members stand in another order, has been made a
page before it is written again.
-/

namespace StreamStore

namespace ResultSet

open Json

/-- Whether the count of a page and the places of its columns are words. -/
structure Worded (r : ResultSet) : Prop where
  /-- The count is a word. -/
  count : r.count < 18446744073709551616
  /-- The places are words. -/
  columns : ∀ e ∈ r.columns.entries, e.2 < 18446744073709551616

/-! ### Pages and their documents -/

/-- The members of a page's document, each read on its own, make up the page. -/
theorem ofJson?_of_members {columns count data cursor : Json} :
    ofJson? (.object [("columns", columns), ("count", count), ("data", data),
        ("scannerId", cursor)]) = (do
      let columns ← Json.map? Json.word? columns
      let count ← count.word?
      let data ← Json.map? (Json.map? Json.string?) data
      let cursor ← Cursor.ofJson? cursor
      some ⟨columns, count, data, cursor⟩) := rfl

theorem ofJson?_toJson {r : ResultSet} (h : r.Worded) : ofJson? r.toJson = some r := by
  have hcolumns : Json.map? Json.word? (Json.ofMap Json.ofNat r.columns) = some r.columns :=
    map?_ofMap fun e he => word?_ofNat (h.columns e he)
  have hdata : Json.map? (Json.map? Json.string?) (Json.ofMap (Json.ofMap Json.string) r.data) =
      some r.data :=
    map?_ofMap fun e _ => map?_ofMap fun _ _ => rfl
  rw [toJson, ofJson?_of_members, hcolumns, word?_ofNat h.count, hdata, Cursor.ofJson?_toJson]
  rfl

/-- A page is made up of its members, wherever these were found. -/
theorem worded_of_ofMembers? {members : List (Option Json)} {r : ResultSet}
    (h : ofMembers? members = some r) : r.Worded := by
  unfold ofMembers? at h
  split at h
  · next columns count data cursor =>
      obtain ⟨places, hcolumns, h⟩ := Option.bind_eq_some_iff.1 h
      obtain ⟨n, hcount, h⟩ := Option.bind_eq_some_iff.1 h
      obtain ⟨rows, hdata, h⟩ := Option.bind_eq_some_iff.1 h
      obtain ⟨c, hcursor, h⟩ := Option.bind_eq_some_iff.1 h
      obtain rfl := Option.some.inj h
      refine ⟨lt_of_word? hcount, fun e he => ?_⟩
      obtain ⟨v, hv⟩ := exists_of_mem_map? hcolumns he
      exact lt_of_word? hv
  · cases h

theorem worded_of_ofJson? {v : Json} {r : ResultSet} (h : ofJson? v = some r) : r.Worded := by
  obtain ⟨found, -, h⟩ := Option.bind_eq_some_iff.1 h
  dsimp only at h
  -- an array must have all members, an object need not
  split at h
  · obtain ⟨members, -, h⟩ := Option.bind_eq_some_iff.1 h
    exact worded_of_ofMembers? h
  · exact worded_of_ofMembers? h

/-! ### Pages and their texts -/

theorem depth_members_le {columns count data cursor : Json} (hcolumns : columns.depth ≤ 1)
    (hcount : count.depth = 0) (hdata : data.depth ≤ 2) (hcursor : cursor.depth = 0) :
    (Json.object [("columns", columns), ("count", count), ("data", data),
      ("scannerId", cursor)]).depth ≤ 3 := by
  simp only [depth, depthFields]
  omega

/-- The document of a page is at most three objects deep: the page, its rows, and a row. -/
theorem depth_toJson_le (r : ResultSet) : r.toJson.depth ≤ 3 := by
  have hcolumns : (Json.ofMap Json.ofNat r.columns).depth ≤ 1 :=
    depth_ofMap_le fun e _ => (depth_ofNat e.2).le
  have hdata : (Json.ofMap (Json.ofMap Json.string) r.data).depth ≤ 2 := by
    refine depth_ofMap_le fun e _ => depth_ofMap_le fun f _ => ?_
    rw [depth]
  have hcursor : r.cursor.toJson.depth = 0 := by
    rcases r.cursor with ⟨_ | id⟩
    · rfl
    · rfl
  exact depth_members_le hcolumns (depth_ofNat r.count) hdata hcursor

/-- The numbers in the document of a page are integers. -/
theorem numbersReadBack_toJson (r : ResultSet) : r.toJson.NumbersReadBack := by
  have hcolumns : (Json.ofMap Json.ofNat r.columns).NumbersReadBack :=
    numbersReadBack_ofMap fun e _ => numbersReadBack_ofNat e.2
  have hdata : (Json.ofMap (Json.ofMap Json.string) r.data).NumbersReadBack :=
    numbersReadBack_ofMap fun e _ => numbersReadBack_ofMap fun f _ => numbersReadBack_string f.2
  have hcursor : r.cursor.toJson.NumbersReadBack := by
    rcases r.cursor with ⟨_ | id⟩ <;> simp [Cursor.toJson]
  simp [toJson, hcolumns, hdata, hcursor]

/-- The document of a page has the members that a reader looks at and no others. -/
theorem shape_sees_toJson (r : ResultSet) : (Shape.ofNames memberNames).Sees r.toJson := by
  have hnames : ∀ e ∈ [("columns", Json.ofMap Json.ofNat r.columns), ("count", Json.ofNat r.count),
      ("data", Json.ofMap (Json.ofMap Json.string) r.data), ("scannerId", r.cursor.toJson)],
      e.1 ∈ memberNames := by
    simp [memberNames]
  rw [toJson, Shape.Sees, Shape.seesFields_iff]
  intro e he
  exact ⟨.whole, Shape.member?_ofNames (hnames e he), Shape.whole_sees e.2⟩

/-- The text of a page is read as that page. -/
theorem parse_render {r : ResultSet} (h : r.Worded) : parse r.render = .ok r := by
  have hdepth : r.toJson.depth ≤ maxDepth := (depth_toJson_le r).trans (by decide)
  have hdocument : parseAs (.ofNames memberNames) r.render = some r.toJson :=
    parseAs_render hdepth (numbersReadBack_toJson r) (shape_sees_toJson r)
  rw [parse, hdocument, Option.bind_some, ofJson?_toJson h]

theorem worded_of_parse {text : String} {r : ResultSet} (h : parse text = .ok r) : r.Worded := by
  unfold parse at h
  split at h
  · next page hread =>
      obtain rfl := Except.ok.inj h
      obtain ⟨v, -, hpage⟩ := Option.bind_eq_some_iff.1 hread
      exact worded_of_ofJson? hpage
  · cases h

end ResultSet

/-- **The document of a page is faithful.**  A page is read from its own text, with rows,
columns and the columns of each row in their order, and what is read is written as that
text.  And whatever text a page was read from, in any order of members, with repeated
keys in its maps and with members that a page does not have: its own text is read as the
same page and written as itself. -/
theorem result_document_faithful :
    (∀ r : ResultSet, r.Worded →
        ResultSet.parse r.render = .ok r ∧
          (ResultSet.parse r.render).map ResultSet.render = .ok r.render) ∧
      ∀ (text : String) (r : ResultSet), ResultSet.parse text = .ok r →
        ResultSet.parse r.render = .ok r ∧
          (ResultSet.parse r.render).map ResultSet.render = .ok r.render := by
  have hwritten : ∀ r : ResultSet, r.Worded →
      ResultSet.parse r.render = .ok r ∧
        (ResultSet.parse r.render).map ResultSet.render = .ok r.render := by
    intro r hworded
    have hback : ResultSet.parse r.render = .ok r := ResultSet.parse_render hworded
    refine ⟨hback, ?_⟩
    rw [hback]
    rfl
  refine ⟨hwritten, ?_⟩
  intro text r hread
  exact hwritten r (ResultSet.worded_of_parse hread)

/-- A page whose columns and rows do not ascend, with a quote and a control character in
its texts, and with the largest word as its count. -/
def unsortedPage : ResultSet where
  columns := .ofList [("z\"", 1), ("a", 0)]
  count := 18446744073709551615
  data := .ofList [("9:b", .ofList [("z\"", "\x01"), ("a", "ä𝄞")]), ("10:a", .empty)]
  cursor := .resume ""

/-- The same page with its members in another order and one more of them; a row and one
of its columns are given twice. -/
def unsortedPageText : String :=
  "\x7b\"scannerId\":\"\",\"data\":\x7b\"9:b\":\x7b\x7d,\"10:a\":\x7b\x7d,\"9:b\":\x7b\"z\\\"\":\"0\"," ++
    "\"a\":\"ä𝄞\",\"z\\\"\":\"\\u0001\"\x7d\x7d,\"x\":[0],\"count\":18446744073709551615," ++
    "\"columns\":\x7b\"z\\\"\":1,\"a\":0\x7d\x7d"

theorem unsortedPage_faithful :
    unsortedPage.Worded ∧ ResultSet.parse unsortedPage.render = .ok unsortedPage ∧
      ResultSet.parse unsortedPageText = .ok unsortedPage ∧
      (ResultSet.parse unsortedPage.render).map ResultSet.render = .ok unsortedPage.render := by
  have hworded : unsortedPage.Worded := ⟨by decide, by decide⟩
  have hread : ResultSet.parse unsortedPageText = .ok unsortedPage :=
    eq_ok_of_toOption (by decide +kernel)
  exact ⟨hworded, (result_document_faithful.1 unsortedPage hworded).1, hread,
    (result_document_faithful.2 unsortedPageText unsortedPage hread).2⟩

end StreamStore
