import StreamStore.Proofs.LastWrites
import StreamStore.Proofs.Outcome

/-!
# Reading the rows that begin with a text

A pattern, a text and a star, asks for every row whose key begins with the text.  Such rows
are not searched for: reading starts at the text and stops at the first key that does not
begin with it.

Nothing is missed, because beginning with the text is a beginning of what is read
(`SortedMap.entries_beginning`): no key that begins with the text stands before it
(`not_append_lt`), and what stands between the text and a key that begins with it begins with
it too (`begins_of_between`).  Characters are compared one by one, so this holds for whatever
texts the keys are.
-/

namespace StreamStore

/-! ### Keys that begin with a text -/

section Beginnings

variable {start key : String}

theorem isPrefixOf_iff : start.toList.isPrefixOf key.toList = true ↔
    ∃ rest, key = start ++ rest := by
  rw [List.isPrefixOf_iff_prefix]
  constructor
  · rintro ⟨rest, hrest⟩
    refine ⟨String.ofList rest, String.toList_inj.1 ?_⟩
    rw [String.toList_append, String.toList_ofList, hrest]
  · rintro ⟨rest, rfl⟩
    exact ⟨rest.toList, String.toList_append.symm⟩

/-- A text stands before all that begin with it. -/
theorem not_append_lt (start rest : String) : ¬start ++ rest < start := by
  intro h
  have hchars : start.toList ++ rest.toList < start.toList ++ [] := by
    rw [List.append_nil, ← String.toList_append]
    exact h
  rw [Text.append_lt_append_iff] at hchars
  exact List.not_lt_nil _ hchars

/-- What stands between a text and one that begins with it begins with it. -/
theorem begins_of_between {rest : String} (hlow : ¬key < start) (hhigh : key < start ++ rest) :
    ∃ more, key = start ++ more := by
  have hlow' : ¬key.toList < start.toList ++ [] := by
    rw [List.append_nil]
    exact hlow
  have hhigh' : key.toList < start.toList ++ rest.toList := by
    rw [← String.toList_append]
    exact hhigh
  obtain ⟨more, hmore⟩ := Text.beginning_of_between hlow' hhigh'
  exact isPrefixOf_iff.1 (List.isPrefixOf_iff_prefix.2 ⟨more, hmore.symm⟩)

end Beginnings

/-- **Stopping early loses nothing**: the entries that are read from a text on, as long as
their keys begin with it, are all entries whose keys do. -/
theorem SortedMap.entries_beginning {β : Type} (m : SortedMap β) (start : String) :
    ((m.startingAt start).takeWhile fun e => start.toList.isPrefixOf e.1.toList) =
      m.entries.filter fun e => start.toList.isPrefixOf e.1.toList := by
  have hstart : m.startingAt start = m.entries.filter fun e => !decide (e.1 < start) :=
    dropWhile_eq_filter (below_pairwise m.ascending start)
  rw [hstart, takeWhile_eq_filter, List.filter_filter]
  · refine List.filter_congr fun e _ => ?_
    cases hbegins : start.toList.isPrefixOf e.1.toList with
    | false => rfl
    | true =>
        obtain ⟨rest, hrest⟩ := isPrefixOf_iff.1 hbegins
        rw [hrest, decide_eq_false (not_append_lt start rest)]
        rfl
  · refine (m.ascending.filter _).imp_of_mem fun {a b} ha _ hab hbegins => ?_
    obtain ⟨rest, hrest⟩ := isPrefixOf_iff.1 hbegins
    have hlow : ¬a.1 < start := by simpa using (List.mem_filter.1 ha).2
    exact isPrefixOf_iff.2 (begins_of_between hlow (hrest ▸ hab))

/-- A pattern is the text before its star. -/
theorem beforeStar?_pattern (start : String) : beforeStar? (start ++ "*") = some start := by
  have hchars : (start ++ "*").toList.reverse = '*' :: start.toList.reverse := by
    rw [String.toList_append, List.reverse_append]
    rfl
  simp only [beforeStar?, hchars, List.reverse_reverse, String.ofList_toList]

namespace Table

variable {t : Table} {start : String} {columns : List String}

theorem ascending_rowsStarting : (t.rowsStarting start columns).Pairwise Cell.Before := by
  rw [rowsStarting, SortedMap.entries_beginning]
  exact Row.ascending_flatMap (t.rows.ascending.filter _) (fun _ => Row.ascending_cells)
    fun _ _ hc => (Row.mem_cells.1 hc).1

theorem mem_rowsStarting {c : Cell} : c ∈ t.rowsStarting start columns ↔
    (∃ rest, c.rowKey = start ++ rest) ∧ t.Stores c ∧
      (columns = [] ∨ c.qualifier ∈ columns) := by
  rw [rowsStarting, SortedMap.entries_beginning, List.mem_flatMap]
  constructor
  · rintro ⟨⟨key, row⟩, he, hc⟩
    obtain ⟨hrow, hbegins⟩ := List.mem_filter.1 he
    obtain ⟨rfl, hget, hasked⟩ := Row.mem_cells.1 hc
    exact ⟨isPrefixOf_iff.1 hbegins, ⟨row, SortedMap.get?_eq_some_iff.2 hrow, hget⟩, hasked⟩
  · rintro ⟨hbegins, ⟨row, hrow, hget⟩, hasked⟩
    exact ⟨(c.rowKey, row), List.mem_filter.2 ⟨SortedMap.get?_eq_some_iff.1 hrow,
      isPrefixOf_iff.2 hbegins⟩, Row.mem_cells.2 ⟨rfl, hget, hasked⟩⟩

end Table

/-! ### Main result -/

/-- **A pattern reads the rows that begin with its text.**  On a table that exists it is
answered with the cells that are stored in such rows under the qualifiers that are asked for,
all of them when none is named, each once, by row and then by qualifier; and the store stays
as it was.  Every key begins with the empty text. -/
theorem prefix_read_lists_rows (s : Store) (table start : String) (columns : List String)
    (t : Table) (htable : s.tables.get? table = some t) :
    ∃ cells, perform (Store.backend.getRow table (start ++ "*") columns) s = (.ok cells, s) ∧
      cells.Pairwise Cell.Before ∧
      ∀ c, c ∈ cells ↔ (∃ rest, c.rowKey = start ++ rest) ∧ t.Stores c ∧
        (columns = [] ∨ c.qualifier ∈ columns) := by
  have hget : s.getRow table (start ++ "*") columns = .ok (t.rowsStarting start columns) := by
    simp only [Store.getRow, htable, beforeStar?_pattern]
  refine ⟨t.rowsStarting start columns, ?_, Table.ascending_rowsStarting, fun _ =>
    Table.mem_rowsStarting⟩
  show (s.getRow table (start ++ "*") columns, s) = _
  rw [hget]

/-- A store with rows whose keys have characters of every width. -/
def wideKeys : Store :=
  Call.afterAll .empty [.createTable ⟨"plant", ["d"]⟩,
    .putCells "plant" (["b", "a𐀀", "aé", "a*", "", "a", "é", "a\uffff"].flatMap fun key =>
      [⟨key, "d:y", 1, "1"⟩, ⟨key, "d:x", 1, "2"⟩])]

/-- Keys stand in the order of their code points, and a star in the middle of a key is a
character like any other. -/
theorem prefix_read_of_wide_keys :
    ∃ cells, perform (Store.backend.getRow "plant" ("a" ++ "*") ["d:x"]) wideKeys =
        (.ok cells, wideKeys) ∧
      (∀ c ∈ cells, ∃ rest, c.rowKey = "a" ++ rest) ∧
      cells.map (fun c => (c.rowKey, c.qualifier)) = [("a", "d:x"), ("a*", "d:x"),
        ("aé", "d:x"), ("a\uffff", "d:x"), ("a𐀀", "d:x")] := by
  obtain ⟨t, htable⟩ : ∃ t, wideKeys.tables.get? "plant" = some t := ⟨_, rfl⟩
  obtain ⟨cells, hread, -, hmem⟩ := prefix_read_lists_rows wideKeys "plant" "a" ["d:x"] t htable
  refine ⟨cells, hread, fun c hc => ((hmem c).1 hc).1, ?_⟩
  have hcells : wideKeys.getRow "plant" ("a" ++ "*") ["d:x"] = .ok cells := congrArg Prod.fst hread
  have hplaces : ((wideKeys.getRow "plant" ("a" ++ "*") ["d:x"]).toOption.map
      fun cells => cells.map fun c => (c.rowKey, c.qualifier)) = some [("a", "d:x"),
        ("a*", "d:x"), ("aé", "d:x"), ("a\uffff", "d:x"), ("a𐀀", "d:x")] := by
    decide +kernel
  rw [hcells] at hplaces
  exact Option.some.inj hplaces

end StreamStore
