import StreamStore.Client
import StreamStore.Proofs.TextPieces

/-!
# Which columns a query fetches

A query fetches its output columns, the columns of its query-only list and, so
that the filter can look at them, the columns its constraint names.  The last
ones are added to the query-only list *as text*, and the list is cut at its
commas and rid of its blanks like every other.  So a column of the constraint is
fetched under its own name exactly when that name `isPlain`: not empty, and
without commas and blanks (`mem_fetched_of_mention`).  The pieces of any other
name are fetched instead of it.

Nothing else can be fetched: every column of a list is plain
(`isPlain_of_mem_columnsOf`).
-/

namespace StreamStore

/-! ### Cutting lists of columns -/

/-- Whether a list of columns can name a column: the name is not empty and has
neither commas nor blanks. -/
def isPlain (column : String) : Bool :=
  !column.isEmpty && column.toList.all fun c => c != ',' && !Text.isBlank c

theorem isPlain_iff {column : String} : isPlain column = true ↔
    column ≠ "" ∧ ∀ c ∈ column.toList, c ≠ ',' ∧ Text.isBlank c = false := by
  rw [isPlain, Bool.and_eq_true, Bool.not_eq_true', Bool.eq_false_iff, ne_eq, String.isEmpty_iff,
    List.all_eq_true]
  refine and_congr_right fun _ => forall₂_congr fun c _ => ?_
  rw [Bool.and_eq_true, bne_iff_ne, Bool.not_eq_true']

theorem mem_columnsOf {column list : String} : column ∈ columnsOf list ↔
    column ≠ "" ∧ ∃ p ∈ Text.pieces ',' list.toList,
      String.ofList (p.filter fun c => !Text.isBlank c) = column := by
  rw [columnsOf, List.mem_filter, List.mem_map, Bool.not_eq_true', Bool.eq_false_iff, ne_eq,
    String.isEmpty_iff, and_comm]

/-- A list of columns yields plain names only. -/
theorem isPlain_of_mem_columnsOf {column list : String} (h : column ∈ columnsOf list) :
    isPlain column = true := by
  obtain ⟨hne, p, hp, rfl⟩ := mem_columnsOf.1 h
  refine isPlain_iff.2 ⟨hne, fun c hc => ?_⟩
  rw [String.toList_ofList, List.mem_filter, Bool.not_eq_true'] at hc
  exact ⟨fun heq => Text.notMem_of_mem_pieces hp (heq ▸ hc.1), hc.2⟩

theorem columnsOf_append (list list' : String) :
    columnsOf (list ++ "," ++ list') = columnsOf list ++ columnsOf list' := by
  have hchars : (list ++ "," ++ list').toList = list.toList ++ ',' :: list'.toList := by
    rw [String.toList_append, String.toList_append, List.append_assoc]
    rfl
  rw [columnsOf, hchars, Text.pieces_append, List.map_append, List.filter_append]
  rfl

/-- A plain name stands for itself. -/
theorem columnsOf_of_isPlain {column : String} (h : isPlain column = true) :
    columnsOf column = [column] := by
  obtain ⟨hne, hchars⟩ := isPlain_iff.1 h
  have hcut : Text.pieces ',' column.toList = [column.toList] :=
    Text.pieces_of_notMem fun hmem => (hchars ',' hmem).1 rfl
  have hblank : column.toList.filter (fun c => !Text.isBlank c) = column.toList :=
    List.filter_eq_self.2 fun c hc => by rw [(hchars c hc).2]; rfl
  have hempty : (!column.isEmpty) = true := by
    rw [Bool.not_eq_true', Bool.eq_false_iff, ne_eq, String.isEmpty_iff]
    exact hne
  rw [columnsOf, hcut, List.map_singleton, hblank, String.ofList_toList,
    List.filter_cons_of_pos (p := fun c => !String.isEmpty c) hempty, List.filter_nil]

/-! ### Resolved projections -/

namespace Projection

variable {columns queryOnly family : String} {p : Projection}

theorem resolve_family (h : resolve columns queryOnly family = .ok p) : p.family = family := by
  rw [resolve] at h
  split at h
  · cases h
  · cases h
    rfl

theorem mem_output (h : resolve columns queryOnly family = .ok p) {column : String} :
    column ∈ p.output ↔ column ∈ columnsOf columns := by
  rw [resolve] at h
  split at h
  · cases h
  · cases h
    exact mem_firstOccurrences

/-- A column is fetched exactly when one of the two lists has it. -/
theorem mem_fetched (h : resolve columns queryOnly family = .ok p) {column : String} :
    column ∈ p.fetched ↔ column ∈ columnsOf columns ∨ column ∈ columnsOf queryOnly := by
  rw [resolve] at h
  split at h
  · cases h
  · cases h
    rw [fetched, List.mem_append, mem_firstOccurrences, List.mem_filter, mem_firstOccurrences,
      Bool.not_eq_true', Bool.eq_false_iff, ne_eq, List.contains_iff_mem, mem_firstOccurrences]
    constructor
    · exact Or.imp_right And.left
    · rintro (hout | hquery)
      · exact .inl hout
      · by_cases hout : column ∈ columnsOf columns
        · exact .inl hout
        · exact .inr ⟨hquery, hout⟩

theorem qualify_eq {t : RecordType} (h : p.family = t.family) : p.qualify = t.qualifier := by
  funext column
  rw [qualify, RecordType.qualifier, h]

theorem qualify_inj (p : Projection) {c d : String} (h : p.qualify c = p.qualify d) : c = d :=
  String.append_right_inj _ |>.1 h

theorem mem_qualifiers {column : String} :
    p.qualify column ∈ p.qualifiers ↔ column ∈ p.fetched := by
  rw [qualifiers, List.mem_map]
  constructor
  · rintro ⟨c, hc, heq⟩
    exact p.qualify_inj heq ▸ hc
  · intro h
    exact ⟨column, h, rfl⟩

theorem qualifiers_ne_nil (p : Projection) : p.qualifiers ≠ [] := by
  intro h
  rw [qualifiers, List.map_eq_nil_iff, fetched, List.append_eq_nil_iff] at h
  exact p.output_ne_nil h.1

theorem nodup_qualifiers (p : Projection) : p.qualifiers.Nodup :=
  List.pairwise_map.2 (p.distinct.imp fun hne heq => hne (p.qualify_inj heq))

end Projection

/-! ### Columns of a constraint -/

namespace LoadRequest

/-- The projection of a request and its record type agree on qualifiers. -/
theorem qualifier_eq {r : LoadRequest} {p : Projection} (hp : r.projection = .ok p)
    (column : String) : r.type.qualifier column = p.qualify column := by
  rw [Projection.qualify_eq (Projection.resolve_family hp)]

theorem columnsOf_foldl (columns : List String) (list : String) :
    columnsOf (columns.foldl (fun list column => list ++ "," ++ column) list) =
      columnsOf list ++ columns.flatMap columnsOf := by
  induction columns generalizing list with
  | nil => exact (List.append_nil _).symm
  | cons column columns ih =>
      rw [List.foldl_cons, ih, columnsOf_append, List.flatMap_cons, List.append_assoc]

/-- **Which columns of a constraint are fetched**: those with a plain name. -/
theorem mem_fetched_of_mention {r : LoadRequest} {k : Constraint} {p : Projection}
    (hk : r.constraint = some k) (hp : r.projection = .ok p) {column : String}
    (h : column ∈ k.mentions) : column ∈ p.fetched ↔ isPlain column = true := by
  rw [Projection.mem_fetched hp]
  constructor
  · rintro (hout | hquery)
    · exact isPlain_of_mem_columnsOf hout
    · exact isPlain_of_mem_columnsOf hquery
  · intro hplain
    refine .inr ?_
    rw [queryOnlyList, hk]
    show column ∈ columnsOf (k.columns.foldl _ r.queryOnly)
    rw [columnsOf_foldl, List.mem_append, List.mem_flatMap]
    refine .inr ⟨column, mem_firstOccurrences.2 h, ?_⟩
    rw [columnsOf_of_isPlain hplain]
    exact List.mem_singleton_self column

end LoadRequest

end StreamStore
