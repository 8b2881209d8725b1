import StreamStore.Gateway
import StreamStore.Proofs.PathSegments

/-!
# The address of a row

A row of a table is read at, and written to, an address that is built from their names.
For plain names the address is the row's own: it decodes to the table and the row key,
and no other two plain names have it as their address.  It is faithful for no other
names: a name of dots is skipped, and tabs and line ends are dropped, so that the rows
`a⇥b` and `ab` of one table have one address.

Everything is about names that are not blank, which is what requests are checked for.
Requests go to the web only (`Gateway.scheme_ne_file_of_canReceive`), so the drives of the
scheme `file` play no part.  The columns of a read stand behind the row, and must not take
it away again (`Url.Climbs`), which columns with a family never do.
-/

namespace StreamStore

/-! ### Names that are not blank -/

namespace Url

variable {name : String}

theorem isBlank_of_isLineChar {c : Char} (h : isLineChar c = true) : Text.isBlank c = true := by
  simp only [isLineChar, Bool.or_eq_true, beq_iff_eq] at h
  rcases h with (rfl | rfl) | rfl <;> decide

/-- Something is left of a name that is not blank. -/
theorem dropLineChars_ne_nil (h : Text.isBlankText name = false) :
    dropLineChars name.toList ≠ [] := by
  intro hnil
  have hblank : Text.isBlankText name = true := by
    refine List.all_eq_true.2 fun c hc => ?_
    have hline : isLineChar c = true := by
      simpa using List.filter_eq_nil_iff.1 hnil c hc
    exact isBlank_of_isLineChar hline
  rw [hblank] at h
  cases h

theorem trunk_concat {segments : List String} {s : String} (h : s ≠ "") :
    trunk (segments ++ [s]) = segments ++ [s] := by
  apply trunk_of_ne
  intro heq
  have hlast := congrArg List.getLast? heq
  rw [List.getLast?_concat] at hlast
  exact h (Option.some.inj hlast)

/-- Two ordinary names that are not blank are two segments more. -/
theorem foldl_appendSegment_pair (special : Bool) (segments : List String) {a b : String}
    (ha : Ordinary a) (hb : Ordinary b) (hblank : Text.isBlankText a = false) :
    [a, b].foldl (appendSegment false special) segments =
      trunk segments ++ [segmentOf special (dropLineChars a.toList),
        segmentOf special (dropLineChars b.toList)] := by
  have hne : segmentOf special (dropLineChars a.toList) ≠ "" :=
    segmentOf_ne_empty (dropLineChars_ne_nil hblank)
  rw [List.foldl_cons, List.foldl_cons, List.foldl_nil, appendSegment_of_ordinary ha,
    appendSegment_of_ordinary hb, trunk_concat hne, List.append_assoc]
  rfl

/-- A name that begins with another character than a dot does not climb. -/
theorem not_climbs_of_cons {c : Char} {rest : List Char} (h : name.toList = c :: rest)
    (hline : isLineChar c = false) (hdot : c ≠ '.') : ¬Climbs name := by
  rintro ⟨-, hdrop⟩
  rw [h, dropLineChars, List.filter_cons_of_pos (by rw [hline]; rfl)] at hdrop
  exact hdot (List.cons.inj hdrop).1

theorem append_pair_ne_root (segments : List String) (s s' : String) :
    segments ++ [s, s'] ≠ [""] := by
  intro heq
  have hlength := congrArg List.length heq
  simp at hlength

theorem signedOff_with_path (u : Url) (p : Path) :
    { u with path := p }.signedOff = { u.signedOff with path := p } := by
  unfold signedOff
  dsimp only
  split <;> rfl

/-- A URL with paths under it has segments. -/
theorem exists_segments {u : Url} (h : u.isBase = true) :
    ∃ segments, u.path = .segments segments := by
  unfold isBase at h
  split at h
  · next segments heq => exact ⟨segments, heq⟩
  · cases h

end Url

open Url

namespace Gateway

variable {g : Gateway} {front : List String} {table row table' row' : String}
  {columns : List String}

/-- Nothing is requested from a file. -/
theorem scheme_ne_file_of_canReceive {names : List String}
    (h : canReceive (g.address names) = true) : g.base.scheme ≠ fileScheme := by
  have hscheme : (g.address names).scheme = g.base.scheme :=
    (server_signedOff _).1.trans (server_append _ _).1
  intro hfile
  rw [canReceive, hscheme, hfile, Bool.and_eq_true, Bool.and_eq_true] at h
  exact absurd h.1.1 (by decide)

/-- An address has the path of the base with the names appended. -/
theorem address_eq (hfront : g.base.path = .segments front) (hfile : g.base.scheme ≠ fileScheme)
    (names : List String) :
    g.address names = { g.base.signedOff with
      path := .segments
        (names.foldl (appendSegment false (isSpecial g.base.scheme)) (popEmpty front)) } := by
  have hscheme : (g.base.scheme == fileScheme) = false := beq_eq_false_iff_ne.2 hfile
  rw [address, append, hfront]
  dsimp only
  rw [hscheme, signedOff_with_path]

/-- What a read asks for behind the row. -/
def columnNames (columns : List String) : List String :=
  if (String.intercalate "," columns).isEmpty then [] else [String.intercalate "," columns]

theorem getRowRequest_url (table row : String) (columns : List String) :
    (g.getRowRequest table row columns).url = g.address ([table, row] ++ columnNames columns) :=
  rfl

/-- **The path of a row.**  Behind the path of the base stand the table, the row, and what the
columns add. -/
theorem exists_row_path (hfront : g.base.path = .segments front)
    (hfile : g.base.scheme ≠ fileScheme) (hcolumns : ¬Climbs (String.intercalate "," columns)) :
    ∃ more : List String, (String.intercalate "," columns = "" → more = []) ∧
      ∀ table row, Text.isBlankText table = false → Ordinary table → Ordinary row →
        (g.getRowRequest table row columns).url = { g.base.signedOff with
          path := .segments (trunk (popEmpty front) ++
            segmentOf (isSpecial g.base.scheme) (dropLineChars table.toList) ::
            segmentOf (isSpecial g.base.scheme) (dropLineChars row.toList) :: more) } := by
  obtain ⟨more, hmore⟩ :=
    exists_appendSegment_eq_append (isSpecial g.base.scheme) hcolumns
  refine ⟨if (String.intercalate "," columns).isEmpty then [] else more, ?_, ?_⟩
  · intro hempty
    rw [hempty]
    rfl
  · intro table row hblank htable hrow
    have hpair :=
      foldl_appendSegment_pair (isSpecial g.base.scheme) (popEmpty front) htable hrow hblank
    rw [getRowRequest_url, address_eq hfront hfile, List.foldl_append, hpair, columnNames]
    split
    · rfl
    · rw [List.foldl_cons, List.foldl_nil, hmore _ (append_pair_ne_root _ _ _),
        List.append_assoc]
      rfl

theorem exists_toList_intercalate (first : String) (columns : List String) :
    ∃ rest, (String.intercalate "," (first :: columns)).toList = first.toList ++ rest := by
  cases columns with
  | nil => exact ⟨[], (List.append_nil _).symm⟩
  | cons column columns =>
      rw [String.intercalate_cons_cons, String.toList_append, String.toList_append,
        List.append_assoc]
      exact ⟨_, rfl⟩

/-- The columns of a client begin with their family, and so do not climb. -/
theorem not_climbs_qualifiers {t : RecordType} {output hidden : String} {p : Projection}
    (h : Projection.resolve output hidden t.family = .ok p) :
    ¬Climbs (String.intercalate "," p.qualifiers) := by
  obtain ⟨column, columns, houtput⟩ := List.exists_cons_of_ne_nil p.output_ne_nil
  have hqualifiers : p.qualifiers =
      t.qualifier column :: (columns ++ p.hidden).map p.qualify := by
    rw [Projection.qualifiers, Projection.fetched, houtput, List.cons_append, List.map_cons,
      Projection.qualify, Projection.resolve_family h]
    rfl
  obtain ⟨rest, hrest⟩ :=
    exists_toList_intercalate (t.qualifier column) ((columns ++ p.hidden).map p.qualify)
  have htext : (t.qualifier column).toList = t.family.toList ++ ':' :: column.toList := by
    show (t.family ++ ":" ++ column).toList = _
    rw [String.toList_append, String.toList_append, List.append_assoc]
    rfl
  rw [htext] at hrest
  rw [hqualifiers]
  cases t with
  | data => exact not_climbs_of_cons (c := 'D') hrest (by decide) (by decide)
  | event => exact not_climbs_of_cons (c := 'E') hrest (by decide) (by decide)

/-- Whether an address is that of a row: behind the path of the base it has a segment that
decodes to the table and one that decodes to the row, and nothing else unless there are
columns. -/
def Names (g : Gateway) (u : Url) (table row : String) (columns : List String) : Prop :=
  ∃ front a b more, g.base.path = .segments front ∧
    u.path = .segments (trunk (popEmpty front) ++ a :: b :: more) ∧
    (String.intercalate "," columns = "" → more = []) ∧
    plainText? a = some table ∧ plainText? b = some row

theorem names_of_plain (hfront : g.base.path = .segments front)
    (hfile : g.base.scheme ≠ fileScheme) (hcolumns : ¬Climbs (String.intercalate "," columns))
    (hblank : Text.isBlankText table = false) (htable : Plain table) (hrow : Plain row) :
    g.Names (g.getRowRequest table row columns).url table row columns := by
  obtain ⟨more, hempty, hpath⟩ := exists_row_path hfront hfile hcolumns
  have hurl := hpath table row hblank htable.ordinary hrow.ordinary
  rw [htable.dropLineChars_eq, hrow.dropLineChars_eq] at hurl
  refine ⟨front, _, _, more, hfront, congrArg Url.path hurl, hempty, ?_, ?_⟩
  · rw [plainText?_segmentOf, String.ofList_toList]
  · rw [plainText?_segmentOf, String.ofList_toList]

/-- An address names plain names only. -/
theorem plain_of_names (hfile : g.base.scheme ≠ fileScheme)
    (h : g.Names (g.getRowRequest table row columns).url table row columns) :
    Plain table ∧ Plain row := by
  obtain ⟨front, a, b, more, hfront, hpath, -, ha, hb⟩ := h
  rw [getRowRequest_url, address_eq hfront hfile] at hpath
  have hgrown : Grown (trunk (popEmpty front)).length (popEmpty front) := by
    by_cases hroot : popEmpty front = [""]
    · rw [hroot]
      refine ⟨[], [""], rfl, Nat.zero_le _, fun s hs => ?_⟩
      rw [List.mem_singleton.1 hs]
      exact ⟨"", plain_empty, rfl⟩
    · rw [trunk_of_ne hroot]
      exact ⟨_, [], (List.append_nil _).symm, Nat.le_refl _, fun s hs => nomatch hs⟩
  have hall := hgrown.foldl (isSpecial g.base.scheme) ([table, row] ++ columnNames columns)
  have heq := Path.segments.inj hpath
  exact ⟨hall.plain_of_mem heq (Nat.le_refl _) List.mem_cons_self ha,
    hall.plain_of_mem heq (Nat.le_refl _) (List.mem_cons_of_mem _ List.mem_cons_self) hb⟩

/-- Ordinary names have one address when they differ in tabs and line ends only. -/
theorem text_url_eq_iff (hfront : g.base.path = .segments front)
    (hfile : g.base.scheme ≠ fileScheme) (hcolumns : ¬Climbs (String.intercalate "," columns))
    (hblank : Text.isBlankText table = false) (hblank' : Text.isBlankText table' = false)
    (htable : Ordinary table) (hrow : Ordinary row) (htable' : Ordinary table')
    (hrow' : Ordinary row') :
    (g.getRowRequest table row columns).url.text = (g.getRowRequest table' row' columns).url.text ↔
      dropLineChars table.toList = dropLineChars table'.toList ∧
        dropLineChars row.toList = dropLineChars row'.toList := by
  obtain ⟨more, -, hpath⟩ := exists_row_path hfront hfile hcolumns
  rw [hpath table row hblank htable hrow, hpath table' row' hblank' htable' hrow']
  constructor
  · intro htext
    obtain ⟨ha, hb⟩ := text_segments_inj (slash_notMem_segmentOf _) (slash_notMem_segmentOf _)
      (path_text_of_text htext)
    exact ⟨segmentOf_inj ha, segmentOf_inj hb⟩
  · rintro ⟨ha, hb⟩
    rw [ha, hb]

/-- Plain names have one address only when they are the same. -/
theorem eq_of_text_url_eq (hfront : g.base.path = .segments front)
    (hfile : g.base.scheme ≠ fileScheme) (hcolumns : ¬Climbs (String.intercalate "," columns))
    (hblank : Text.isBlankText table = false) (hblank' : Text.isBlankText table' = false)
    (htable : Plain table) (hrow : Plain row) (htable' : Plain table') (hrow' : Plain row')
    (htext : (g.getRowRequest table row columns).url.text =
      (g.getRowRequest table' row' columns).url.text) : table = table' ∧ row = row' := by
  have hsame := (text_url_eq_iff hfront hfile hcolumns hblank hblank' htable.ordinary
    hrow.ordinary htable'.ordinary hrow'.ordinary).1 htext
  rw [htable.dropLineChars_eq, hrow.dropLineChars_eq, htable'.dropLineChars_eq,
    hrow'.dropLineChars_eq] at hsame
  exact ⟨String.toList_inj.1 hsame.1, String.toList_inj.1 hsame.2⟩

/-- A write to a single row goes to the address where the row is read. -/
theorem putCellsRequest_url (table : String) {first : Cell} {rest : List Cell}
    (h : ∀ c ∈ first :: rest, c.rowKey = row) :
    (g.putCellsRequest table first (first :: rest)).url = (g.getRowRequest table row []).url := by
  rw [putCellsRequest, addressedRow_of_forall h]
  rfl

/-- **The address of a row is its own exactly for plain names.**  Take a table that is not
blank, a row key, and columns that do not climb, and a request that can be sent.  Its address
decodes to the table and the row if and only if both are plain.  Of ordinary names it tells
everything but tabs and line ends, so that plain names have one address only when they are the
same.  A write to a single row has the address where the row is read.  The columns that a client
asks for have their family in front, so that nothing has to be assumed of them. -/
theorem row_addresses_faithful_iff (hbase : g.base.isBase = true)
    (hcolumns : ¬Climbs (String.intercalate "," columns))
    (hsent : canReceive (g.getRowRequest table row columns).url = true)
    (htable : Text.isBlankText table = false) :
    (g.Names (g.getRowRequest table row columns).url table row columns ↔
      Plain table ∧ Plain row) ∧
    (∀ table' row', Text.isBlankText table' = false →
      (Ordinary table → Ordinary row → Ordinary table' → Ordinary row' →
        ((g.getRowRequest table row columns).url.text =
            (g.getRowRequest table' row' columns).url.text ↔
          dropLineChars table.toList = dropLineChars table'.toList ∧
            dropLineChars row.toList = dropLineChars row'.toList)) ∧
      (Plain table → Plain row → Plain table' → Plain row' →
        (g.getRowRequest table row columns).url.text =
          (g.getRowRequest table' row' columns).url.text → table = table' ∧ row = row')) ∧
    (∀ first rest, (∀ c ∈ first :: rest, c.rowKey = row) →
      (g.putCellsRequest table first (first :: rest)).url = (g.getRowRequest table row []).url) ∧
    ∀ (t : RecordType) (output hidden : String) (p : Projection),
      Projection.resolve output hidden t.family = .ok p →
        (g.Names (g.getRowRequest table row p.qualifiers).url table row p.qualifiers ↔
          Plain table ∧ Plain row) ∧
        ∀ table' row', Text.isBlankText table' = false →
          Plain table → Plain row → Plain table' → Plain row' →
          (g.getRowRequest table row p.qualifiers).url.text =
            (g.getRowRequest table' row' p.qualifiers).url.text → table = table' ∧ row = row' := by
  obtain ⟨front, hfront⟩ := exists_segments hbase
  have hfile : g.base.scheme ≠ fileScheme := scheme_ne_file_of_canReceive hsent
  have hnames : ∀ columns, ¬Climbs (String.intercalate "," columns) →
      (g.Names (g.getRowRequest table row columns).url table row columns ↔
        Plain table ∧ Plain row) := fun _ hcolumns =>
    ⟨plain_of_names hfile, fun h => names_of_plain hfront hfile hcolumns htable h.1 h.2⟩
  refine ⟨hnames columns hcolumns, fun table' row' htable' => ⟨?_, ?_⟩,
    fun first rest => putCellsRequest_url table, fun t output hidden p hresolved => ⟨?_, ?_⟩⟩
  · exact text_url_eq_iff hfront hfile hcolumns htable htable'
  · exact eq_of_text_url_eq hfront hfile hcolumns htable htable'
  · exact hnames p.qualifiers (not_climbs_qualifiers hresolved)
  · intro table' row' htable'
    exact eq_of_text_url_eq hfront hfile (not_climbs_qualifiers hresolved) htable htable'

/-- A gateway whose tables stand at the root. -/
def rootGateway : Gateway :=
  ⟨"http://hbase:8080",
    ⟨"http", none, some (.name "hbase"), some 8080, false, .segments [""], none, none⟩⟩

example : ofAddress "http://hbase:8080" = .ok rootGateway := by rfl

/-- A row key with a slash has an address of its own, which is not that of the key with the
slash already encoded. -/
theorem slashed_row_has_own_address :
    rootGateway.Names (rootGateway.getRowRequest "plant_events" "7:1:a/b" ["EF:state"]).url
        "plant_events" "7:1:a/b" ["EF:state"] ∧
      (rootGateway.getRowRequest "plant_events" "7:1:a/b" ["EF:state"]).url.text ≠
        (rootGateway.getRowRequest "plant_events" "7:1:a%2Fb" ["EF:state"]).url.text := by
  have htable : Plain "plant_events" := by decide
  have hrow : Plain "7:1:a/b" := by decide
  have hother : Plain "7:1:a%2Fb" := by decide
  have hsent : canReceive
      (rootGateway.getRowRequest "plant_events" "7:1:a/b" ["EF:state"]).url = true := by rfl
  obtain ⟨hnames, hothers, -⟩ := row_addresses_faithful_iff rfl (by decide) hsent (by decide)
  refine ⟨hnames.2 ⟨htable, hrow⟩, fun htext => ?_⟩
  have hsame := (hothers "plant_events" "7:1:a%2Fb" (by decide)).2 htable hrow htable hother htext
  exact absurd hsame.2 (by decide)

/-- A row key with a tab has the address of the key without it, for reads and for writes, and
the two row keys of dots have one address. -/
theorem tabbed_row_shares_address :
    (rootGateway.getRowRequest "plant_events" "a\tb" []).url =
        (rootGateway.getRowRequest "plant_events" "ab" []).url ∧
      (rootGateway.putCellsRequest "plant_events" ⟨"a\tb", "EF:state", 1, "ok"⟩
          [⟨"a\tb", "EF:state", 1, "ok"⟩]).url =
        (rootGateway.putCellsRequest "plant_events" ⟨"ab", "EF:state", 1, "ok"⟩
          [⟨"ab", "EF:state", 1, "ok"⟩]).url ∧
      (rootGateway.getRowRequest "plant_events" "." []).url =
        (rootGateway.getRowRequest "plant_events" ".." []).url ∧
      Text.isBlankText "a\tb" = false ∧ "a\tb" ≠ "ab" := by
  refine ⟨by rfl, by rfl, by rfl, by decide, by decide⟩

end Gateway

end StreamStore
