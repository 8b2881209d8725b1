import Mathlib.Data.List.Perm.Subperm
import Mathlib.Data.List.Nodup
import Mathlib.Data.List.ProdSigma
import StreamStore.Proofs.ClientPages
import StreamStore.Proofs.MergedPages
import StreamStore.Proofs.RowsOfCells

/-!
# When a limit counts rows

A limit of rows is turned into a budget of cells, the limit times the number of
fetched columns, and the scan is cut wherever a budget ends.  A row that lacks a
column leaves room for a cell of the next row.  So a page may show more rows than the
limit, and the row at its end may be cut in two.

The budget counts rows exactly as long as rows are full (`FullRow`): the cells of some
rows fill as many budgets as rows if and only if the rows are full
(`length_eq_mul_iff`).  Only the rows of the last page need not be, which is the
condition `FullBeforeLast`; by induction on the budgets it is equivalent to whole rows
on every page (`wholeRows_batches_iff`).  Columns that are fetched for filters only
count for the budget but do not show, so with them the condition is sufficient, and
without them it is exact (`limit_counts_rows`).
-/

namespace StreamStore

/-! ### Counting cells -/

/-- Whether a row has a cell under each of some qualifiers. -/
def FullRow (qualifiers : List String) (cells : List Cell) (key : String) : Prop :=
  ∀ q ∈ qualifiers, ∃ c ∈ cells, c.rowKey = key ∧ c.qualifier = q

instance (qualifiers : List String) (cells : List Cell) (key : String) :
    Decidable (FullRow qualifiers cells key) :=
  inferInstanceAs (Decidable (∀ q ∈ qualifiers, ∃ c ∈ cells, c.rowKey = key ∧ c.qualifier = q))

/-- Cells in the order of a scan that asks for some qualifiers. -/
structure Listed (qualifiers : List String) (cells : List Cell) : Prop where
  /-- The cells ascend, so no place has two of them. -/
  ascending : cells.Pairwise Cell.Before
  /-- Every cell was asked for. -/
  asked : ∀ c ∈ cells, c.qualifier ∈ qualifiers


section Counting

variable {qualifiers : List String} {cells : List Cell}

/-- The row and the qualifier of a cell. -/
def Cell.place (c : Cell) : String × String :=
  (c.rowKey, c.qualifier)

theorem Listed.nodup_places (h : Listed qualifiers cells) : (cells.map Cell.place).Nodup := by
  refine List.pairwise_map.2 (h.ascending.imp fun {a b} hab heq => ?_)
  have hrow : a.rowKey = b.rowKey := congrArg Prod.fst heq
  have hqualifier : a.qualifier = b.qualifier := congrArg Prod.snd heq
  rcases Cell.before_iff.1 hab with hlt | ⟨-, hlt⟩
  · exact String.lt_irrefl _ (hrow ▸ hlt)
  · exact String.lt_irrefl _ (hqualifier ▸ hlt)

theorem Listed.places_subset (h : Listed qualifiers cells) :
    cells.map Cell.place ⊆ rowsOf cells ×ˢ qualifiers := by
  intro place hplace
  obtain ⟨c, hc, rfl⟩ := List.mem_map.1 hplace
  exact List.mem_product.2 ⟨mem_rowsOf.2 ⟨c, hc, rfl⟩, h.asked c hc⟩

/-- A row has at most one cell for each qualifier. -/
theorem Listed.length_le (h : Listed qualifiers cells) :
    cells.length ≤ (rowsOf cells).length * qualifiers.length := by
  have hle := (h.nodup_places.subperm h.places_subset).length_le
  rwa [List.length_map, List.length_product] at hle

/-- **Cells count rows** exactly when the rows are full. -/
theorem Listed.length_eq_mul_iff (h : Listed qualifiers cells) (hq : qualifiers.Nodup) :
    cells.length = (rowsOf cells).length * qualifiers.length ↔
      ∀ key ∈ rowsOf cells, FullRow qualifiers cells key := by
  have hproduct : (rowsOf cells ×ˢ qualifiers).length =
      (rowsOf cells).length * qualifiers.length := List.length_product ..
  constructor
  · intro hlength key hkey q hq
    have hperm : (cells.map Cell.place).Perm (rowsOf cells ×ˢ qualifiers) := by
      refine (h.nodup_places.subperm h.places_subset).perm_of_length_le ?_
      exact Nat.le_of_eq (hproduct.trans (hlength.symm.trans (List.length_map _).symm))
    obtain ⟨c, hc, hplace⟩ := List.mem_map.1 (hperm.mem_iff.2 (List.mem_product.2 ⟨hkey, hq⟩))
    exact ⟨c, hc, congrArg Prod.fst hplace, congrArg Prod.snd hplace⟩
  · intro hfull
    refine Nat.le_antisymm h.length_le ?_
    have hsubset : rowsOf cells ×ˢ qualifiers ⊆ cells.map Cell.place := by
      rintro ⟨key, q⟩ hplace
      obtain ⟨hkey, hmem⟩ := List.mem_product.1 hplace
      obtain ⟨c, hc, rfl, rfl⟩ := hfull key hkey q hmem
      exact List.mem_map_of_mem hc
    have hnodup : (rowsOf cells ×ˢ qualifiers).Nodup :=
      List.Nodup.product (nodup_rowsOf cells) hq
    have hle := (hnodup.subperm hsubset).length_le
    rwa [hproduct, List.length_map] at hle

end Counting

/-! ### Full rows -/

section Fullness

variable {qualifiers : List String} {xs ys : List Cell} {key : String}

theorem fullRow_append_left (hapart : RowsApart xs ys) (hkey : key ∈ rowsOf xs) :
    FullRow qualifiers (xs ++ ys) key ↔ FullRow qualifiers xs key := by
  refine forall₂_congr fun q _ => ?_
  constructor
  · rintro ⟨c, hc, hrow, hq⟩
    rcases List.mem_append.1 hc with hc | hc
    · exact ⟨c, hc, hrow, hq⟩
    · obtain ⟨d, hd, rfl⟩ := mem_rowsOf.1 hkey
      exact absurd hrow.symm (hapart d hd c hc)
  · rintro ⟨c, hc, hrow, hq⟩
    exact ⟨c, List.mem_append_left _ hc, hrow, hq⟩

theorem fullRow_append_right (hapart : RowsApart xs ys) (hkey : key ∈ rowsOf ys) :
    FullRow qualifiers (xs ++ ys) key ↔ FullRow qualifiers ys key := by
  refine forall₂_congr fun q _ => ?_
  constructor
  · rintro ⟨c, hc, hrow, hq⟩
    rcases List.mem_append.1 hc with hc | hc
    · obtain ⟨d, hd, rfl⟩ := mem_rowsOf.1 hkey
      exact absurd hrow (hapart c hc d hd)
    · exact ⟨c, hc, hrow, hq⟩
  · rintro ⟨c, hc, hrow, hq⟩
    exact ⟨c, List.mem_append_right _ hc, hrow, hq⟩

/-- Whether rows are full, apart from those that a last page of at most `limit` rows
shows. -/
def FullBeforeLast (qualifiers : List String) (limit : Nat) (cells : List Cell) : Prop :=
  ∀ key ∈ (rowsOf cells).take (((rowsOf cells).length - 1) / limit * limit),
    FullRow qualifiers cells key

instance (qualifiers : List String) (limit : Nat) (cells : List Cell) :
    Decidable (FullBeforeLast qualifiers limit cells) :=
  inferInstanceAs (Decidable (∀ key ∈ (rowsOf cells).take _, FullRow qualifiers cells key))

/-- Rows that fit on one page are on the last page. -/
theorem fullBeforeLast_of_few {limit : Nat} (h : (rowsOf xs).length ≤ limit) :
    FullBeforeLast qualifiers limit xs := by
  intro key hkey
  have hnone : ((rowsOf xs).length - 1) / limit * limit = 0 := by
    by_cases hempty : (rowsOf xs).length = 0
    · rw [hempty, Nat.zero_sub, Nat.zero_div, Nat.zero_mul]
    · rw [Nat.div_eq_of_lt (by omega), Nat.zero_mul]
  rw [hnone] at hkey
  cases hkey

/-- As many rows as a page has, with other rows behind them, are not on the last page. -/
theorem fullBeforeLast_append (hapart : RowsApart xs ys) (hpos : 0 < (rowsOf xs).length)
    (hys : 0 < (rowsOf ys).length) :
    FullBeforeLast qualifiers (rowsOf xs).length (xs ++ ys) ↔
      (∀ key ∈ rowsOf xs, FullRow qualifiers xs key) ∧
        FullBeforeLast qualifiers (rowsOf xs).length ys := by
  generalize hlimit : (rowsOf xs).length = limit at hpos
  have hcount : (limit + (rowsOf ys).length - 1) / limit * limit =
      limit + ((rowsOf ys).length - 1) / limit * limit := by
    have hsum : limit + (rowsOf ys).length - 1 = (rowsOf ys).length - 1 + limit := by omega
    rw [hsum, Nat.add_div_right _ hpos, Nat.succ_mul, Nat.add_comm]
  have htake : (rowsOf (xs ++ ys)).take (((rowsOf (xs ++ ys)).length - 1) / limit * limit) =
      rowsOf xs ++ (rowsOf ys).take (((rowsOf ys).length - 1) / limit * limit) := by
    rw [rowsOf_append hapart, List.length_append, hlimit, hcount, ← hlimit,
      List.take_length_add_append]
  rw [FullBeforeLast, htake, List.forall_mem_append]
  refine and_congr (forall₂_congr fun key hkey => fullRow_append_left hapart hkey)
    (forall₂_congr fun key hkey => fullRow_append_right hapart (List.mem_of_mem_take hkey))

end Fullness

/-! ### Budgets of cells -/

/-- Whether no batch of cells has more than `limit` rows, and none has a row of another. -/
structure WholeRows (limit : Nat) (bs : List (List Cell)) : Prop where
  few : ∀ batch ∈ bs, (rowsOf batch).length ≤ limit
  apart : bs.Pairwise RowsApart

theorem wholeRows_nil (limit : Nat) : WholeRows limit [] :=
  ⟨fun _ h => absurd h List.not_mem_nil, List.Pairwise.nil⟩

theorem wholeRows_cons {limit : Nat} {batch : List Cell} {bs : List (List Cell)} :
    WholeRows limit (batch :: bs) ↔
      (rowsOf batch).length ≤ limit ∧ RowsApart batch bs.flatten ∧ WholeRows limit bs := by
  constructor
  · rintro ⟨hfew, hapart⟩
    obtain ⟨hbatch, hfew⟩ := List.forall_mem_cons.1 hfew
    obtain ⟨hother, hapart⟩ := List.pairwise_cons.1 hapart
    refine ⟨hbatch, fun c hc d hd => ?_, hfew, hapart⟩
    obtain ⟨other, hmem, hd⟩ := List.mem_flatten.1 hd
    exact hother other hmem c hc d hd
  · rintro ⟨hbatch, hother, hfew, hapart⟩
    refine ⟨List.forall_mem_cons.2 ⟨hbatch, hfew⟩, List.pairwise_cons.2 ⟨?_, hapart⟩⟩
    intro other hmem c hc d hd
    exact hother c hc d (List.mem_flatten_of_mem hmem hd)

section Budget

variable {qualifiers : List String} {cells : List Cell} {limit : Nat}

theorem Listed.sublist {front : List Cell} (h : Listed qualifiers cells)
    (hsub : front.Sublist cells) : Listed qualifiers front :=
  ⟨h.ascending.sublist hsub, fun c hc => h.asked c (hsub.mem hc)⟩

/-- Rows that fit on one page are in one batch, full or not. -/
theorem wholeRows_of_few (h : Listed qualifiers cells) (hne : qualifiers ≠ []) (hpos : 0 < limit)
    (hfew : (rowsOf cells).length ≤ limit) :
    WholeRows limit (batches (limit * qualifiers.length) cells) := by
  have hbudget : 0 < limit * qualifiers.length :=
    Nat.mul_pos hpos (List.length_pos_of_ne_nil hne)
  have hlength : cells.length ≤ limit * qualifiers.length :=
    Nat.le_trans h.length_le (Nat.mul_le_mul_right _ hfew)
  by_cases hcells : cells = []
  · rw [hcells, batches_nil]
    exact wholeRows_nil limit
  · rw [batches_of_ne_nil hbudget hcells, List.take_of_length_le hlength,
      List.drop_of_length_le hlength, batches_nil, wholeRows_cons]
    exact ⟨hfew, fun _ _ _ hd => absurd hd List.not_mem_nil, wholeRows_nil limit⟩

/-- A budget that is used up on no more rows than it has room for holds full rows only. -/
theorem Listed.rows_of_budget (h : Listed qualifiers cells) (hq : qualifiers.Nodup)
    (hne : qualifiers ≠ []) (hlength : cells.length = limit * qualifiers.length)
    (hfew : (rowsOf cells).length ≤ limit) :
    (rowsOf cells).length = limit ∧ ∀ key ∈ rowsOf cells, FullRow qualifiers cells key := by
  have hmany : limit ≤ (rowsOf cells).length := by
    refine Nat.le_of_mul_le_mul_right ?_ (List.length_pos_of_ne_nil hne)
    exact hlength ▸ h.length_le
  have hrows : (rowsOf cells).length = limit := Nat.le_antisymm hfew hmany
  refine ⟨hrows, (h.length_eq_mul_iff hq).1 ?_⟩
  rw [hlength, hrows]

/-- When there are rows for another page, the first rows are full exactly when the first
budget ends behind them. -/
theorem fullBeforeLast_iff_take (h : Listed qualifiers cells) (hq : qualifiers.Nodup)
    (hne : qualifiers ≠ []) (hpos : 0 < limit) (hmany : limit < (rowsOf cells).length) :
    FullBeforeLast qualifiers limit cells ↔
      (rowsOf (cells.take (limit * qualifiers.length))).length ≤ limit ∧
        RowsApart (cells.take (limit * qualifiers.length))
          (cells.drop (limit * qualifiers.length)) ∧
        FullBeforeLast qualifiers limit (cells.drop (limit * qualifiers.length)) := by
  constructor
  · intro hfull
    obtain ⟨front, back, rfl, hapart, hfront, hback⟩ := exists_rows_split h.ascending limit
    have hrows : (rowsOf front).length = limit := by
      rw [hfront, List.length_take_of_le (Nat.le_of_lt hmany)]
    have hmore : 0 < (rowsOf back).length := by
      rw [hback, List.length_drop]
      exact Nat.sub_pos_of_lt hmany
    rw [← hrows, fullBeforeLast_append hapart (hrows ▸ hpos) hmore, hrows] at hfull
    have hlength : front.length = limit * qualifiers.length := by
      rw [((h.sublist (List.sublist_append_left _ _)).length_eq_mul_iff hq).2 hfull.1, hrows]
    rw [List.take_left' hlength, List.drop_left' hlength]
    exact ⟨Nat.le_of_eq hrows, hapart, hfull.2⟩
  · rintro ⟨hfew, hapart, hrest⟩
    have hcut := List.take_append_drop (limit * qualifiers.length) cells
    have hlong : limit * qualifiers.length < cells.length := by
      by_contra hshort
      rw [List.take_of_length_le (Nat.not_lt.1 hshort)] at hfew
      exact absurd hmany (Nat.not_lt.2 hfew)
    have hlength : (cells.take (limit * qualifiers.length)).length = limit * qualifiers.length :=
      List.length_take_of_le (Nat.le_of_lt hlong)
    have hlisted : Listed qualifiers (cells.take (limit * qualifiers.length)) :=
      h.sublist (List.take_sublist _ _)
    obtain ⟨hrows, hfull⟩ := hlisted.rows_of_budget hq hne hlength hfew
    generalize cells.take (limit * qualifiers.length) = front at hapart hcut hrows hfull
    generalize cells.drop (limit * qualifiers.length) = back at hrest hapart hcut
    have hmore : 0 < (rowsOf back).length := by
      rw [← hcut, rowsOf_append hapart, List.length_append, hrows] at hmany
      omega
    rw [← hcut, ← hrows, fullBeforeLast_append hapart (hrows ▸ hpos) hmore, hrows]
    exact ⟨hfull, hrest⟩

/-- **A budget counts rows** exactly as long as rows are full.  Ascending cells, cut
into batches that have room for `limit` full rows, have at most `limit` rows in each
batch and no row in two of them if and only if the rows before the last page are
full. -/
theorem wholeRows_batches_iff (h : Listed qualifiers cells) (hq : qualifiers.Nodup)
    (hne : qualifiers ≠ []) (hpos : 0 < limit) :
    WholeRows limit (batches (limit * qualifiers.length) cells) ↔
      FullBeforeLast qualifiers limit cells := by
  have hbudget : 0 < limit * qualifiers.length :=
    Nat.mul_pos hpos (List.length_pos_of_ne_nil hne)
  -- the induction is on the cells that are left behind the first batch
  induction hn : cells.length using Nat.strongRecOn generalizing cells with
  | _ n ih =>
      by_cases hfew : (rowsOf cells).length ≤ limit
      · exact iff_of_true (wholeRows_of_few h hne hpos hfew) (fullBeforeLast_of_few hfew)
      · have hcells : cells ≠ [] := by
          rintro rfl
          exact hfew (Nat.zero_le limit)
        have hshorter : (cells.drop (limit * qualifiers.length)).length < n := by
          rw [List.length_drop, hn]
          exact Nat.sub_lt (hn ▸ List.length_pos_of_ne_nil hcells) hbudget
        have hrest : WholeRows limit (batches (limit * qualifiers.length)
              (cells.drop (limit * qualifiers.length))) ↔
            FullBeforeLast qualifiers limit (cells.drop (limit * qualifiers.length)) :=
          ih _ hshorter (h.sublist (List.drop_sublist _ _)) rfl
        rw [batches_of_ne_nil hbudget hcells, wholeRows_cons, flatten_batches, hrest,
          fullBeforeLast_iff_take h hq hne hpos (Nat.not_le.1 hfew)]

end Budget

/-! ### Pages -/

/-- How many rows a page of a query may have. -/
def rowLimit (limit : Option Nat) : Nat :=
  min (limit.getD maxRows) maxRows

theorem rowLimit_pos {limit : Option Nat} (h : limit ≠ some 0) : 0 < rowLimit limit := by
  cases limit with
  | none => decide
  | some n =>
      have hn : n ≠ 0 := fun heq => h (congrArg some heq)
      exact Nat.lt_min.2 ⟨Nat.pos_of_ne_zero hn, by decide⟩

/-- Whether no page has more than `limit` rows, and none has a row of another. -/
structure RowsWhole (limit : Nat) (pages : List ResultSet) : Prop where
  few : ∀ page ∈ pages, page.count ≤ limit
  apart : pages.Pairwise fun a b => a.data.keys.Disjoint b.data.keys

section Pages

variable {p : Projection} {limit : Nat} {cells : List Cell} {cursor : Cursor}

theorem RowsWhole.concat_exhausted {pages : List ResultSet} :
    RowsWhole limit (pages ++ [.exhausted]) ↔ RowsWhole limit pages := by
  constructor
  · rintro ⟨hfew, hapart⟩
    exact ⟨fun page hpage => hfew page (List.mem_append_left _ hpage),
      (List.pairwise_append.1 hapart).1⟩
  · rintro ⟨hfew, hapart⟩
    refine ⟨fun page hpage => ?_, List.pairwise_append.2 ⟨hapart, List.pairwise_singleton _ _, ?_⟩⟩
    · rcases List.mem_append.1 hpage with hpage | hpage
      · exact hfew page hpage
      · obtain rfl := List.mem_singleton.1 hpage
        exact Nat.zero_le limit
    · intro a _ b hb
      obtain rfl := List.mem_singleton.1 hb
      exact List.disjoint_nil_right _

/-- A page has no rows but those of its cells. -/
theorem keys_ofCells_subset :
    (ResultSet.ofCells cells p false cursor).data.keys ⊆ rowsOf cells := by
  intro key hkey
  obtain ⟨c, hc, -, hrow⟩ := ResultSet.mem_keys_ofCells.1 hkey
  exact mem_rowsOf.2 ⟨c, hc, hrow⟩

/-- A page on which all cells show has all their rows. -/
theorem keys_ofCells_perm (hshown : ∀ c ∈ cells, (ResultSet.shownColumn? p c).isSome = true) :
    ((ResultSet.ofCells cells p false cursor).data.keys).Perm (rowsOf cells) := by
  refine (List.perm_ext_iff_of_nodup (ResultSet.ofCells cells p false cursor).data.distinct
    (nodup_rowsOf cells)).2 fun key => ?_
  rw [← ArrivalMap.keys, ResultSet.mem_keys_ofCells, mem_rowsOf]
  exact exists_congr fun c => and_congr_right fun hc => and_iff_right (hshown c hc)

theorem count_ofCells_le :
    (ResultSet.ofCells cells p false cursor).count ≤ (rowsOf cells).length := by
  have hsub : ((ResultSet.ofCells cells p false cursor).data.keys).Subperm (rowsOf cells) :=
    List.Nodup.subperm (ResultSet.ofCells cells p false cursor).data.distinct keys_ofCells_subset
  have hle := hsub.length_le
  rwa [ArrivalMap.keys, List.length_map] at hle

theorem count_ofCells_eq (hshown : ∀ c ∈ cells, (ResultSet.shownColumn? p c).isSome = true) :
    (ResultSet.ofCells cells p false cursor).count = (rowsOf cells).length := by
  have hperm : ((ResultSet.ofCells cells p false cursor).data.keys).Perm (rowsOf cells) :=
    keys_ofCells_perm hshown
  have hlength := hperm.length_eq
  rwa [ArrivalMap.keys, List.length_map] at hlength

theorem rowsWhole_of_wholeRows {bs : List (List Cell)} (h : WholeRows limit bs) :
    RowsWhole limit (bs.map fun batch => .ofCells batch p false cursor) := by
  refine ⟨List.forall_mem_map.2 fun batch hbatch => ?_, List.pairwise_map.2 ?_⟩
  · exact Nat.le_trans count_ofCells_le (h.few batch hbatch)
  · refine h.apart.imp fun hapart => ?_
    exact List.disjoint_of_subset_left keys_ofCells_subset
      (List.disjoint_of_subset_right keys_ofCells_subset (rowsApart_iff.1 hapart))

/-- When all cells show, pages are as whole as the batches they are made of. -/
theorem rowsWhole_map_iff {bs : List (List Cell)}
    (hshown : ∀ batch ∈ bs, ∀ c ∈ batch, (ResultSet.shownColumn? p c).isSome = true) :
    RowsWhole limit (bs.map fun batch => .ofCells batch p false cursor) ↔ WholeRows limit bs := by
  refine ⟨fun h => ⟨fun batch hbatch => ?_, ?_⟩, rowsWhole_of_wholeRows⟩
  · have hcount : (ResultSet.ofCells batch p false cursor).count = (rowsOf batch).length :=
      count_ofCells_eq (hshown batch hbatch)
    rw [← hcount]
    exact h.few _ (List.mem_map_of_mem hbatch)
  · refine (List.pairwise_map.1 h.apart).imp_of_mem fun {a b} ha hb hapart => rowsApart_iff.2 ?_
    intro key hkey hkey'
    exact hapart ((keys_ofCells_perm (hshown a ha)).mem_iff.2 hkey)
      ((keys_ofCells_perm (hshown b hb)).mem_iff.2 hkey')

end Pages

/-! ### Main result -/

/-- The cells of a query's scan, as its batches count them. -/
theorem listed_of_plan {r : LoadRequest} {p : Projection} {spec : ScanSpec} {t : Table}
    {cells : List Cell} (hplan : r.plan = .ok (p, spec)) (hcells : t.IsScan spec cells) :
    Listed p.qualifiers cells := by
  obtain ⟨-, -, range, -, rfl⟩ := LoadRequest.plan_eq_ok hplan
  refine ⟨hcells.ascending, fun c hc => ?_⟩
  exact ((hcells.mem_iff c).1 hc).asked.resolve_left p.qualifiers_ne_nil

/-- Where no column is hidden, everything shows that is fetched. -/
theorem shown_of_hidden_eq_nil {p : Projection} {c : Cell} (hhidden : p.hidden = [])
    (hc : c.qualifier ∈ p.qualifiers) : (ResultSet.shownColumn? p c).isSome = true := by
  obtain ⟨column, hcolumn, hqualify⟩ := List.mem_map.1 hc
  rw [Projection.fetched, hhidden, List.append_nil] at hcolumn
  exact (ResultSet.shownColumn?_isSome_iff hqualify.symm).2 hcolumn

/-- **When a limit counts rows.**  The pages of a query that is accepted, with rows
named by their keys, have at most as many rows each as the limit says, and no row in
two of them, whenever every row before the last page has all the columns that are
fetched.  If no column is fetched for filters only, that is the only case. -/
theorem limit_counts_rows (s : Store) (clock : StateM Store Nat) (r : LoadRequest)
    (first : ResultSet) (hfresh : r.cursor = .fresh)
    (haccepted : (perform ((Client.ofStore false clock).loadRange r) s).1 = .ok first) :
    ∃ (p : Projection) (spec : ScanSpec) (t : Table) (cells : List Cell) (pages : List ResultSet),
      r.plan = .ok (p, spec) ∧ s.tables.get? r.tableName = some t ∧ t.IsScan spec cells ∧
      (Client.ofStore false clock).Loads s r pages ∧
      (FullBeforeLast p.qualifiers (rowLimit r.limit) cells →
        RowsWhole (rowLimit r.limit) pages) ∧
      (p.hidden = [] → (RowsWhole (rowLimit r.limit) pages ↔
        FullBeforeLast p.qualifiers (rowLimit r.limit) cells)) := by
  obtain ⟨p, spec, t, hplan, htable⟩ := (Client.accepted_iff hfresh).1 ⟨first, haccepted⟩
  have hcells : t.IsScan spec (t.scan spec) := t.isScan_scan spec
  have hlisted : Listed p.qualifiers (t.scan spec) := listed_of_plan hplan hcells
  obtain ⟨hvalid, -, range, -, hspec⟩ := LoadRequest.plan_eq_ok hplan
  have hlimit : 0 < rowLimit r.limit := rowLimit_pos (LoadRequest.limit_ne_zero hvalid)
  have hbatch : max spec.batch 1 = rowLimit r.limit * p.qualifiers.length := by
    have hcolumns : 0 < p.qualifiers.length := List.length_pos_of_ne_nil p.qualifiers_ne_nil
    rw [hspec]
    exact Nat.max_eq_left (Nat.mul_pos hlimit hcolumns)
  have hbudget := wholeRows_batches_iff hlisted p.nodup_qualifiers p.qualifiers_ne_nil hlimit
  refine ⟨p, spec, t, t.scan spec, _, hplan, htable, hcells,
    Client.loads_of_plan hplan hfresh htable, ?_, ?_⟩
  · intro hfull
    rw [Client.resultsOf, hbatch, RowsWhole.concat_exhausted]
    exact rowsWhole_of_wholeRows (hbudget.2 hfull)
  · intro hhidden
    rw [Client.resultsOf, hbatch, RowsWhole.concat_exhausted, ← hbudget]
    refine rowsWhole_map_iff fun batch hmem c hc => ?_
    have hscan : c ∈ t.scan spec :=
      flatten_batches _ (t.scan spec) ▸ List.mem_flatten_of_mem hmem hc
    exact shown_of_hidden_eq_nil hhidden (hlisted.asked c hscan)

/-- A query for the column of stream 7 that both records have. -/
def temperatures : LoadRequest :=
  { bothColumns (some 1) with columns := "temp" }

/-- Asked for the column that both records have, one row a page, they are shown on two
pages. -/
theorem limit_counts_temperatures :
    ∃ (cells : List Cell) (pages : List ResultSet),
      (Client.ofStore false (pure 0)).Loads twoRecords temperatures pages ∧
      rowsOf cells =
        ["000000000007:922337203684400:south", "000000000007:922337203684500:north"] ∧
      FullBeforeLast ["DF:temp"] (rowLimit (some 1)) cells ∧
      RowsWhole (rowLimit (some 1)) pages := by
  obtain ⟨first, haccepted⟩ : ∃ first,
      (perform ((Client.ofStore false (pure 0)).loadRange temperatures) twoRecords).1 =
        .ok first := (Client.accepted_iff rfl).2 ⟨_, _, _, rfl, rfl⟩
  obtain ⟨p, spec, t, cells, pages, hplan, htable, hcells, hpages, hwhole, -⟩ :=
    limit_counts_rows twoRecords (pure 0) temperatures first rfl haccepted
  have hscan : cells = t.scan spec := hcells.unique (t.isScan_scan spec)
  have hrows : rowsOf cells =
      ["000000000007:922337203684400:south", "000000000007:922337203684500:north"] := by
    rw [hscan]
    cases hplan
    cases htable
    rfl
  have hqualifiers : p.qualifiers = ["DF:temp"] := by
    cases hplan
    rfl
  have hfull : FullBeforeLast ["DF:temp"] (rowLimit (some 1)) cells := by
    rw [hscan]
    cases hplan
    cases htable
    decide
  rw [hqualifiers] at hwhole
  exact ⟨cells, pages, hpages, hrows, hfull, hwhole hfull⟩

/-- The cells of the two records in the order of a scan. -/
def scannedCells : List Cell :=
  [⟨"000000000007:922337203684400:south", "DF:temp", 1100, "22"⟩,
    ⟨"000000000007:922337203684500:north", "DF:pressure", 1000, "5"⟩,
    ⟨"000000000007:922337203684500:north", "DF:temp", 1000, "21"⟩]

/-- Asked for both columns, one row a page, the first page shows two rows: the southern
record has no pressure, and a cell of the northern one takes its place.  The other cell
of the northern record is shown on the second page. -/
theorem limit_cuts_record :
    ∃ pages : List ResultSet,
      (Client.ofStore false (pure 0)).Loads twoRecords (bothColumns (some 1)) pages ∧
      pages.map (fun page => (page.count, page.data.keys)) =
        [(2, ["000000000007:922337203684400:south", "000000000007:922337203684500:north"]),
          (1, ["000000000007:922337203684500:north"]), (0, [])] ∧
      ¬RowsWhole (rowLimit (some 1)) pages := by
  obtain ⟨p, spec, t, hplan, htable⟩ : ∃ p spec t, (bothColumns (some 1)).plan = .ok (p, spec) ∧
      twoRecords.tables.get? (bothColumns (some 1)).tableName = some t := ⟨_, _, _, rfl, rfl⟩
  have hbatch : max spec.batch 1 = 2 := by
    cases hplan
    rfl
  have hscan : t.scan spec = scannedCells := by
    cases hplan
    cases htable
    rfl
  have hcut : batches 2 scannedCells = [scannedCells.take 2, scannedCells.drop 2] := by
    simp [batches, scannedCells]
  let page : List Cell → ResultSet := fun batch =>
    .ofCells batch p false (.resume (scannerId twoRecords.opened))
  have hpages : Client.resultsOf p false (scannerId twoRecords.opened) (max spec.batch 1)
      (t.scan spec) = [page (scannedCells.take 2), page (scannedCells.drop 2), .exhausted] := by
    rw [hbatch, hscan, Client.resultsOf, hcut]
    rfl
  refine ⟨_, hpages ▸ Client.loads_of_plan hplan rfl htable, ?_, fun hwhole => ?_⟩
  · cases hplan
    rfl
  · have hfirst : (page (scannedCells.take 2)).count ≤ 1 := hwhole.few _ List.mem_cons_self
    cases hplan
    exact absurd hfirst (by decide)

end StreamStore
