import StreamStore.Proofs.JsonDepth
import StreamStore.Proofs.MapOrder

/-!
# The canonical form of a document

A reader of canonical forms sees an object as a map: its keys ascend, and each has the
value that it was given last.  So looking up a key gives what it gives in the fields as
written (`lastOf?_sortFields`), in its own canonical form, and an object with a single
key is one in which all fields have this key (`sortFields_eq_singleton_iff`).

The canonical form of a document is canonical itself (`canonical_canonical`) and no
deeper than the document (`depth_canonical_le`).  An object is written in it already when
its keys ascend and its values are (`canonical_object_eq_self_iff`).
-/

namespace StreamStore

namespace Json

theorem lastOf?_concat (k : String) (fields : List (String × Json)) (e : String × Json) :
    lastOf? k (fields ++ [e]) = if e.1 = k then some e.2 else lastOf? k fields := by
  induction fields with
  | nil => rfl
  | cons d fields ih =>
      rw [List.cons_append, lastOf?, ih, lastOf?]
      by_cases hk : e.1 = k
      · simp only [if_pos hk]
      · simp only [if_neg hk]

/-- The map of a list of fields has the last value of every key. -/
theorem get?_ofList (k : String) (fields : List (String × Json)) :
    (SortedMap.ofList fields).get? k = lastOf? k fields := by
  induction fields using List.reverseRecOn with
  | nil => rfl
  | append_singleton fields e ih =>
      rw [SortedMap.ofList_concat, lastOf?_concat]
      by_cases hk : e.1 = k
      · rw [if_pos hk, ← hk, SortedMap.get?_insert_self]
      · rw [if_neg hk, SortedMap.get?_insert_of_ne _ (Ne.symm hk), ih]

theorem mem_sortFields_iff {fields : List (String × Json)} {k : String} {v : Json} :
    (k, v) ∈ sortFields fields ↔ lastOf? k fields = some v := by
  rw [sortFields, ← SortedMap.get?_eq_some_iff, get?_ofList]

theorem ascending_sortFields (fields : List (String × Json)) :
    (sortFields fields).Pairwise fun a b => a.1 < b.1 :=
  (SortedMap.ofList fields).ascending

theorem sortFields_of_ascending {fields : List (String × Json)}
    (h : fields.Pairwise fun a b => a.1 < b.1) : sortFields fields = fields :=
  SortedMap.entries_ofList h

/-- Looking up a key in ascending fields or in the fields as written is the same. -/
theorem lastOf?_sortFields (k : String) (fields : List (String × Json)) :
    lastOf? k (sortFields fields) = lastOf? k fields := by
  rw [← get?_ofList k (sortFields fields), SortedMap.get?,
    show (SortedMap.ofList (sortFields fields)).entries = sortFields fields from
      sortFields_of_ascending (ascending_sortFields fields)]
  exact get?_ofList k fields

/-- A value that a key has is the value of a field. -/
theorem mem_of_lastOf? {fields : List (String × Json)} {k : String} {v : Json}
    (h : lastOf? k fields = some v) : (k, v) ∈ fields := by
  induction fields with
  | nil => cases h
  | cons e fields ih =>
      rw [lastOf?] at h
      split at h
      · next w hw =>
          obtain rfl := Option.some.inj h
          exact List.mem_cons_of_mem _ (ih hw)
      · split at h
        · next hk =>
            obtain rfl := Option.some.inj h
            rw [← hk]
            exact List.mem_cons_self
        · cases h

theorem lastOf?_isSome_iff {fields : List (String × Json)} {k : String} :
    (lastOf? k fields).isSome = true ↔ ∃ e ∈ fields, e.1 = k := by
  induction fields with
  | nil => simp
  | cons e fields ih =>
      rw [lastOf?]
      split
      · next w hw =>
          obtain ⟨d, hd, hk⟩ := ih.1 (by rw [hw]; rfl)
          exact iff_of_true rfl ⟨d, List.mem_cons_of_mem _ hd, hk⟩
      · next hnone =>
          have hrest : ¬∃ d ∈ fields, d.1 = k := by
            intro hd
            have hsome := ih.2 hd
            rw [hnone] at hsome
            cases hsome
          by_cases hk : e.1 = k
          · rw [if_pos hk]
            exact iff_of_true rfl ⟨e, List.mem_cons_self, hk⟩
          · rw [if_neg hk]
            refine iff_of_false Bool.false_ne_true ?_
            rintro ⟨d, hd, hdk⟩
            rcases List.mem_cons.1 hd with rfl | hd
            · exact hk hdk
            · exact hrest ⟨d, hd, hdk⟩

/-- The fields of an object come down to one when they all have one key. -/
theorem sortFields_eq_singleton_iff {fields : List (String × Json)} {k : String} {v : Json} :
    sortFields fields = [(k, v)] ↔ (∀ e ∈ fields, e.1 = k) ∧ lastOf? k fields = some v := by
  constructor
  · intro h
    constructor
    · rintro ⟨l, w⟩ he
      obtain ⟨u, hu⟩ := Option.isSome_iff_exists.1 (lastOf?_isSome_iff.2 ⟨(l, w), he, rfl⟩)
      have hmem : (l, u) ∈ sortFields fields := mem_sortFields_iff.2 hu
      rw [h] at hmem
      exact (Prod.mk.inj (List.mem_singleton.1 hmem)).1
    · rw [← mem_sortFields_iff, h]
      exact List.mem_singleton_self _
  · rintro ⟨hall, hlast⟩
    have hmem : (k, v) ∈ sortFields fields := mem_sortFields_iff.2 hlast
    have honly : ∀ e ∈ sortFields fields, e = (k, v) := by
      rintro ⟨l, w⟩ he
      have hw : lastOf? l fields = some w := mem_sortFields_iff.1 he
      obtain rfl : l = k := hall (l, w) (mem_of_lastOf? hw)
      rw [hlast] at hw
      rw [Option.some.inj hw]
    have hascending := ascending_sortFields fields
    cases hsort : sortFields fields with
    | nil =>
        rw [hsort] at hmem
        cases hmem
    | cons e rest =>
        rw [hsort] at honly hascending
        cases rest with
        | nil => rw [honly e List.mem_cons_self]
        | cons d rest =>
            -- two fields would have the same key
            have hlt := (List.pairwise_cons.1 hascending).1 d List.mem_cons_self
            rw [honly e List.mem_cons_self, honly d (List.mem_cons_of_mem _ List.mem_cons_self)]
              at hlt
            exact absurd hlt (String.lt_irrefl _)

theorem lastOf?_canonicalFields (k : String) (fields : List (String × Json)) :
    lastOf? k (canonicalFields fields) = (lastOf? k fields).map canonical := by
  induction fields with
  | nil => rfl
  | cons e fields ih =>
      obtain ⟨l, v⟩ := e
      rw [canonicalFields, lastOf?, ih, lastOf?]
      cases lastOf? k fields with
      | some w => rfl
      | none =>
          by_cases hk : l = k
          · simp [hk]
          · simp [hk]

/-! ### Canonical forms -/

mutual

/-- A canonical form is its own canonical form. -/
theorem canonical_canonical : ∀ v : Json, v.canonical.canonical = v.canonical
  | .null => by rw [canonical, canonical]
  | .bool _ => by rw [canonical, canonical]
  | .number _ => by rw [canonical, canonical]
  | .string _ => by rw [canonical, canonical]
  | .array items => by
      rw [canonical, canonical, canonicalItems_canonical items]
  | .object fields => by
      have hvalues : canonicalFields (sortFields (canonicalFields fields)) =
          sortFields (canonicalFields fields) := by
        rw [canonicalFields_eq_map]
        have hsame : ∀ e ∈ sortFields (canonicalFields fields), (e.1, e.2.canonical) = e := by
          intro e he
          have hmem : e ∈ canonicalFields fields := mem_of_lastOf? (mem_sortFields_iff.1 he)
          rw [canonicalFields_canonical fields e hmem]
        rw [List.map_congr_left hsame, List.map_id']
      rw [canonical, canonical, hvalues, sortFields_of_ascending (ascending_sortFields _)]

theorem canonicalItems_canonical : ∀ items : List Json,
    canonicalItems (canonicalItems items) = canonicalItems items
  | [] => by rw [canonicalItems, canonicalItems]
  | v :: rest => by
      rw [canonicalItems, canonicalItems, canonical_canonical v, canonicalItems_canonical rest]

theorem canonicalFields_canonical : ∀ fields : List (String × Json),
    ∀ e ∈ canonicalFields fields, e.2.canonical = e.2
  | [], e, he => by
      rw [canonicalFields] at he
      cases he
  | (k, v) :: rest, e, he => by
      rw [canonicalFields] at he
      rcases List.mem_cons.1 he with rfl | he
      · exact canonical_canonical v
      · exact canonicalFields_canonical rest e he

end

/-- An object is its own canonical form when its keys ascend and its values are theirs. -/
theorem canonical_object_eq_self_iff {fields : List (String × Json)} :
    (object fields).canonical = object fields ↔
      (fields.Pairwise fun a b => a.1 < b.1) ∧ ∀ e ∈ fields, e.2.canonical = e.2 := by
  have hsorted : (fields.Pairwise fun a b => a.1 < b.1) →
      sortFields (canonicalFields fields) = canonicalFields fields := by
    intro h
    rw [canonicalFields_eq_map]
    exact sortFields_of_ascending (List.pairwise_map.2 h)
  rw [canonical, object.injEq]
  constructor
  · intro h
    have hascending : fields.Pairwise fun a b => a.1 < b.1 := h ▸ ascending_sortFields _
    refine ⟨hascending, fun e he => ?_⟩
    rw [← h] at he
    exact canonicalFields_canonical fields e (mem_of_lastOf? (mem_sortFields_iff.1 he))
  · rintro ⟨hascending, hvalues⟩
    have hsame : ∀ e ∈ fields, (e.1, e.2.canonical) = e := fun e he => by rw [hvalues e he]
    rw [hsorted hascending, canonicalFields_eq_map, List.map_congr_left hsame, List.map_id']

mutual

/-- The canonical form of a document is no deeper than the document. -/
theorem depth_canonical_le : ∀ v : Json, v.canonical.depth ≤ v.depth
  | .null => Nat.le_refl 0
  | .bool _ => Nat.le_refl 0
  | .number _ => Nat.le_refl 0
  | .string _ => Nat.le_refl 0
  | .array items => by
      rw [canonical, depth, depth]
      exact Nat.succ_le_succ (depthItems_canonical_le items)
  | .object fields => by
      have hsorted : depthFields (sortFields (canonicalFields fields)) ≤ depthFields fields := by
        refine depthFields_le_iff.2 fun e he => ?_
        exact depthFields_canonical_le fields e (mem_of_lastOf? (mem_sortFields_iff.1 he))
      rw [canonical, depth, depth]
      exact Nat.succ_le_succ hsorted

theorem depthItems_canonical_le : ∀ items : List Json,
    depthItems (canonicalItems items) ≤ depthItems items
  | [] => Nat.le_refl 0
  | v :: rest => by
      have hv := depth_canonical_le v
      have hrest := depthItems_canonical_le rest
      rw [canonicalItems, depthItems, depthItems]
      omega

theorem depthFields_canonical_le : ∀ fields : List (String × Json),
    ∀ e ∈ canonicalFields fields, e.2.depth ≤ depthFields fields
  | [], e, he => by
      rw [canonicalFields] at he
      cases he
  | (k, v) :: rest, e, he => by
      rw [canonicalFields] at he
      rw [depthFields]
      rcases List.mem_cons.1 he with rfl | he
      · have hv := depth_canonical_le v
        dsimp only
        omega
      · have hrest := depthFields_canonical_le rest e he
        omega

end

end Json

end StreamStore
