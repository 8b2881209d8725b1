import StreamStore.Json.Record
import StreamStore.Proofs.ArrivalOrder
import StreamStore.Proofs.JsonDepth
import StreamStore.Proofs.JsonNumbers

/-!
# Members of a record

A record is read member by member, each through a list of outcomes (`List.mapM`).
The list has a result exactly when every element has one, and then the results stand
in the order of the elements.  A member that is found stands in the record, so it is
less deep than the record.

The law of a record's codec comes from the laws of its members; here are those of words
and of maps.  A map is read back entry by entry, and since its keys are distinct none
of its entries is merged with another one (`map?_ofMap`).
-/

namespace StreamStore

/-! ### Reading every element of a list -/

section Elements

variable {α β : Type} {read : α → Option β} {write : β → α} {x : α} {xs : List α} {ys : List β}

theorem mapM_cons_eq_some :
    (x :: xs).mapM read = some ys ↔
      ∃ y rest, read x = some y ∧ xs.mapM read = some rest ∧ ys = y :: rest := by
  rw [List.mapM_cons]
  constructor
  · intro h
    obtain ⟨y, hy, h⟩ := Option.bind_eq_some_iff.1 h
    obtain ⟨rest, hrest, h⟩ := Option.bind_eq_some_iff.1 h
    exact ⟨y, rest, hy, hrest, (Option.some.inj h).symm⟩
  · rintro ⟨y, rest, hy, hrest, rfl⟩
    rw [hy, hrest]
    rfl

/-- Every result is the result of an element. -/
theorem exists_of_mem_mapM (h : xs.mapM read = some ys) {y : β} (hy : y ∈ ys) :
    ∃ x ∈ xs, read x = some y := by
  induction xs generalizing ys with
  | nil =>
      cases h
      cases hy
  | cons x xs ih =>
      obtain ⟨z, rest, hz, hrest, rfl⟩ := mapM_cons_eq_some.1 h
      rcases List.mem_cons.1 hy with rfl | hy
      · exact ⟨x, List.mem_cons_self, hz⟩
      · obtain ⟨w, hw, hread⟩ := ih hrest hy
        exact ⟨w, List.mem_cons_of_mem _ hw, hread⟩

/-- What was written element by element is read element by element. -/
theorem mapM_map_eq_some (h : ∀ y ∈ ys, read (write y) = some y) :
    (ys.map write).mapM read = some ys := by
  induction ys with
  | nil => rfl
  | cons y ys ih =>
      obtain ⟨hy, hys⟩ := List.forall_mem_cons.1 h
      rw [List.map_cons, mapM_cons_eq_some]
      exact ⟨y, ys, hy, ih hys, rfl⟩

/-- When every element has a result, the list of the results is the result of the list. -/
theorem mapM_eq_ok {ε : Type} {read : α → Except ε β} {value : α → β}
    (h : ∀ x ∈ xs, read x = .ok (value x)) : xs.mapM read = .ok (xs.map value) := by
  induction xs with
  | nil => rfl
  | cons x xs ih =>
      obtain ⟨hx, hxs⟩ := List.forall_mem_cons.1 h
      rw [List.mapM_cons, hx, ih hxs]
      rfl

end Elements

namespace Json

/-! ### Members -/

/-- A member that is present once is a field. -/
theorem mem_of_single? {name : String} {fields : List (String × Json)} {v : Json}
    (h : single? name fields = some (some v)) : (name, v) ∈ fields := by
  unfold single? at h
  split at h
  · cases h
  · next e he =>
      obtain rfl : e.2 = v := Option.some.inj (Option.some.inj h)
      have hmem : e ∈ fields.filter fun e => e.1 == name := he ▸ List.mem_cons_self
      obtain ⟨hmem, hname⟩ := List.mem_filter.1 hmem
      rw [← eq_of_beq hname]
      exact hmem
  · cases h

/-- Only an array or an object has members. -/
theorem depth_pos_of_members? {names : List String} {v : Json} {found : List (Option Json)}
    (h : members? names v = some found) : 0 < v.depth := by
  cases v with
  | array items =>
      rw [depth]
      exact Nat.succ_pos _
  | object fields =>
      rw [depth]
      exact Nat.succ_pos _
  | _ => cases h

/-- A member is less deep than its record. -/
theorem depth_lt_of_members? {names : List String} {v w : Json} {found : List (Option Json)}
    (h : members? names v = some found) (hw : some w ∈ found) : w.depth < v.depth := by
  cases v with
  | array items =>
      rw [members?] at h
      split at h
      · obtain rfl := Option.some.inj h
        have hmem : w ∈ items := by
          rcases List.mem_append.1 hw with hw | hw
          · simpa using hw
          · simpa using List.eq_of_mem_replicate hw
        rw [depth]
        exact Nat.lt_succ_of_le (depth_le_depthItems hmem)
      · cases h
  | object fields =>
      obtain ⟨name, -, hname⟩ := exists_of_mem_mapM h hw
      rw [depth]
      exact Nat.lt_succ_of_le (depth_le_depthFields (mem_of_single? hname))
  | _ => cases h

/-- The values of a list of members that are all present. -/
theorem eq_of_allPresent? {found : List (Option Json)} {values : List Json}
    (h : allPresent? found = some values) : found = values.map some := by
  unfold allPresent? at h
  induction found generalizing values with
  | nil =>
      cases h
      rfl
  | cons v rest ih =>
      obtain ⟨w, ws, hv, hrest, rfl⟩ := mapM_cons_eq_some.1 h
      rw [List.map_cons, ← ih hrest]
      exact congrArg (· :: rest) hv

/-! ### Words and maps -/

theorem ofNat_of_lt {n : Nat} (h : n < 18446744073709551616) :
    ∃ hfits : fits64 n, ofNat n = .number (.integer n hfits) := by
  have hfits : fits64 n := ⟨by omega, by omega⟩
  exact ⟨hfits, by rw [ofNat, dif_pos hfits]⟩

theorem word?_ofNat {n : Nat} (h : n < 18446744073709551616) : word? (ofNat n) = some n := by
  obtain ⟨hfits, heq⟩ := ofNat_of_lt h
  rw [heq]
  simp [word?]

/-- What is read as a word is one. -/
theorem lt_of_word? {v : Json} {n : Nat} (h : word? v = some n) : n < 18446744073709551616 := by
  unfold word? at h
  split at h
  · next m hfits =>
      split at h
      · obtain rfl := Option.some.inj h
        have hm := hfits.2
        omega
      · cases h
  · cases h

section Maps

variable {β : Type} {read : Json → Option β} {write : β → Json} {m : ArrivalMap β}

/-- A map whose values read back reads back, order included. -/
theorem map?_ofMap (h : ∀ e ∈ m.entries, read (write e.2) = some e.2) :
    map? read (ofMap write m) = some m := by
  have hentries : (m.entries.map fun e => (e.1, write e.2)).mapM
      (fun e => (read e.2).map fun v => (e.1, v)) = some m.entries := by
    refine mapM_map_eq_some fun e he => ?_
    show (read (write e.2)).map (fun v => (e.1, v)) = some e
    rw [h e he]
    rfl
  rw [ofMap, map?, hentries]
  show some (ArrivalMap.ofList m.entries) = some m
  rw [ArrivalMap.ofList_entries]

/-- Every value of a map was read from a document. -/
theorem exists_of_mem_map? {v : Json} (h : map? read v = some m) {e : String × β}
    (he : e ∈ m.entries) : ∃ w, read w = some e.2 := by
  unfold map? at h
  split at h
  · next fields =>
      obtain ⟨entries, hentries, h⟩ := Option.bind_eq_some_iff.1 h
      obtain rfl := Option.some.inj h
      obtain ⟨field, -, hfield⟩ := exists_of_mem_mapM hentries (ArrivalMap.mem_entries_ofList he)
      obtain ⟨w, hw, rfl⟩ := Option.map_eq_some_iff.1 hfield
      exact ⟨field.2, hw⟩
  · cases h

theorem depth_ofMap_le {n : Nat} (h : ∀ e ∈ m.entries, (write e.2).depth ≤ n) :
    (ofMap write m).depth ≤ n + 1 := by
  rw [ofMap, depth]
  refine Nat.succ_le_succ (depthFields_le_iff.2 fun f hf => ?_)
  obtain ⟨e, he, rfl⟩ := List.mem_map.1 hf
  exact h e he

theorem numbersReadBack_ofMap (h : ∀ e ∈ m.entries, (write e.2).NumbersReadBack) :
    (ofMap write m).NumbersReadBack := by
  rw [ofMap, numbersReadBack_object, List.forall_mem_map]
  exact h

end Maps

end Json

end StreamStore
