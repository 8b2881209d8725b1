import Mathlib.Data.List.Induction
import StreamStore.Proofs.ArrivalOrder
import StreamStore.SortedMap

/-!
# Entries of a map in key order

The keys of a `SortedMap` ascend strictly.  So an entry is found by its key
(`get?_eq_some_iff`), and cutting the entries at a key, which stops at the first
entry on the other side, is the same as looking at every entry
(`between_eq_filter`).  Both hold of lists of entries in general and are proved
there; a predicate that holds of an entry whenever it holds of a later one is a
*beginning* of the list.

A map is also no more than the values of its keys (`ext_get?`), which is how
insertions in different orders are compared.  And a list in which no key occurs twice
becomes a map without losing anything but its order (`ofList_perm`), in which the values
play no part (`entries_ofList_map`).
-/

namespace StreamStore

/-! ### Beginnings of a list -/

section Beginning

variable {α : Type} {p : α → Bool} {es : List α}

/-- Nothing is left of a list when its first element fails a predicate that is a
beginning of it. -/
theorem filter_eq_nil_of_head {e : α} (h : ∀ d ∈ es, p d = true → p e = true)
    (he : p e = false) : es.filter p = [] := by
  refine List.filter_eq_nil_iff.2 fun d hd hp => ?_
  rw [h d hd hp] at he
  cases he

theorem takeWhile_eq_filter (h : es.Pairwise fun a b => p b = true → p a = true) :
    es.takeWhile p = es.filter p := by
  induction es with
  | nil => rfl
  | cons e es ih =>
      obtain ⟨he, hes⟩ := List.pairwise_cons.1 h
      cases hp : p e with
      | true =>
          rw [List.takeWhile_cons_of_pos hp, List.filter_cons_of_pos hp, ih hes]
      | false =>
          have hn : ¬p e = true := by rw [hp]; exact Bool.false_ne_true
          rw [List.takeWhile_cons_of_neg hn, List.filter_cons_of_neg hn,
            filter_eq_nil_of_head he hp]

theorem dropWhile_eq_filter (h : es.Pairwise fun a b => p b = true → p a = true) :
    es.dropWhile p = es.filter fun e => !p e := by
  induction es with
  | nil => rfl
  | cons e es ih =>
      obtain ⟨he, hes⟩ := List.pairwise_cons.1 h
      cases hp : p e with
      | true =>
          have hn : ¬(!p e) = true := by rw [hp]; exact Bool.false_ne_true
          rw [List.dropWhile_cons_of_pos hp, List.filter_cons_of_neg (p := fun e => !p e) hn,
            ih hes]
      | false =>
          have hn : ¬p e = true := by rw [hp]; exact Bool.false_ne_true
          rw [List.dropWhile_cons_of_neg hn, List.filter_eq_self.2]
          intro d hd
          rcases List.mem_cons.1 hd with rfl | hd
          · rw [hp]; rfl
          · cases hpd : p d with
            | true => exact absurd (he d hd hpd) hn
            | false => rfl

end Beginning

namespace SortedMap

variable {β γ : Type}

theorem nodup_of_ascending {es : List (String × β)} (h : es.Pairwise fun a b => a.1 < b.1) :
    (es.map Prod.fst).Nodup := by
  refine List.pairwise_map.2 (h.imp ?_)
  intro a b hab heq
  exact String.lt_irrefl b.1 (heq ▸ hab)

theorem nodup_keys (m : SortedMap β) : (m.entries.map Prod.fst).Nodup :=
  nodup_of_ascending m.ascending

/-! ### Finding entries -/

theorem lookup_eq_arrival (k : String) (es : List (String × β)) :
    lookup k es = ArrivalMap.lookup k es := by
  induction es with
  | nil => rfl
  | cons e es ih => rw [lookup, ArrivalMap.lookup, ih]

theorem lookup_eq_some_iff {k : String} {v : β} {es : List (String × β)}
    (h : es.Pairwise (fun a b => a.1 < b.1)) : lookup k es = some v ↔ (k, v) ∈ es := by
  rw [lookup_eq_arrival, ArrivalMap.lookup_eq_some_iff (nodup_of_ascending h)]

/-- A key has a value exactly when the two are an entry. -/
theorem get?_eq_some_iff {m : SortedMap β} {k : String} {v : β} :
    m.get? k = some v ↔ (k, v) ∈ m.entries :=
  lookup_eq_some_iff m.ascending

theorem get?_erase_self (m : SortedMap β) (k : String) : (m.erase k).get? k = none := by
  rw [Option.eq_none_iff_forall_ne_some]
  intro v hv
  have hmem := (List.mem_filter.1 (get?_eq_some_iff.1 hv)).2
  simp at hmem

theorem get?_erase_of_ne (m : SortedMap β) {k l : String} (h : l ≠ k) :
    (m.erase k).get? l = m.get? l := by
  refine Option.ext fun v => ?_
  rw [get?_eq_some_iff, get?_eq_some_iff]
  refine ⟨fun hv => (List.mem_filter.1 hv).1, fun hv => List.mem_filter.2 ⟨hv, ?_⟩⟩
  simpa using h

/-! ### Maps as the values of their keys -/

/-- Two maps that give the same value to each key are one map. -/
theorem ext_get? {m n : SortedMap β} (h : ∀ k, m.get? k = n.get? k) : m = n := by
  have hmem : ∀ e : String × β, e ∈ m.entries ↔ e ∈ n.entries := by
    rintro ⟨k, v⟩
    rw [← get?_eq_some_iff, ← get?_eq_some_iff, h k]
  have hasymm : Std.Asymm fun a b : String × β => a.1 < b.1 := ⟨fun _ _ => String.lt_asymm⟩
  exact ext (m.ascending.eq_of_mem_iff n.ascending hmem)

theorem get?_insert (m : SortedMap β) (k l : String) (v : β) :
    (m.insert k v).get? l = if l = k then some v else m.get? l := by
  by_cases h : l = k
  · rw [if_pos h, h, get?_insert_self]
  · rw [if_neg h, get?_insert_of_ne m h]

/-- A value that a key already has is inserted without effect. -/
theorem insert_of_get? {m : SortedMap β} {k : String} {v : β} (h : m.get? k = some v) :
    m.insert k v = m := by
  apply ext_get?
  intro l
  rw [get?_insert]
  split
  · next hl => rw [hl, h]
  · rfl

/-- Of two values of one key the later one stays. -/
theorem insert_insert (m : SortedMap β) (k : String) (v w : β) :
    (m.insert k v).insert k w = m.insert k w := by
  apply ext_get?
  intro l
  simp only [get?_insert]
  split <;> rfl

/-- Values of different keys may be inserted in any order. -/
theorem insert_comm (m : SortedMap β) {k l : String} (h : k ≠ l) (v w : β) :
    (m.insert k v).insert l w = (m.insert l w).insert k v := by
  apply ext_get?
  intro i
  simp only [get?_insert]
  by_cases hk : i = k
  · have hl : i ≠ l := fun hl => h (hk.symm.trans hl)
    rw [if_pos hk, if_neg hl, if_pos hk]
  · rw [if_neg hk, if_neg hk]

/-! ### Cutting at a key -/

/-- Being before a key is a beginning of the entries. -/
theorem below_pairwise {es : List (String × β)} (h : es.Pairwise (fun a b => a.1 < b.1))
    (k : String) :
    es.Pairwise fun a b => decide (b.1 < k) = true → decide (a.1 < k) = true := by
  refine h.imp fun {a b} hab hb => decide_eq_true ?_
  exact String.lt_trans hab (of_decide_eq_true hb)

/-- The entries between two keys are those whose key is not before the one and is
before the other. -/
theorem between_eq_filter (m : SortedMap β) (lower upper : String) :
    m.between lower upper =
      m.entries.filter fun e => !decide (e.1 < lower) && decide (e.1 < upper) := by
  have hstart : m.startingAt lower = m.entries.filter fun e => !decide (e.1 < lower) :=
    dropWhile_eq_filter (below_pairwise m.ascending lower)
  rw [between, hstart, takeWhile_eq_filter (below_pairwise (m.ascending.filter _) upper),
    List.filter_filter]
  exact List.filter_congr fun e _ => Bool.and_comm ..

theorem mem_between_iff {m : SortedMap β} {lower upper : String} {e : String × β} :
    e ∈ m.between lower upper ↔ e ∈ m.entries ∧ ¬e.1 < lower ∧ e.1 < upper := by
  rw [between_eq_filter, List.mem_filter, Bool.and_eq_true, Bool.not_eq_true',
    decide_eq_false_iff_not, decide_eq_true_iff]

theorem ascending_between (m : SortedMap β) (lower upper : String) :
    (m.between lower upper).Pairwise (fun a b => a.1 < b.1) := by
  rw [between_eq_filter]
  exact m.ascending.filter _

/-! ### Maps from ascending lists -/

/-- An entry after all others is put at the end. -/
theorem place_of_forall_lt {k : String} {v : β} {es : List (String × β)}
    (h : ∀ e ∈ es, e.1 < k) : place k v es = es ++ [(k, v)] := by
  induction es with
  | nil => rfl
  | cons e es ih =>
      have he : e.1 < k := h e List.mem_cons_self
      have hlt : ¬k < e.1 := fun hk => String.lt_irrefl _ (String.lt_trans he hk)
      have hne : ¬k = e.1 := fun hk => String.lt_irrefl k (hk ▸ he)
      rw [place, if_neg hlt, if_neg hne, ih fun d hd => h d (List.mem_cons_of_mem _ hd)]
      rfl

theorem entries_foldl_insert {es : List (String × β)} {m : SortedMap β}
    (h : (m.entries ++ es).Pairwise (fun a b => a.1 < b.1)) :
    (es.foldl (fun m e => m.insert e.1 e.2) m).entries = m.entries ++ es := by
  induction es generalizing m with
  | nil => exact (List.append_nil _).symm
  | cons e es ih =>
      have hlast : ∀ d ∈ m.entries, d.1 < e.1 := fun d hd =>
        (List.pairwise_append.1 h).2.2 d hd e List.mem_cons_self
      have hplace : (m.insert e.1 e.2).entries = m.entries ++ [e] := place_of_forall_lt hlast
      rw [List.foldl_cons, ih, hplace, List.append_assoc]
      · rfl
      · rw [hplace, List.append_assoc]
        exact h

/-- The map of an ascending list has that list as its entries. -/
theorem entries_ofList {es : List (String × β)} (h : es.Pairwise (fun a b => a.1 < b.1)) :
    (ofList es).entries = es :=
  entries_foldl_insert (m := empty) h

/-! ### Maps from any lists -/

theorem ofList_concat (es : List (String × β)) (e : String × β) :
    ofList (es ++ [e]) = (ofList es).insert e.1 e.2 := by
  rw [ofList, List.foldl_append]
  rfl

theorem place_perm {k : String} (v : β) {es : List (String × β)} (h : k ∉ es.map Prod.fst) :
    (place k v es).Perm ((k, v) :: es) := by
  induction es with
  | nil => exact .refl _
  | cons e es ih =>
      rw [List.map_cons, List.mem_cons, not_or] at h
      rw [place]
      split
      · exact .refl _
      · rw [if_neg h.1]
        exact ((ih h.2).cons e).trans (.swap (k, v) e es)

/-- A list in which no key occurs twice loses nothing in a map but its order. -/
theorem ofList_perm {es : List (String × β)} (h : (es.map Prod.fst).Nodup) :
    (ofList es).entries.Perm es := by
  induction es using List.reverseRecOn with
  | nil => exact .refl _
  | append_singleton es e ih =>
      rw [List.map_append, List.nodup_append] at h
      have hrest : (ofList es).entries.Perm es := ih h.1
      have hnew : e.1 ∉ (ofList es).entries.map Prod.fst := fun hmem =>
        h.2.2 e.1 ((hrest.map Prod.fst).mem_iff.1 hmem) e.1 (List.mem_singleton_self _) rfl
      rw [ofList_concat]
      have hplaced : (place e.1 e.2 (ofList es).entries).Perm (e :: (ofList es).entries) :=
        place_perm e.2 hnew
      exact hplaced.trans ((hrest.cons e).trans (List.perm_append_singleton e es).symm)

theorem place_map (f : β → γ) (k : String) (v : β) (es : List (String × β)) :
    place k (f v) (es.map fun e => (e.1, f e.2)) = (place k v es).map fun e => (e.1, f e.2) := by
  induction es with
  | nil => rfl
  | cons e es ih =>
      rw [List.map_cons, place, place, ih]
      split
      · rfl
      · split <;> rfl

/-- Where an entry stands does not depend on the values. -/
theorem entries_ofList_map (f : β → γ) (es : List (String × β)) :
    (ofList (es.map fun e => (e.1, f e.2))).entries =
      (ofList es).entries.map fun e => (e.1, f e.2) := by
  induction es using List.reverseRecOn with
  | nil => rfl
  | append_singleton es e ih =>
      rw [List.map_append, List.map_singleton, ofList_concat, ofList_concat]
      show place e.1 (f e.2) (ofList _).entries = (place e.1 e.2 (ofList es).entries).map _
      rw [ih, place_map]

end SortedMap

end StreamStore
