import Mathlib.Data.List.Induction
import Mathlib.Data.List.Sort
import StreamStore.ArrivalMap

/-!
# Writing into a map in order of arrival

Writing into an `ArrivalMap` has two effects that must not be mixed up: it gives a
key its value, and a key that is new its place at the end.  So two writes to
different keys commute when the later one does not bring a new key
(`alter_comm`), and in general they do not.

`alterAll` works a list of entries into a map, one after the other.  Its law
(`alterAll_put`) says what a change *in the list* does to the result: when the
entry of one key is changed in its place, or a new entry is added at the end, the
result changes at that key and nowhere else, order included.

The keys of such a map are the first occurrences of the keys that were written, so
there are laws for these too (`firstOccurrences_append`, `firstOccurrences_filter`).  When
items are collected by their keys, the value of a key is made of its own items and of no
others (`getD_collect`).
`FirstAppearances` says what first occurrences are without saying how they are found,
and there is one such list only (`FirstAppearances.unique`).
-/

namespace StreamStore

namespace ArrivalMap

variable {β γ : Type}

theorem mem_keys_insert {m : ArrivalMap β} {k l : String} {v : β} :
    l ∈ (m.insert k v).keys ↔ l = k ∨ l ∈ m.keys := by
  rw [keys_insert]
  split
  · next hk => exact ⟨.inr, fun h => h.elim (fun heq => heq ▸ hk) id⟩
  · rw [List.mem_append, List.mem_singleton, or_comm]

/-! ### Two writes -/

theorem put_put_self (k : String) (v w : β) (es : List (String × β)) :
    put k v (put k w es) = put k v es := by
  induction es with
  | nil => simp [put]
  | cons e es ih =>
      by_cases hek : e.1 = k
      · simp [put, hek]
      · simp [put, hek, ih]

theorem put_comm {k l : String} (hne : k ≠ l) (v w : β) {es : List (String × β)}
    (hk : k ∈ es.map Prod.fst) : put k v (put l w es) = put l w (put k v es) := by
  induction es with
  | nil => simp at hk
  | cons e es ih =>
      by_cases hek : e.1 = k
      · simp [put, hek, hne]
      · have htail : k ∈ es.map Prod.fst := by
          rcases List.mem_cons.1 hk with h | h
          · exact absurd h.symm hek
          · exact h
        by_cases hel : e.1 = l
        · simp [put, hel, hne.symm]
        · simp [put, hek, hel, ih htail]

/-- Changing a key twice is changing it once. -/
theorem alter_alter_self (m : ArrivalMap β) (k : String) (f g : Option β → β) :
    (m.alter k g).alter k f = m.alter k fun old => f (some (g old)) := by
  apply ext
  simp [alter, put_put_self]

/-- A key that is there keeps its place whatever else is written, so changing it
commutes with changing another key. -/
theorem alter_comm {m : ArrivalMap β} {k l : String} (hne : k ≠ l) (hk : k ∈ m.keys)
    (f g : Option β → β) : (m.alter l g).alter k f = (m.alter k f).alter l g := by
  apply ext
  simp only [alter, entries_insert, get?_insert_of_ne _ hne, get?_insert_of_ne _ hne.symm]
  exact put_comm hne _ _ hk

/-! ### Working a list of entries into a map -/

/-- The map after the entries of a list are worked into it, one after the other;
`g` makes the new value of a key out of the entry and the present value. -/
def alterAll (g : γ → Option β → β) (m : ArrivalMap β) (es : List (String × γ)) : ArrivalMap β :=
  es.foldl (fun m e => m.alter e.1 (g e.2)) m

section AlterAll

variable {g : γ → Option β → β} {k : String} {f : Option β → β} {es : List (String × γ)}

theorem alterAll_cons (g : γ → Option β → β) (m : ArrivalMap β) (e : String × γ)
    (es : List (String × γ)) : alterAll g m (e :: es) = alterAll g (m.alter e.1 (g e.2)) es := rfl

theorem alter_alterAll {m : ArrivalMap β} (hk : k ∈ m.keys) (hes : k ∉ es.map Prod.fst) :
    (alterAll g m es).alter k f = alterAll g (m.alter k f) es := by
  induction es generalizing m with
  | nil => rfl
  | cons e es ih =>
      have hne : k ≠ e.1 := fun h => hes (by simp [h])
      have htail : k ∉ es.map Prod.fst := fun h => hes (List.mem_cons_of_mem _ h)
      have hkey : k ∈ (m.alter e.1 (g e.2)).keys := mem_keys_insert.2 (.inr hk)
      rw [alterAll_cons, alterAll_cons, ih hkey htail, alter_comm hne hk]

/-- **A change in the list is a change in the result.**  `u` changes the entry of
a key in the list, and `f` the value of that key in the result; they match when
working in a changed entry is the same as changing what the old one gave. -/
theorem alterAll_put {u : Option γ → γ} (hnew : ∀ old, g (u none) old = f old)
    (hold : ∀ c old, g (u (some c)) old = f (some (g c old))) (k : String) (m : ArrivalMap β)
    (hes : (es.map Prod.fst).Nodup) :
    alterAll g m (put k (u (lookup k es)) es) = (alterAll g m es).alter k f := by
  induction es generalizing m with
  | nil =>
      show m.alter k (g (u none)) = m.alter k f
      rw [funext hnew]
  | cons e es ih =>
      rw [List.map_cons, List.nodup_cons] at hes
      by_cases hek : e.1 = k
      · have hput : put k (u (lookup k (e :: es))) (e :: es) = (k, u (some e.2)) :: es := by
          simp [put, lookup, hek]
        have hstep : (m.alter k (g e.2)).alter k f = m.alter k (g (u (some e.2))) := by
          rw [alter_alter_self]
          congr 1
          funext old
          exact (hold e.2 old).symm
        -- the key is not in the rest of the list, so the change moves to the front of it
        have hkey : k ∈ (m.alter k (g e.2)).keys := mem_keys_insert.2 (.inl rfl)
        subst hek
        rw [hput, alterAll_cons, alterAll_cons, alter_alterAll hkey hes.1, hstep]
      · have hput : put k (u (lookup k (e :: es))) (e :: es) = e :: put k (u (lookup k es)) es := by
          simp [put, lookup, hek]
        rw [hput, alterAll_cons, alterAll_cons, ih _ hes.2]

end AlterAll

/-- The map after all entries of another one are written into it. -/
def insertAll (m n : ArrivalMap β) : ArrivalMap β :=
  alterAll (fun v _ => v) m n.entries

theorem insertAll_insert (m n : ArrivalMap β) (k : String) (v : β) :
    m.insertAll (n.insert k v) = (m.insertAll n).insert k v :=
  alterAll_put (u := fun _ => v) (f := fun _ => v) (fun _ => rfl) (fun _ _ => rfl) k m n.distinct

/-! ### Building a map from a list -/

theorem put_of_notMem {k : String} (v : β) {es : List (String × β)}
    (h : k ∉ es.map Prod.fst) : put k v es = es ++ [(k, v)] := by
  induction es with
  | nil => rfl
  | cons e es ih =>
      rw [List.map_cons, List.mem_cons, not_or] at h
      rw [put, if_neg (Ne.symm h.1), ih h.2, List.cons_append]

theorem mem_put {k : String} {v : β} {es : List (String × β)} {e : String × β}
    (h : e ∈ put k v es) : e = (k, v) ∨ e ∈ es := by
  induction es with
  | nil => exact .inl (List.mem_singleton.1 h)
  | cons d es ih =>
      rw [put] at h
      split at h
      · exact (List.mem_cons.1 h).imp_right (List.mem_cons_of_mem d)
      · rcases List.mem_cons.1 h with rfl | h
        · exact .inr List.mem_cons_self
        · exact (ih h).imp_right (List.mem_cons_of_mem d)

/-- Entries with new and distinct keys are added behind those that are there. -/
theorem entries_insertEach {m : ArrivalMap β} {es : List (String × β)}
    (h : (m.keys ++ es.map Prod.fst).Nodup) :
    (es.foldl (fun m e => m.insert e.1 e.2) m).entries = m.entries ++ es := by
  induction es generalizing m with
  | nil => exact (List.append_nil _).symm
  | cons e es ih =>
      have hnew : e.1 ∉ m.keys := by
        intro hmem
        exact (List.nodup_append.1 h).2.2 _ hmem _ List.mem_cons_self rfl
      have hkeys : (m.insert e.1 e.2).keys = m.keys ++ [e.1] := by
        rw [keys_insert, if_neg hnew]
      have hrest : ((m.insert e.1 e.2).keys ++ es.map Prod.fst).Nodup := by
        rw [hkeys, List.append_assoc]
        exact h
      rw [List.foldl_cons, ih hrest, entries_insert, put_of_notMem e.2 hnew, List.append_assoc]
      rfl

/-- The map of the entries of a map is that map, order included. -/
theorem ofList_entries (m : ArrivalMap β) : ofList m.entries = m :=
  ext (entries_insertEach m.distinct)

theorem mem_insertEach {m : ArrivalMap β} {es : List (String × β)} {e : String × β}
    (h : e ∈ (es.foldl (fun m e => m.insert e.1 e.2) m).entries) : e ∈ m.entries ∨ e ∈ es := by
  induction es generalizing m with
  | nil => exact .inl h
  | cons d es ih =>
      rcases ih h with h | h
      · rcases mem_put h with rfl | h
        · exact .inr List.mem_cons_self
        · exact .inl h
      · exact .inr (List.mem_cons_of_mem d h)

/-- A map that is built from a list has no entries but those of the list. -/
theorem mem_entries_ofList {es : List (String × β)} {e : String × β}
    (h : e ∈ (ofList es).entries) : e ∈ es :=
  (mem_insertEach h).resolve_left List.not_mem_nil

/-! ### Entries by their keys -/

theorem lookup_eq_some_iff {k : String} {v : β} {es : List (String × β)}
    (h : (es.map Prod.fst).Nodup) : lookup k es = some v ↔ (k, v) ∈ es := by
  induction es with
  | nil => exact iff_of_false (fun h => nomatch h) List.not_mem_nil
  | cons e es ih =>
      rw [List.map_cons, List.nodup_cons] at h
      rw [lookup, List.mem_cons]
      by_cases hk : e.1 = k
      · rw [if_pos hk]
        constructor
        · intro hv
          exact .inl (Prod.ext hk.symm (Option.some.inj hv).symm)
        · rintro (hv | hv)
          · rw [← hv]
          -- the key of the first entry stands nowhere else
          · exact absurd (List.mem_map.2 ⟨(k, v), hv, hk.symm⟩) h.1
      · rw [if_neg hk, ih h.2]
        refine ⟨.inr, fun hv => hv.resolve_left fun heq => hk ?_⟩
        rw [← heq]

/-- A key has a value exactly when the two are an entry. -/
theorem get?_eq_some_iff {m : ArrivalMap β} {k : String} {v : β} :
    m.get? k = some v ↔ (k, v) ∈ m.entries :=
  lookup_eq_some_iff m.distinct

theorem mem_keys_iff {m : ArrivalMap β} {k : String} : k ∈ m.keys ↔ ∃ v, m.get? k = some v := by
  rw [keys, List.mem_map]
  constructor
  · rintro ⟨⟨_, v⟩, hmem, rfl⟩
    exact ⟨v, get?_eq_some_iff.2 hmem⟩
  · rintro ⟨v, hv⟩
    exact ⟨(k, v), get?_eq_some_iff.1 hv, rfl⟩

theorem get?_eq_none_iff {m : ArrivalMap β} {k : String} : m.get? k = none ↔ k ∉ m.keys := by
  rw [mem_keys_iff, ← Option.isSome_iff_exists, Option.not_isSome_iff_eq_none]

/-- The entries are the keys with their values, in the order of the keys. -/
theorem entries_eq_map_keys (m : ArrivalMap β) (d : β) :
    m.entries = m.keys.map fun k => (k, (m.get? k).getD d) := by
  obtain ⟨es, hes⟩ := m
  show es = (es.map Prod.fst).map fun k => (k, (lookup k es).getD d)
  induction es with
  | nil => rfl
  | cons e es ih =>
      rw [List.map_cons, List.nodup_cons] at hes
      have hhead : (lookup e.1 (e :: es)).getD d = e.2 := by simp [lookup]
      have htail : (es.map Prod.fst).map (fun k => (k, (lookup k (e :: es)).getD d)) =
          (es.map Prod.fst).map fun k => (k, (lookup k es).getD d) := by
        apply List.map_congr_left
        intro k hk
        have hne : ¬e.1 = k := fun heq => hes.1 (heq ▸ hk)
        simp [lookup, hne]
      rw [List.map_cons, List.map_cons, hhead, htail, ← ih hes.2]

/-- Two maps with the same keys in the same order and the same values are one map. -/
theorem ext_keys [Inhabited β] {m n : ArrivalMap β} (hkeys : m.keys = n.keys)
    (hvalues : ∀ k, m.get? k = n.get? k) : m = n := by
  apply ext
  rw [m.entries_eq_map_keys default, n.entries_eq_map_keys default, hkeys]
  exact List.map_congr_left fun k _ => by rw [hvalues k]

end ArrivalMap

/-! ### First occurrences -/

theorem firstOccurrences_filter (p : String → Bool) (xs : List String) :
    (firstOccurrences xs).filter p = firstOccurrences (xs.filter p) := by
  induction xs with
  | nil => rfl
  | cons x xs ih =>
      have hcomm : ((firstOccurrences xs).filter fun y => y != x).filter p =
          (firstOccurrences (xs.filter p)).filter fun y => y != x := by
        rw [← ih, List.filter_filter, List.filter_filter]
        exact List.filter_congr fun y _ => Bool.and_comm ..
      rw [firstOccurrences_cons]
      cases hp : p x with
      | true =>
          rw [List.filter_cons_of_pos hp, List.filter_cons_of_pos hp, firstOccurrences_cons, hcomm]
      | false =>
          have hn : ¬p x = true := by rw [hp]; exact Bool.false_ne_true
          have hout : ∀ y ∈ firstOccurrences (xs.filter p), (y != x) = true := by
            intro y hy
            have hy := (List.mem_filter.1 (mem_firstOccurrences.1 hy)).2
            simp only [bne_iff_ne]
            rintro rfl
            exact hn hy
          rw [List.filter_cons_of_neg hn, List.filter_cons_of_neg hn, hcomm,
            List.filter_eq_self.2 hout]

/-- Of a second list only what the first one does not have is new. -/
theorem firstOccurrences_append (xs ys : List String) :
    firstOccurrences (xs ++ ys) =
      firstOccurrences xs ++ (firstOccurrences ys).filter fun y => !xs.contains y := by
  induction xs with
  | nil => exact (List.filter_eq_self.2 fun _ _ => rfl).symm
  | cons x xs ih =>
      rw [List.cons_append, firstOccurrences_cons, firstOccurrences_cons, ih, List.filter_append,
        List.filter_filter, List.cons_append]
      congr 2
      apply List.filter_congr
      intro y _
      by_cases hy : y = x <;> simp [hy]

/-- An element at the end stands there only when it has not stood before. -/
theorem firstOccurrences_concat (xs : List String) (x : String) :
    firstOccurrences (xs ++ [x]) =
      if x ∈ xs then firstOccurrences xs else firstOccurrences xs ++ [x] := by
  rw [firstOccurrences_append]
  by_cases hx : x ∈ xs
  · simp [hx, firstOccurrences_cons]
  · simp [hx, firstOccurrences_cons]

/-! ### Collecting items by their keys -/

namespace ArrivalMap

variable {α β : Type}

/-- The map that items are worked into, one after the other: every item has a key, and `g`
makes the new value of the key out of the item and the value so far, at first `d`. -/
def collect (key : α → String) (g : α → β → β) (d : β) (xs : List α) : ArrivalMap β :=
  xs.foldl (fun m x => m.alter (key x) fun old => g x (old.getD d)) .empty

variable {key : α → String} {g : α → β → β} {d : β}

theorem collect_concat (xs : List α) (x : α) : collect key g d (xs ++ [x]) =
    (collect key g d xs).insert (key x) (g x (((collect key g d xs).get? (key x)).getD d)) := by
  rw [collect, List.foldl_append]
  rfl

/-- The keys are those of the items, in the order of the first items. -/
theorem keys_collect (xs : List α) :
    (collect key g d xs).keys = firstOccurrences (xs.map key) := by
  induction xs using List.reverseRecOn with
  | nil => rfl
  | append_singleton xs x ih =>
      rw [collect_concat, keys_insert, ih, List.map_append, List.map_singleton,
        firstOccurrences_concat]
      simp only [mem_firstOccurrences]

/-- The value of a key is made of its own items, in their order. -/
theorem getD_collect (xs : List α) (k : String) : ((collect key g d xs).get? k).getD d =
    (xs.filter fun x => key x == k).foldl (fun value x => g x value) d := by
  induction xs using List.reverseRecOn with
  | nil => rfl
  | append_singleton xs x ih =>
      rw [collect_concat, List.filter_append, List.foldl_append, ← ih]
      by_cases hk : key x = k
      · subst hk
        rw [get?_insert_self, Option.getD_some, List.filter_cons_of_pos (by simp)]
        rfl
      -- the item has another key
      · rw [get?_insert_of_ne _ (Ne.symm hk), List.filter_cons_of_neg (by simpa using hk)]
        rfl

end ArrivalMap

/-! ### First occurrences without their computation -/

/-- Whether a list has the members of another one, each once and in the order in which
they first appear there. -/
structure FirstAppearances (xs firsts : List String) : Prop where
  /-- Nothing is lost and nothing is added. -/
  mem_iff : ∀ x, x ∈ firsts ↔ x ∈ xs
  /-- What appears first stands first. -/
  ordered : firsts.Pairwise fun x y => xs.idxOf x < xs.idxOf y

namespace FirstAppearances

variable {xs firsts : List String}

/-- A list has one list of first appearances. -/
theorem unique {firsts' : List String} (h : FirstAppearances xs firsts)
    (h' : FirstAppearances xs firsts') : firsts = firsts' := by
  have hasymm : Std.Asymm fun x y => xs.idxOf x < xs.idxOf y := ⟨fun _ _ => Nat.lt_asymm⟩
  exact h.ordered.eq_of_mem_iff h'.ordered fun x => (h.mem_iff x).trans (h'.mem_iff x).symm

end FirstAppearances

theorem ordered_firstOccurrences (xs : List String) :
    (firstOccurrences xs).Pairwise fun x y => xs.idxOf x < xs.idxOf y := by
  induction xs with
  | nil => exact List.Pairwise.nil
  | cons x xs ih =>
      have hlater : ∀ y ∈ (firstOccurrences xs).filter (fun y => y != x),
          (x :: xs).idxOf y = xs.idxOf y + 1 := by
        intro y hy
        have hne : y ≠ x := bne_iff_ne.1 (List.mem_filter.1 hy).2
        rw [List.idxOf_cons, beq_false_of_ne hne.symm, cond_false]
      rw [firstOccurrences_cons, List.pairwise_cons]
      constructor
      · intro y hy
        rw [List.idxOf_cons_self, hlater y hy]
        exact Nat.succ_pos _
      · refine (ih.filter _).imp_of_mem fun {y z} hy hz hlt => ?_
        rw [hlater y hy, hlater z hz]
        exact Nat.succ_lt_succ hlt

/-- First occurrences are computed in the order of first appearance. -/
theorem firstAppearances_firstOccurrences (xs : List String) :
    FirstAppearances xs (firstOccurrences xs) :=
  ⟨fun _ => mem_firstOccurrences, ordered_firstOccurrences xs⟩

/-- Where nothing appears twice, everything stands where it first appears. -/
theorem firstOccurrences_of_nodup {xs : List String} (h : xs.Nodup) : firstOccurrences xs = xs := by
  induction xs with
  | nil => rfl
  | cons x xs ih =>
      obtain ⟨hx, hxs⟩ := List.nodup_cons.1 h
      rw [firstOccurrences_cons, ih hxs, List.filter_eq_self.2]
      rintro y hy
      exact bne_iff_ne.2 fun heq => hx (heq ▸ hy)

end StreamStore
