/-!
# Maps in order of first arrival

A result document lists its rows, and the columns of each row, in the order in
which they first arrived from the store; writing a key again replaces its value
in place.  An `ArrivalMap` is a list of entries together with the proof that no
key occurs twice, so its order is part of its value: two maps that list the same
entries in different orders differ.
-/

namespace StreamStore

/-- A finite map from texts whose entries are listed in the order in which their
keys first arrived. -/
structure ArrivalMap (β : Type) where
  /-- The entries, oldest key first. -/
  entries : List (String × β)
  /-- No key occurs twice. -/
  distinct : (entries.map Prod.fst).Nodup
  deriving DecidableEq

namespace ArrivalMap

variable {β γ : Type}

/-- Replaces the value of a key in a list of entries, or adds the entry at its end. -/
def put (k : String) (v : β) : List (String × β) → List (String × β)
  | [] => [(k, v)]
  | e :: rest => if e.1 = k then (k, v) :: rest else e :: put k v rest

/-- The value of a key in a list of entries. -/
def lookup (k : String) : List (String × β) → Option β
  | [] => none
  | e :: rest => if e.1 = k then some e.2 else lookup k rest

theorem keys_put (k : String) (v : β) (es : List (String × β)) :
    (put k v es).map Prod.fst =
      if k ∈ es.map Prod.fst then es.map Prod.fst else es.map Prod.fst ++ [k] := by
  induction es with
  | nil => simp [put]
  | cons e es ih =>
      rw [put]
      by_cases h : e.1 = k
      · simp [h]
      · have h' : ¬k = e.1 := fun hk => h hk.symm
        by_cases hm : k ∈ es.map Prod.fst
        · rw [if_neg h, List.map_cons, ih, if_pos hm, List.map_cons, if_pos]
          exact List.mem_cons_of_mem _ hm
        · rw [if_neg h, List.map_cons, ih, if_neg hm, List.map_cons, if_neg]
          · rfl
          · simpa [h'] using hm

theorem distinct_put (k : String) (v : β) {es : List (String × β)}
    (h : (es.map Prod.fst).Nodup) : ((put k v es).map Prod.fst).Nodup := by
  rw [keys_put]
  split
  · exact h
  · next hk =>
      refine List.nodup_append.2 ⟨h, by simp, ?_⟩
      intro a ha b hb
      rw [List.mem_singleton] at hb
      exact fun hab => hk (hb ▸ hab ▸ ha)

/-- The map with no entries. -/
def empty : ArrivalMap β :=
  ⟨[], List.nodup_nil⟩

instance : EmptyCollection (ArrivalMap β) := ⟨empty⟩

instance : Inhabited (ArrivalMap β) := ⟨empty⟩

/-- The keys, oldest first. -/
def keys (m : ArrivalMap β) : List String :=
  m.entries.map Prod.fst

/-- How many entries there are. -/
def size (m : ArrivalMap β) : Nat :=
  m.entries.length

/-- The value of a key. -/
def get? (m : ArrivalMap β) (k : String) : Option β :=
  lookup k m.entries

/-- The map in which `k` has the value `v`; a new key is the last one. -/
def insert (m : ArrivalMap β) (k : String) (v : β) : ArrivalMap β :=
  ⟨put k v m.entries, distinct_put k v m.distinct⟩

/-- The map in which `k` has the value that `f` makes of its present one. -/
def alter (m : ArrivalMap β) (k : String) (f : Option β → β) : ArrivalMap β :=
  m.insert k (f (m.get? k))

/-- The map of a list of entries: a repeated key keeps its first place and its
last value. -/
def ofList (es : List (String × β)) : ArrivalMap β :=
  es.foldl (fun m e => m.insert e.1 e.2) empty

@[simp] theorem entries_insert (m : ArrivalMap β) (k : String) (v : β) :
    (m.insert k v).entries = put k v m.entries := rfl

/-- A key that is there keeps its place, and a new one comes last. -/
theorem keys_insert (m : ArrivalMap β) (k : String) (v : β) :
    (m.insert k v).keys = if k ∈ m.keys then m.keys else m.keys ++ [k] :=
  keys_put k v m.entries

theorem lookup_put_self (k : String) (v : β) (es : List (String × β)) :
    lookup k (put k v es) = some v := by
  induction es with
  | nil => simp [put, lookup]
  | cons e es ih =>
      rw [put]
      split
      · simp [lookup]
      · next h => simp [lookup, h, ih]

theorem lookup_put_of_ne {k l : String} (h : l ≠ k) (v : β) (es : List (String × β)) :
    lookup l (put k v es) = lookup l es := by
  induction es with
  | nil => simp [put, lookup, Ne.symm h]
  | cons e es ih =>
      rw [put]
      split
      · next he => simp [lookup, he, Ne.symm h]
      · simp [lookup, ih]

@[simp] theorem get?_insert_self (m : ArrivalMap β) (k : String) (v : β) :
    (m.insert k v).get? k = some v :=
  lookup_put_self k v m.entries

theorem get?_insert_of_ne (m : ArrivalMap β) {k l : String} (h : l ≠ k) (v : β) :
    (m.insert k v).get? l = m.get? l :=
  lookup_put_of_ne h v m.entries

/-- Maps with the same entries are equal. -/
theorem ext {m n : ArrivalMap β} (h : m.entries = n.entries) : m = n := by
  cases m; cases n; cases h; rfl

end ArrivalMap

/-- The members of a list, each at the place where it first occurs. -/
def firstOccurrences : List String → List String
  | [] => []
  | x :: xs => x :: (firstOccurrences xs).filter (fun y => y != x)

@[simp] theorem firstOccurrences_nil : firstOccurrences [] = [] := rfl

theorem firstOccurrences_cons (x : String) (xs : List String) :
    firstOccurrences (x :: xs) = x :: (firstOccurrences xs).filter (fun y => y != x) := rfl

/-- Nothing is lost and nothing is added. -/
@[simp] theorem mem_firstOccurrences {x : String} {xs : List String} :
    x ∈ firstOccurrences xs ↔ x ∈ xs := by
  induction xs with
  | nil => simp
  | cons y ys ih =>
      by_cases h : x = y
      · simp [firstOccurrences_cons, h]
      · simp [firstOccurrences_cons, h, ih]

theorem nodup_firstOccurrences (xs : List String) : (firstOccurrences xs).Nodup := by
  induction xs with
  | nil => exact List.nodup_nil
  | cons x xs ih =>
      rw [firstOccurrences_cons, List.nodup_cons]
      exact ⟨by simp, List.Pairwise.filter _ ih⟩

end StreamStore
