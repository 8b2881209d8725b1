/-!
# Maps in key order

A store keeps its tables, its rows and the cells of a row in the order of their
keys, and every read returns them in that order.  A `SortedMap` is therefore a
list of entries together with the proof that the keys strictly ascend: what an
answer shows is `entries` itself, two maps with the same entries are equal, and
no key occurs twice.

Texts are ordered by their characters' code points, which is also the order of
their UTF-8 bytes.

* `insert` replaces the value of a key that is there and otherwise puts the new
  entry in its place (`get?_insert_self`, `get?_insert_of_ne`).
* `startingAt` and `below` cut the map at a key, without looking at the rest.
-/

namespace StreamStore

/-- A finite map from texts whose entries are listed in ascending key order. -/
structure SortedMap (β : Type) where
  /-- The entries, in key order. -/
  entries : List (String × β)
  /-- Every key is smaller than the keys after it. -/
  ascending : entries.Pairwise (fun a b => a.1 < b.1)
  deriving DecidableEq

namespace SortedMap

variable {β γ : Type}

/-- Puts an entry into its place in a list of entries, or replaces the value of
the entry that has its key. -/
def place (k : String) (v : β) : List (String × β) → List (String × β)
  | [] => [(k, v)]
  | e :: rest =>
      if k < e.1 then (k, v) :: e :: rest
      else if k = e.1 then (k, v) :: rest
      else e :: place k v rest

/-- The value of a key in a list of entries. -/
def lookup (k : String) : List (String × β) → Option β
  | [] => none
  | e :: rest => if e.1 = k then some e.2 else lookup k rest

theorem mem_of_mem_place {k : String} {v : β} {e : String × β} {es : List (String × β)}
    (h : e ∈ place k v es) : e = (k, v) ∨ e ∈ es := by
  induction es with
  | nil => simpa [place] using h
  | cons d es ih =>
      rw [place] at h
      split at h
      · simpa using h
      · split at h
        · rcases List.mem_cons.1 h with h | h
          · exact .inl h
          · exact .inr (List.mem_cons_of_mem _ h)
        · rcases List.mem_cons.1 h with h | h
          · exact .inr (h ▸ List.mem_cons_self)
          · exact (ih h).imp_right (List.mem_cons_of_mem _)

/-- Two texts neither of which is smaller are one text. -/
theorem lt_of_not_lt_of_ne {a b : String} (h : ¬a < b) (hne : a ≠ b) : b < a := by
  refine String.not_le.1 fun hle => ?_
  exact hne (String.le_antisymm hle (fun h' => h h'))

theorem ascending_place (k : String) (v : β) {es : List (String × β)}
    (h : es.Pairwise (fun a b => a.1 < b.1)) :
    (place k v es).Pairwise (fun a b => a.1 < b.1) := by
  induction es with
  | nil => simp [place]
  | cons e es ih =>
      obtain ⟨he, hes⟩ := List.pairwise_cons.1 h
      rw [place]
      split
      · next hk =>
          refine List.pairwise_cons.2 ⟨fun d hd => ?_, h⟩
          rcases List.mem_cons.1 hd with rfl | hd
          · exact hk
          · exact String.lt_trans hk (he d hd)
      · next hk =>
          split
          · next heq => exact List.pairwise_cons.2 ⟨fun d hd => heq ▸ he d hd, hes⟩
          · next hne =>
              refine List.pairwise_cons.2 ⟨fun d hd => ?_, ih hes⟩
              rcases mem_of_mem_place hd with rfl | hd
              · exact lt_of_not_lt_of_ne hk hne
              · exact he d hd

/-- The map with no entries. -/
def empty : SortedMap β :=
  ⟨[], List.Pairwise.nil⟩

instance : EmptyCollection (SortedMap β) := ⟨empty⟩

instance : Inhabited (SortedMap β) := ⟨empty⟩

/-- The value of a key. -/
def get? (m : SortedMap β) (k : String) : Option β :=
  lookup k m.entries

/-- The map in which `k` has the value `v`. -/
def insert (m : SortedMap β) (k : String) (v : β) : SortedMap β :=
  ⟨place k v m.entries, ascending_place k v m.ascending⟩

/-- The map without the key `k`. -/
def erase (m : SortedMap β) (k : String) : SortedMap β :=
  ⟨m.entries.filter (fun e => e.1 != k), m.ascending.filter _⟩

/-- The map in which `k` has the value that `f` makes of its present one. -/
def alter (m : SortedMap β) (k : String) (f : Option β → β) : SortedMap β :=
  m.insert k (f (m.get? k))

/-- How many entries there are. -/
def size (m : SortedMap β) : Nat :=
  m.entries.length

/-- The entries whose key is `k` or comes after it. -/
def startingAt (m : SortedMap β) (k : String) : List (String × β) :=
  m.entries.dropWhile (fun e => e.1 < k)

/-- The entries whose key is `lower` or comes after it, and comes before `upper`. -/
def between (m : SortedMap β) (lower upper : String) : List (String × β) :=
  (m.startingAt lower).takeWhile (fun e => e.1 < upper)

/-- The map of the last value that each key has in a list. -/
def ofList (es : List (String × β)) : SortedMap β :=
  es.foldl (fun m e => m.insert e.1 e.2) empty

@[simp] theorem get?_empty (k : String) : (empty : SortedMap β).get? k = none := rfl

theorem lookup_place_self (k : String) (v : β) (es : List (String × β)) :
    lookup k (place k v es) = some v := by
  induction es with
  | nil => simp [place, lookup]
  | cons e es ih =>
      rw [place]
      split
      · simp [lookup]
      · split
        · simp [lookup]
        · next hne => simp [lookup, Ne.symm hne, ih]

theorem lookup_place_of_ne {k l : String} (h : l ≠ k) (v : β) (es : List (String × β)) :
    lookup l (place k v es) = lookup l es := by
  induction es with
  | nil => simp [place, lookup, Ne.symm h]
  | cons e es ih =>
      rw [place]
      split
      · simp [lookup, Ne.symm h]
      · split
        · next heq => subst heq; simp [lookup, Ne.symm h]
        · simp [lookup, ih]

@[simp] theorem get?_insert_self (m : SortedMap β) (k : String) (v : β) :
    (m.insert k v).get? k = some v :=
  lookup_place_self k v m.entries

theorem get?_insert_of_ne (m : SortedMap β) {k l : String} (h : l ≠ k) (v : β) :
    (m.insert k v).get? l = m.get? l :=
  lookup_place_of_ne h v m.entries

/-- Maps with the same entries are equal. -/
theorem ext {m n : SortedMap β} (h : m.entries = n.entries) : m = n := by
  cases m; cases n; cases h; rfl

end SortedMap

end StreamStore
