import StreamStore.Proofs.KeyRange

/-!
# Which records a time range finds

A record's key stores the distance of its timestamp from the largest one, so that
newer records come first.  The distance is written in decimal *without leading
zeros*, and a range of keys is cut out of the keys as texts.  So a range does not
compare distances as numbers but as `WrittenLe` does, and this module says
exactly what that means for time ranges:

* `covers_iff_inWrittenTime` is the pointwise answer, for every record and every
  combination of bounds;
* distances with equally many digits are compared as numbers, and every timestamp
  up to `lastAligned` has a distance of fifteen digits;
* beyond `lastAligned` a range misses records of its time and finds others
  (`not_rangesExact_of_lt`), so that border cannot be moved.
-/

namespace StreamStore

open Text

/-- Whether a timestamp lies between two bounds, both included, as far as they are
given. -/
def InTime (oldest newest : Option Nat) (t : Nat) : Prop :=
  (∀ a, oldest = some a → a ≤ t) ∧ ∀ b, newest = some b → t ≤ b

/-- Whether a timestamp lies between two bounds when the distances from the
largest timestamp are compared as they are written. -/
def InWrittenTime (oldest newest : Option Nat) (t : Nat) : Prop :=
  (∀ a, oldest = some a → WrittenLe (maxTimestamp - t) (maxTimestamp - a)) ∧
    ∀ b, newest = some b → WrittenLe (maxTimestamp - b) (maxTimestamp - t)

/-! ### The two bounds -/

/-- A record is not before the first key of a range exactly when its distance is
not written before that of the newest timestamp. -/
theorem not_lt_firstRow_iff {s first n : String} {newest : Option Nat} {t : Nat} {k : RowKey}
    (hfirst : firstRow s newest = .ok first) (hk : RowKey.encode s t n = .ok k) :
    ¬k.text.toList < first.toList ↔
      ∀ b, newest = some b → WrittenLe (maxTimestamp - b) (maxTimestamp - t) := by
  rw [toList_text_of_encode hk]
  cases newest with
  | none =>
      rw [firstRow_none hfirst, append_lt_append_iff, List.cons_lt_cons_iff]
      refine iff_of_true ?_ fun b hb => nomatch hb
      rintro (h | ⟨h, -⟩)
      · exact absurd h (by decide)
      · exact absurd h (by decide)
  | some b =>
      rw [firstRow_some hfirst, append_lt_append_iff, List.cons_lt_cons_iff]
      have hcolon : ¬(':' < ':') := by decide
      simp only [hcolon, false_or, true_and, Option.some.injEq, forall_eq']
      by_cases heq : maxTimestamp - t = maxTimestamp - b
      · rw [heq, append_lt_append_iff, List.cons_lt_cons_iff]
        refine iff_of_true ?_ (writtenLe_refl _)
        rintro (h | ⟨-, h⟩)
        · exact hcolon h
        · exact List.not_lt_nil _ h
      · rw [closed_lt_iff heq (fun _ => digit_lt_colon) fun _ => digit_lt_colon,
          not_writtenLe_iff heq]

/-- A record is before the key that ends a range exactly when its distance is
written before that of the oldest timestamp, or is that distance. -/
theorem lt_stopRow_iff {s stop n : String} {oldest : Option Nat} {t : Nat} {k : RowKey}
    (hstop : stopRow s oldest = .ok stop) (hk : RowKey.encode s t n = .ok k) :
    k.text.toList < stop.toList ↔
      ∀ a, oldest = some a → WrittenLe (maxTimestamp - t) (maxTimestamp - a) := by
  rw [toList_text_of_encode hk]
  cases oldest with
  | none =>
      obtain ⟨cs, c, d, hstream, hsucc, hend⟩ := stopRow_none hstop
      rw [hend, hstream, List.append_assoc, append_lt_append_iff]
      refine iff_of_true (List.cons_lt_cons_iff.2 (.inl ?_)) fun a ha => nomatch ha
      show c.toNat < d.toNat
      omega
  | some a =>
      rw [stopRow_some hstop, append_lt_append_iff, List.cons_lt_cons_iff]
      have hcolon : ¬(':' < ':') := by decide
      simp only [hcolon, false_or, true_and, Option.some.injEq, forall_eq']
      by_cases heq : maxTimestamp - t = maxTimestamp - a
      · rw [heq, append_lt_append_iff]
        exact iff_of_true (List.cons_lt_cons_iff.2 (.inl (by decide))) (writtenLe_refl _)
      · refine closed_lt_iff heq (fun _ => digit_lt_colon) (fun c hc => ?_) _ _
        exact Nat.lt_trans (digit_lt_colon hc) (by decide)

/-- **What a range covers.**  A record of the stream lies in a range exactly when
its distance lies between those of the bounds, in the order of written numbers. -/
theorem covers_iff_inWrittenTime {s n : String} {oldest newest : Option Nat} {range : RowRange}
    {t : Nat} {k : RowKey} (hrange : rangeOf s oldest newest = .ok range)
    (hk : RowKey.encode s t n = .ok k) :
    range.Covers k.text ↔ InWrittenTime oldest newest t := by
  obtain ⟨hfirst, hstop⟩ := rangeOf_eq_ok_iff.1 hrange
  rw [RowRange.covers_iff, not_lt_firstRow_iff hfirst hk, lt_stopRow_iff hstop hk, and_comm]
  exact Iff.rfl

/-! ### Timestamps whose distances have fifteen digits -/

/-- The last timestamp whose distance from the largest one has fifteen digits. -/
def lastAligned : Nat := 822337203685500

theorem width_distance {t : Nat} (h : t ≤ lastAligned) : width (maxTimestamp - t) = 15 := by
  have hlast : lastAligned = 822337203685500 := rfl
  have hmax : maxTimestamp = 922337203685500 := rfl
  exact width_eq_of_bounds (j := 14) (by decide) (by omega) (by omega)

/-- Up to `lastAligned` distances are written in the order of numbers. -/
theorem inWrittenTime_iff_inTime {oldest newest : Option Nat} {t : Nat} (ht : t ≤ lastAligned)
    (holdest : ∀ a, oldest = some a → a ≤ lastAligned)
    (hnewest : ∀ b, newest = some b → b ≤ lastAligned) :
    InWrittenTime oldest newest t ↔ InTime oldest newest t := by
  have hmax : lastAligned ≤ maxTimestamp := by decide
  refine and_congr (forall₂_congr fun a ha => ?_) (forall₂_congr fun b hb => ?_)
  · have hle := holdest a ha
    rw [writtenLe_of_width_eq ((width_distance ht).trans (width_distance hle).symm)]
    omega
  · have hle := hnewest b hb
    rw [writtenLe_of_width_eq ((width_distance hle).trans (width_distance ht).symm)]
    omega

/-- Time ranges find exactly the records in time, as long as no timestamp exceeds
`limit`. -/
def RangesExactUpTo (limit : Nat) : Prop :=
  ∀ (s n : String) (oldest newest : Option Nat) (range : RowRange) (t : Nat),
    separator ∉ s.toList → t ≤ limit →
    (∀ a, oldest = some a → a ≤ limit) → (∀ b, newest = some b → b ≤ limit) →
    (∀ a b, oldest = some a → newest = some b → a ≤ b) →
    rangeOf s oldest newest = .ok range →
    ∃ k, RowKey.encode s t n = .ok k ∧ (range.Covers k.text ↔ InTime oldest newest t)

theorem rangesExact_of_le {limit : Nat} (h : limit ≤ lastAligned) : RangesExactUpTo limit := by
  intro s n oldest newest range t _ ht holdest hnewest _ hrange
  have hmax : lastAligned ≤ maxTimestamp := by decide
  have hk := RowKey.encode_eq_ok (s := s) (n := n) (show t ≤ maxTimestamp by omega)
  refine ⟨_, hk, ?_⟩
  rw [covers_iff_inWrittenTime hrange hk]
  exact inWrittenTime_iff_inTime (Nat.le_trans ht h)
    (fun a ha => Nat.le_trans (holdest a ha) h) fun b hb => Nat.le_trans (hnewest b hb) h

/-- One timestamp later, a range that ends with the earliest time of all finds a
record: the distance of the record has fourteen digits, all of them nines. -/
theorem not_rangesExact_of_lt {limit : Nat} (h : lastAligned < limit) :
    ¬RangesExactUpTo limit := by
  intro hexact
  have hrange : rangeOf "7" none (some 0) =
      .ok ⟨"000000000007:922337203685500:", "000000000008*"⟩ := rfl
  obtain ⟨k, hk, hiff⟩ := hexact "7" "" none (some 0) _ (lastAligned + 1) (by decide) h
    (fun a ha => nomatch ha) (fun b hb => by cases hb; exact Nat.zero_le limit)
    (fun a b ha => nomatch ha) hrange
  rw [covers_iff_inWrittenTime hrange hk] at hiff
  have hwritten : InWrittenTime none (some 0) (lastAligned + 1) := by
    refine ⟨fun a ha => (nomatch ha), fun b hb => ?_⟩
    cases hb
    decide
  exact absurd ((hiff.1 hwritten).2 0 rfl) (by decide)

/-! ### Main result -/

/-- **What time ranges find.**  A record is found exactly when its distance from
the largest timestamp lies between those of the bounds in the order of written
numbers.  That is the order of time for all timestamps up to a limit exactly when
the limit does not exceed `lastAligned`. -/
theorem time_range_finds_exactly (s n : String) (oldest newest : Option Nat) (range : RowRange)
    (t limit : Nat) (ht : t ≤ maxTimestamp) (hrange : rangeOf s oldest newest = .ok range) :
    (∃ k, RowKey.encode s t n = .ok k ∧
      (range.Covers k.text ↔ InWrittenTime oldest newest t)) ∧
    (RangesExactUpTo limit ↔ limit ≤ lastAligned) := by
  constructor
  · have hk := RowKey.encode_eq_ok (s := s) (n := n) ht
    exact ⟨_, hk, covers_iff_inWrittenTime hrange hk⟩
  · constructor
    · intro hexact
      exact Nat.not_lt.1 fun hlt => not_rangesExact_of_lt hlt hexact
    · exact rangesExact_of_le

/-- A range of some months finds the record in the middle of it. -/
theorem time_range_finds_record :
    ∃ range k, rangeOf "42" (some 1690000000000) (some 1710000000000) = .ok range ∧
      RowKey.encode "42" 1700000000000 "node-a" = .ok k ∧ range.Covers k.text := by
  have hrange : rangeOf "42" (some 1690000000000) (some 1710000000000) =
      .ok ⟨"000000000042:920627203685500:", "000000000042:920647203685500;"⟩ := rfl
  obtain ⟨⟨k, hk, hcovers⟩, -⟩ := time_range_finds_exactly "42" "node-a" _ _ _ 1700000000000
    1710000000000 (by decide) hrange
  refine ⟨_, k, hrange, hk, hcovers.2 ⟨fun a ha => ?_, fun b hb => ?_⟩⟩
  · cases ha
    decide
  · cases hb
    decide

/-- At the largest timestamps a range misses a record of its time: the distance 10
is written before the distance 9. -/
theorem time_range_misses_record :
    ∃ range k, rangeOf "7" (some 922337203685490) (some 922337203685491) = .ok range ∧
      RowKey.encode "7" 922337203685490 "node" = .ok k ∧
      InTime (some 922337203685490) (some 922337203685491) 922337203685490 ∧
      ¬range.Covers k.text := by
  have hrange : rangeOf "7" (some 922337203685490) (some 922337203685491) =
      .ok ⟨"000000000007:9:", "000000000007:10;"⟩ := rfl
  have hk := RowKey.encode_eq_ok (s := "7") (t := 922337203685490) (n := "node") (by decide)
  refine ⟨_, _, hrange, hk, ⟨fun a ha => ?_, fun b hb => ?_⟩, ?_⟩
  · cases ha
    decide
  · cases hb
    decide
  · rw [covers_iff_inWrittenTime hrange hk]
    intro h
    exact absurd (h.2 _ rfl) (by decide)

end StreamStore
