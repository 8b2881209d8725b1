import StreamStore.Proofs.TimeRange

/-!
# The newest record first

The keys of a stream are meant to run from the newest record to the oldest, so that a
scan need not sort.  What decides between two keys of a stream is the distance of their
timestamps from the largest one, as it is written: without leading zeros, and closed by
a separator that comes after every digit.

So a newer record comes first exactly when its distance is below the distance of the
older one *cut to as many digits* (`text_lt_text_iff`).  Distances with equally many
digits pass this test, and those of fifteen digits are the distances of all timestamps
up to `lastAligned`; the record one millisecond later already comes behind the one
before it (`not_newestFirst_of_lt`).
-/

namespace StreamStore

open Text

/-- Of two records of a stream the newer one has the smaller key, as long as no timestamp
exceeds `limit`. -/
def NewestFirstUpTo (limit : Nat) : Prop :=
  ∀ (s n₁ n₂ : String) (t₁ t₂ : Nat), t₁ < t₂ → t₂ ≤ limit →
    ∃ k₁ k₂, RowKey.encode s t₁ n₁ = .ok k₁ ∧ RowKey.encode s t₂ n₂ = .ok k₂ ∧
      bytesOf k₂.text < bytesOf k₁.text

/-! ### Two keys of a stream -/

section

variable {s n₁ n₂ : String} {t₁ t₂ : Nat} {k₁ k₂ : RowKey}

/-- Keys of different times are ordered as the distances of their timestamps are
written, whatever nodes follow. -/
theorem text_lt_text_iff_writtenLe (h₁ : RowKey.encode s t₁ n₁ = .ok k₁)
    (h₂ : RowKey.encode s t₂ n₂ = .ok k₂) (hne : t₁ ≠ t₂) :
    bytesOf k₂.text < bytesOf k₁.text ↔ WrittenLe (maxTimestamp - t₂) (maxTimestamp - t₁) := by
  obtain ⟨ht₁, -⟩ := RowKey.encode_eq_ok_iff.1 h₁
  obtain ⟨ht₂, -⟩ := RowKey.encode_eq_ok_iff.1 h₂
  have hdistances : maxTimestamp - t₂ ≠ maxTimestamp - t₁ := by omega
  have hcolon : ¬(':' < ':') := by decide
  refine bytesOf_lt_iff.trans ?_
  show k₂.text.toList < k₁.text.toList ↔ _
  rw [toList_text_of_encode h₁, toList_text_of_encode h₂, append_lt_append_iff,
    List.cons_lt_cons_iff]
  simp only [hcolon, false_or, true_and]
  exact closed_lt_iff hdistances (fun _ => digit_lt_colon) (fun _ => digit_lt_colon) _ _

/-- The key of the newer record is the smaller one exactly when its distance is below
that of the older record, cut to as many digits. -/
theorem text_lt_text_iff (h₁ : RowKey.encode s t₁ n₁ = .ok k₁)
    (h₂ : RowKey.encode s t₂ n₂ = .ok k₂) (hlt : t₁ < t₂) :
    bytesOf k₂.text < bytesOf k₁.text ↔
      maxTimestamp - t₂ <
        (maxTimestamp - t₁) / 10 ^ (width (maxTimestamp - t₁) - width (maxTimestamp - t₂)) := by
  obtain ⟨ht₂, -⟩ := RowKey.encode_eq_ok_iff.1 h₂
  have hdistances : maxTimestamp - t₂ < maxTimestamp - t₁ := by omega
  rw [text_lt_text_iff_writtenLe h₁ h₂ (Nat.ne_of_lt hlt), writtenLe_iff_of_lt hdistances]

end

/-! ### How far the order reaches -/

theorem newestFirst_of_le {limit : Nat} (h : limit ≤ lastAligned) : NewestFirstUpTo limit := by
  intro s n₁ n₂ t₁ t₂ hlt ht₂
  have hmax : lastAligned ≤ maxTimestamp := by decide
  have h₁ := RowKey.encode_eq_ok (s := s) (n := n₁) (show t₁ ≤ maxTimestamp by omega)
  have h₂ := RowKey.encode_eq_ok (s := s) (n := n₂) (show t₂ ≤ maxTimestamp by omega)
  have hwidth : width (maxTimestamp - t₂) = width (maxTimestamp - t₁) := by
    rw [width_distance (show t₂ ≤ lastAligned by omega),
      width_distance (show t₁ ≤ lastAligned by omega)]
  refine ⟨_, _, h₁, h₂, ?_⟩
  rw [text_lt_text_iff_writtenLe h₁ h₂ (Nat.ne_of_lt hlt), writtenLe_of_width_eq hwidth]
  omega

/-- The distance of the first timestamp after `lastAligned` has fourteen digits, all of
them nines, and that of `lastAligned` is a one with fourteen zeros. -/
theorem not_newestFirst_of_lt {limit : Nat} (h : lastAligned < limit) :
    ¬NewestFirstUpTo limit := by
  intro hfirst
  obtain ⟨k₁, k₂, h₁, h₂, hlt⟩ :=
    hfirst "7" "" "" lastAligned (lastAligned + 1) (Nat.lt_succ_self _) h
  rw [text_lt_text_iff h₁ h₂ (Nat.lt_succ_self _)] at hlt
  exact absurd hlt (by decide)

/-! ### Main result -/

/-- **Which of two records comes first.**  The newer record of a stream has the smaller
key exactly when its distance from the largest timestamp is below that of the older one,
cut to as many digits, whatever the nodes are.  All keys up to a limit run from the
newest record to the oldest exactly when the limit does not exceed `lastAligned`. -/
theorem newer_key_first_iff (limit : Nat) :
    (∀ (s n₁ n₂ : String) (t₁ t₂ : Nat), t₁ < t₂ → t₂ ≤ maxTimestamp →
      ∃ k₁ k₂, RowKey.encode s t₁ n₁ = .ok k₁ ∧ RowKey.encode s t₂ n₂ = .ok k₂ ∧
        (bytesOf k₂.text < bytesOf k₁.text ↔
          maxTimestamp - t₂ < (maxTimestamp - t₁) /
            10 ^ (width (maxTimestamp - t₁) - width (maxTimestamp - t₂)))) ∧
      (NewestFirstUpTo limit ↔ limit ≤ lastAligned) := by
  constructor
  · intro s n₁ n₂ t₁ t₂ hlt ht₂
    have h₁ := RowKey.encode_eq_ok (s := s) (n := n₁) (Nat.le_of_lt (Nat.lt_of_lt_of_le hlt ht₂))
    have h₂ := RowKey.encode_eq_ok (s := s) (n := n₂) ht₂
    exact ⟨_, _, h₁, h₂, text_lt_text_iff h₁ h₂ hlt⟩
  · constructor
    · intro hfirst
      exact Nat.not_lt.1 fun hlt => not_newestFirst_of_lt hlt hfirst
    · exact newestFirst_of_le

/-- A record of the year 2023 comes before one of the first second of all, whatever their
nodes are called. -/
theorem newer_key_first_of_years :
    ∃ k₁ k₂, RowKey.encode "42" 1000 "a" = .ok k₁ ∧
      RowKey.encode "42" 1700000000000 "z" = .ok k₂ ∧ bytesOf k₂.text < bytesOf k₁.text := by
  obtain ⟨hkeys, -⟩ := newer_key_first_iff 1700000000000
  obtain ⟨k₁, k₂, h₁, h₂, hiff⟩ :=
    hkeys "42" "a" "z" 1000 1700000000000 (by decide) (by decide)
  exact ⟨k₁, k₂, h₁, h₂, hiff.2 (by decide)⟩

/-- At the largest timestamps the older record comes first: the distance 10 is written
before the distance 9. -/
theorem newer_key_comes_last :
    ∃ k₁ k₂, RowKey.encode "7" 922337203685490 "node" = .ok k₁ ∧
      RowKey.encode "7" 922337203685491 "node" = .ok k₂ ∧
      ¬bytesOf k₂.text < bytesOf k₁.text ∧ bytesOf k₁.text < bytesOf k₂.text := by
  have h₁ := RowKey.encode_eq_ok (s := "7") (t := 922337203685490) (n := "node") (by decide)
  have h₂ := RowKey.encode_eq_ok (s := "7") (t := 922337203685491) (n := "node") (by decide)
  refine ⟨_, _, h₁, h₂, ?_, ?_⟩
  · rw [text_lt_text_iff h₁ h₂ (by decide)]
    decide
  · rw [text_lt_text_iff_writtenLe h₂ h₁ (by decide)]
    decide

end StreamStore
