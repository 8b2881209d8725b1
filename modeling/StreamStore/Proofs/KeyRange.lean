import StreamStore.Proofs.ByteOrder
import StreamStore.Proofs.Decimal
import StreamStore.Proofs.Outcome
import StreamStore.RowKey

/-!
# Keys between two bounds

A scan covers the keys from a first one up to, and without, a last one, in the
order of their bytes (`RowRange.Covers`).  This module turns such a comparison of
whole keys into comparisons of the parts that keys are made of:

* what two texts have in common at their beginning does not count
  (`append_lt_append_iff`), and a key between two bounds with a common beginning
  has that beginning as well (`beginning_of_between`);
* between a text and the same text with its last character replaced by the next
  one there is nothing but continuations of the two (`between_successor`);
* a text without separators that begins a key begins the key's stream id
  (`beginning_of_stream`).

The two bounds of a time range are computed apart from each other, by `firstRow`
and `stopRow`, and are given as lists of characters for each of the cases
(`firstRow_some` and so on), so nothing after this module opens `rangeOf`.
-/

namespace StreamStore

/-! ### The order of lists of characters -/

namespace Text

/-- A common beginning does not count. -/
theorem append_lt_append_iff (start u w : List Char) : start ++ u < start ++ w ↔ u < w := by
  induction start with
  | nil => exact Iff.rfl
  | cons c cs ih =>
      have hirr : ¬c < c := Nat.lt_irrefl _
      rw [List.cons_append, List.cons_append, List.cons_lt_cons_iff, ih]
      exact ⟨fun h => (h.resolve_left hirr).2, fun h => .inr ⟨rfl, h⟩⟩

/-- What lies between two texts with a common beginning has that beginning. -/
theorem beginning_of_between {start u w k : List Char} (hlow : ¬k < start ++ u)
    (hhigh : k < start ++ w) : ∃ r, k = start ++ r := by
  induction start generalizing k with
  | nil => exact ⟨k, rfl⟩
  | cons c cs ih =>
      cases k with
      | nil => exact absurd (List.nil_lt_cons c (cs ++ u)) hlow
      | cons d ds =>
          rw [List.cons_append, List.cons_lt_cons_iff, not_or] at hlow
          rw [List.cons_append, List.cons_lt_cons_iff] at hhigh
          obtain ⟨rfl, hrest⟩ := hhigh.resolve_left hlow.1
          obtain ⟨r, rfl⟩ := ih (fun h => hlow.2 ⟨rfl, h⟩) hrest
          exact ⟨r, rfl⟩

/-- Between a text and the same text with its last character replaced by the next
one there are only continuations of the two. -/
theorem between_successor {start u w k : List Char} {c d : Char} (hsucc : d.toNat = c.toNat + 1)
    (hlow : ¬k < start ++ c :: u) (hhigh : k < start ++ d :: w) :
    (∃ r, k = start ++ c :: r ∧ ¬r < u) ∨ ∃ r, k = start ++ d :: r ∧ r < w := by
  obtain ⟨r, rfl⟩ := beginning_of_between hlow hhigh
  rw [append_lt_append_iff] at hlow hhigh
  cases r with
  | nil => exact absurd (List.nil_lt_cons c u) hlow
  | cons e r =>
      rw [List.cons_lt_cons_iff, not_or] at hlow
      rcases List.cons_lt_cons_iff.1 hhigh with hed | ⟨rfl, hr⟩
      · have hce : c.toNat ≤ e.toNat := Nat.not_lt.1 hlow.1
        have hed' : e.toNat < d.toNat := hed
        obtain rfl : e = c := Char.toNat_inj.1 (by omega)
        exact .inl ⟨r, rfl, fun h => hlow.2 ⟨rfl, h⟩⟩
      · exact .inr ⟨r, rfl, hr⟩

end Text

/-! ### Keys and ranges -/

/-- Whether a key lies in a range, by the bytes of the texts. -/
def RowRange.Covers (range : RowRange) (key : String) : Prop :=
  Text.bytesOf range.first ≤ Text.bytesOf key ∧ Text.bytesOf key < Text.bytesOf range.stop

theorem RowRange.covers_iff {range : RowRange} {key : String} :
    range.Covers key ↔ ¬key.toList < range.first.toList ∧ key.toList < range.stop.toList :=
  and_congr (not_congr Text.bytesOf_lt_iff) Text.bytesOf_lt_iff

/-- The characters of a stored key. -/
theorem RowKey.toList_text (k : RowKey) : k.text.toList =
    k.streamId.toList ++ ':' :: (Nat.toDigits 10 k.reverse ++ ':' :: k.nodeId.toList) := by
  simp [RowKey.text, toString, Nat.toList_repr]

theorem toList_padStream (s : String) : (padStream s).toList =
    List.replicate (streamWidth - s.toList.length) '0' ++ s.toList :=
  String.toList_ofList

/-- Filling up an id adds no separator. -/
theorem separator_notMem_padStream {s : String} (h : separator ∉ s.toList) :
    ':' ∉ (padStream s).toList := by
  rw [toList_padStream, List.mem_append, List.mem_replicate]
  rintro (⟨-, hc⟩ | hc)
  · exact absurd hc (by decide)
  · exact h hc

theorem length_padStream (s : String) :
    (padStream s).toList.length = max streamWidth s.toList.length := by
  rw [toList_padStream, List.length_append, List.length_replicate]
  omega

/-- A text without separators that begins a key begins the key's stream id. -/
theorem beginning_of_stream {start r stream tail : List Char} (hstart : ':' ∉ start)
    (h : start ++ r = stream ++ ':' :: tail) :
    ∃ more, stream = start ++ more ∧ r = more ++ ':' :: tail := by
  rcases List.append_eq_append_iff.1 h with ⟨more, hstream, hr⟩ | ⟨more, hst, htail⟩
  · exact ⟨more, hstream, hr⟩
  · cases more with
    | nil => exact ⟨[], by simpa using hst.symm, by simpa using htail.symm⟩
    | cons c cs =>
        obtain ⟨rfl, -⟩ := List.cons.inj htail
        exact absurd (hst ▸ List.mem_append_right stream List.mem_cons_self) hstart

/-! ### Bounds -/

theorem succChar?_eq_some_iff {c d : Char} : succChar? c = some d ↔ d.toNat = c.toNat + 1 := by
  constructor
  · intro h
    by_cases hvalid : (c.toNat + 1).isValidChar
    · rw [succChar?, dif_pos hvalid] at h
      obtain rfl := Option.some.inj h
      rfl
    · rw [succChar?, dif_neg hvalid] at h
      cases h
  · intro h
    have hvalid : (c.toNat + 1).isValidChar := h ▸ d.valid
    rw [succChar?, dif_pos hvalid]
    exact congrArg some (Char.toNat_inj.1 h.symm)

/-- The last character of a beginning gives way to the next one. -/
theorem endKey_eq_ok {start stop : String} (h : endKey start = .ok stop) :
    ∃ (cs : List Char) (c d : Char), start.toList = cs ++ [c] ∧ d.toNat = c.toNat + 1 ∧
      stop.toList = cs ++ [d] := by
  simp only [endKey] at h
  split at h
  · cases h
  · split at h
    · cases h
    · next c hlast =>
        split at h
        · cases h
        · next d hsucc =>
            cases h
            refine ⟨start.toList.dropLast, c, d, ?_, succChar?_eq_some_iff.1 hsucc,
              String.toList_ofList⟩
            obtain ⟨init, hinit⟩ := List.getLast?_eq_some_iff.1 hlast
            rw [hinit, List.dropLast_concat]

theorem RowKey.encode_eq_ok_iff {s n : String} {t : Nat} {k : RowKey} :
    RowKey.encode s t n = .ok k ↔
      ∃ _ : t ≤ maxTimestamp, k = ⟨padStream s, maxTimestamp - t, n, Nat.sub_le ..⟩ := by
  by_cases h : t ≤ maxTimestamp
  · rw [RowKey.encode_eq_ok h]
    constructor
    · intro hk
      exact ⟨h, (Except.ok.inj hk).symm⟩
    · rintro ⟨_, rfl⟩
      rfl
  · rw [RowKey.encode, if_neg h]
    constructor
    · intro hk
      cases hk
    · rintro ⟨ht, -⟩
      exact absurd ht h

/-- The first key of a time range: the newest record with an empty node, or the
id of the stream with a wildcard. -/
def firstRow (s : String) : Option Nat → Except RequestFault String
  | some t => RowKey.text <$> RowKey.encode s t ""
  | none => pure ((padStream s).push wildcard)

/-- The key that ends a time range. -/
def stopRow (s : String) : Option Nat → Except RequestFault String
  | some t => RowKey.encode s t "" >>= fun k => endKey k.text
  | none => (·.push wildcard) <$> endKey (padStream s)

/-- The two bounds of a range are computed apart from each other. -/
theorem rangeOf_eq_ok_iff {s : String} {oldest newest : Option Nat} {range : RowRange} :
    rangeOf s oldest newest = .ok range ↔
      firstRow s newest = .ok range.first ∧ stopRow s oldest = .ok range.stop := by
  have h : rangeOf s oldest newest =
      (firstRow s newest >>= fun first => stopRow s oldest >>= fun stop => pure ⟨first, stop⟩) := by
    cases oldest <;> cases newest <;> rfl
  rw [h, bind_eq_ok]
  simp only [bind_eq_ok]
  constructor
  · rintro ⟨first, hfirst, stop, hstop, hrange⟩
    cases hrange
    exact ⟨hfirst, hstop⟩
  · rintro ⟨hfirst, hstop⟩
    exact ⟨_, hfirst, _, hstop, rfl⟩

/-- The text of a key of a stream is its id, a separator, and digits. -/
theorem toList_text_of_encode {s n : String} {t : Nat} {k : RowKey}
    (h : RowKey.encode s t n = .ok k) : k.text.toList =
      (padStream s).toList ++ ':' :: (Nat.toDigits 10 (maxTimestamp - t) ++ ':' :: n.toList) := by
  obtain ⟨-, rfl⟩ := RowKey.encode_eq_ok_iff.1 h
  exact RowKey.toList_text _

theorem firstRow_some {s : String} {t : Nat} {first : String}
    (h : firstRow s (some t) = .ok first) : first.toList =
      (padStream s).toList ++ ':' :: (Nat.toDigits 10 (maxTimestamp - t) ++ [':']) := by
  rw [firstRow, map_eq_ok] at h
  obtain ⟨k, hk, rfl⟩ := h
  rw [toList_text_of_encode hk, String.toList_empty]

theorem firstRow_none {s first : String} (h : firstRow s none = .ok first) :
    first.toList = (padStream s).toList ++ [wildcard] := by
  rw [firstRow] at h
  rw [← Except.ok.inj h]
  exact String.toList_push ..

/-- The separator at the end of a key gives way to the next character. -/
theorem stopRow_some {s : String} {t : Nat} {stop : String}
    (h : stopRow s (some t) = .ok stop) : stop.toList =
      (padStream s).toList ++ ':' :: (Nat.toDigits 10 (maxTimestamp - t) ++ [';']) := by
  rw [stopRow, bind_eq_ok] at h
  obtain ⟨k, hk, hstop⟩ := h
  obtain ⟨cs, c, d, hstart, hsucc, hend⟩ := endKey_eq_ok hstop
  have hkey : (padStream s).toList ++ ':' :: (Nat.toDigits 10 (maxTimestamp - t)) ++ [':'] =
      cs ++ [c] := by
    rw [← hstart, toList_text_of_encode hk]
    simp
  -- The key ends with a separator, so that is the character that is replaced.
  obtain ⟨rfl, hc⟩ := List.append_inj' hkey rfl
  obtain rfl : ':' = c := by simpa using hc
  obtain rfl : d = ';' := Char.toNat_inj.1 hsucc
  rw [hend]
  simp

/-- The last character of a stream id gives way to the next one. -/
theorem stopRow_none {s stop : String} (h : stopRow s none = .ok stop) :
    ∃ (cs : List Char) (c d : Char), (padStream s).toList = cs ++ [c] ∧ d.toNat = c.toNat + 1 ∧
      stop.toList = cs ++ [d, wildcard] := by
  rw [stopRow, map_eq_ok] at h
  obtain ⟨border, hborder, rfl⟩ := h
  obtain ⟨cs, c, d, hstart, hsucc, hend⟩ := endKey_eq_ok hborder
  refine ⟨cs, c, d, hstart, hsucc, ?_⟩
  rw [String.toList_push, hend, List.append_assoc, List.singleton_append]

end StreamStore
