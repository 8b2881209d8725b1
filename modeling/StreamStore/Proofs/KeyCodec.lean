import StreamStore.Proofs.KeyRange
import StreamStore.Proofs.TextPieces

/-!
# Which texts are keys

A text is read as a key exactly when it has two separators and what stands between the
first two is a number in range, in decimal (`Readable`, `parse_eq_ok_iff`).  The reader
is more liberal than the writer: it takes a plus sign and zeros in front of the number,
which the written form never has.  So a text that is read need not be the text of the key
that it is read as, but that text is read as the same key again (`parse_text_of_parse`).

Each step of the reader gets its inverse: cutting at a separator (`cutOnce_eq_some_iff`)
and reading a number (`wordOf_eq_some_iff`).  The limit of words plays no part in the
end, since the largest timestamp is a word.
-/

namespace StreamStore

/-! ### The steps of the reader -/

namespace Text

/-- Whether characters are a number in decimal: a plus sign or none, and then one or more
digits, which may begin with zeros. -/
def Numbers (cs : List Char) (n : Nat) : Prop :=
  ∃ digits, (cs = digits ∨ cs = '+' :: digits) ∧ digits ≠ [] ∧
    (∀ c ∈ digits, c.isDigit = true) ∧ Nat.ofDigitChars 10 digits 0 = n

theorem isNumeral_iff {cs : List Char} :
    isNumeral cs = true ↔ cs ≠ [] ∧ ∀ c ∈ cs, c.isDigit = true := by
  rw [isNumeral, Bool.and_eq_true, Bool.not_eq_true', List.isEmpty_eq_false_iff, List.all_eq_true]

/-- Digits have no sign to take away. -/
theorem withoutPlus_of_digits {cs : List Char} (h : ∀ c ∈ cs, c.isDigit = true) :
    withoutPlus cs = cs := by
  unfold withoutPlus
  split
  · exact absurd (h '+' List.mem_cons_self) (by decide)
  · rfl

theorem eq_withoutPlus_or (cs : List Char) :
    cs = withoutPlus cs ∨ cs = '+' :: withoutPlus cs := by
  unfold withoutPlus
  split
  · exact .inr rfl
  · exact .inl rfl

/-- A number that was written is that number in decimal. -/
theorem numbers_toDigits (n : Nat) : Numbers (Nat.toDigits 10 n) n :=
  ⟨_, .inl rfl, Nat.toDigits_ne_nil, isDigit_of_mem, Nat.ofDigitChars_ten_toDigits⟩

theorem separator_notMem_toDigits (n : Nat) : separator ∉ Nat.toDigits 10 n := by
  intro h
  exact absurd (digit_lt_colon (isDigit_of_mem separator h)) (Nat.lt_irrefl _)

/-- A word is a number in decimal below the limit of words. -/
theorem wordOf_eq_some_iff {cs : List Char} {n : Nat} :
    wordOf cs = some n ↔ Numbers cs n ∧ n < wordLimit := by
  have hread : wordOf cs = some n ↔ isNumeral (withoutPlus cs) = true ∧
      valueOf (withoutPlus cs) = n ∧ n < wordLimit := by
    rw [wordOf, Option.ite_none_right_eq_some, Bool.and_eq_true, decide_eq_true_iff,
      Option.some.injEq, and_assoc]
    refine and_congr_right fun _ => ?_
    constructor
    · rintro ⟨hlimit, rfl⟩
      exact ⟨rfl, hlimit⟩
    · rintro ⟨rfl, hlimit⟩
      exact ⟨hlimit, rfl⟩
  rw [hread, isNumeral_iff]
  constructor
  · rintro ⟨⟨hne, hdigits⟩, hvalue, hlimit⟩
    refine ⟨⟨withoutPlus cs, eq_withoutPlus_or cs, hne, hdigits, ?_⟩, hlimit⟩
    rw [← valueFrom_eq_ofDigitChars]
    exact hvalue
  · rintro ⟨⟨digits, hcs, hne, hdigits, hvalue⟩, hlimit⟩
    have hplus : withoutPlus cs = digits := by
      rcases hcs with rfl | rfl
      · exact withoutPlus_of_digits hdigits
      · rfl
    rw [hplus, valueOf, valueFrom_eq_ofDigitChars]
    exact ⟨⟨hne, hdigits⟩, hvalue, hlimit⟩

end Text

/-! ### Readable texts -/

/-- Whether a text has two separators, and between the first two a number that is no
larger than the largest timestamp. -/
def Readable (text : String) : Prop :=
  ∃ (stream middle node : List Char) (n : Nat),
    text.toList = stream ++ ':' :: (middle ++ ':' :: node) ∧ ':' ∉ stream ∧ ':' ∉ middle ∧
      Text.Numbers middle n ∧ n ≤ maxTimestamp

namespace RowKey

variable {text : String} {k : RowKey}

/-- Whether a text is a spelling of a key: the stream id of the key stands in front of the
first separator, its stored timestamp between the first two, and its node id behind them. -/
def Spells (text : String) (k : RowKey) : Prop :=
  ∃ middle : List Char,
    text.toList = k.streamId.toList ++ ':' :: (middle ++ ':' :: k.nodeId.toList) ∧
      ':' ∉ k.streamId.toList ∧ ':' ∉ middle ∧ Text.Numbers middle k.reverse

/-- A text is read as the key that it spells. -/
theorem parse_eq_ok_iff : parse text = .ok k ↔ Spells text k := by
  constructor
  · intro h
    unfold parse at h
    split at h
    · cases h
    · next stream rest hstream =>
        split at h
        · cases h
        · next middle node hmiddle =>
            split at h
            · cases h
            · next n hword =>
                split at h
                · cases h
                  obtain ⟨htext, hfirst⟩ := Text.cutOnce_eq_some_iff.1 hstream
                  obtain ⟨rfl, hsecond⟩ := Text.cutOnce_eq_some_iff.1 hmiddle
                  refine ⟨middle, ?_, ?_, hsecond, (Text.wordOf_eq_some_iff.1 hword).1⟩
                  · rw [String.toList_ofList, String.toList_ofList]
                    exact htext
                  · rw [String.toList_ofList]
                    exact hfirst
                · cases h
  · rintro ⟨middle, htext, hstream, hmiddle, hnumber⟩
    have hword : Text.wordOf middle = some k.reverse :=
      Text.wordOf_eq_some_iff.2 ⟨hnumber, Nat.lt_of_le_of_lt k.reverse_le (by decide)⟩
    have hfirst : Text.cutOnce separator text.toList =
        some (k.streamId.toList, middle ++ ':' :: k.nodeId.toList) :=
      Text.cutOnce_eq_some_iff.2 ⟨htext, hstream⟩
    have hsecond : Text.cutOnce separator (middle ++ ':' :: k.nodeId.toList) =
        some (middle, k.nodeId.toList) :=
      Text.cutOnce_eq_some_iff.2 ⟨rfl, hmiddle⟩
    rw [parse, hfirst]
    dsimp only
    rw [hsecond]
    dsimp only
    rw [hword]
    dsimp only
    rw [dif_pos k.reverse_le, String.ofList_toList, String.ofList_toList]

/-- The readable texts are the spellings of keys. -/
theorem exists_spells_iff : (∃ k, Spells text k) ↔ Readable text := by
  constructor
  · rintro ⟨k, middle, htext, hstream, hmiddle, hnumber⟩
    exact ⟨_, middle, _, k.reverse, htext, hstream, hmiddle, hnumber, k.reverse_le⟩
  · rintro ⟨stream, middle, node, n, htext, hstream, hmiddle, hnumber, hn⟩
    refine ⟨⟨String.ofList stream, n, String.ofList node, hn⟩, middle, ?_, ?_, hmiddle, hnumber⟩
    · rw [String.toList_ofList, String.toList_ofList]
      exact htext
    · rw [String.toList_ofList]
      exact hstream

/-- A key whose stream id has no separator reads back. -/
theorem parse_text (h : ':' ∉ k.streamId.toList) : parse k.text = .ok k :=
  parse_eq_ok_iff.2 ⟨_, toList_text k, h, Text.separator_notMem_toDigits k.reverse,
    Text.numbers_toDigits k.reverse⟩

/-- The text of a key that was read is read as that key. -/
theorem parse_text_of_parse (h : parse text = .ok k) : parse k.text = .ok k := by
  obtain ⟨_, -, hstream, -⟩ := parse_eq_ok_iff.1 h
  exact parse_text hstream

/-- The key of a record reads back. -/
theorem parse_text_of_encode {s n : String} {t : Nat} (hs : separator ∉ s.toList)
    (h : encode s t n = .ok k) : parse k.text = .ok k := by
  obtain ⟨-, rfl⟩ := encode_eq_ok_iff.1 h
  exact parse_text (separator_notMem_padStream hs)

end RowKey

/-! ### Main result -/

/-- **The codec of keys.**  The key of a record in a stream without separators reads back
from its text, with the record's timestamp and node.  A text is read as a key exactly when
it is readable; the key is the one that it spells, its timestamp is the distance of the
stored one from the largest, which it does not exceed, and its own text is read as the
same key. -/
theorem key_codec_exact :
    (∀ (s : String) (t : Nat) (n : String), separator ∉ s.toList → t ≤ maxTimestamp →
      ∃ k, RowKey.encode s t n = .ok k ∧ RowKey.parse k.text = .ok k ∧
        k.timestamp = t ∧ k.nodeId = n) ∧
    ∀ text : String,
      ((∃ k, RowKey.parse text = .ok k) ↔ Readable text) ∧
        ∀ k, RowKey.parse text = .ok k →
          RowKey.Spells text k ∧ k.timestamp + k.reverse = maxTimestamp ∧
            RowKey.parse k.text = .ok k := by
  constructor
  · intro s t n hs ht
    have hencode := RowKey.encode_eq_ok (s := s) (n := n) ht
    exact ⟨_, hencode, RowKey.parse_text_of_encode hs hencode,
      RowKey.timestamp_of_encode hencode, rfl⟩
  · intro text
    constructor
    · rw [← RowKey.exists_spells_iff]
      exact exists_congr fun k => RowKey.parse_eq_ok_iff
    · intro k hk
      have hdistance : k.timestamp + k.reverse = maxTimestamp := Nat.sub_add_cancel k.reverse_le
      exact ⟨RowKey.parse_eq_ok_iff.1 hk, hdistance, RowKey.parse_text_of_parse hk⟩

/-- A record whose node has a separator, and a key with a sign and zeros in front of its
number. -/
theorem key_codec_of_signed_text :
    (∃ k, RowKey.encode "7" 1000 "a:b" = .ok k ∧ RowKey.parse k.text = .ok k ∧
      k.timestamp = 1000 ∧ k.nodeId = "a:b") ∧
    Readable "7:+0010:a:b" ∧
      RowKey.parse "7:+0010:a:b" = .ok ⟨"7", 10, "a:b", by decide⟩ ∧
      RowKey.parse (RowKey.mk "7" 10 "a:b" (by decide)).text = .ok ⟨"7", 10, "a:b", by decide⟩ := by
  have hread : RowKey.parse "7:+0010:a:b" = .ok ⟨"7", 10, "a:b", by decide⟩ :=
    eq_ok_of_toOption (by decide +kernel)
  obtain ⟨hreadable, hkey⟩ := key_codec_exact.2 "7:+0010:a:b"
  exact ⟨key_codec_exact.1 "7" 1000 "a:b" (by decide) (by decide), hreadable.1 ⟨_, hread⟩, hread,
    (hkey _ hread).2.2⟩

end StreamStore
