import Mathlib.Algebra.Group.Nat.Defs
import Mathlib.Tactic.SplitIfs
import StreamStore.Text.Utf8

/-!
# The order of texts is the order of their bytes

Rows, qualifiers and values are compared as UTF-8 bytes by every store, while the
library compares texts by the code points of their characters.  This module
proves that the two orders are one (`bytesOf_lt_iff`), so the rest of the theory
can be about characters.

The reason is a property of single characters: of two different characters the
smaller one has the smaller encoding *whatever follows either of them*
(`encodeChar_append_lt`).  No encoding is a proper beginning of another one, so
a comparison is decided inside the first characters that differ.

`textOf?_bytesOf` is the other fact about bytes that the theory needs: the bytes
of a text read back as that text.
-/

namespace StreamStore.Text

/-! ### The bytes of a text -/

/-- The walk over an array of bytes collects what is behind the place it stands at. -/
theorem toList_loop_eq (bytes : ByteArray) (n i : Nat) (seen : List UInt8)
    (h : n + i = bytes.size) :
    ByteArray.toList.loop bytes i seen = seen.reverse ++ bytes.data.toList.drop i := by
  have hsize : bytes.data.toList.length = bytes.size := by
    rw [Array.length_toList]; rfl
  induction n generalizing i seen with
  | zero =>
      rw [ByteArray.toList.loop, if_neg (by omega),
        List.drop_of_length_le (by omega), List.append_nil]
  | succ n ih =>
      have hi : i < bytes.data.toList.length := by omega
      have hget : bytes.get! i = bytes.data.toList[i] := by
        rw [ByteArray.get!, Array.getElem_toList]
        exact getElem!_pos bytes.data i (by simpa using hi)
      rw [ByteArray.toList.loop, if_pos (by omega), ih _ _ (by omega), hget,
        List.drop_eq_getElem_cons hi, List.reverse_cons, List.append_assoc,
        List.singleton_append]

theorem toList_eq_data (bytes : ByteArray) : bytes.toList = bytes.data.toList := by
  have h := toList_loop_eq bytes bytes.size 0 [] (Nat.add_zero _)
  rwa [List.reverse_nil, List.nil_append, List.drop_zero] at h

/-- The bytes of a text are the encodings of its characters, one after the other. -/
theorem bytesOf_eq (s : String) : bytesOf s = s.toList.flatMap String.utf8EncodeChar := by
  have h : s.toByteArray = s.toList.utf8Encode := by
    conv => lhs; rw [← String.ofList_toList (s := s)]
    exact String.toByteArray_ofList
  rw [bytesOf, String.toUTF8, h, toList_eq_data, List.utf8Encode, List.toList_data_toByteArray]

/-- The bytes of a text read back as the text. -/
theorem textOf?_bytesOf (s : String) : textOf? (bytesOf s) = some s := by
  have h : (bytesOf s).toByteArray = s.toByteArray := by
    rw [bytesOf, toList_eq_data]
    exact ByteArray.ext (Array.ext' List.toList_data_toByteArray)
  rw [textOf?, h, String.fromUTF8?, dif_pos s.isValidUTF8]
  rfl

/-! ### Single characters -/

/-- The last `k` bytes of the encoding of a number that has more bytes than that:
six bits in each. -/
def trailing : Nat → Nat → List UInt8
  | 0, _ => []
  | k + 1, n => UInt8.ofNat (n / 64 ^ k % 64 + 128) :: trailing k n

/-- A list of bytes is smaller when its first byte is, whatever follows. -/
theorem byte_cons_lt {x y : Nat} (h : x < y) (hy : y < 256) (u w : List UInt8) :
    UInt8.ofNat x :: u < UInt8.ofNat y :: w := by
  refine List.cons_lt_cons_iff.2 (.inl ?_)
  rw [UInt8.lt_iff_toNat_lt, UInt8.toNat_ofNat', UInt8.toNat_ofNat']
  omega

/-- Numbers that agree above their last `k` groups of six bits are ordered as the
bytes of these groups are. -/
theorem trailing_append_lt {m n : Nat} (h : m < n) (u w : List UInt8) :
    ∀ k, m / 64 ^ k = n / 64 ^ k → trailing k m ++ u < trailing k n ++ w := by
  intro k
  induction k with
  | zero =>
      intro heq
      rw [Nat.pow_zero, Nat.div_one, Nat.div_one] at heq
      omega
  | succ k ih =>
      intro heq
      rw [trailing, trailing, List.cons_append, List.cons_append]
      rw [Nat.pow_succ, ← Nat.div_div_eq_div_mul, ← Nat.div_div_eq_div_mul] at heq
      have hle : m / 64 ^ k ≤ n / 64 ^ k := Nat.div_le_div_right (Nat.le_of_lt h)
      -- The first group of six bits decides, or the groups behind it do.
      by_cases hk : m / 64 ^ k = n / 64 ^ k
      · rw [hk]
        exact List.cons_lt_cons_iff.2 (.inr ⟨rfl, ih hk⟩)
      · exact byte_cons_lt (by omega) (by omega) _ _

/-- How many bytes follow the first one in the encoding of a code point. -/
def extraBytes (n : Nat) : Nat :=
  if n ≤ 127 then 0 else if n ≤ 2047 then 1 else if n ≤ 65535 then 2 else 3

/-- What the first byte carries above the bits of the code point. -/
def leadMark : Nat → Nat
  | 0 => 0
  | 1 => 192
  | 2 => 224
  | _ => 240

/-- The first byte of the encoding of a code point. -/
def leadByte (n : Nat) : Nat :=
  n / 64 ^ extraBytes n + leadMark (extraBytes n)

theorem codePoint_lt (c : Char) : c.val.toNat < 1114112 := by
  rcases c.valid with h | h
  · exact Nat.lt_trans h (by decide)
  · exact h.2

/-- An encoding is a first byte with a mark for its length, and six bits in each
further byte. -/
theorem encodeChar_eq (c : Char) : String.utf8EncodeChar c =
    UInt8.ofNat (leadByte c.val.toNat) :: trailing (extraBytes c.val.toNat) c.val.toNat := by
  have hn := codePoint_lt c
  simp only [String.utf8EncodeChar, leadByte, extraBytes]
  generalize c.val.toNat = n at hn
  -- The library masks the bits above the first group, which are zero here anyway.
  by_cases h₁ : n ≤ 127
  · simp [h₁, trailing, leadMark]
  by_cases h₂ : n ≤ 2047
  · have h : n / 64 % 32 = n / 64 := Nat.mod_eq_of_lt (by omega)
    simp [h₁, h₂, h, trailing, leadMark]
  by_cases h₃ : n ≤ 65535
  · have h : n / 4096 % 16 = n / 4096 := Nat.mod_eq_of_lt (by omega)
    simp [h₁, h₂, h₃, h, trailing, leadMark]
  · have h : n / 262144 % 8 = n / 262144 := Nat.mod_eq_of_lt (by omega)
    simp [h₁, h₂, h₃, h, trailing, leadMark]

/-- A longer encoding has a greater first byte. -/
theorem leadByte_lt {m n : Nat} (h : m < n) (hn : n < 1114112)
    (hlen : extraBytes m ≠ extraBytes n) : leadByte m < leadByte n := by
  revert hlen
  unfold leadByte extraBytes
  split_ifs <;> intro hlen <;> simp only [leadMark] <;> omega

theorem leadByte_lt_256 {n : Nat} (hn : n < 1114112) : leadByte n < 256 := by
  unfold leadByte extraBytes
  split_ifs <;> simp only [leadMark] <;> omega

/-- The smaller of two characters has the smaller encoding, whatever follows. -/
theorem encodeChar_append_lt {c d : Char} (h : c < d) (u w : List UInt8) :
    String.utf8EncodeChar c ++ u < String.utf8EncodeChar d ++ w := by
  have hcd : c.val.toNat < d.val.toNat := h
  have hd := codePoint_lt d
  rw [encodeChar_eq, encodeChar_eq, List.cons_append, List.cons_append]
  generalize c.val.toNat = m at hcd
  generalize d.val.toNat = n at hcd hd
  by_cases hlen : extraBytes m = extraBytes n
  · have hle : m / 64 ^ extraBytes n ≤ n / 64 ^ extraBytes n :=
      Nat.div_le_div_right (Nat.le_of_lt hcd)
    rcases Nat.lt_or_eq_of_le hle with hlt | heq
    · refine byte_cons_lt ?_ (leadByte_lt_256 hd) _ _
      rw [leadByte, leadByte, hlen]
      exact Nat.add_lt_add_right hlt _
    · rw [leadByte, leadByte, hlen, heq]
      exact List.cons_lt_cons_iff.2 (.inr ⟨rfl, trailing_append_lt hcd u w _ heq⟩)
  -- Of two lengths the greater code point has the longer one.
  · exact byte_cons_lt (leadByte_lt hcd hd hlen) (leadByte_lt_256 hd) _ _

/-! ### Texts -/

theorem flatMap_encodeChar_lt {cs ds : List Char} (h : cs < ds) :
    cs.flatMap String.utf8EncodeChar < ds.flatMap String.utf8EncodeChar := by
  induction cs generalizing ds with
  | nil =>
      cases ds with
      | nil => exact absurd h (List.lt_irrefl [])
      | cons d ds =>
          rw [List.flatMap_cons, encodeChar_eq, List.cons_append]
          exact List.nil_lt_cons _ _
  | cons c cs ih =>
      cases ds with
      | nil => exact absurd h (List.not_lt_nil _)
      | cons d ds =>
          rw [List.flatMap_cons, List.flatMap_cons]
          rcases List.cons_lt_cons_iff.1 h with hcd | ⟨rfl, hlt⟩
          · exact encodeChar_append_lt hcd _ _
          · exact List.append_left_lt (ih hlt)

/-- A text comes before another one exactly when its bytes do. -/
theorem bytesOf_lt_iff {s t : String} : bytesOf s < bytesOf t ↔ s < t := by
  have forward : ∀ {a b : String}, a < b → bytesOf a < bytesOf b := by
    intro a b h
    rw [bytesOf_eq, bytesOf_eq]
    exact flatMap_encodeChar_lt h
  constructor
  · intro h
    -- The order of texts is total, so the other two cases are refuted by `forward`.
    refine String.not_le.1 fun hle => ?_
    by_cases heq : t = s
    · exact List.lt_irrefl _ (heq ▸ h)
    · refine List.lt_asymm h (forward (String.not_le.1 fun hge => heq ?_))
      exact String.le_antisymm hle hge
  · exact forward

end StreamStore.Text
