import Mathlib.Tactic.SplitIfs
import StreamStore.Proofs.Base64

/-!
# Every identifier has one spelling

`StreamStore.Proofs.Base64` reads back what was written.  This module goes the other way:
whatever the reader accepts is what the writer would have written, character by character.
So the two are inverse to each other, and a text is refused exactly when it is no spelling:

* six bits determine their character (`charOf_of_valueOf?`);
* each of the three shapes of a group is written again as it was read, because the bits
  that the last character of a padded group has to spare are zero (`encodeBytes_decodeBytes`);
* bytes that read as a text are the bytes of that text (`Text.bytesOf_of_textOf?`).
-/

namespace StreamStore

/-- Bytes that read as a text are the bytes of that text. -/
theorem Text.bytesOf_of_textOf? {bytes : List UInt8} {s : String} (h : textOf? bytes = some s) :
    bytesOf s = bytes := by
  unfold textOf? String.fromUTF8? at h
  split at h
  · next hvalid =>
      have hs : s.toByteArray = bytes.toByteArray := by
        rw [← Option.some.inj h]
        rfl
      rw [bytesOf, String.toUTF8, hs, toList_eq_data, List.toList_data_toByteArray]
  · cases h

theorem Text.textOf?_eq_some_iff {bytes : List UInt8} {s : String} :
    textOf? bytes = some s ↔ bytes = bytesOf s :=
  ⟨fun h => (bytesOf_of_textOf? h).symm, fun h => h ▸ textOf?_bytesOf s⟩

theorem Text.textOf?_eq_none_iff {bytes : List UInt8} :
    textOf? bytes = none ↔ ∀ s, bytes ≠ bytesOf s := by
  rw [Option.eq_none_iff_forall_ne_some]
  exact forall_congr' fun s => not_congr textOf?_eq_some_iff

namespace Base64

/-! ### Groups of six bits -/

/-- A character of the alphabet stands for six bits, and no other character stands for them. -/
theorem charOf_of_valueOf? {c : Char} {n : Nat} (h : valueOf? c = some n) :
    n < 64 ∧ charOf n = c := by
  have hback : ∀ m, m = c.toNat → Char.ofNat m = c := fun m hm => hm ▸ Char.ofNat_toNat c
  unfold valueOf? at h
  split_ifs at h with hupper hlower hdigit hplus hslash <;> cases h
  · have hlow : 65 ≤ c.toNat := hupper.1
    have hhigh : c.toNat ≤ 90 := hupper.2
    have hA : 'A'.toNat = 65 := rfl
    refine ⟨by omega, ?_⟩
    rw [charOf, if_pos (by omega)]
    exact hback _ (by omega)
  · have hlow : 97 ≤ c.toNat := hlower.1
    have hhigh : c.toNat ≤ 122 := hlower.2
    have ha : 'a'.toNat = 97 := rfl
    refine ⟨by omega, ?_⟩
    rw [charOf, if_neg (by omega), if_pos (by omega)]
    exact hback _ (by omega)
  · have hlow : 48 ≤ c.toNat := hdigit.1
    have hhigh : c.toNat ≤ 57 := hdigit.2
    have h0 : '0'.toNat = 48 := rfl
    refine ⟨by omega, ?_⟩
    rw [charOf, if_neg (by omega), if_neg (by omega), if_pos (by omega)]
    exact hback _ (by omega)
  · exact ⟨by decide, hplus.symm⟩
  · exact ⟨by decide, hslash.symm⟩

/-! ### Groups of characters -/

theorem toNat_byte {n : Nat} (h : n < 256) : (UInt8.ofNat n).toNat = n :=
  UInt8.toNat_ofNat_of_lt' h

/-- One byte put together from two sixes is written as these, if the second has four bits to
spare and they are zero. -/
theorem encodeBytes_single {a b : Nat} (ha : a < 64) (hb : b < 64) (hspare : b % 16 = 0) :
    encodeBytes [UInt8.ofNat (a * 4 + b / 16)] = [charOf a, charOf b, '=', '='] := by
  have hfirst : (a * 4 + b / 16) / 4 = a := by omega
  have hsecond : (a * 4 + b / 16) % 4 * 16 = b := by omega
  rw [encodeBytes, toNat_byte (by omega), hfirst, hsecond]

/-- Two bytes put together from three sixes are written as these, if the third has two bits
to spare and they are zero. -/
theorem encodeBytes_pair {a b c : Nat} (ha : a < 64) (hb : b < 64) (hc : c < 64)
    (hspare : c % 4 = 0) :
    encodeBytes [UInt8.ofNat (a * 4 + b / 16), UInt8.ofNat (b % 16 * 16 + c / 4)] =
      [charOf a, charOf b, charOf c, '='] := by
  have hfirst : (a * 4 + b / 16) / 4 = a := by omega
  have hsecond : (a * 4 + b / 16) % 4 * 16 + (b % 16 * 16 + c / 4) / 16 = b := by omega
  have hthird : (b % 16 * 16 + c / 4) % 16 * 4 = c := by omega
  rw [encodeBytes, toNat_byte (by omega), toNat_byte (by omega), hfirst, hsecond, hthird]

/-- Three bytes put together from four sixes are written as these. -/
theorem encodeBytes_triple {a b c d : Nat} (ha : a < 64) (hb : b < 64) (hc : c < 64) (hd : d < 64)
    (rest : List UInt8) :
    encodeBytes (UInt8.ofNat (a * 4 + b / 16) :: UInt8.ofNat (b % 16 * 16 + c / 4)
        :: UInt8.ofNat (c % 4 * 64 + d) :: rest) =
      charOf a :: charOf b :: charOf c :: charOf d :: encodeBytes rest := by
  have hfirst : (a * 4 + b / 16) / 4 = a := by omega
  have hsecond : (a * 4 + b / 16) % 4 * 16 + (b % 16 * 16 + c / 4) / 16 = b := by omega
  have hthird : (b % 16 * 16 + c / 4) % 16 * 4 + (c % 4 * 64 + d) / 64 = c := by omega
  have hfourth : (c % 4 * 64 + d) % 64 = d := by omega
  rw [encodeBytes, toNat_byte (by omega), toNat_byte (by omega), toNat_byte (by omega), hfirst,
    hsecond, hthird, hfourth]

/-- What the reader accepts is what the writer writes. -/
theorem encodeBytes_of_decodeBytes {cs : List Char} {bytes : List UInt8}
    (h : decodeBytes cs = some bytes) : encodeBytes bytes = cs := by
  fun_induction decodeBytes cs generalizing bytes with
  | case1 =>
      cases h
      rfl
  | case2 w x =>
      simp only [Option.bind_eq_bind, Option.bind_eq_some_iff] at h
      obtain ⟨a, ha, b, hb, h⟩ := h
      obtain ⟨ha64, rfl⟩ := charOf_of_valueOf? ha
      obtain ⟨hb64, rfl⟩ := charOf_of_valueOf? hb
      split at h
      · next hspare =>
          cases h
          exact encodeBytes_single ha64 hb64 hspare
      · cases h
  | case3 w x y =>
      simp only [Option.bind_eq_bind, Option.bind_eq_some_iff] at h
      obtain ⟨a, ha, b, hb, c, hc, h⟩ := h
      obtain ⟨ha64, rfl⟩ := charOf_of_valueOf? ha
      obtain ⟨hb64, rfl⟩ := charOf_of_valueOf? hb
      obtain ⟨hc64, rfl⟩ := charOf_of_valueOf? hc
      split at h
      · next hspare =>
          cases h
          exact encodeBytes_pair ha64 hb64 hc64 hspare
      · cases h
  | case4 w x y z rest _ _ ih =>
      simp only [Option.bind_eq_bind, Option.bind_eq_some_iff] at h
      obtain ⟨a, ha, b, hb, c, hc, d, hd, more, hmore, h⟩ := h
      obtain ⟨ha64, rfl⟩ := charOf_of_valueOf? ha
      obtain ⟨hb64, rfl⟩ := charOf_of_valueOf? hb
      obtain ⟨hc64, rfl⟩ := charOf_of_valueOf? hc
      obtain ⟨hd64, rfl⟩ := charOf_of_valueOf? hd
      cases h
      rw [encodeBytes_triple ha64 hb64 hc64 hd64, ih hmore]
  | case5 => cases h

/-- Reading and writing of groups are inverse to each other. -/
theorem decodeBytes_eq_some_iff {cs : List Char} {bytes : List UInt8} :
    decodeBytes cs = some bytes ↔ cs = encodeBytes bytes :=
  ⟨fun h => (encodeBytes_of_decodeBytes h).symm, fun h => h ▸ decodeBytes_encodeBytes bytes⟩

theorem decodeBytes_eq_none_iff {cs : List Char} :
    decodeBytes cs = none ↔ ∀ bytes, cs ≠ encodeBytes bytes := by
  rw [Option.eq_none_iff_forall_ne_some]
  exact forall_congr' fun bytes => not_congr decodeBytes_eq_some_iff

/-! ### Texts -/

variable {x : String}

theorem decode_of_form (h : ∀ bytes, x.toList ≠ encodeBytes bytes) : decode x = .error .form := by
  rw [decode, decodeBytes_eq_none_iff.2 h]

theorem decode_of_bytes {bytes : List UInt8} (h : x.toList = encodeBytes bytes)
    (hbytes : ∀ s, bytes ≠ Text.bytesOf s) : decode x = .error .bytes := by
  rw [decode, decodeBytes_eq_some_iff.2 h]
  dsimp only
  rw [Text.textOf?_eq_none_iff.2 hbytes]

/-- A text is a spelling, or no bytes are written so, or bytes that are no text. -/
theorem spelling_cases (x : String) :
    (∃ s, x = encode s) ∨ (∀ bytes, x.toList ≠ encodeBytes bytes) ∨
      ∃ bytes, x.toList = encodeBytes bytes ∧ ∀ s, bytes ≠ Text.bytesOf s := by
  by_cases hform : ∃ bytes, x.toList = encodeBytes bytes
  · obtain ⟨bytes, hx⟩ := hform
    by_cases htext : ∃ s, bytes = Text.bytesOf s
    · obtain ⟨s, rfl⟩ := htext
      refine .inl ⟨s, String.toList_inj.1 ?_⟩
      rw [hx, encode, String.toList_ofList]
    · exact .inr (.inr ⟨bytes, hx, fun s hs => htext ⟨s, hs⟩⟩)
  · exact .inr (.inl fun bytes hx => hform ⟨bytes, hx⟩)

end Base64

theorem decodeIdentifier_of_form {x : String} (h : ∀ bytes, x.toList ≠ Base64.encodeBytes bytes) :
    decodeIdentifier x = .error (.base64 x) := by
  rw [decodeIdentifier, Base64.decode_of_form h]

theorem decodeIdentifier_of_bytes {x : String} {bytes : List UInt8}
    (hx : x.toList = Base64.encodeBytes bytes) (h : ∀ s, bytes ≠ Text.bytesOf s) :
    decodeIdentifier x = .error (.utf8 x) := by
  rw [decodeIdentifier, Base64.decode_of_bytes hx h]

/-! ### Main result -/

/-- **Identifiers have one spelling.**  A text is read as an identifier exactly when it is the
spelling of that identifier.  Any other text is refused, and the refusal quotes it: as no
base64 form exactly when no bytes are written so, and as ill-formed UTF-8 exactly when the
bytes that are written so are those of no text. -/
theorem identifier_spelled_once (x : String) :
    (∀ s, decodeIdentifier x = .ok s ↔ x = Base64.encode s) ∧
    (decodeIdentifier x = .error (.base64 x) ↔
      ∀ bytes, x.toList ≠ Base64.encodeBytes bytes) ∧
    (decodeIdentifier x = .error (.utf8 x) ↔
      ∃ bytes, x.toList = Base64.encodeBytes bytes ∧ ∀ s, bytes ≠ Text.bytesOf s) := by
  -- each of the three cases has its own answer, and there is no fourth
  have hok : ∀ s, x = Base64.encode s → decodeIdentifier x = .ok s :=
    fun s hs => hs ▸ decodeIdentifier_encode s
  refine ⟨fun s => ⟨fun h => ?_, hok s⟩, ⟨fun h => ?_, decodeIdentifier_of_form⟩,
    ⟨fun h => ?_, fun ⟨bytes, hx, hbytes⟩ => decodeIdentifier_of_bytes hx hbytes⟩⟩ <;>
  rcases Base64.spelling_cases x with ⟨t, ht⟩ | hform | ⟨bytes, hx, hbytes⟩
  · rw [hok t ht] at h
    exact Except.ok.inj h ▸ ht
  · rw [decodeIdentifier_of_form hform] at h
    cases h
  · rw [decodeIdentifier_of_bytes hx hbytes] at h
    cases h
  · rw [hok t ht] at h
    cases h
  · exact hform
  · rw [decodeIdentifier_of_bytes hx hbytes] at h
    cases h
  · rw [hok t ht] at h
    cases h
  · rw [decodeIdentifier_of_form hform] at h
    cases h
  · exact ⟨bytes, hx, hbytes⟩

/-- The spelling of `a` with a bit set that the second character has to spare. -/
example : decodeIdentifier "YQ==" = .ok "a" ∧
    decodeIdentifier "YR==" = .error (.base64 "YR==") := ⟨rfl, rfl⟩

end StreamStore
