import StreamStore.Proofs.ByteOrder
import StreamStore.RecordType

/-!
# Base64 identifiers read back

The form of a text in base64 is read back as that text.  Both directions work on
groups of three bytes and four characters, so there is one statement for each
shape of a group: the six bits of a character come back (`valueOf?_charOf`), and
bytes cut into sixes and put together again are the same bytes.
-/

namespace StreamStore

namespace Base64

/-- Six bits come back from their character. -/
theorem valueOf?_charOf {n : Nat} (h : n < 64) : valueOf? (charOf n) = some n := by
  have all : ∀ m : Fin 64, valueOf? (charOf m.val) = some m.val := by decide
  exact all ⟨n, h⟩

/-- The padding character stands for no six bits. -/
theorem charOf_ne_padding {n : Nat} (h : n < 64) : charOf n ≠ '=' := by
  intro heq
  have hvalue := valueOf?_charOf h
  rw [heq] at hvalue
  cases hvalue

/-- A group whose last character is not padding has three bytes. -/
theorem decodeBytes_group {w x y z : Nat} (hw : w < 64) (hx : x < 64) (hy : y < 64) (hz : z < 64)
    (rest : List Char) :
    decodeBytes (charOf w :: charOf x :: charOf y :: charOf z :: rest) =
      (decodeBytes rest).map fun bytes => UInt8.ofNat (w * 4 + x / 16)
        :: UInt8.ofNat (x % 16 * 16 + y / 4) :: UInt8.ofNat (y % 4 * 64 + z) :: bytes := by
  have hpad := charOf_ne_padding hz
  rw [decodeBytes, valueOf?_charOf hw, valueOf?_charOf hx, valueOf?_charOf hy, valueOf?_charOf hz]
  · cases decodeBytes rest <;> rfl
  · intro _ h
    exact absurd h hpad
  · intro h
    exact absurd h hpad

/-- The first byte of a group, from its first two sixes. -/
theorem first_of_sixes (a : Nat) {b : Nat} (hb : b < 256) :
    a / 4 * 4 + (a % 4 * 16 + b / 16) / 16 = a := by
  omega

theorem decodeBytes_encodeBytes (bytes : List UInt8) :
    decodeBytes (encodeBytes bytes) = some bytes := by
  fun_induction encodeBytes bytes with
  | case1 => rfl
  | case2 a =>
      have ha : a.toNat < 256 := a.toNat_lt
      have hbits : a.toNat / 4 * 4 + a.toNat % 4 * 16 / 16 = a.toNat := by omega
      have hspare : a.toNat % 4 * 16 % 16 = 0 := by omega
      rw [decodeBytes, valueOf?_charOf (by omega), valueOf?_charOf (by omega)]
      show (if a.toNat % 4 * 16 % 16 = 0 then some [UInt8.ofNat _] else none) = _
      rw [if_pos hspare, hbits, UInt8.ofNat_toNat]
  | case3 a b =>
      have ha : a.toNat < 256 := a.toNat_lt
      have hb : b.toNat < 256 := b.toNat_lt
      have hsecond : (a.toNat % 4 * 16 + b.toNat / 16) % 16 * 16 + b.toNat % 16 * 4 / 4 =
          b.toNat := by omega
      have hspare : b.toNat % 16 * 4 % 4 = 0 := by omega
      rw [decodeBytes, valueOf?_charOf (by omega), valueOf?_charOf (by omega),
        valueOf?_charOf (by omega)]
      · show (if b.toNat % 16 * 4 % 4 = 0 then some [UInt8.ofNat _, UInt8.ofNat _] else none) = _
        rw [if_pos hspare, first_of_sixes _ hb, hsecond, UInt8.ofNat_toNat, UInt8.ofNat_toNat]
      · exact charOf_ne_padding (by omega)
  | case4 a b c rest ih =>
      have ha : a.toNat < 256 := a.toNat_lt
      have hb : b.toNat < 256 := b.toNat_lt
      have hc : c.toNat < 256 := c.toNat_lt
      have hsecond : (a.toNat % 4 * 16 + b.toNat / 16) % 16 * 16 +
          (b.toNat % 16 * 4 + c.toNat / 64) / 4 = b.toNat := by omega
      have hthird : (b.toNat % 16 * 4 + c.toNat / 64) % 4 * 64 + c.toNat % 64 = c.toNat := by omega
      rw [decodeBytes_group (by omega) (by omega) (by omega) (by omega), ih, Option.map_some,
        first_of_sixes _ hb, hsecond, hthird, UInt8.ofNat_toNat, UInt8.ofNat_toNat,
        UInt8.ofNat_toNat]

/-- **A text reads back** from its base64 form. -/
theorem decode_encode (s : String) : decode (encode s) = .ok s := by
  rw [decode, encode, String.toList_ofList, decodeBytes_encodeBytes]
  dsimp only
  rw [Text.textOf?_bytesOf]

end Base64

theorem decodeIdentifier_encode (s : String) : decodeIdentifier (Base64.encode s) = .ok s := by
  rw [decodeIdentifier, Base64.decode_encode]

end StreamStore
