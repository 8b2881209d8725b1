import StreamStore.Proofs.KeyRange

/-!
# The keys with a common beginning

The keys that begin with a text stand together in the order of bytes: they are the
keys from the text itself up to, and without, the text with its last character replaced
by the next one (`covers_successor_iff`).  The increment is one of code points, and the
order of bytes is the order of code points, so nothing special happens where the next
character has a longer encoding.

There is a next character unless the last one stands right before the surrogates or is
the last one of all (`succChar?_eq_none_iff`).  `endKey` computes the border when there
is one and the text has three characters (`HasBorder`), and otherwise says which of the
two is missing.
-/

namespace StreamStore

/-! ### The next character -/

theorem succChar?_eq_none_iff {c : Char} :
    succChar? c = none ↔ c.toNat = 0xD7FF ∨ c.toNat = 0x10FFFF := by
  have hnone : succChar? c = none ↔ ¬(c.toNat + 1).isValidChar := by
    by_cases hvalid : (c.toNat + 1).isValidChar
    · rw [succChar?, dif_pos hvalid]
      exact iff_of_false (Option.some_ne_none _) (not_not_intro hvalid)
    · rw [succChar?, dif_neg hvalid]
      exact iff_of_true rfl hvalid
  have hchar : c.toNat.isValidChar := c.valid
  rw [hnone]
  unfold Nat.isValidChar at hchar ⊢
  omega

/-! ### Keys between a text and its successor -/

/-- Between a text and the text with its last character replaced by the next one stand
the keys that begin with the text. -/
theorem covers_successor_iff {start stop key : String} {cs : List Char} {c d : Char}
    (hstart : start.toList = cs ++ [c]) (hstop : stop.toList = cs ++ [d])
    (hsucc : d.toNat = c.toNat + 1) :
    RowRange.Covers ⟨start, stop⟩ key ↔ ∃ rest, key = start ++ rest := by
  rw [RowRange.covers_iff]
  dsimp only
  rw [hstart, hstop]
  constructor
  · rintro ⟨hlow, hhigh⟩
    rcases Text.between_successor hsucc hlow hhigh with ⟨r, hkey, -⟩ | ⟨r, -, hr⟩
    · refine ⟨String.ofList r, String.toList_inj.1 ?_⟩
      rw [hkey, String.toList_append, hstart, String.toList_ofList, List.append_assoc,
        List.singleton_append]
    -- nothing stands before the successor and begins with it
    · exact absurd hr (List.not_lt_nil r)
  · rintro ⟨rest, rfl⟩
    have hcd : c < d := by
      show c.toNat < d.toNat
      omega
    rw [String.toList_append, hstart]
    constructor
    · have hself : ¬cs ++ [c] ++ rest.toList < cs ++ [c] ++ [] := by
        rw [Text.append_lt_append_iff]
        exact List.not_lt_nil _
      rwa [List.append_nil] at hself
    · rw [List.append_assoc, Text.append_lt_append_iff]
      exact List.cons_lt_cons_iff.2 (.inl hcd)

/-! ### The border of a beginning -/

/-- Whether the keys with a beginning have a border: it has three characters, and the
number after the code point of the last one is the code point of a character. -/
def HasBorder (start : String) : Prop :=
  3 ≤ start.length ∧ ∃ c, start.toList.getLast? = some c ∧ (c.toNat + 1).isValidChar

theorem endKey_of_short {start : String} (h : start.length < 3) :
    endKey start = .error (.tooShort start) := by
  rw [endKey, String.length_toList]
  exact if_pos h

/-- With three characters it is the last one that decides. -/
theorem endKey_of_successor {start : String} {c d : Char} (hlen : 3 ≤ start.length)
    (hlast : start.toList.getLast? = some c) (hd : succChar? c = some d) :
    endKey start = .ok (String.ofList (start.toList.dropLast ++ [d])) := by
  have hlong : ¬start.toList.length < 3 := by
    rw [String.length_toList]
    omega
  simp only [endKey, if_neg hlong, hlast, hd]

theorem endKey_of_no_successor {start : String} {c : Char} (hlen : 3 ≤ start.length)
    (hlast : start.toList.getLast? = some c) (hnone : succChar? c = none) :
    endKey start = .error (.noSuccessor start) := by
  have hlong : ¬start.toList.length < 3 := by
    rw [String.length_toList]
    omega
  simp only [endKey, if_neg hlong, hlast, hnone]

/-- The keys that begin with a text are those up to its border. -/
theorem endKey_of_hasBorder {start : String} (h : HasBorder start) :
    ∃ stop, endKey start = .ok stop ∧
      ∀ key, RowRange.Covers ⟨start, stop⟩ key ↔ ∃ rest, key = start ++ rest := by
  obtain ⟨hlen, c, hlast, hvalid⟩ := h
  obtain ⟨d, hd⟩ : ∃ d, succChar? c = some d := ⟨_, dif_pos hvalid⟩
  obtain ⟨cs, hcs⟩ := List.getLast?_eq_some_iff.1 hlast
  refine ⟨String.ofList (cs ++ [d]), ?_, ?_⟩
  · rw [endKey_of_successor hlen hlast hd, hcs, List.dropLast_concat]
  · intro key
    exact covers_successor_iff hcs String.toList_ofList (succChar?_eq_some_iff.1 hd)

/-- A text without a border is too short, or its last character has no successor. -/
theorem endKey_of_not_hasBorder {start : String} (h : ¬HasBorder start) :
    start.length < 3 ∧ endKey start = .error (.tooShort start) ∨
      3 ≤ start.length ∧ endKey start = .error (.noSuccessor start) ∧
        ∃ c, start.toList.getLast? = some c ∧ (c.toNat = 0xD7FF ∨ c.toNat = 0x10FFFF) := by
  rcases Nat.lt_or_ge start.length 3 with hshort | hlen
  · exact .inl ⟨hshort, endKey_of_short hshort⟩
  · have hne : start.toList ≠ [] := by
      intro hnil
      rw [← String.length_toList, hnil] at hlen
      exact absurd hlen (by decide)
    obtain ⟨c, hlast⟩ : ∃ c, start.toList.getLast? = some c :=
      ⟨_, List.getLast?_eq_some_getLast hne⟩
    have hnone : succChar? c = none := dif_neg fun hvalid => h ⟨hlen, c, hlast, hvalid⟩
    exact .inr ⟨hlen, endKey_of_no_successor hlen hlast hnone, c, hlast,
      succChar?_eq_none_iff.1 hnone⟩

/-! ### Main result -/

/-- **The border of a beginning is exact.**  A text of three characters whose last one
has a successor gets a border, and a key lies between the two, in the order of bytes,
exactly when it begins with the text.  Any other text is refused: it is too short, or its
last character stands before the surrogates or is the last of all. -/
theorem endKey_bounds_beginning (start : String) :
    (HasBorder start →
      ∃ stop, endKey start = .ok stop ∧
        ∀ key, RowRange.Covers ⟨start, stop⟩ key ↔ ∃ rest, key = start ++ rest) ∧
    (¬HasBorder start →
      ∃ fault, endKey start = .error fault ∧ (AccessError.request fault).code = "HBA-001" ∧
        (start.length < 3 ∧ fault = .tooShort start ∨
          3 ≤ start.length ∧ fault = .noSuccessor start ∧
            ∃ c, start.toList.getLast? = some c ∧ (c.toNat = 0xD7FF ∨ c.toNat = 0x10FFFF))) := by
  refine ⟨endKey_of_hasBorder, fun h => ?_⟩
  rcases endKey_of_not_hasBorder h with ⟨hshort, hkey⟩ | ⟨hlong, hkey, hlast⟩
  · exact ⟨_, hkey, rfl, .inl ⟨hshort, rfl⟩⟩
  · exact ⟨_, hkey, rfl, .inr ⟨hlong, rfl, hlast⟩⟩

/-- The last character of three bytes gives way to the first one of four; the last one
before the surrogates gives way to nothing. -/
theorem endKey_bounds_longer_encoding :
    (HasBorder "ab\uffff" ∧ ∃ stop, endKey "ab\uffff" = .ok stop ∧
      RowRange.Covers ⟨"ab\uffff", stop⟩ "ab\uffffz" ∧
      ¬RowRange.Covers ⟨"ab\uffff", stop⟩ "ab𐀀") ∧
    ¬HasBorder "ab\ud7ff" ∧ ∃ fault, endKey "ab\ud7ff" = .error fault := by
  have hborder : HasBorder "ab\uffff" := ⟨by decide, '\uffff', by decide, by decide⟩
  have hnone : ¬HasBorder "ab\ud7ff" := by
    rintro ⟨-, c, hlast, hvalid⟩
    obtain rfl : '\ud7ff' = c := Option.some.inj hlast
    exact absurd hvalid (by decide)
  obtain ⟨stop, hstop, hcovers⟩ := (endKey_bounds_beginning "ab\uffff").1 hborder
  obtain ⟨fault, hfault, -⟩ := (endKey_bounds_beginning "ab\ud7ff").2 hnone
  refine ⟨⟨hborder, stop, hstop, (hcovers _).2 ⟨"z", by decide⟩, ?_⟩, hnone, fault, hfault⟩
  rw [hcovers]
  rintro ⟨rest, hrest⟩
  have hthird : "ab𐀀".toList[2]? = ("ab\uffff" ++ rest).toList[2]? := by rw [← hrest]
  rw [String.toList_append] at hthird
  exact absurd hthird (by simp)

end StreamStore
