import StreamStore.Proofs.KeyCodec
import StreamStore.Proofs.NumberText

/-!
# Limits at the front of texts

A limit that comes as text is a number at its front: blanks, a plus sign or none, and
digits; what follows is ignored (`Text.Leads`).  Which of the digits at the front are
counted makes no difference to whether there is a limit.  To what it is, all of them
count (`limitOf_of_leads`), and a number beyond the words means the largest word.
-/

namespace StreamStore

namespace Text

/-- Whether digits stand at the front of a text, behind blanks and a plus sign or none, and
in front of a rest, which may go on with digits. -/
structure Leads (text : String) (digits rest : List Char) : Prop where
  parts : ∃ blanks sign, text.toList = blanks ++ (sign ++ (digits ++ rest)) ∧
    (∀ c ∈ blanks, isBlank c = true) ∧ (sign = [] ∨ sign = ['+'])
  ne_nil : digits ≠ []
  digit : ∀ c ∈ digits, c.isDigit = true

theorem isBlank_of_isDigit {c : Char} (h : c.isDigit = true) : isBlank c = false := by
  have hbounds := digit_bounds h
  simp only [isBlank, Bool.or_eq_false_iff, Bool.and_eq_false_iff, decide_eq_false_iff_not,
    beq_eq_false_iff_ne]
  omega

theorem dropLeading_of_head {c : Char} {cs : List Char} (h : isBlank c = false) :
    dropLeading (c :: cs) = c :: cs := by
  rw [dropLeading_cons, h]
  rfl

/-- Behind the blanks and the sign stand the digits. -/
theorem Leads.withoutPlus_dropLeading {text : String} {digits rest : List Char}
    (h : Leads text digits rest) : withoutPlus (dropLeading text.toList) = digits ++ rest := by
  obtain ⟨⟨blanks, sign, htext, hblanks, hsign⟩, hne, hdigits⟩ := h
  obtain ⟨d, ds, rfl⟩ := List.exists_cons_of_ne_nil hne
  have hd : d.isDigit = true := hdigits d List.mem_cons_self
  rw [htext, dropLeading, List.dropWhile_append_of_pos hblanks, ← dropLeading]
  rcases hsign with rfl | rfl
  · have hplus : d ≠ '+' := by
      rintro rfl
      exact absurd hd (by decide)
    rw [List.nil_append, List.cons_append, dropLeading_of_head (isBlank_of_isDigit hd), withoutPlus]
    rintro cs ⟨⟩
    exact hplus rfl
  · rw [List.singleton_append, dropLeading_of_head (by decide)]
    rfl

end Text

open Text

variable {text : String}

/-- The limit of a text is the number of all digits at its front. -/
theorem limitOf_of_leads {digits rest : List Char} (h : Leads text digits rest) :
    limitOf text =
      some (min (Nat.ofDigitChars 10 (digits ++ rest.takeWhile Char.isDigit) 0)
        18446744073709551615) := by
  have hfront : (withoutPlus (dropLeading text.toList)).takeWhile Char.isDigit =
      digits ++ rest.takeWhile Char.isDigit := by
    rw [h.withoutPlus_dropLeading, List.takeWhile_append_of_pos h.digit]
  have hne : (digits ++ rest.takeWhile Char.isDigit).isEmpty = false :=
    List.isEmpty_eq_false_iff.2 (List.append_ne_nil_of_left_ne_nil h.ne_nil _)
  rw [limitOf, hfront, hne, if_neg Bool.false_ne_true, valueOf, valueFrom_eq_ofDigitChars]
  rfl

/-- Digits that no digit follows are all that are counted. -/
theorem limitOf_of_leads_all {digits rest : List Char} (h : Leads text digits rest)
    (hrest : ∀ c ∈ rest.head?, c.isDigit = false) :
    limitOf text = some (min (Nat.ofDigitChars 10 digits 0) 18446744073709551615) := by
  have hcut : Json.Parser.digits ([] ++ rest) = ([], rest) :=
    Json.Parser.digits_append nofun hrest
  have hnone : rest.takeWhile Char.isDigit = [] := congrArg Prod.fst hcut
  rw [limitOf_of_leads h, hnone, List.append_nil]

/-- A text that has a limit has digits at its front, and a last one among them. -/
theorem exists_leads (h : limitOf text ≠ none) :
    ∃ digits rest, Leads text digits rest ∧ ∀ c ∈ rest.head?, c.isDigit = false := by
  let behind := withoutPlus (dropLeading text.toList)
  refine ⟨behind.takeWhile Char.isDigit, behind.dropWhile Char.isDigit, ⟨?_, ?_, ?_⟩, ?_⟩
  · have hblanks : text.toList = text.toList.takeWhile isBlank ++ dropLeading text.toList :=
      List.takeWhile_append_dropWhile.symm
    have hall : ∀ c ∈ text.toList.takeWhile isBlank, isBlank c = true :=
      fun c hc => List.mem_takeWhile_imp hc
    rw [List.takeWhile_append_dropWhile]
    rcases eq_withoutPlus_or (dropLeading text.toList) with hsign | hsign
    · exact ⟨_, [], hblanks.trans (congrArg _ hsign), hall, .inl rfl⟩
    · exact ⟨_, ['+'], hblanks.trans (congrArg _ hsign), hall, .inr rfl⟩
  · intro hnone
    apply h
    rw [limitOf]
    exact if_pos (List.isEmpty_iff.2 hnone)
  · exact fun c hc => List.mem_takeWhile_imp hc
  · intro c hc
    have hhead := List.head?_dropWhile_not Char.isDigit behind
    rw [Option.mem_def.1 hc] at hhead
    simpa using hhead

/-- A text that begins with a number has that number as its limit. -/
theorem leads_toString (n : Nat) (rest : String) :
    Leads (toString n ++ rest) (Nat.toDigits 10 n) rest.toList where
  parts := by
    refine ⟨[], [], ?_, nofun, .inl rfl⟩
    rw [String.toList_append, Nat.toString_eq_ofList_toDigits, String.toList_ofList]
    rfl
  ne_nil := Nat.toDigits_ne_nil
  digit := isDigit_of_mem

/-- Zeros in front of digits do not count. -/
theorem ofDigitChars_zeros_append (zeros : Nat) (digits : List Char) :
    Nat.ofDigitChars 10 (List.replicate zeros '0' ++ digits) 0 = Nat.ofDigitChars 10 digits 0 := by
  rw [← valueFrom_eq_ofDigitChars, ← valueFrom_eq_ofDigitChars]
  exact valueOf_zeros_append zeros digits

/-- Blanks, a plus sign and zeros in front of a digit change no limit. -/
theorem limitOf_pad {blanks sign : String} (zeros : Nat) (hblanks : isBlankText blanks = true)
    (hsign : sign = "" ∨ sign = "+") (hdigit : ∃ d ∈ text.toList.head?, d.isDigit = true) :
    limitOf (blanks ++ sign ++ String.ofList (List.replicate zeros '0') ++ text) = limitOf text := by
  obtain ⟨d, hhead, hd⟩ := hdigit
  obtain ⟨rest, htext⟩ := List.head?_eq_some_iff.1 hhead
  have hbare : Leads text [d] rest :=
    ⟨⟨[], [], htext, nofun, .inl rfl⟩, List.cons_ne_nil d [], List.forall_mem_singleton.2 hd⟩
  have hpadded : Leads (blanks ++ sign ++ String.ofList (List.replicate zeros '0') ++ text)
      (List.replicate zeros '0' ++ [d]) rest := by
    refine ⟨⟨blanks.toList, sign.toList, ?_, List.all_eq_true.1 hblanks, ?_⟩, by simp, ?_⟩
    · simp [htext]
    · rcases hsign with rfl | rfl
      · exact .inl rfl
      · exact .inr rfl
    · intro c hc
      rcases List.mem_append.1 hc with hzero | hlast
      · rw [(List.mem_replicate.1 hzero).2]
        rfl
      · rwa [List.mem_singleton.1 hlast]
  rw [limitOf_of_leads hpadded, limitOf_of_leads hbare, List.append_assoc,
    ofDigitChars_zeros_append]

/-- **A limit is read by its grammar.**  A text has a limit exactly when blanks, a plus sign
or none and at least one digit stand at its front.  The limit is the number of the digits
that stand there, up to one that is no digit, and the largest word if they spell more.  So a
word in decimal is read as that word, whatever follows that is no digit; blanks, a plus sign
and zeros in front of it change nothing; and no limit makes a page ask for more than 200 cells
for each column. -/
theorem limit_grammar (text : String) :
    ((limitOf text).isSome = true ↔ ∃ digits rest, Leads text digits rest) ∧
    (∀ limit, limitOf text = some limit ↔
      ∃ digits rest, Leads text digits rest ∧ (∀ c ∈ rest.head?, c.isDigit = false) ∧
        limit = min (Nat.ofDigitChars 10 digits 0) 18446744073709551615) ∧
    (∀ n, n < 18446744073709551616 → (∀ c ∈ text.toList.head?, c.isDigit = false) →
      limitOf (toString n ++ text) = some n) ∧
    (∀ blanks sign zeros, isBlankText blanks = true → (sign = "" ∨ sign = "+") →
      (∃ d ∈ text.toList.head?, d.isDigit = true) →
        limitOf (blanks ++ sign ++ String.ofList (List.replicate zeros '0') ++ text) =
          limitOf text) ∧
    ∀ columns, batchSize (limitOf text) columns ≤ 200 * columns := by
  refine ⟨⟨fun h => ?_, ?_⟩, fun limit => ⟨fun h => ?_, ?_⟩, fun n hn htext => ?_,
    fun blanks sign zeros => limitOf_pad zeros, fun columns => batchSize_le _ columns⟩
  · obtain ⟨digits, rest, hleads, -⟩ := exists_leads (Option.isSome_iff_ne_none.1 h)
    exact ⟨digits, rest, hleads⟩
  · rintro ⟨digits, rest, hleads⟩
    rw [limitOf_of_leads hleads]
    rfl
  · obtain ⟨digits, rest, hleads, hrest⟩ := exists_leads (h ▸ Option.some_ne_none limit)
    rw [limitOf_of_leads_all hleads hrest] at h
    exact ⟨digits, rest, hleads, hrest, (Option.some.inj h).symm⟩
  · rintro ⟨digits, rest, hleads, hrest, rfl⟩
    exact limitOf_of_leads_all hleads hrest
  · rw [limitOf_of_leads_all (leads_toString n text) htext, Nat.ofDigitChars_ten_toDigits,
      Nat.min_eq_left (Nat.le_of_lt_succ hn)]

/-- The number beyond the words means the largest word, behind an ideographic space and a sign
and in front of other letters. -/
theorem limit_of_large_text :
    limitOf "\u3000+0018446744073709551616rows" = some 18446744073709551615 ∧
      limitOf ("\u3000" ++ "+" ++ String.ofList (List.replicate 30 '0') ++ "7") = limitOf "7" := by
  have hlarge : Leads "\u3000+0018446744073709551616rows" "0018446744073709551616".toList
      "rows".toList :=
    ⟨⟨['\u3000'], ['+'], rfl, List.forall_mem_singleton.2 rfl, .inr rfl⟩,
      List.cons_ne_nil '0' _, List.all_eq_true.1 rfl⟩
  have hrest : ∀ c ∈ "rows".toList.head?, c.isDigit = false := by
    rintro c ⟨⟩
    rfl
  exact ⟨((limit_grammar "\u3000+0018446744073709551616rows").2.1 _).2 ⟨_, _, hlarge, hrest, rfl⟩,
    (limit_grammar "7").2.2.2.1 "\u3000" "+" 30 rfl (.inr rfl) ⟨'7', rfl, rfl⟩⟩

end StreamStore
