import Mathlib.Data.List.Forall2
import Mathlib.Data.List.TakeWhile
import StreamStore.Constraint.Document

/-!
# Words of the constraint language

The language has words of two kinds.  `AND`, `OR` and `IN` may be written in any case:
each letter is the capital of the word or its small form, and no other character
becomes that capital (`toUpper_eq_iff`).  The operators may stand between blanks, and
the text between the blanks, which begins and ends with none, is determined by the
whole (`trim_eq_iff`).

So a key names a connective, and a text an operator, exactly when it is spelled as one
(`ofKey?_eq_some_iff`, `parse?_eq_some_iff`).
-/

namespace StreamStore

/-! ### Spellings -/

/-- A word of capitals, written in any case. -/
def SpelledAs (word text : String) : Prop :=
  List.Forall₂ (fun capital c => c = capital ∨ c = capital.toLower) word.toList text.toList

/-- Whether a word has capitals only. -/
def IsCapital (word : String) : Prop :=
  ∀ capital ∈ word.toList, 65 ≤ capital.toNat ∧ capital.toNat ≤ 90

instance (word : String) : Decidable (IsCapital word) :=
  List.decidableBAll _ word.toList

/-- The text of a list of characters, with blanks before and behind it. -/
def Padded (cs : List Char) (text : String) : Prop :=
  ∃ before after, text.toList = before ++ cs ++ after ∧
    (∀ c ∈ before, Text.isBlank c = true) ∧ ∀ c ∈ after, Text.isBlank c = true

/-- The word of a connective. -/
def Connective.word : Connective → String
  | all => "AND"
  | any => "OR"

/-- The symbol of a relation. -/
def Relation.symbol : Relation → String
  | less => "<"
  | lessOrEqual => "<="
  | greater => ">"
  | greaterOrEqual => ">="
  | equal => "="
  | notEqual => "!="

/-- The ways to write an operator: a symbol, or `IN` in any case, between blanks. -/
def Operator.NamedBy : Operator → String → Prop
  | relation r, text => Padded r.symbol.toList text
  | member, text => ∃ name, SpelledAs "IN" name ∧ Padded name.toList text

namespace Text

/-! ### Any case -/

theorem toNat_toUpper (c : Char) :
    c.toUpper.toNat = if 97 ≤ c.toNat ∧ c.toNat ≤ 122 then c.toNat - 32 else c.toNat := by
  have hsub : ('A'.val - 'a'.val).toNat = 4294967264 := by decide
  have hbounds : 'a'.val ≤ c.val ∧ c.val ≤ 'z'.val ↔ 97 ≤ c.toNat ∧ c.toNat ≤ 122 := Iff.rfl
  unfold Char.toUpper
  by_cases h : 97 ≤ c.toNat ∧ c.toNat ≤ 122
  · rw [dif_pos (hbounds.2 h), if_pos h]
    show (c.val + ('A'.val - 'a'.val)).toNat = c.val.toNat - 32
    have hc : c.val.toNat ≤ 122 ∧ 97 ≤ c.val.toNat := ⟨h.2, h.1⟩
    rw [UInt32.toNat_add, hsub]
    omega
  · rw [dif_neg (mt hbounds.1 h), if_neg h]

theorem toNat_toLower (c : Char) :
    c.toLower.toNat = if 65 ≤ c.toNat ∧ c.toNat ≤ 90 then c.toNat + 32 else c.toNat := by
  have hadd : ('a'.val - 'A'.val).toNat = 32 := by decide
  have hbounds : c.val ≥ 'A'.val ∧ c.val ≤ 'Z'.val ↔ 65 ≤ c.toNat ∧ c.toNat ≤ 90 := Iff.rfl
  unfold Char.toLower
  by_cases h : 65 ≤ c.toNat ∧ c.toNat ≤ 90
  · rw [dif_pos (hbounds.2 h), if_pos h]
    show (c.val + ('a'.val - 'A'.val)).toNat = c.val.toNat + 32
    have hc : c.val.toNat ≤ 90 := h.2
    rw [UInt32.toNat_add, hadd]
    omega
  · rw [dif_neg (mt hbounds.1 h), if_neg h]

/-- The characters that become a given capital. -/
theorem toUpper_eq_iff {capital c : Char} (h : 65 ≤ capital.toNat ∧ capital.toNat ≤ 90) :
    c.toUpper = capital ↔ c = capital ∨ c = capital.toLower := by
  rw [← Char.toNat_inj, ← Char.toNat_inj, ← Char.toNat_inj, toNat_toUpper, toNat_toLower, if_pos h]
  split <;> omega

theorem map_toUpper_eq_iff {word cs : List Char}
    (h : ∀ capital ∈ word, 65 ≤ capital.toNat ∧ capital.toNat ≤ 90) :
    cs.map Char.toUpper = word ↔
      List.Forall₂ (fun capital c => c = capital ∨ c = capital.toLower) word cs := by
  induction word generalizing cs with
  | nil => simp
  | cons capital word ih =>
      obtain ⟨hcapital, hword⟩ := List.forall_mem_cons.1 h
      cases cs with
      | nil => simp
      | cons c cs =>
          rw [List.map_cons, List.cons.injEq, List.forall₂_cons, toUpper_eq_iff hcapital, ih hword]

/-- The texts whose capitals are a word of capitals. -/
theorem capitals_eq_iff {word text : String} (h : IsCapital word) :
    capitals text = word ↔ SpelledAs word text := by
  rw [capitals, SpelledAs, ← map_toUpper_eq_iff h, ← String.toList_inj, String.toList_ofList]

/-- A word written in any case has no blanks. -/
theorem isBlank_of_spelledAs {word text : String} (h : IsCapital word)
    (htext : SpelledAs word text) : ∀ c ∈ text.toList, isBlank c = false := by
  intro c hc
  have hmem : c.toUpper ∈ word.toList := by
    rw [← (map_toUpper_eq_iff h).2 htext]
    exact List.mem_map_of_mem hc
  have hcapital := h _ hmem
  rw [toNat_toUpper] at hcapital
  have hletter : 65 ≤ c.toNat ∧ c.toNat ≤ 122 := by
    split at hcapital <;> omega
  simp only [isBlank, Bool.or_eq_false_iff, Bool.and_eq_false_iff, beq_eq_false_iff_ne,
    decide_eq_false_iff_not]
  omega

/-! ### Between blanks -/

theorem dropWhile_blanks {before cs : List Char} (hbefore : ∀ c ∈ before, isBlank c = true)
    (hcs : ∀ c, cs.head? = some c → isBlank c = false) :
    (before ++ cs).dropWhile isBlank = cs := by
  rw [List.dropWhile_append_of_pos hbefore]
  cases cs with
  | nil => rfl
  | cons c cs => rw [List.dropWhile_cons_of_neg (by simp [hcs c rfl])]

/-- Trimming a text leaves what stands between its blanks. -/
theorem trim_eq_iff {cs : List Char} (hne : cs ≠ []) (hcs : ∀ c ∈ cs, isBlank c = false)
    {text : String} : trim text = String.ofList cs ↔ Padded cs text := by
  have hchars : trim text = String.ofList cs ↔ dropTrailing (dropLeading text.toList) = cs := by
    rw [trim, ← String.toList_inj, String.toList_ofList, String.toList_ofList]
  rw [hchars, dropTrailing, dropLeading]
  constructor
  · intro h
    refine ⟨text.toList.takeWhile isBlank,
      ((text.toList.dropWhile isBlank).reverse.takeWhile isBlank).reverse, ?_, ?_, ?_⟩
    · rw [← h, List.append_assoc, ← List.reverse_append, List.takeWhile_append_dropWhile,
        List.reverse_reverse, List.takeWhile_append_dropWhile]
    · exact fun c hc => List.mem_takeWhile_imp hc
    · exact fun c hc => List.mem_takeWhile_imp (List.mem_reverse.1 hc)
  · rintro ⟨before, after, htext, hbefore, hafter⟩
    have hstart : ∀ c, (cs ++ after).head? = some c → isBlank c = false := by
      intro c hc
      rw [List.head?_append_of_ne_nil _ hne] at hc
      exact hcs c (List.mem_of_mem_head? hc)
    have hend : ∀ c, cs.reverse.head? = some c → isBlank c = false := by
      intro c hc
      rw [List.head?_reverse] at hc
      exact hcs c (List.mem_of_mem_getLast? hc)
    rw [htext, List.append_assoc, dropWhile_blanks hbefore hstart, List.reverse_append,
      dropWhile_blanks (fun c hc => hafter c (List.mem_reverse.1 hc)) hend, List.reverse_reverse]

end Text

/-! ### Connectives and operators -/

/-- A key names a connective exactly when it is its word in some case. -/
theorem Connective.ofKey?_eq_some_iff {key : String} {c : Connective} :
    ofKey? key = some c ↔ SpelledAs c.word key := by
  have hword : IsCapital c.word := by cases c <;> decide
  rw [ofKey?, ← Text.capitals_eq_iff hword]
  generalize Text.capitals key = name
  cases c with
  | all => by_cases h : name = "AND" <;> simp [h, word]
  | any =>
      by_cases h : name = "AND"
      · simp [h, word]
      · simp [h, word]

theorem Relation.trim_eq_symbol_iff (r : Relation) {text : String} :
    Text.trim text = r.symbol ↔ Padded r.symbol.toList text := by
  have hne : r.symbol.toList ≠ [] := by cases r <;> decide
  have hsolid : ∀ c ∈ r.symbol.toList, Text.isBlank c = false := by
    have hall : r.symbol.toList.all (fun c => !Text.isBlank c) = true := by cases r <;> decide
    intro c hc
    simpa using List.all_eq_true.1 hall c hc
  rw [← Text.trim_eq_iff hne hsolid, String.ofList_toList]

/-- Blanks aside, a text spells `IN` exactly when the text between the blanks does. -/
theorem Operator.member_namedBy_iff {text : String} :
    Operator.member.NamedBy text ↔ Text.capitals (Text.trim text) = "IN" := by
  have htrim : ∀ name, SpelledAs "IN" name →
      (Text.trim text = name ↔ Padded name.toList text) := by
    intro name hname
    have hletters := Text.isBlank_of_spelledAs (by decide) hname
    have hne : name.toList ≠ [] := by
      intro hnil
      rw [SpelledAs, hnil] at hname
      exact absurd (List.forall₂_nil_right_iff.1 hname) (by decide)
    rw [← Text.trim_eq_iff hne hletters, String.ofList_toList]
  rw [Text.capitals_eq_iff (by decide)]
  constructor
  · rintro ⟨name, hname, hpadded⟩
    rw [(htrim name hname).2 hpadded]
    exact hname
  · intro hname
    exact ⟨Text.trim text, hname, (htrim _ hname).1 rfl⟩

/-- A text is an operator exactly when it is written as one. -/
theorem Operator.parse?_eq_some_iff {text : String} {o : Operator} :
    parse? text = some o ↔ o.NamedBy text := by
  have hmember : Operator.member.NamedBy text ↔ Text.capitals (Text.trim text) = "IN" :=
    member_namedBy_iff
  have hrelation : ∀ r : Relation,
      (Operator.relation r).NamedBy text ↔ Text.trim text = r.symbol :=
    fun r => r.trim_eq_symbol_iff.symm
  rw [parse?]
  generalize Text.trim text = name at hmember hrelation ⊢
  cases o with
  | relation r =>
      rw [hrelation r]
      constructor
      · intro h
        repeat' split at h
        all_goals
          cases h
          try assumption
      · rintro rfl
        cases r <;> rfl
  | member =>
      rw [hmember]
      constructor
      · intro h
        repeat' split at h
        all_goals
          cases h
          try assumption
      -- no symbol has the capitals of the word
      · intro h
        have hother : ∀ symbol, Text.capitals symbol ≠ "IN" → name ≠ symbol := by
          rintro symbol hsymbol rfl
          exact hsymbol h
        simp only [if_neg (hother "<" (by decide)), if_neg (hother "<=" (by decide)),
          if_neg (hother ">" (by decide)), if_neg (hother ">=" (by decide)),
          if_neg (hother "=" (by decide)), if_neg (hother "!=" (by decide)), if_pos h]

end StreamStore
