import Mathlib.Tactic.SplitIfs
import StreamStore.Toml.Quoted

/-!
# A text reads back from its quotes

The writer chooses among four forms, and the reader recognises the form by the quotes that a
text starts with.  On one line the two directions meet character by character, which is said
beside the definitions.  Over several lines there is one thing more to see: quotes inside a
text stand there as they are, and the reader takes three of them for the end.  It looks two
quotes further, so up to two quotes at the end of a text are no trouble (`EndsAtThree`), and
inside a text there are never three in a row: the writer escapes the third one
(`escaped_escapes_lines`) or does not choose the form (`verbatimLines_append`).

All four forms together are `quoted_quote`: a text reads back, whatever follows it that does
not start with a quote.
-/

namespace StreamStore.Toml

variable {rest : List Char}

/-! ### Written characters -/

/-- No written form of a character starts with a quote, or with a line break unless the
character is one. -/
theorem head_escapeOf (lines : Bool) {c : Char} (h : c ≠ '"') :
    ∃ d tail, escapeOf lines c = d :: tail ∧ d ≠ '"' ∧ (d = '\n' → c = '\n') := by
  unfold escapeOf
  split_ifs with hslash htab hline hlines
  · exact ⟨_, _, rfl, by decide, nofun⟩
  · exact ⟨_, _, rfl, by decide, nofun⟩
  · exact ⟨_, _, rfl, by decide, fun _ => hline⟩
  · exact ⟨_, _, rfl, by decide, nofun⟩
  · exact ⟨_, _, rfl, by decide, nofun⟩
  · exact ⟨_, _, rfl, by decide, nofun⟩
  · exact ⟨_, _, rfl, by decide, nofun⟩
  · exact ⟨_, _, rfl, by decide, nofun⟩
  · exact ⟨_, _, rfl, h, id⟩

/-- A character that is not a quote, or a quote that has to be escaped, is not written with a
quote in front. -/
theorem head_escapes (lines : Bool) (run : Nat) {c : Char} (h : c ≠ '"' ∨ ¬(lines ∧ run < 2))
    (cs : List Char) : ∃ d tail, escapes lines run (c :: cs) = d :: tail ∧ d ≠ '"' := by
  by_cases hc : c = '"'
  · refine ⟨'\\', '"' :: escapes lines 0 cs, ?_, by decide⟩
    rw [escapes, if_pos hc, if_neg (h.resolve_left fun hne => hne hc)]
  · obtain ⟨d, tail, hd, hquote, -⟩ := head_escapeOf lines hc
    refine ⟨d, tail ++ escapes lines 0 cs, ?_, hquote⟩
    rw [escapes, if_neg hc, hd, List.cons_append]

theorem isPlain_or {c : Char} (h : isControl c = false) : isPlain c = true ∨ c = '\n' := by
  rw [isControl, Bool.and_eq_false_iff, Bool.not_eq_false', bne_eq_false_iff_eq] at h
  exact h

/-! ### Three quotes -/

/-- How a text over several lines is read, as far as its quotes are concerned. -/
structure EndsAtThree (q : Char) (read : List Char → Option (List Char × List Char)) : Prop where
  /-- Three to five quotes end a text; all but three of them belong to it. -/
  last : ∀ {n : Nat} {rest : List Char}, n ≤ 2 → rest.head? ≠ some q →
    read (List.replicate n q ++ q :: q :: q :: rest) = some (List.replicate n q, rest)
  /-- A quote that no two quotes follow belongs to the text. -/
  inner : ∀ {rest : List Char}, (∀ tail, rest ≠ q :: q :: tail) →
    read (q :: rest) = consTo q (read rest)

/-- A quote reads back in front of a text that does, if no two quotes stand at the front of the
text: it may be empty, it may be one quote, or another character comes first or second. -/
theorem EndsAtThree.quote_append {q : Char} {read : List Char → Option (List Char × List Char)}
    (h : EndsAtThree q read) (hrest : rest.head? ≠ some q) {written cs : List Char}
    (hread : read (written ++ q :: q :: q :: rest) = some (cs, rest))
    (hfront : ∀ tail, written ≠ q :: q :: tail) :
    read (q :: (written ++ q :: q :: q :: rest)) = some (q :: cs, rest) := by
  by_cases hshort : ∃ n ≤ 1, written = List.replicate n q
  · obtain ⟨n, hn, rfl⟩ := hshort
    rw [h.last (Nat.le_succ_of_le hn) hrest] at hread
    obtain rfl : List.replicate n q = cs := (Prod.mk.inj (Option.some.inj hread)).1
    exact h.last (n := n + 1) (Nat.succ_le_succ hn) hrest
  · rw [h.inner, hread, consTo_some]
    -- two quotes behind the first one would be the front of the text, or all of it
    intro tail htail
    rcases written with _ | ⟨c, _ | ⟨d, more⟩⟩
    · exact hshort ⟨0, Nat.zero_le 1, rfl⟩
    · exact hshort ⟨1, Nat.le_refl 1, congrArg ([·]) (List.cons.inj htail).1⟩
    · obtain ⟨rfl, hmore⟩ := List.cons.inj htail
      obtain ⟨rfl, -⟩ := List.cons.inj hmore
      exact hfront more rfl

/-! ### Several lines with escapes -/

/-- What a quote means shows in the quotes behind it. -/
theorem escaped_quote_eq (rest : List Char) : escaped true .between ('"' :: rest) =
    match rest with
    | '"' :: '"' :: '"' :: '"' :: rest => some (['"', '"'], rest)
    | '"' :: '"' :: '"' :: rest => some (['"'], rest)
    | '"' :: '"' :: rest => some ([], rest)
    | _ => consTo '"' (escaped true .between rest) := rfl

theorem endsAtThree_escaped : EndsAtThree '"' (escaped true .between) where
  last := by
    intro n rest hn hrest
    have hcases : n = 0 ∨ n = 1 ∨ n = 2 := by omega
    cases rest with
    | nil => rcases hcases with rfl | rfl | rfl <;> rfl
    | cons c rest =>
        have hc : c ≠ '"' := fun heq => hrest (congrArg some heq)
        rcases hcases with rfl | rfl | rfl
        · simp [escaped_quote_eq, hc]
        · simp [escaped_quote_eq, hc]
        · rfl
  inner := by
    intro rest h
    rw [escaped_quote_eq]
    split
    · exact absurd rfl (h _)
    · exact absurd rfl (h _)
    · exact absurd rfl (h _)
    · rfl

/-- The third quote in a row is written as an escape. -/
theorem front_escapes {run : Nat} (hrun : 1 ≤ run) (cs tail : List Char) :
    escapes true run cs ≠ '"' :: '"' :: tail := by
  intro heq
  cases cs with
  | nil => cases heq
  | cons c cs =>
      by_cases hc : c ≠ '"' ∨ ¬(true ∧ run < 2)
      · obtain ⟨d, more, hd, hquote⟩ := head_escapes true run hc cs
        rw [hd] at heq
        exact hquote (List.cons.inj heq).1
      · rw [not_or, Decidable.not_not, Decidable.not_not] at hc
        obtain ⟨rfl, -, hlt⟩ := hc
        rw [escapes, if_pos rfl, if_pos ⟨rfl, hlt⟩] at heq
        obtain rfl : run = 1 := by omega
        cases cs with
        | nil => cases heq
        | cons d cs =>
            obtain ⟨f, more, hf, hquote⟩ := head_escapes true 2 (c := d) (.inr (by decide)) cs
            rw [hf] at heq
            exact hquote (List.cons.inj (List.cons.inj heq).2).1

/-- A text over several lines reads back, also when `run` quotes stand before it. -/
theorem escaped_escapes_lines (hrest : rest.head? ≠ some '"') (cs : List Char) :
    ∀ run, escaped true .between (escapes true run cs ++ '"' :: '"' :: '"' :: rest) =
      some (cs, rest) := by
  induction cs with
  | nil => exact fun run => endsAtThree_escaped.last (n := 0) (by decide) hrest
  | cons c cs ih =>
      intro run
      by_cases hc : c = '"'
      · subst hc
        by_cases hrun : run < 2
        · rw [escapes, if_pos rfl, if_pos ⟨rfl, hrun⟩, List.cons_append]
          exact endsAtThree_escaped.quote_append hrest (ih (run + 1))
            (front_escapes (Nat.le_add_left 1 run) cs)
        · rw [escapes, if_pos rfl, if_neg fun h => hrun h.2, List.cons_append, List.cons_append]
          show consTo '"' (escaped true .between _) = _
          rw [ih 0, consTo_some]
      · rw [escapes, if_neg hc, List.append_assoc, escaped_escapeOf true hc, ih 0, consTo_some]

/-! ### Several lines without escapes -/

/-- What a quote means shows in the quotes behind it. -/
theorem verbatimLines_quote_eq (rest : List Char) : verbatimLines ('\'' :: rest) =
    match rest with
    | '\'' :: '\'' :: '\'' :: '\'' :: rest => some (['\'', '\''], rest)
    | '\'' :: '\'' :: '\'' :: rest => some (['\''], rest)
    | '\'' :: '\'' :: rest => some ([], rest)
    | _ => consTo '\'' (verbatimLines rest) := rfl

theorem endsAtThree_verbatimLines : EndsAtThree '\'' verbatimLines where
  last := by
    intro n rest hn hrest
    have hcases : n = 0 ∨ n = 1 ∨ n = 2 := by omega
    cases rest with
    | nil => rcases hcases with rfl | rfl | rfl <;> rfl
    | cons c rest =>
        have hc : c ≠ '\'' := fun heq => hrest (congrArg some heq)
        rcases hcases with rfl | rfl | rfl
        · simp [verbatimLines_quote_eq, hc]
        · simp [verbatimLines_quote_eq, hc]
        · rfl
  inner := by
    intro rest h
    rw [verbatimLines_quote_eq]
    split
    · exact absurd rfl (h _)
    · exact absurd rfl (h _)
    · exact absurd rfl (h _)
    · rfl

theorem verbatimLines_of_ne {c : Char} (hc : c ≠ '\'') (hplain : isPlain c = true ∨ c = '\n')
    (rest : List Char) : verbatimLines (c :: rest) = consTo c (verbatimLines rest) := by
  show (if c = '\'' then _ else if isPlain c = true ∨ c = '\n' then _ else none) = _
  rw [if_neg hc, if_pos hplain]

/-- Behind a quote no two quotes stand where there are no three in a row. -/
theorem front_of_runExceeds {run : Nat} {cs : List Char}
    (h : runExceeds '\'' 2 (run + 1) cs = false) (tail : List Char) :
    cs ≠ '\'' :: '\'' :: tail := by
  rintro rfl
  rw [runExceeds, if_pos rfl, Bool.or_eq_false_iff, runExceeds, if_pos rfl,
    Bool.or_eq_false_iff] at h
  exact absurd (Nat.le_add_left 2 run) (of_decide_eq_false h.2.1)

/-- A text over several lines without three quotes in a row reads back. -/
theorem verbatimLines_append (hrest : rest.head? ≠ some '\'') {cs : List Char}
    (hcs : ∀ c ∈ cs, isControl c = false) :
    ∀ run, runExceeds '\'' 2 run cs = false →
      verbatimLines (cs ++ '\'' :: '\'' :: '\'' :: rest) = some (cs, rest) := by
  induction cs with
  | nil => exact fun run _ => endsAtThree_verbatimLines.last (n := 0) (by decide) hrest
  | cons c cs ih =>
      intro run hrun
      have htail := ih fun d hd => hcs d (List.mem_cons_of_mem c hd)
      by_cases hc : c = '\''
      · subst hc
        rw [runExceeds, if_pos rfl, Bool.or_eq_false_iff] at hrun
        exact endsAtThree_verbatimLines.quote_append hrest (htail (run + 1) hrun.2)
          (front_of_runExceeds hrun.2)
      · have hplain : isPlain c = true ∨ c = '\n' := isPlain_or (hcs c List.mem_cons_self)
        rw [runExceeds, if_neg hc] at hrun
        rw [List.cons_append, verbatimLines_of_ne hc hplain, htail 0 hrun, consTo_some]

/-! ### All forms -/

/-- A text in double quotes on one line is recognised unless two more quotes follow. -/
theorem quoted_double (h : ∀ tail, rest ≠ '"' :: '"' :: tail) :
    quoted ('"' :: rest) = escaped false .between rest := by
  rw [quoted]
  exact fun tail htail => h tail htail

/-- A text in single quotes on one line is recognised unless two more quotes follow. -/
theorem quoted_single (h : ∀ tail, rest ≠ '\'' :: '\'' :: tail) :
    quoted ('\'' :: rest) = verbatim rest := by
  rw [quoted]
  exact fun tail htail => h tail htail

theorem quoted_escapedLine (hrest : rest.head? ≠ some '"') (cs : List Char) :
    quoted (escapedLine cs ++ rest) = some (cs, rest) := by
  have hbody : escapedLine cs ++ rest = '"' :: (escapes false 0 cs ++ '"' :: rest) := by
    simp [escapedLine]
  rw [hbody, quoted_double, escaped_escapes]
  cases cs with
  | nil =>
      rintro tail htail
      exact hrest (congrArg List.head? (List.cons.inj htail).2)
  | cons c cs =>
      obtain ⟨d, tail, hd, hquote⟩ := head_escapes false 0 (c := c) (.inr nofun) cs
      rw [hd]
      exact fun more hmore => hquote (List.cons.inj hmore).1

theorem quoted_verbatim (hrest : rest.head? ≠ some '\'') {cs : List Char}
    (hcs : ∀ c ∈ cs, isPlain c = true ∧ c ≠ '\'') :
    quoted ('\'' :: cs ++ ['\''] ++ rest) = some (cs, rest) := by
  have hbody : '\'' :: cs ++ ['\''] ++ rest = '\'' :: (cs ++ '\'' :: rest) := by simp
  rw [hbody, quoted_single, verbatim_append hcs]
  cases cs with
  | nil =>
      rintro tail htail
      exact hrest (congrArg List.head? (List.cons.inj htail).2)
  | cons c cs =>
      exact fun more hmore => (hcs c List.mem_cons_self).2 (List.cons.inj hmore).1

/-- The line break that is put in front of a text with line breaks does not count, and no
other text starts with one. -/
theorem withoutBreak_openingBreak {cs body : List Char}
    (h : ∀ tail, body = '\n' :: tail → '\n' ∈ cs) :
    withoutBreak (openingBreak cs ++ body) = body := by
  unfold openingBreak
  split
  · rfl
  · next hline =>
      rw [List.nil_append]
      unfold withoutBreak
      split
      · next tail =>
          have hmem := h tail rfl
          exact absurd (List.contains_iff_mem.2 hmem) hline
      · rfl

theorem quoted_escapedLines (hrest : rest.head? ≠ some '"') (cs : List Char) :
    quoted (escapedLines cs ++ rest) = some (cs, rest) := by
  have hbody : escapedLines cs ++ rest = '"' :: '"' :: '"' :: (openingBreak cs ++
      (escapes true 0 cs ++ '"' :: '"' :: '"' :: rest)) := by
    simp [escapedLines]
  rw [hbody, quoted, withoutBreak_openingBreak, escaped_escapes_lines hrest]
  intro tail htail
  cases cs with
  | nil => cases htail
  | cons c cs =>
      by_cases hc : c = '"'
      · rw [escapes, if_pos hc, if_pos ⟨rfl, by decide⟩] at htail
        cases htail
      · obtain ⟨d, more, hd, -, hline⟩ := head_escapeOf true hc
        rw [escapes, if_neg hc, hd] at htail
        rw [hline (List.cons.inj htail).1]
        exact List.mem_cons_self

theorem quoted_verbatimLines (hrest : rest.head? ≠ some '\'') {cs : List Char}
    (hcs : ∀ c ∈ cs, isControl c = false) (hrun : runExceeds '\'' 2 0 cs = false) :
    quoted ('\'' :: '\'' :: '\'' :: openingBreak cs ++ cs ++ ['\'', '\'', '\''] ++ rest) =
      some (cs, rest) := by
  have hbody : '\'' :: '\'' :: '\'' :: openingBreak cs ++ cs ++ ['\'', '\'', '\''] ++ rest =
      '\'' :: '\'' :: '\'' :: (openingBreak cs ++ (cs ++ '\'' :: '\'' :: '\'' :: rest)) := by
    simp
  rw [hbody, quoted, withoutBreak_openingBreak, verbatimLines_append hrest hcs 0 hrun]
  intro tail htail
  cases cs with
  | nil => cases htail
  | cons c cs =>
      rw [(List.cons.inj htail).1]
      exact List.mem_cons_self

/-- **A text reads back from its quotes**, in whichever form it was written. -/
theorem quoted_quote (cs : List Char) (hdouble : rest.head? ≠ some '"')
    (hsingle : rest.head? ≠ some '\'') : quoted (quote cs ++ rest) = some (cs, rest) := by
  unfold quote
  dsimp only
  split_ifs with hshown hverbatim hlines hboth hbreaks
  · exact quoted_escapedLine hdouble cs
  · simp only [Bool.and_eq_true, Bool.not_eq_true', List.any_eq_false, List.contains_eq_mem,
      decide_eq_false_iff_not] at hverbatim
    obtain ⟨⟨hcontrol, hbreak⟩, hquote⟩ := hverbatim
    refine quoted_verbatim hsingle fun c hc => ⟨?_, fun heq => hquote (heq ▸ hc)⟩
    exact (isPlain_or (Bool.eq_false_iff.2 (hcontrol c hc))).resolve_right
      fun heq => hbreak (heq ▸ hc)
  · exact quoted_escapedLines hdouble cs
  · simp only [Bool.and_eq_true, Bool.not_eq_true', List.any_eq_false] at hboth
    exact quoted_verbatimLines hsingle (fun c hc => Bool.eq_false_iff.2 (hboth.1 c hc)) hboth.2
  · exact quoted_escapedLines hdouble cs
  · exact quoted_escapedLine hdouble cs

/-! ### Carriage returns -/

theorem return_notMem_escapeOf (lines : Bool) (c : Char) : '\r' ∉ escapeOf lines c := by
  have hdigit : ∀ n : Fin 16, '\r' ≠ Text.hexDigit n := by decide
  unfold escapeOf
  split_ifs with _ _ _ _ hreturn _ _ hcontrol
  · decide
  · decide
  · decide
  · decide
  · decide
  · decide
  · decide
  · have hsmall := toNat_lt_of_isControl hcontrol
    have hhigh := hdigit ⟨c.toNat / 16, by omega⟩
    have hlow := hdigit ⟨c.toNat % 16, by omega⟩
    simp [hhigh, hlow]
  · simpa using Ne.symm hreturn

theorem return_notMem_escapes (lines : Bool) (cs : List Char) :
    ∀ run, '\r' ∉ escapes lines run cs := by
  induction cs with
  | nil => simp [escapes]
  | cons c cs ih =>
      intro run
      rw [escapes]
      split_ifs
      · simp [ih]
      · simp [ih]
      · simp [ih, return_notMem_escapeOf]

/-- A carriage return is written as an escape only. -/
theorem return_notMem_quote (cs : List Char) : '\r' ∉ quote cs := by
  have hplain : cs.any isControl = false → '\r' ∉ cs := fun h hmem =>
    absurd (List.any_eq_false.1 h '\r' hmem) (by decide)
  have hopening : '\r' ∉ openingBreak cs := by
    unfold openingBreak
    split <;> simp
  have hline : '\r' ∉ escapedLine cs := by simp [escapedLine, return_notMem_escapes]
  have hlines : '\r' ∉ escapedLines cs := by
    simp [escapedLines, return_notMem_escapes, hopening]
  unfold quote
  dsimp only
  split_ifs with hshown hverbatim _ hboth
  · exact hline
  · simp only [Bool.and_eq_true, Bool.not_eq_true'] at hverbatim
    simp [hplain hverbatim.1.1]
  · exact hlines
  · simp only [Bool.and_eq_true, Bool.not_eq_true'] at hboth
    simp [hplain hboth.1, hopening]
  · exact hlines
  · exact hline

end StreamStore.Toml
