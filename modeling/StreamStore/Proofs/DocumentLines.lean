import StreamStore.Proofs.NumberText
import StreamStore.Proofs.QuotedForms
import StreamStore.Toml.Parser
import StreamStore.Toml.Printer

/-!
# The lines of a document read back

What is written is a list of lines, and every line is read as its statement
(`statement_render`), so a document is read as the statements of its lines
(`statements_render`).

Each law says what a reader makes of a written piece *and leaves of what follows it*.  What
may follow is always the same few characters: a blank, a bracket or a point behind a name, and
the end of the line behind a value.  The names that are written need no quotes (`IsBare`), and
the numbers are those that a document has (`Datum.Fits`).
-/

namespace StreamStore.Toml

variable {rest : List Char}

/-! ### Names and keys -/

/-- Whether a name needs no quotes. -/
def IsBare (name : String) : Prop :=
  name.toList ≠ [] ∧ ∀ c ∈ name.toList, isBare c = true

instance (name : String) : Decidable (IsBare name) :=
  decidable_of_iff (name.toList ≠ [] ∧ name.toList.all isBare = true) (by
    rw [List.all_eq_true, IsBare])

/-- Whether a key has names without quotes only, and not too many of them. -/
def Key.Fits (k : Key) : Prop :=
  (∀ n ∈ k.path, IsBare n) ∧ IsBare k.name ∧ k.path.length < maxNames

instance (k : Key) : Decidable k.Fits :=
  inferInstanceAs (Decidable (_ ∧ _ ∧ _))

theorem ne_of_isBare {c d : Char} (h : isBare c = true) (hd : isBare d = false) : c ≠ d := by
  rintro rfl
  rw [h] at hd
  cases hd

theorem skip_of_head {c : Char} (h : isSpace c = false) (cs : List Char) :
    skip (c :: cs) = c :: cs := by
  rw [skip, List.dropWhile_cons, h]
  rfl

theorem isSpace_of_isBare {c : Char} (h : isBare c = true) : isSpace c = false := by
  have hblank : c ≠ ' ' := ne_of_isBare h (by decide)
  have htab : c ≠ '\t' := ne_of_isBare h (by decide)
  simp [isSpace, hblank, htab]

/-- A name reads back in front of anything that does not go on with it. -/
theorem name_append {n : String} (hn : IsBare n) (hrest : ∀ c ∈ rest.head?, isBare c = false) :
    name (n.toList ++ rest) = some (n, rest) := by
  obtain ⟨hne, hbare⟩ := hn
  obtain ⟨c, cs, hcs⟩ := List.exists_cons_of_ne_nil hne
  have hc : isBare c = true := hbare c (hcs ▸ List.mem_cons_self)
  have hquote : ¬(c = '"' ∨ c = '\'') := by
    rintro (h | h)
    · exact ne_of_isBare hc (by decide) h
    · exact ne_of_isBare hc (by decide) h
  have htake : (n.toList ++ rest).takeWhile isBare = n.toList := by
    rw [List.takeWhile_append_of_pos hbare]
    cases rest with
    | nil => simp
    | cons d ds => simp [hrest d rfl]
  have hdrop : (n.toList ++ rest).dropWhile isBare = rest := by
    rw [List.dropWhile_append_of_pos hbare]
    cases rest with
    | nil => rfl
    | cons d ds => simp [hrest d rfl]
  have hname : name (c :: (cs ++ rest)) =
      some (String.ofList ((c :: (cs ++ rest)).takeWhile isBare),
        (c :: (cs ++ rest)).dropWhile isBare) := by
    rw [name, if_neg hquote, if_pos hc]
  rw [← List.cons_append, ← hcs] at hname
  rw [hname, htake, hdrop, String.ofList_toList]

theorem skip_name_append {n : String} (hn : IsBare n) (rest : List Char) :
    skip (n.toList ++ rest) = n.toList ++ rest := by
  obtain ⟨c, cs, hcs⟩ := List.exists_cons_of_ne_nil hn.1
  rw [hcs, List.cons_append]
  exact skip_of_head (isSpace_of_isBare (hn.2 c (hcs ▸ List.mem_cons_self))) _

/-- The last name of a key is read with the blanks behind it. -/
theorem key_append {n : String} (hn : IsBare n) (most : Nat)
    (hrest : ∀ c ∈ rest.head?, isBare c = false) (hpoint : ∀ tail, skip rest ≠ '.' :: tail) :
    key (most + 1) (n.toList ++ rest) = some (.ofName n, skip rest) := by
  rw [key, skip_name_append hn, name_append hn hrest]
  dsimp only
  split
  · next heq => exact absurd heq (hpoint _)
  · rfl

/-- A key reads back in front of a bracket. -/
theorem key_path_append {n : String} (hn : IsBare n) (path : List String) :
    ∀ most, (∀ m ∈ path, IsBare m) → path.length < most →
      key most (((path.flatMap fun name => name.toList ++ ['.']) ++ n.toList) ++ ']' :: rest) =
        some (⟨path, n⟩, ']' :: rest) := by
  induction path with
  | nil =>
      intro most _ hmost
      obtain ⟨most, rfl⟩ := Nat.exists_eq_succ_of_ne_zero (Nat.ne_of_gt hmost)
      exact key_append hn most (by simp; decide) (by simp [skip, isSpace])
  | cons m path ih =>
      intro most hpath hlength
      obtain ⟨hm, hpath⟩ := List.forall_mem_cons.1 hpath
      obtain ⟨most, rfl⟩ := Nat.exists_eq_succ_of_ne_zero (Nat.ne_of_gt (Nat.zero_lt_of_lt hlength))
      have htext :
          ((m :: path).flatMap fun name => name.toList ++ ['.']) ++ n.toList ++ ']' :: rest =
          m.toList ++ '.' :: ((path.flatMap fun name => name.toList ++ ['.']) ++ n.toList ++
            ']' :: rest) := by
        simp
      rw [htext, key, skip_name_append hm, name_append hm (by simp; decide)]
      dsimp only
      rw [skip_of_head (by decide)]
      show Option.map _ (key most _) = _
      rw [ih most hpath (Nat.lt_of_succ_lt_succ hlength)]
      rfl

theorem key_render {k : Key} (hk : k.Fits) (rest : List Char) :
    key maxNames (k.render ++ ']' :: rest) = some (k, ']' :: rest) :=
  key_path_append hk.2.1 k.path maxNames hk.1 hk.2.2

/-! ### Numbers -/

theorem digitsAfter_append {ds : List Char} (hds : ∀ c ∈ ds, c.isDigit = true) :
    digitsAfter Char.isDigit (ds ++ '\n' :: rest) = some (ds, '\n' :: rest) := by
  induction ds with
  | nil => rfl
  | cons d ds ih =>
      have hd : d.isDigit = true := hds d List.mem_cons_self
      have hline : d ≠ '_' := by
        rintro rfl
        exact absurd hd (by decide)
      rw [List.cons_append, digitsAfter, if_pos hd,
        ih fun c hc => hds c (List.mem_cons_of_mem d hc), consTo_some]
      · exact fun h => absurd h hline
      · exact fun _ _ h => absurd h hline

theorem digitRun_append {ds : List Char} (hne : ds ≠ []) (hds : ∀ c ∈ ds, c.isDigit = true) :
    digitRun Char.isDigit (ds ++ '\n' :: rest) = some (ds, '\n' :: rest) := by
  obtain ⟨d, ds, rfl⟩ := List.exists_cons_of_ne_nil hne
  rw [List.cons_append, digitRun, if_pos (hds d List.mem_cons_self),
    digitsAfter_append fun c hc => hds c (List.mem_cons_of_mem d hc), consTo_some]

theorem wholeDigits_append {ds : List Char} (hds : Json.Parser.IsWhole ds) :
    wholeDigits (ds ++ '\n' :: rest) = some (ds, '\n' :: rest) := by
  obtain ⟨d, ds, rfl⟩ := List.exists_cons_of_ne_nil hds.ne_nil
  by_cases hzero : d = '0'
  · subst hzero
    obtain rfl := hds.zero ds rfl
    rfl
  · rw [wholeDigits]
    · exact digitRun_append hds.ne_nil hds.digit
    · exact fun _ h => absurd (List.cons.inj h).1 hzero

/-- A number that a document has is read in front of the end of its line. -/
theorem decimal_toDigits {n : Nat} (hn : (n : Int) < signedLimit) :
    decimal false (Nat.toDigits 10 n ++ '\n' :: rest) = some (.integer n, '\n' :: rest) := by
  have hlow : -signedLimit ≤ (n : Int) := by
    have hlimit : signedLimit = 9223372036854775808 := rfl
    omega
  have hfraction : fraction ('\n' :: rest) = some (none, '\n' :: rest) := rfl
  have hexponent : exponent ('\n' :: rest) = some (none, '\n' :: rest) := rfl
  rw [decimal, wholeDigits_append (Json.Parser.isWhole_toDigits n), Option.bind_eq_bind,
    Option.bind_some]
  dsimp only
  rw [hfraction, Option.bind_eq_bind, Option.bind_some]
  dsimp only
  rw [hexponent, Option.bind_eq_bind, Option.bind_some, if_pos (by rfl),
    if_neg Bool.false_ne_true, Text.valueOf_toDigits, wholeNumber?, if_pos ⟨hlow, hn⟩]
  rfl

/-- Digits at the end of a line begin neither a date nor a time. -/
theorem startsWithDigits_append {ds : List Char} (hds : ∀ c ∈ ds, c.isDigit = true) {mark : Char}
    (hmark : mark.isDigit = false) (hline : mark ≠ '\n') (k : Nat) :
    startsWithDigits k mark (ds ++ '\n' :: rest) = false := by
  unfold startsWithDigits
  split
  · next v c tail heq =>
      unfold fixedDigits at heq
      dsimp only at heq
      split at heq
      · next hfixed =>
          have hdrop : (ds ++ '\n' :: rest).drop k = c :: tail :=
            (Prod.mk.inj (Option.some.inj heq)).2
          -- the end of the line is no digit, so all that was taken are digits of the number
          have hk : k ≤ ds.length := by
            refine Nat.not_lt.1 fun hlt => ?_
            have hmem : '\n' ∈ (ds ++ '\n' :: rest).take k := by
              rw [List.take_append, List.take_cons (by omega)]
              exact List.mem_append_right _ List.mem_cons_self
            exact absurd (List.all_eq_true.1 hfixed.2 _ hmem) (by decide)
          rw [List.drop_append_of_le_length hk] at hdrop
          rw [beq_eq_false_iff_ne]
          rintro rfl
          cases hmore : ds.drop k with
          | nil =>
              rw [hmore] at hdrop
              exact hline (List.cons.inj hdrop).1.symm
          | cons d more =>
              rw [hmore] at hdrop
              have hd : d ∈ ds := List.mem_of_mem_drop (hmore ▸ List.mem_cons_self)
              rw [← (List.cons.inj hdrop).1, hds d hd] at hmark
              cases hmark
      · cases heq
  · rfl

theorem toDigits_eq_cons (n : Nat) :
    ∃ c tail, Nat.toDigits 10 n = c :: tail ∧ c.isDigit = true := by
  obtain ⟨c, tail, hdigits⟩ := List.exists_cons_of_ne_nil (Nat.toDigits_ne_nil (b := 10) (n := n))
  exact ⟨c, tail, hdigits, Text.isDigit_of_mem c (hdigits ▸ List.mem_cons_self)⟩

/-- A digit opens a number, a date or a time. -/
theorem value_of_digit {c : Char} (hc : c.isDigit = true) (steps levels : Nat) (tail : List Char) :
    value (steps + 1) levels (c :: tail) = scalar (c :: tail) := by
  have hbounds := Text.digit_bounds hc
  have hne : ∀ d : Char, d.toNat < 48 ∨ 57 < d.toNat → c ≠ d := by
    rintro d hd rfl
    omega
  rw [value]
  · rw [if_neg]
    rintro (h | h)
    · exact hne _ (by decide) h
    · exact hne _ (by decide) h
  · exact fun _ h => absurd h (hne _ (by decide))
  · exact fun _ h => absurd h (hne _ (by decide))
  · exact fun h => absurd h (hne _ (by decide))
  · exact fun h => absurd h (hne _ (by decide))

theorem number_append {ds : List Char} (hds : Json.Parser.IsWhole ds) :
    number (ds ++ '\n' :: rest) = decimal false (ds ++ '\n' :: rest) := by
  obtain ⟨d, ds, rfl⟩ := List.exists_cons_of_ne_nil hds.ne_nil
  by_cases hzero : d = '0'
  · subst hzero
    obtain rfl := hds.zero ds rfl
    rfl
  · have hne : ∀ c : Char, c.isDigit = false → d ≠ c :=
      fun c hc hd => by rw [← hd, hds.digit d List.mem_cons_self] at hc; cases hc
    rw [List.cons_append, number, unsigned]
    · exact fun _ h => hne _ (by decide) (List.cons.inj h).1
    · exact fun _ h => hne _ (by decide) (List.cons.inj h).1
    · exact fun _ h => hne _ (by decide) (List.cons.inj h).1
    · exact fun _ h => hne _ (by decide) (List.cons.inj h).1
    · exact fun _ h => hzero (List.cons.inj h).1
    · exact fun _ h => hzero (List.cons.inj h).1
    · exact fun _ h => hzero (List.cons.inj h).1

theorem scalar_toDigits {n : Nat} (hn : (n : Int) < signedLimit) :
    scalar (Nat.toDigits 10 n ++ '\n' :: rest) = some (.integer n, '\n' :: rest) := by
  have hwhole := Json.Parser.isWhole_toDigits n
  rw [scalar, startsWithDigits_append hwhole.digit (by decide) (by decide),
    startsWithDigits_append hwhole.digit (by decide) (by decide), if_neg Bool.false_ne_true,
    if_neg Bool.false_ne_true, number_append hwhole, decimal_toDigits hn]

/-! ### Values -/

/-- Whether a datum has a written form. -/
def Datum.Fits : Datum → Prop
  | .number n => (n : Int) < signedLimit
  | _ => True

theorem quote_eq_cons (cs : List Char) : ∃ c tail, quote cs = c :: tail ∧ (c = '"' ∨ c = '\'') := by
  unfold quote
  dsimp only
  split_ifs
  · exact ⟨_, _, rfl, .inl rfl⟩
  · exact ⟨_, _, rfl, .inr rfl⟩
  · exact ⟨_, _, rfl, .inl rfl⟩
  · exact ⟨_, _, rfl, .inr rfl⟩
  · exact ⟨_, _, rfl, .inl rfl⟩
  · exact ⟨_, _, rfl, .inl rfl⟩

/-- A quote opens a text. -/
theorem value_of_quote {c : Char} (hc : c = '"' ∨ c = '\'') (steps levels : Nat)
    (tail : List Char) : value (steps + 1) levels (c :: tail) =
      (quoted (c :: tail)).map fun (s, rest) => (.text (String.ofList s), rest) := by
  rcases hc with rfl | rfl <;> rfl

/-- A datum reads back in front of the end of its line. -/
theorem topValue_render {d : Datum} (hd : d.Fits) (rest : List Char) :
    topValue (d.render ++ '\n' :: rest) = some (d.value, '\n' :: rest) := by
  rw [topValue]
  cases d with
  | text s =>
      obtain ⟨c, tail, hquote, hc⟩ := quote_eq_cons s.toList
      have htext : Datum.render (.text s) ++ '\n' :: rest = c :: (tail ++ '\n' :: rest) := by
        rw [Datum.render, hquote, List.cons_append]
      have hquoted : quoted (c :: (tail ++ '\n' :: rest)) = some (s.toList, '\n' :: rest) := by
        rw [← List.cons_append, ← hquote]
        exact quoted_quote s.toList (by simp) (by simp)
      rw [htext, value_of_quote hc, hquoted, Option.map_some]
      dsimp only
      rw [String.ofList_toList]
      rfl
  | number n =>
      obtain ⟨c, tail, hdigits, hc⟩ := toDigits_eq_cons n
      have hscalar : scalar (Nat.toDigits 10 n ++ '\n' :: rest) = some (.integer n, '\n' :: rest) :=
        scalar_toDigits hd
      rw [Datum.render]
      rw [hdigits] at hscalar ⊢
      rw [List.cons_append] at hscalar ⊢
      rw [value_of_digit hc, hscalar]
      rfl
  | flag b => cases b <;> rfl
  | nothing => rfl

theorem head_render (d : Datum) : ∃ c tail, d.render = c :: tail ∧ isSpace c = false := by
  cases d with
  | text s =>
      obtain ⟨c, tail, hquote, rfl | rfl⟩ := quote_eq_cons s.toList
      · exact ⟨_, tail, hquote, rfl⟩
      · exact ⟨_, tail, hquote, rfl⟩
  | number n =>
      obtain ⟨c, tail, hdigits, hc⟩ := toDigits_eq_cons n
      refine ⟨c, tail, hdigits, isSpace_of_isBare ?_⟩
      simp [isBare, Char.isAlphanum, hc]
  | flag b => cases b <;> exact ⟨_, _, rfl, rfl⟩
  | nothing => exact ⟨_, _, rfl, rfl⟩

theorem skip_render (d : Datum) (rest : List Char) :
    skip (' ' :: (d.render ++ rest)) = d.render ++ rest := by
  obtain ⟨c, tail, hd, hc⟩ := head_render d
  rw [hd, List.cons_append]
  exact skip_of_head hc _

/-! ### Statements -/

/-- Whether a line has a written form. -/
def Line.Fits : Line → Prop
  | .section k => k.Fits
  | .element k => k.Fits
  | .entry name d => IsBare name ∧ d.Fits

instance : (d : Datum) → Decidable d.Fits
  | .number n => inferInstanceAs (Decidable ((n : Int) < signedLimit))
  | .text _ | .flag _ | .nothing => inferInstanceAs (Decidable True)

instance : (line : Line) → Decidable line.Fits
  | .section k | .element k => inferInstanceAs (Decidable k.Fits)
  | .entry name d => inferInstanceAs (Decidable (IsBare name ∧ d.Fits))

theorem IsBare.eq_cons {n : String} (h : IsBare n) :
    ∃ c tail, n.toList = c :: tail ∧ isBare c = true := by
  obtain ⟨c, tail, hn⟩ := List.exists_cons_of_ne_nil h.1
  exact ⟨c, tail, hn, h.2 c (hn ▸ List.mem_cons_self)⟩

theorem Key.render_eq_cons {k : Key} (h : k.Fits) :
    ∃ c tail, k.render = c :: tail ∧ isBare c = true := by
  obtain ⟨path, n⟩ := k
  obtain ⟨hpath, hn, -⟩ := h
  cases path with
  | nil => exact hn.eq_cons
  | cons m path =>
      obtain ⟨c, tail, htext, hc⟩ := (hpath m List.mem_cons_self).eq_cons
      simp only [Key.render, List.flatMap_cons, htext, List.cons_append]
      exact ⟨c, _, rfl, hc⟩

theorem ne_bracket_of_isBare {c : Char} (h : isBare c = true) : c ≠ '[' :=
  ne_of_isBare h (by decide)

/-- **A line is read as its statement.** -/
theorem statement_render {line : Line} (h : line.Fits) (rest : List Char) :
    statement (line.render ++ '\n' :: rest) = some (line.statement, rest) := by
  cases line with
  | «section» k =>
      obtain ⟨c, tail, hk, hc⟩ := Key.render_eq_cons h
      have htext : Line.render (.section k) ++ '\n' :: rest =
          '[' :: (k.render ++ ']' :: '\n' :: rest) := by
        simp [Line.render]
      rw [htext, statement, key_render h]
      · rfl
      · intro more hmore
        rw [hk] at hmore
        exact ne_bracket_of_isBare hc (List.cons.inj hmore).1
  | element k =>
      have htext : Line.render (.element k) ++ '\n' :: rest =
          '[' :: '[' :: (k.render ++ ']' :: ']' :: '\n' :: rest) := by
        simp [Line.render]
      rw [htext, statement, key_render h]
      rfl
  | entry n d =>
      obtain ⟨hn, hd⟩ := h
      obtain ⟨c, tail, hname, hc⟩ := hn.eq_cons
      have htext : Line.render (.entry n d) ++ '\n' :: rest =
          n.toList ++ ' ' :: '=' :: ' ' :: (d.render ++ '\n' :: rest) := by
        simp [Line.render]
      have hkey : key maxNames (n.toList ++ ' ' :: '=' :: ' ' :: (d.render ++ '\n' :: rest)) =
          some (.ofName n, '=' :: ' ' :: (d.render ++ '\n' :: rest)) :=
        key_append hn (maxNames - 1) (by simp; decide) (by simp [skip, isSpace])
      rw [htext, statement, hkey]
      · show (topValue (skip (' ' :: (d.render ++ '\n' :: rest)))).bind _ = _
        rw [skip_render, topValue_render hd]
        rfl
      · intro more hmore
        rw [hname] at hmore
        exact ne_bracket_of_isBare hc (List.cons.inj hmore).1
      · intro more hmore
        rw [hname] at hmore
        exact ne_bracket_of_isBare hc (List.cons.inj hmore).1

/-! ### Documents -/

theorem toNat_of_isBare {c : Char} (h : isBare c = true) : c.toNat ≠ 0xFEFF := by
  intro hc
  obtain rfl : c = '\uFEFF' := Char.toNat_inj.1 hc
  exact absurd h (by decide)

/-- A line begins with none of the characters that mean something at its front. -/
theorem head_line {line : Line} (h : line.Fits) :
    ∃ c tail, line.render = c :: tail ∧
      isSpace c = false ∧ c ≠ '\n' ∧ c ≠ '#' ∧ c.toNat ≠ 0xFEFF := by
  cases line with
  | «section» k => exact ⟨'[', _, rfl, by decide, by decide, by decide, by decide⟩
  | element k => exact ⟨'[', _, rfl, by decide, by decide, by decide, by decide⟩
  | entry n d =>
      obtain ⟨c, tail, hname, hc⟩ := h.1.eq_cons
      simp only [Line.render, hname, List.cons_append]
      exact ⟨c, _, rfl, isSpace_of_isBare hc, ne_of_isBare hc (by decide),
        ne_of_isBare hc (by decide), toNat_of_isBare hc⟩

/-- A line is read in one step. -/
theorem statementsIn_line {line : Line} (h : line.Fits) (steps : Nat) (rest : List Char) :
    statementsIn (steps + 1) (line.render ++ '\n' :: rest) =
      (statementsIn steps rest).map (line.statement :: ·) := by
  obtain ⟨c, tail, hr, hspace, hbreak, hcomment, -⟩ := head_line h
  have hskip : skip (line.render ++ '\n' :: rest) = line.render ++ '\n' :: rest := by
    rw [hr, List.cons_append]
    exact skip_of_head hspace _
  rw [statementsIn, hskip]
  split
  · next heq => exact absurd heq (by simp)
  · next heq =>
      rw [hr] at heq
      exact absurd (List.cons.inj heq).1 hbreak
  · next heq =>
      rw [hr] at heq
      exact absurd (List.cons.inj heq).1 hcomment
  · rw [statement_render h]
    rfl

/-- Lines read back, in more steps than they have characters. -/
theorem statementsIn_renderAfter {lines : List Line} (h : ∀ line ∈ lines, line.Fits) :
    ∀ steps, (renderAfter lines).length < steps →
      statementsIn steps (renderAfter lines) = some (lines.map Line.statement) := by
  induction lines with
  | nil =>
      intro steps hsteps
      obtain ⟨steps, rfl⟩ := Nat.exists_eq_succ_of_ne_zero (Nat.ne_of_gt hsteps)
      rfl
  | cons line lines ih =>
      intro steps hsteps
      obtain ⟨hline, hlines⟩ := List.forall_mem_cons.1 h
      -- the line itself, once the empty line in front of it is read
      have hread : ∀ steps, (renderAfter lines).length < steps →
          statementsIn (steps + 1) (line.render ++ '\n' :: renderAfter lines) =
            some ((line :: lines).map Line.statement) := by
        intro steps hsteps
        rw [statementsIn_line hline, ih hlines steps hsteps]
        rfl
      rw [renderAfter, List.append_assoc] at hsteps ⊢
      split_ifs at hsteps ⊢
      · obtain ⟨steps, rfl⟩ : ∃ n, steps = n + 1 + 1 := ⟨steps - 2, by simp at hsteps; omega⟩
        exact hread steps (by simp at hsteps; omega)
      · obtain ⟨steps, rfl⟩ : ∃ n, steps = n + 1 := ⟨steps - 1, by simp at hsteps; omega⟩
        exact hread steps (by simp at hsteps; omega)

/-- **A document is read as the statements of its lines.** -/
theorem statements_render {line : Line} {lines : List Line}
    (h : ∀ l ∈ line :: lines, l.Fits) :
    statements (render (line :: lines)).toList = some ((line :: lines).map Line.statement) := by
  obtain ⟨hline, hlines⟩ := List.forall_mem_cons.1 h
  rw [statements, render, String.toList_ofList, statementsIn_line hline,
    statementsIn_renderAfter hlines _ (by simp; omega)]
  rfl

/-! ### Texts -/

theorem unixBreaks_of_notMem {cs : List Char} (h : '\r' ∉ cs) : unixBreaks cs = cs := by
  induction cs with
  | nil => rfl
  | cons c cs ih =>
      rw [List.mem_cons, not_or] at h
      rw [unixBreaks, ih h.2]
      exact fun _ hc => absurd hc.symm h.1

theorem return_notMem_name {n : String} (h : IsBare n) : '\r' ∉ n.toList :=
  fun hmem => absurd (h.2 _ hmem) (by decide)

theorem Key.return_notMem_render {k : Key} (h : k.Fits) : '\r' ∉ k.render := by
  obtain ⟨hpath, hname, -⟩ := h
  intro hmem
  rcases List.mem_append.1 hmem with hmem | hmem
  · obtain ⟨n, hn, hmem⟩ := List.mem_flatMap.1 hmem
    rcases List.mem_append.1 hmem with hmem | hmem
    · exact return_notMem_name (hpath n hn) hmem
    · exact absurd hmem (by decide)
  · exact return_notMem_name hname hmem

theorem Datum.return_notMem_render (d : Datum) : '\r' ∉ d.render := by
  cases d with
  | text s => exact return_notMem_quote s.toList
  | number n => exact fun hmem => absurd (Text.isDigit_of_mem _ hmem) (by decide)
  | flag b => cases b <;> decide
  | nothing => decide

theorem Line.return_notMem_render {line : Line} (h : line.Fits) : '\r' ∉ line.render := by
  cases line with
  | «section» k => simp [Line.render, Key.return_notMem_render h]
  | element k => simp [Line.render, Key.return_notMem_render h]
  | entry n d => simp [Line.render, return_notMem_name h.1, d.return_notMem_render]

theorem return_notMem_renderAfter {lines : List Line} (h : ∀ line ∈ lines, line.Fits) :
    '\r' ∉ renderAfter lines := by
  induction lines with
  | nil => exact List.not_mem_nil
  | cons line lines ih =>
      obtain ⟨hline, hlines⟩ := List.forall_mem_cons.1 h
      rw [renderAfter]
      split_ifs <;> simp [Line.return_notMem_render hline, ih hlines]

/-- **A written document is read as the statements of its lines.** -/
theorem parse_render {lines : List Line} (h : ∀ line ∈ lines, line.Fits) :
    parse (render lines) = ofStatements (lines.map Line.statement) := by
  cases lines with
  | nil => rfl
  | cons line lines =>
      obtain ⟨hline, hlines⟩ := List.forall_mem_cons.1 h
      obtain ⟨c, tail, hr, -, -, -, hmark⟩ := head_line hline
      have hplain :
          withoutMark (render (line :: lines)).toList = (render (line :: lines)).toList := by
        rw [render, String.toList_ofList, hr, List.cons_append, withoutMark, if_neg hmark]
      have hbreaks : '\r' ∉ (render (line :: lines)).toList := by
        rw [render, String.toList_ofList]
        simp [Line.return_notMem_render hline, return_notMem_renderAfter hlines]
      rw [parse, hplain, unixBreaks_of_notMem hbreaks, statements_render h, Option.bind_some]

end StreamStore.Toml
