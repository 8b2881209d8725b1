import StreamStore.Proofs.JsonDepth
import StreamStore.Proofs.JsonLayout
import StreamStore.Proofs.JsonNumbers
import StreamStore.Proofs.QuotedText

/-!
# Documents read back

A document whose numbers read back, written in any layout, is read as that document
(`parseCharsAs_chars`), unless it has more arrays and objects inside one another than
the reader opens; so are its compact form (`parse_render`) and its indented one
(`parse_renderPretty_line`).  A reader that expects a record reads it back too, when it
looks at all there is (`Shape.Sees`, `parseAs_render`).

The reader counts two things down: the levels that it may still open, which `depth`
measures, and its steps, of which a document needs no more than its form has
characters (`steps_le_length`).  The induction is on the document and goes through
the three readers at once; what comes after a document is arbitrary, except that it
must not continue a number.

Conversely, a document that was read is no deeper than the reader goes
(`depth_le_of_parseAs`), so every document that was read can be written and, if its numbers
read back, read again.
-/

namespace StreamStore.Json

mutual

/-- Whether a reader that expects a shape looks at every member of a document. -/
def Shape.Sees : Shape → Json → Prop
  | shape, .array items => SeesItems shape 0 items
  | shape, .object fields => SeesFields shape fields
  | _, .null => True
  | _, .bool _ => True
  | _, .number _ => True
  | _, .string _ => True

/-- Whether it looks at every member of the items of a list, the first one at a given place. -/
def Shape.SeesItems : Shape → Nat → List Json → Prop
  | _, _, [] => True
  | shape, place, v :: rest =>
      Shape.Sees (shape.item place) v ∧ Shape.SeesItems shape (place + 1) rest

/-- Whether it looks at the fields of a list, and at every member of their values. -/
def Shape.SeesFields : Shape → List (String × Json) → Prop
  | _, [] => True
  | shape, (k, v) :: rest =>
      (∃ inner, shape.member? k = some inner ∧ Shape.Sees inner v) ∧ Shape.SeesFields shape rest

end

/-- A record of names has each of them as a member, whatever stands there. -/
theorem Shape.member?_ofNames {name : String} {names : List String} (h : name ∈ names) :
    (Shape.ofNames names).member? name = some .whole := by
  rw [Shape.ofNames, Shape.member?]
  induction names with
  | nil => cases h
  | cons first names ih =>
      rw [List.map_cons, List.lookup_cons]
      by_cases heq : name = first
      · rw [heq, beq_self_eq_true]
      · rw [beq_eq_false_iff_ne.2 heq]
        exact ih ((List.mem_cons.1 h).resolve_left heq)

/-- Fields are looked at one by one. -/
theorem Shape.seesFields_iff {shape : Shape} {fields : List (String × Json)} :
    shape.SeesFields fields ↔
      ∀ e ∈ fields, ∃ inner, shape.member? e.1 = some inner ∧ Shape.Sees inner e.2 := by
  induction fields with
  | nil => simp [Shape.SeesFields]
  | cons e rest ih => rw [Shape.SeesFields, List.forall_mem_cons, ih]

/-- In a list all items are expected to have one shape. -/
theorem Shape.seesItems_list_iff {item : Shape} {place : Nat} {items : List Json} :
    (Shape.list item).SeesItems place items ↔ ∀ v ∈ items, Shape.Sees item v := by
  induction items generalizing place with
  | nil => simp [Shape.SeesItems]
  | cons v rest ih =>
      rw [Shape.SeesItems, List.forall_mem_cons, ih]
      rfl

mutual

/-- How many steps the reader needs for a document. -/
def steps : Json → Nat
  | .array items => stepsItems items + 1
  | .object fields => stepsFields fields + 1
  | .null => 1
  | .bool _ => 1
  | .number _ => 1
  | .string _ => 1

def stepsItems : List Json → Nat
  | [] => 0
  | v :: rest => steps v + stepsItems rest + 1

def stepsFields : List (String × Json) → Nat
  | [] => 0
  | (_, v) :: rest => steps v + stepsFields rest + 1

end

namespace Parser

theorem skip_of_head {c : Char} {cs : List Char} (h : isSpace c = false) :
    skip (c :: cs) = c :: cs := by
  simp [skip, h]

theorem isSpace_of_sign_or_digit {c : Char} (hc : c = '-' ∨ c.isDigit = true) :
    isSpace c = false := by
  rcases hc with rfl | hc
  · rfl
  · have hbounds := Text.digit_bounds hc
    have hne : ∀ d : Char, d.toNat < 48 → (c == d) = false := by
      intro d hd
      refine beq_eq_false_iff_ne.2 fun heq => ?_
      subst heq
      omega
    simp [isSpace, hne]

/-- Blanks are passed over. -/
theorem skip_append {blanks : List Char} (h : ∀ c ∈ blanks, isSpace c = true) (cs : List Char) :
    skip (blanks ++ cs) = skip cs :=
  List.dropWhile_append_of_pos h

theorem skip_append_cons {blanks : List Char} {c : Char} (h : ∀ c ∈ blanks, isSpace c = true)
    (hc : isSpace c = false) (cs : List Char) : skip (blanks ++ c :: cs) = c :: cs := by
  rw [skip_append h, skip_of_head hc]

/-- A document begins with a character that is neither a blank nor a closing bracket. -/
theorem chars_eq_cons (l : Layout) (depth : Nat) (v : Json) :
    ∃ c cs, l.chars depth v = c :: cs ∧ isSpace c = false ∧ c ≠ ']' := by
  cases v with
  | null => exact ⟨'n', _, by rw [Layout.chars], by decide, by decide⟩
  | bool b => cases b with
    | true => exact ⟨'t', _, by rw [Layout.chars], by decide, by decide⟩
    | false => exact ⟨'f', _, by rw [Layout.chars], by decide, by decide⟩
  | number n =>
      obtain ⟨c, cs, htext, hc⟩ := numberText_eq_cons n
      refine ⟨c, cs, by rw [Layout.chars, htext], isSpace_of_sign_or_digit hc, ?_⟩
      rintro rfl
      rcases hc with hc | hc
      · exact absurd hc (by decide)
      · exact absurd hc (by decide)
  | string s => exact ⟨'"', _, by rw [Layout.chars]; rfl, by decide, by decide⟩
  | array items => cases items with
    | nil => exact ⟨'[', _, by rw [Layout.chars], by decide, by decide⟩
    | cons v rest => exact ⟨'[', _, by rw [Layout.chars], by decide, by decide⟩
  | object fields => cases fields with
    | nil => exact ⟨'{', _, by rw [Layout.chars], by decide, by decide⟩
    | cons e rest => exact ⟨'{', _, by rw [Layout.chars], by decide, by decide⟩

/-- Blanks and a closing bracket end a number. -/
theorem endsNumber_append (blanks : List Char) {c : Char} (h : ∀ c ∈ blanks, isSpace c = true)
    (hc : c = ',' ∨ c = ']' ∨ c = '}') (cs : List Char) : EndsNumber (blanks ++ c :: cs) := by
  intro d hd
  cases blanks with
  | nil =>
      obtain rfl : c = d := by simpa using hd
      exact .inr hc
  | cons b blanks =>
      obtain rfl : b = d := by simpa using hd
      exact .inl (h b List.mem_cons_self)

theorem endsNumber_itemChars (l : Layout) (depth : Nat) (items : List Json) (rest : List Char) :
    EndsNumber (l.itemChars depth items ++ rest) := by
  cases items with
  | nil =>
      rw [Layout.itemChars, List.append_assoc]
      exact endsNumber_append _ (l.isSpace_of_mem_gap depth) (.inr (.inl rfl)) rest
  | cons v vs =>
      rw [Layout.itemChars]
      exact endsNumber_append [] (List.forall_mem_nil _) (.inl rfl) _

theorem endsNumber_fieldChars (l : Layout) (depth : Nat) (fields : List (String × Json))
    (rest : List Char) : EndsNumber (l.fieldChars depth fields ++ rest) := by
  cases fields with
  | nil =>
      rw [Layout.fieldChars, List.append_assoc]
      exact endsNumber_append _ (l.isSpace_of_mem_gap depth) (.inr (.inr rfl)) rest
  | cons e es =>
      rw [Layout.fieldChars]
      exact endsNumber_append [] (List.forall_mem_nil _) (.inl rfl) _

theorem value_numberText (n levels : Nat) (shape : Shape) {x : JsonNumber} (hx : x.ReadsBack)
    {rest : List Char} (hrest : EndsNumber rest) :
    value (n + 1) levels shape (numberText x ++ rest) = some (.number x, rest) := by
  have hread := number_numberText hx hrest
  obtain ⟨c, cs, htext, hc⟩ := numberText_eq_cons x
  have hother : ∀ d : Char, d.isDigit = false → d ≠ '-' → c ≠ d := by
    rintro d hd hminus rfl
    rcases hc with h | h
    · exact hminus h
    · rw [hd] at h
      cases h
  rw [htext, List.cons_append] at hread ⊢
  rw [value, skip_of_head (isSpace_of_sign_or_digit hc)]
  split
  · next h => exact absurd (List.cons.inj h).1 (hother 'n' rfl (by decide))
  · next h => exact absurd (List.cons.inj h).1 (hother 't' rfl (by decide))
  · next h => exact absurd (List.cons.inj h).1 (hother 'f' rfl (by decide))
  · next h => exact absurd (List.cons.inj h).1 (hother '"' rfl (by decide))
  · next h => exact absurd (List.cons.inj h).1 (hother '[' rfl (by decide))
  · next h => exact absurd (List.cons.inj h).1 (hother '{' rfl (by decide))
  · rw [hread]
    rfl

/-! ### One step of the reader -/

section Steps

variable {n levels place : Nat} {shape inner : Shape} {c : Char}
  {blanks cs cs' tail rest : List Char} {k : String} {v : Json} {vs : List Json}
  {es : List (String × Json)}

/-- A document may have blanks in front of it. -/
theorem value_append (hblanks : ∀ c ∈ blanks, isSpace c = true) :
    value n levels shape (blanks ++ cs) = value n levels shape cs := by
  cases n with
  | zero => rw [value, value]
  | succ n => rw [value, skip_append hblanks, value]

theorem items_append (hblanks : ∀ c ∈ blanks, isSpace c = true) :
    items n levels shape place (blanks ++ cs) = items n levels shape place cs := by
  cases n with
  | zero => rw [items, items]
  | succ n => rw [items, value_append hblanks, items]

theorem fields_append (hblanks : ∀ c ∈ blanks, isSpace c = true) :
    fields n levels shape (blanks ++ cs) = fields n levels shape cs := by
  cases n with
  | zero => rw [fields, fields]
  | succ n => rw [fields, skip_append hblanks, fields]

theorem value_array_cons (hblanks : ∀ c ∈ blanks, isSpace c = true) (hspace : isSpace c = false)
    (hbracket : c ≠ ']') (h : items n levels shape 0 (c :: cs) = some (vs, rest)) :
    value (n + 1) (levels + 1) shape ('[' :: (blanks ++ c :: cs)) = some (.array vs, rest) := by
  have hopen : skip ('[' :: (blanks ++ c :: cs)) = '[' :: (blanks ++ c :: cs) := skip_of_head rfl
  have hfirst : skip (blanks ++ c :: cs) = c :: cs := skip_append_cons hblanks hspace cs
  simp [value, hopen, hfirst, hbracket, h]

theorem value_object_cons (hblanks : ∀ c ∈ blanks, isSpace c = true)
    (h : fields n levels shape ('"' :: cs) = some (es, rest)) :
    value (n + 1) (levels + 1) shape ('\x7b' :: (blanks ++ '"' :: cs)) =
      some (.object es, rest) := by
  have hopen : skip ('\x7b' :: (blanks ++ '"' :: cs)) = '\x7b' :: (blanks ++ '"' :: cs) :=
    skip_of_head rfl
  have hquote : skip (blanks ++ '"' :: cs) = '"' :: cs := skip_append_cons hblanks rfl cs
  simp [value, hopen, hquote, h]

theorem items_last (h : value n levels (shape.item place) cs = some (v, tail))
    (hclose : skip tail = ']' :: rest) :
    items (n + 1) levels shape place cs = some ([v], rest) := by
  simp [items, h, hclose]

theorem items_more (h : value n levels (shape.item place) cs = some (v, ',' :: cs'))
    (h' : items n levels shape (place + 1) cs' = some (vs, rest)) :
    items (n + 1) levels shape place cs = some (v :: vs, rest) := by
  have hcomma : skip (',' :: cs') = ',' :: cs' := skip_of_head rfl
  simp [items, h, hcomma, h']

theorem fields_last (hk : quoted cs = some (k.toList, ':' :: cs'))
    (hmember : shape.member? k = some inner)
    (h : value n levels inner cs' = some (v, tail)) (hclose : skip tail = '\x7d' :: rest) :
    fields (n + 1) levels shape ('"' :: cs) = some ([(k, v)], rest) := by
  have hquote : skip ('"' :: cs) = '"' :: cs := skip_of_head rfl
  have hcolon : skip (':' :: cs') = ':' :: cs' := skip_of_head rfl
  simp [fields, hquote, hk, hcolon, hmember, h, hclose]

theorem fields_more (hk : quoted cs = some (k.toList, ':' :: cs'))
    (hmember : shape.member? k = some inner) {cs'' : List Char}
    (h : value n levels inner cs' = some (v, ',' :: cs''))
    (h' : fields n levels shape cs'' = some (es, rest)) :
    fields (n + 1) levels shape ('"' :: cs) = some ((k, v) :: es, rest) := by
  have hquote : skip ('"' :: cs) = '"' :: cs := skip_of_head rfl
  have hcolon : skip (':' :: cs') = ':' :: cs' := skip_of_head rfl
  have hcomma : skip (',' :: cs'') = ',' :: cs'' := skip_of_head rfl
  simp [fields, hquote, hk, hcolon, hmember, h, hcomma, h']

end Steps

theorem steps_pos (v : Json) : 0 < steps v := by
  cases v <;> rw [steps] <;> omega

/-- A name in quotes is read up to its closing quote. -/
theorem quoted_quote (k : String) (cs : List Char) :
    ∃ inside, quote k ++ cs = '"' :: inside ∧ quoted inside = some (k.toList, cs) := by
  refine ⟨k.toList.flatMap escape ++ '"' :: cs, ?_, quoted_flatMap_escape k.toList cs⟩
  simp [quote]

mutual

/-- **A document reads back** in any layout, whatever follows it. -/
theorem value_chars (l : Layout) : ∀ (v : Json) (n levels depth : Nat) (shape : Shape)
    (rest : List Char), steps v ≤ n → v.depth ≤ levels → v.NumbersReadBack → shape.Sees v →
      EndsNumber rest → value n levels shape (l.chars depth v ++ rest) = some (v, rest)
  | v, 0, _, _, _, _, hn, _, _, _, _ => absurd (steps_pos v) (by omega)
  | .null, n + 1, _, _, _, _, _, _, _, _, _ => by
      rw [Layout.chars, value]
      rfl
  | .bool true, n + 1, _, _, _, _, _, _, _, _, _ => by
      rw [Layout.chars, value]
      rfl
  | .bool false, n + 1, _, _, _, _, _, _, _, _, _ => by
      rw [Layout.chars, value]
      rfl
  | .number x, n + 1, levels, _, shape, _, _, _, hnumbers, _, hrest => by
      rw [Layout.chars, value_numberText n levels shape (numbersReadBack_number.1 hnumbers) hrest]
  | .string s, n + 1, _, _, _, rest, _, _, _, _, _ => by
      obtain ⟨inside, hquote, hquoted⟩ := quoted_quote s rest
      rw [Layout.chars, hquote, value]
      simp [skip, isSpace, hquoted]
  | .array _, n + 1, 0, _, _, _, _, hlevels, _, _, _ => by
      rw [Json.depth] at hlevels
      omega
  | .object _, n + 1, 0, _, _, _, _, hlevels, _, _, _ => by
      rw [Json.depth] at hlevels
      omega
  | .array [], n + 1, levels + 1, _, _, _, _, _, _, _, _ => by
      rw [Layout.chars, value]
      rfl
  | .object [], n + 1, levels + 1, _, _, _, _, _, _, _, _ => by
      rw [Layout.chars, value]
      rfl
  | .array (v :: vs), n + 1, levels + 1, depth, shape, rest, hn, hlevels, hnumbers, hshape, _ => by
      rw [steps] at hn
      rw [Json.depth] at hlevels
      rw [Shape.Sees] at hshape
      have hitems := items_chars l (v :: vs) n levels depth shape 0 rest (by omega) (by omega)
        (numbersReadBack_array.1 hnumbers) hshape v vs rfl
      obtain ⟨c, cs, hcons, hspace, hbracket⟩ := chars_eq_cons l (depth + 1) v
      rw [hcons] at hitems
      rw [Layout.chars, hcons]
      simpa using value_array_cons (l.isSpace_of_mem_gap (depth + 1)) hspace hbracket hitems
  | .object ((k, v) :: es), n + 1, levels + 1, depth, shape, rest, hn, hlevels, hnumbers, hshape,
      _ => by
      rw [steps] at hn
      rw [Json.depth] at hlevels
      rw [Shape.Sees] at hshape
      have hfields := fields_chars l ((k, v) :: es) n levels depth shape rest (by omega) (by omega)
        (numbersReadBack_object.1 hnumbers) hshape k v es rfl
      obtain ⟨inside, hquote, -⟩ := quoted_quote k (':' :: (l.behindColon ++
        (l.chars (depth + 1) v ++ (l.fieldChars depth es ++ rest))))
      rw [hquote] at hfields
      have hobject := value_object_cons (l.isSpace_of_mem_gap (depth + 1)) hfields
      rw [← hquote] at hobject
      rw [Layout.chars]
      simpa using hobject

theorem items_chars (l : Layout) : ∀ (vs : List Json) (n levels depth : Nat) (shape : Shape)
    (place : Nat) (rest : List Char), stepsItems vs ≤ n → depthItems vs ≤ levels →
      (∀ v ∈ vs, v.NumbersReadBack) → shape.SeesItems place vs → ∀ w ws, vs = w :: ws →
        items n levels shape place (l.chars (depth + 1) w ++ (l.itemChars depth ws ++ rest)) =
          some (w :: ws, rest)
  | v :: vs, 0, _, _, _, _, _, hn, _, _, _, _, _, _ => by
      rw [stepsItems] at hn
      omega
  | [v], n + 1, levels, depth, shape, place, rest, hn, hlevels, hnumbers, hshape, _, _, rfl => by
      rw [stepsItems, stepsItems] at hn
      rw [depthItems] at hlevels
      rw [Shape.SeesItems] at hshape
      have hvalue := value_chars l v n levels (depth + 1) (shape.item place)
        (l.itemChars depth [] ++ rest) (by omega) (by omega) (hnumbers v List.mem_cons_self)
        hshape.1 (endsNumber_itemChars l depth [] rest)
      have hclose : skip (l.itemChars depth [] ++ rest) = ']' :: rest := by
        rw [Layout.itemChars, List.append_assoc]
        exact skip_append_cons (l.isSpace_of_mem_gap depth) rfl rest
      exact items_last hvalue hclose
  | v :: w :: ws, n + 1, levels, depth, shape, place, rest, hn, hlevels, hnumbers, hshape, _, _,
      rfl => by
      rw [stepsItems] at hn
      rw [depthItems] at hlevels
      rw [Shape.SeesItems] at hshape
      obtain ⟨hfirst, hothers⟩ := List.forall_mem_cons.1 hnumbers
      have hvalue := value_chars l v n levels (depth + 1) (shape.item place)
        (l.itemChars depth (w :: ws) ++ rest) (by omega) (by omega) hfirst hshape.1
        (endsNumber_itemChars l depth (w :: ws) rest)
      have hrest := items_chars l (w :: ws) n levels depth shape (place + 1) rest
        (by omega) (by omega) hothers hshape.2 w ws rfl
      rw [← items_append (l.isSpace_of_mem_gap (depth + 1))] at hrest
      have hcomma : l.itemChars depth (w :: ws) ++ rest = ',' :: (l.gap (depth + 1) ++
          (l.chars (depth + 1) w ++ (l.itemChars depth ws ++ rest))) := by
        simp [Layout.itemChars]
      rw [hcomma] at hvalue ⊢
      exact items_more hvalue hrest

theorem fields_chars (l : Layout) : ∀ (es : List (String × Json)) (n levels depth : Nat)
    (shape : Shape) (rest : List Char), stepsFields es ≤ n → depthFields es ≤ levels →
      (∀ e ∈ es, e.2.NumbersReadBack) → shape.SeesFields es → ∀ k v es', es = (k, v) :: es' →
        fields n levels shape (quote k ++ ':' :: (l.behindColon ++
            (l.chars (depth + 1) v ++ (l.fieldChars depth es' ++ rest)))) =
          some ((k, v) :: es', rest)
  | e :: es, 0, _, _, _, _, hn, _, _, _, _, _, _, _ => by
      rw [stepsFields] at hn
      omega
  | [(k, v)], n + 1, levels, depth, shape, rest, hn, hlevels, hnumbers, hshape, _, _, _, rfl => by
      rw [stepsFields, stepsFields] at hn
      rw [depthFields] at hlevels
      rw [Shape.SeesFields] at hshape
      obtain ⟨⟨inner, hmember, hinner⟩, -⟩ := hshape
      have hvalue := value_chars l v n levels (depth + 1) inner (l.fieldChars depth [] ++ rest)
        (by omega) (by omega) (hnumbers (k, v) List.mem_cons_self) hinner
        (endsNumber_fieldChars l depth [] rest)
      rw [← value_append l.isSpace_of_mem_behindColon] at hvalue
      have hclose : skip (l.fieldChars depth [] ++ rest) = '\x7d' :: rest := by
        rw [Layout.fieldChars, List.append_assoc]
        exact skip_append_cons (l.isSpace_of_mem_gap depth) rfl rest
      obtain ⟨inside, hquote, hk⟩ := quoted_quote k (':' :: (l.behindColon ++
        (l.chars (depth + 1) v ++ (l.fieldChars depth [] ++ rest))))
      rw [hquote]
      exact fields_last hk hmember hvalue hclose
  | (k, v) :: (k', w) :: es, n + 1, levels, depth, shape, rest, hn, hlevels, hnumbers, hshape, _,
      _, _, rfl => by
      rw [stepsFields] at hn
      rw [depthFields] at hlevels
      rw [Shape.SeesFields] at hshape
      obtain ⟨⟨inner, hmember, hinner⟩, hshape⟩ := hshape
      obtain ⟨hfirst, hothers⟩ := List.forall_mem_cons.1 hnumbers
      have hvalue := value_chars l v n levels (depth + 1) inner
        (l.fieldChars depth ((k', w) :: es) ++ rest) (by omega) (by omega) hfirst hinner
        (endsNumber_fieldChars l depth ((k', w) :: es) rest)
      rw [← value_append l.isSpace_of_mem_behindColon] at hvalue
      have hrest := fields_chars l ((k', w) :: es) n levels depth shape rest
        (by omega) (by omega) hothers hshape k' w es rfl
      rw [← fields_append (l.isSpace_of_mem_gap (depth + 1))] at hrest
      have hcomma : l.fieldChars depth ((k', w) :: es) ++ rest = ',' :: (l.gap (depth + 1) ++
          (quote k' ++ ':' :: (l.behindColon ++
            (l.chars (depth + 1) w ++ (l.fieldChars depth es ++ rest))))) := by
        simp [Layout.fieldChars]
      obtain ⟨inside, hquote, hk⟩ := quoted_quote k (':' :: (l.behindColon ++
        (l.chars (depth + 1) v ++ (l.fieldChars depth ((k', w) :: es) ++ rest))))
      rw [hquote]
      rw [hcomma] at hvalue hk
      exact fields_more hk hmember hvalue hrest

end

/-! ### Enough steps -/

mutual

theorem steps_le_length (l : Layout) : ∀ (v : Json) (depth : Nat),
    steps v ≤ (l.chars depth v).length
  | .null, _ => by simp [steps, Layout.chars]
  | .bool true, _ => by simp [steps, Layout.chars]
  | .bool false, _ => by simp [steps, Layout.chars]
  | .number n, _ => by
      obtain ⟨c, cs, htext, -⟩ := numberText_eq_cons n
      simp [steps, Layout.chars, htext]
  | .string s, _ => by simp [steps, Layout.chars, quote]
  | .array [], _ => by simp [steps, stepsItems, Layout.chars]
  | .array (v :: vs), depth => by
      have hv := steps_le_length l v (depth + 1)
      have hvs := stepsItems_le_length l vs depth
      simp only [steps, stepsItems, Layout.chars, List.length_cons, List.length_append]
      omega
  | .object [], _ => by simp [steps, stepsFields, Layout.chars]
  | .object ((k, v) :: es), depth => by
      have hv := steps_le_length l v (depth + 1)
      have hes := stepsFields_le_length l es depth
      simp only [steps, stepsFields, Layout.chars, List.length_cons, List.length_append]
      omega

theorem stepsItems_le_length (l : Layout) : ∀ (vs : List Json) (depth : Nat),
    stepsItems vs + 1 ≤ (l.itemChars depth vs).length
  | [], _ => by simp [stepsItems, Layout.itemChars]
  | v :: vs, depth => by
      have hv := steps_le_length l v (depth + 1)
      have hvs := stepsItems_le_length l vs depth
      simp only [stepsItems, Layout.itemChars, List.length_cons, List.length_append]
      omega

theorem stepsFields_le_length (l : Layout) : ∀ (es : List (String × Json)) (depth : Nat),
    stepsFields es + 1 ≤ (l.fieldChars depth es).length
  | [], _ => by simp [stepsFields, Layout.fieldChars]
  | (k, v) :: es, depth => by
      have hv := steps_le_length l v (depth + 1)
      have hes := stepsFields_le_length l es depth
      simp only [stepsFields, Layout.fieldChars, List.length_cons, List.length_append]
      omega

end

end Parser

/-- A document reads back in any layout, with blanks behind it. -/
theorem parseCharsAs_chars (l : Layout) {shape : Shape} {v : Json} (blanks : List Char)
    (hdepth : v.depth ≤ maxDepth) (hnumbers : v.NumbersReadBack) (hshape : shape.Sees v)
    (hblanks : ∀ c ∈ blanks, Parser.isSpace c = true) :
    parseCharsAs shape (l.chars 0 v ++ blanks) = some v := by
  have hsteps : steps v ≤ 2 * (l.chars 0 v ++ blanks).length + 2 := by
    have := Parser.steps_le_length l v 0
    rw [List.length_append]
    omega
  have hend : Parser.EndsNumber blanks := fun c hc => .inl (hblanks c (List.mem_of_mem_head? hc))
  have hread := Parser.value_chars l v _ maxDepth 0 shape blanks hsteps hdepth hnumbers hshape
    hend
  have hrest : Parser.skip blanks = [] := by
    rw [← List.append_nil blanks, Parser.skip_append hblanks]
    rfl
  rw [parseCharsAs, hread]
  dsimp only
  rw [hrest]
  rfl

/-- **A document of a shape reads back** from its compact form. -/
theorem parseAs_render {shape : Shape} {v : Json} (hdepth : v.depth ≤ maxDepth)
    (hnumbers : v.NumbersReadBack) (hshape : shape.Sees v) : parseAs shape v.render = some v := by
  have hread := parseCharsAs_chars .compact [] hdepth hnumbers hshape (List.forall_mem_nil _)
  rwa [Layout.compact_chars, List.append_nil, ← String.toList_ofList (l := renderChars v)] at hread

mutual

theorem Shape.whole_sees : ∀ v : Json, Shape.whole.Sees v
  | .null => by rw [Shape.Sees]; trivial
  | .bool _ => by rw [Shape.Sees]; trivial
  | .number _ => by rw [Shape.Sees]; trivial
  | .string _ => by rw [Shape.Sees]; trivial
  | .array items => by
      rw [Shape.Sees]
      exact Shape.whole_seesItems 0 items
  | .object fields => by
      rw [Shape.Sees]
      exact Shape.whole_seesFields fields

theorem Shape.whole_seesItems : ∀ (place : Nat) (items : List Json), Shape.whole.SeesItems place items
  | _, [] => by rw [Shape.SeesItems]; trivial
  | place, v :: rest => by
      rw [Shape.SeesItems]
      exact ⟨Shape.whole_sees v, Shape.whole_seesItems (place + 1) rest⟩

theorem Shape.whole_seesFields : ∀ fields : List (String × Json), Shape.whole.SeesFields fields
  | [] => by rw [Shape.SeesFields]; trivial
  | (k, v) :: rest => by
      rw [Shape.SeesFields]
      exact ⟨⟨.whole, rfl, Shape.whole_sees v⟩, Shape.whole_seesFields rest⟩

end

/-- **A document reads back** from its compact form. -/
theorem parse_render {v : Json} (hdepth : v.depth ≤ maxDepth) (hnumbers : v.NumbersReadBack) :
    parse v.render = some v :=
  parseAs_render hdepth hnumbers (Shape.whole_sees v)

/-- A document reads back from its indented form with a line break behind it. -/
theorem parse_renderPretty_line {v : Json} (hdepth : v.depth ≤ maxDepth)
    (hnumbers : v.NumbersReadBack) : parse (v.renderPretty ++ "\n") = some v := by
  have hread := parseCharsAs_chars .indented ['\n'] hdepth hnumbers (Shape.whole_sees v) fun c hc =>
    (List.mem_singleton.1 hc) ▸ rfl
  have htext : (v.renderPretty ++ "\n").toList = prettyChars 0 v ++ ['\n'] := by
    rw [String.toList_append, renderPretty, String.toList_ofList]
    rfl
  rw [Layout.indented_chars] at hread
  rw [parse, parseAs, htext, hread]

/-! ### How deep a document that was read can be -/

/-- With so many steps, the readers return nothing deeper than their levels. -/
structure ReadsWithin (n : Nat) : Prop where
  /-- A document is no deeper than the levels. -/
  value : ∀ {levels shape cs v rest}, Parser.value n levels shape cs = some (v, rest) →
    v.depth ≤ levels
  /-- No item of an array is. -/
  items : ∀ {levels shape place cs vs rest},
    Parser.items n levels shape place cs = some (vs, rest) → depthItems vs ≤ levels
  /-- No field of an object is. -/
  fields : ∀ {levels shape cs es rest}, Parser.fields n levels shape cs = some (es, rest) →
    depthFields es ≤ levels

namespace ReadsWithin

variable {n levels place : Nat} {shape : Shape} {cs rest : List Char}

theorem zero : ReadsWithin 0 := by
  constructor
  · intro _ _ _ _ _ h
    rw [Parser.value] at h
    cases h
  · intro _ _ _ _ _ _ h
    rw [Parser.items] at h
    cases h
  · intro _ _ _ _ _ h
    rw [Parser.fields] at h
    cases h

theorem value_succ (ih : ReadsWithin n) {v : Json}
    (h : Parser.value (n + 1) levels shape cs = some (v, rest)) : v.depth ≤ levels := by
  rw [Parser.value] at h
  split at h
  · cases h
    simp [depth]
  · cases h
    simp [depth]
  · cases h
    simp [depth]
  · obtain ⟨_, _, h⟩ := Option.map_eq_some_iff.1 h
    cases h
    simp [depth]
  · split at h
    · cases h
    · split at h
      · cases h
        simp [depth, depthItems]
      · obtain ⟨⟨vs, rest'⟩, hitems, h⟩ := Option.map_eq_some_iff.1 h
        cases h
        have hdepth := ih.items hitems
        rw [depth]
        omega
  · split at h
    · cases h
    · split at h
      · cases h
        simp [depth, depthFields]
      · obtain ⟨⟨es, rest'⟩, hfields, h⟩ := Option.map_eq_some_iff.1 h
        cases h
        have hdepth := ih.fields hfields
        rw [depth]
        omega
  · obtain ⟨_, _, h⟩ := Option.map_eq_some_iff.1 h
    cases h
    simp [depth]

theorem items_succ (ih : ReadsWithin n) {vs : List Json}
    (h : Parser.items (n + 1) levels shape place cs = some (vs, rest)) :
    depthItems vs ≤ levels := by
  rw [Parser.items] at h
  split at h
  · cases h
  · next v _ hvalue =>
      have hfirst : v.depth ≤ levels := ih.value hvalue
      split at h
      · obtain ⟨⟨vs, rest'⟩, hitems, h⟩ := Option.map_eq_some_iff.1 h
        cases h
        have hrest := ih.items hitems
        rw [depthItems]
        omega
      · cases h
        rw [depthItems, depthItems]
        omega
      · cases h

theorem fields_succ (ih : ReadsWithin n) {es : List (String × Json)}
    (h : Parser.fields (n + 1) levels shape cs = some (es, rest)) :
    depthFields es ≤ levels := by
  rw [Parser.fields] at h
  dsimp only at h
  split at h
  · split at h
    · cases h
    · split at h
      · split at h
        · cases h
        · next entry _ hentry =>
            -- a member that the shape does not have leaves no entry
            have hfirst : depthFields entry ≤ levels := by
              split at hentry
              · obtain ⟨⟨v, rest'⟩, hvalue, hentry⟩ := Option.map_eq_some_iff.1 hentry
                cases hentry
                have hdepth := ih.value hvalue
                simp only [depthFields]
                omega
              · obtain ⟨_, _, hentry⟩ := Option.map_eq_some_iff.1 hentry
                cases hentry
                simp [depthFields]
            split at h
            · obtain ⟨⟨ds, rest'⟩, hfields, h⟩ := Option.map_eq_some_iff.1 h
              cases h
              have hrest := ih.fields hfields
              simp only [depthFields_append]
              omega
            · cases h
              exact hfirst
            · cases h
      · cases h
  · cases h

theorem succ (ih : ReadsWithin n) : ReadsWithin (n + 1) :=
  ⟨ih.value_succ, ih.items_succ, ih.fields_succ⟩

end ReadsWithin

theorem readsWithin (n : Nat) : ReadsWithin n := by
  induction n with
  | zero => exact .zero
  | succ n ih => exact ih.succ

/-- A document that was read is no deeper than the reader goes. -/
theorem depth_le_of_parseAs {shape : Shape} {text : String} {v : Json}
    (h : parseAs shape text = some v) : v.depth ≤ maxDepth := by
  rw [parseAs, parseCharsAs] at h
  split at h
  · next w rest hread =>
      have hdepth := (readsWithin _).value hread
      split at h
      · cases h
        exact hdepth
      · cases h
  · cases h

end StreamStore.Json
