import StreamStore.Json.Printer
import StreamStore.Proofs.CanonicalForm
import StreamStore.Proofs.ConstraintWords
import StreamStore.Proofs.JsonReadBack
import StreamStore.Proofs.RecordMembers
import StreamStore.Proofs.ShortNumbers

/-!
# The language of constraints

What documents are constraints is said here without a reader.  An object either
*connects* the items of a list, under its only key, or *compares* one column
(`Connects`, `Compares`), and never both; a document that does neither is malformed.
The language is built from these two (`Written`), and the nodes of a document are
visited from left to right, each before those below it (`Visits`).

The reader does one of three things with a document, according to its kind
(`ofJson_of_connects`, `ofJson_of_compares`, `ofJson_of_malformed`).  By induction on
the visit, it reads the constraint that is written when no node is malformed, and
otherwise reports the first one that is (`ofJson_eq_ok_iff`, `ofJson_eq_error_iff`).
A document is read in its canonical form and reported in it; what a key means in an
object as written and in its canonical form is the same.
-/

namespace StreamStore

/-- A scalar as a document. -/
def Scalar.toJson : Scalar → Json
  | text s => .string s
  | number n => .number n
  | bool b => .bool b

/-- The numbers in the fragment that a refused constraint is reported with. -/
def ConstraintFault.numbers : ConstraintFault → List JsonNumber
  | malformed part => part.canonical.numbers
  | notJson _ => []
  | stated _ => []

namespace Constraint

/-! ### Kinds of documents -/

/-- An object whose only key is the word of a connective and whose value is a list. -/
def Connects (v : Json) (connective : Connective) (items : List Json) : Prop :=
  ∃ fields key, v = .object fields ∧ (∀ e ∈ fields, e.1 = key) ∧
    SpelledAs connective.word key ∧ Json.lastOf? key fields = some (.array items)

/-- An object that compares a column with a scalar, or with each of a list of scalars;
other keys do not matter. -/
inductive Compares : Json → Constraint → Prop
  /-- A comparison with one scalar. -/
  | relation {fields : List (String × Json)} {column text : String} {r : Relation}
      {value : Scalar} : Json.lastOf? "column" fields = some (.string column) → column ≠ "" →
      Json.lastOf? "op" fields = some (.string text) → (Operator.relation r).NamedBy text →
      Json.lastOf? "$" fields = some value.toJson →
      Compares (.object fields) (.compare column r value)
  /-- Membership in a list of scalars. -/
  | member {fields : List (String × Json)} {column text : String} {values : List Scalar} :
      Json.lastOf? "column" fields = some (.string column) → column ≠ "" →
      Json.lastOf? "op" fields = some (.string text) → Operator.member.NamedBy text →
      Json.lastOf? "$" fields = some (.array (values.map Scalar.toJson)) →
      Compares (.object fields) (.member column values)

/-- A document that is neither of the two. -/
def Malformed (v : Json) : Prop :=
  (∀ connective items, ¬Connects v connective items) ∧ ∀ c, ¬Compares v c

mutual

/-- The language: which constraint a document writes. -/
inductive Written : Json → Constraint → Prop
  /-- A comparison. -/
  | compares {v : Json} {c : Constraint} : Compares v c → Written v c
  /-- A combination of what the items of a list write. -/
  | connects {v : Json} {connective : Connective} {items : List Json} {parts : List Constraint} :
      Connects v connective items → WrittenAll items parts → Written v (.combine connective parts)

/-- Which constraints a list of documents writes, in its order. -/
inductive WrittenAll : List Json → List Constraint → Prop
  /-- Nothing is written by no document. -/
  | nil : WrittenAll [] []
  /-- The first document writes the first constraint. -/
  | cons {v : Json} {c : Constraint} {rest : List Json} {parts : List Constraint} :
      Written v c → WrittenAll rest parts → WrittenAll (v :: rest) (c :: parts)

end

mutual

/-- The nodes of a document, each before those below it and from left to right. -/
inductive Visits : Json → List Json → Prop
  /-- A document that connects nothing has no node but itself. -/
  | node {v : Json} : (∀ connective items, ¬Connects v connective items) → Visits v [v]
  /-- Below a document that connects items stand the nodes of these. -/
  | connects {v : Json} {connective : Connective} {items below : List Json} :
      Connects v connective items → VisitsAll items below → Visits v (v :: below)

/-- The nodes of a list of documents. -/
inductive VisitsAll : List Json → List Json → Prop
  /-- No document, no node. -/
  | nil : VisitsAll [] []
  /-- The nodes of the first document come first. -/
  | cons {v : Json} {rest first others : List Json} :
      Visits v first → VisitsAll rest others → VisitsAll (v :: rest) (first ++ others)

end

/-- The first node of a document that is malformed. -/
def FirstMalformed (v node : Json) : Prop :=
  ∃ before after, Visits v (before ++ node :: after) ∧ (∀ n ∈ before, ¬Malformed n) ∧
    Malformed node

/-! ### Comparisons -/

theorem ofJson?_eq_some_iff {v : Json} {s : Scalar} : Scalar.ofJson? v = some s ↔ v = s.toJson := by
  cases v <;> cases s <;> simp [Scalar.ofJson?, Scalar.toJson]

theorem mapM_ofJson?_eq_some_iff {items : List Json} {values : List Scalar} :
    items.mapM Scalar.ofJson? = some values ↔ items = values.map Scalar.toJson := by
  constructor
  · intro h
    induction items generalizing values with
    | nil =>
        cases h
        rfl
    | cons v items ih =>
        obtain ⟨s, rest, hs, hrest, rfl⟩ := mapM_cons_eq_some.1 h
        rw [List.map_cons, ← ofJson?_eq_some_iff.1 hs, ← ih hrest]
  · rintro rfl
    exact mapM_map_eq_some fun s _ => ofJson?_eq_some_iff.2 rfl

theorem string?_eq_some_iff {v : Json} {s : String} : v.string? = some s ↔ v = .string s := by
  cases v <;> simp [Json.string?]

theorem array?_eq_some_iff {v : Json} {items : List Json} :
    v.array? = some items ↔ v = .array items := by
  cases v <;> simp [Json.array?]

/-- The comparison that fields describe is the one that their object writes. -/
theorem comparison?_eq_some_iff {fields : List (String × Json)} {c : Constraint} :
    comparison? fields = some c ↔ Compares (.object fields) c := by
  constructor
  · intro h
    simp only [comparison?, Option.bind_eq_bind, Option.bind_eq_some_iff] at h
    obtain ⟨columnJson, hcolumnJson, column, hcolumn, opJson, hopJson, text, htext, o, ho, value,
      hvalue, hread⟩ := h
    obtain rfl := string?_eq_some_iff.1 hcolumn
    obtain rfl := string?_eq_some_iff.1 htext
    rw [Operator.parse?_eq_some_iff] at ho
    split at hread
    · cases hread
    · next hempty =>
        have hne : column ≠ "" := by
          rintro rfl
          exact hempty rfl
        cases o with
        | relation r =>
            obtain ⟨s, hs, rfl⟩ := Option.map_eq_some_iff.1 hread
            obtain rfl := ofJson?_eq_some_iff.1 hs
            exact .relation hcolumnJson hne hopJson ho hvalue
        | member =>
            simp only [Option.bind_eq_some_iff] at hread
            obtain ⟨items, hitems, values, hvalues, hc⟩ := hread
            obtain rfl := array?_eq_some_iff.1 hitems
            obtain rfl := mapM_ofJson?_eq_some_iff.1 hvalues
            cases hc
            exact .member hcolumnJson hne hopJson ho hvalue
  · intro h
    cases h with
    | @relation _ column text r value hcolumn hne hop ho hvalue =>
        have hoperator := Operator.parse?_eq_some_iff.2 ho
        have hscalar : Scalar.ofJson? value.toJson = some value := ofJson?_eq_some_iff.2 rfl
        simp [comparison?, hcolumn, hop, hvalue, Json.string?, hoperator, hne, hscalar]
    | @member _ column text values hcolumn hne hop ho hvalue =>
        have hoperator := Operator.parse?_eq_some_iff.2 ho
        have hscalars := mapM_ofJson?_eq_some_iff.2 (rfl : values.map Scalar.toJson = _)
        simp [comparison?, hcolumn, hop, hvalue, Json.string?, Json.array?, hoperator,
          hne, hscalars]

/-! ### Kinds in canonical form -/

theorem canonical_object (fields : List (String × Json)) :
    (Json.object fields).canonical = .object (Json.sortFields (Json.canonicalFields fields)) := by
  rw [Json.canonical]

theorem canonical_eq_string_iff {v : Json} {s : String} :
    v.canonical = .string s ↔ v = .string s := by
  cases v <;> simp [Json.canonical]

theorem canonical_eq_toJson_iff {v : Json} {s : Scalar} :
    v.canonical = s.toJson ↔ v = s.toJson := by
  cases v <;> cases s <;> simp [Json.canonical, Scalar.toJson]

theorem canonicalItems_eq_map_toJson_iff {items : List Json} {values : List Scalar} :
    Json.canonicalItems items = values.map Scalar.toJson ↔ items = values.map Scalar.toJson := by
  induction items generalizing values with
  | nil => rw [Json.canonicalItems]
  | cons v items ih =>
      cases values with
      | nil => simp [Json.canonicalItems]
      | cons s values =>
          rw [Json.canonicalItems, List.map_cons, List.cons.injEq, List.cons.injEq, ih,
            canonical_eq_toJson_iff]

theorem canonical_eq_array_iff {v : Json} {items : List Json} :
    v.canonical = .array items ↔ ∃ raw, v = .array raw ∧ Json.canonicalItems raw = items := by
  cases v <;> simp [Json.canonical]

theorem canonical_eq_scalars_iff {v : Json} {values : List Scalar} :
    v.canonical = .array (values.map Scalar.toJson) ↔ v = .array (values.map Scalar.toJson) := by
  rw [canonical_eq_array_iff]
  constructor
  · rintro ⟨items, rfl, hitems⟩
    rw [canonicalItems_eq_map_toJson_iff.1 hitems]
  · rintro rfl
    exact ⟨_, rfl, canonicalItems_eq_map_toJson_iff.2 rfl⟩

/-- What a key means is the same in the canonical form, if nothing else has its canonical
form. -/
theorem lastOf?_canonical_iff {fields : List (String × Json)} {k : String} {v : Json}
    (h : ∀ raw : Json, raw.canonical = v ↔ raw = v) :
    Json.lastOf? k (Json.sortFields (Json.canonicalFields fields)) = some v ↔
      Json.lastOf? k fields = some v := by
  rw [Json.lastOf?_sortFields, Json.lastOf?_canonicalFields, Option.map_eq_some_iff]
  simp only [h, exists_eq_right]

/-- A document compares what its canonical form compares. -/
theorem compares_canonical_iff {v : Json} {c : Constraint} :
    Compares v.canonical c ↔ Compares v c := by
  cases v with
  | object fields =>
      have htext : ∀ k s, Json.lastOf? k (Json.sortFields (Json.canonicalFields fields)) =
          some (.string s) ↔ Json.lastOf? k fields = some (.string s) := fun k s =>
        lastOf?_canonical_iff fun raw => canonical_eq_string_iff
      have hscalar : ∀ k (s : Scalar),
          Json.lastOf? k (Json.sortFields (Json.canonicalFields fields)) = some s.toJson ↔
            Json.lastOf? k fields = some s.toJson := fun k s =>
        lastOf?_canonical_iff fun raw => canonical_eq_toJson_iff
      have hscalars : ∀ k (values : List Scalar),
          Json.lastOf? k (Json.sortFields (Json.canonicalFields fields)) =
              some (.array (values.map Scalar.toJson)) ↔
            Json.lastOf? k fields = some (.array (values.map Scalar.toJson)) := fun k values =>
        lastOf?_canonical_iff fun raw => canonical_eq_scalars_iff
      rw [canonical_object]
      constructor
      · intro h
        cases h with
        | relation hcolumn hne hop ho hvalue =>
            exact .relation ((htext _ _).1 hcolumn) hne ((htext _ _).1 hop) ho
              ((hscalar _ _).1 hvalue)
        | member hcolumn hne hop ho hvalue =>
            exact .member ((htext _ _).1 hcolumn) hne ((htext _ _).1 hop) ho
              ((hscalars _ _).1 hvalue)
      · intro h
        cases h with
        | relation hcolumn hne hop ho hvalue =>
            exact .relation ((htext _ _).2 hcolumn) hne ((htext _ _).2 hop) ho
              ((hscalar _ _).2 hvalue)
        | member hcolumn hne hop ho hvalue =>
            exact .member ((htext _ _).2 hcolumn) hne ((htext _ _).2 hop) ho
              ((hscalars _ _).2 hvalue)
  | array items =>
      rw [Json.canonical]
      exact iff_of_false (fun h => nomatch h) fun h => nomatch h
  | null | bool _ | number _ | string _ => rw [Json.canonical]

/-- The canonical form of a document that connects items has one field. -/
theorem Connects.canonical_eq {v : Json} {connective : Connective} {items : List Json}
    (h : Connects v connective items) :
    ∃ key, Connective.ofKey? key = some connective ∧
      v.canonical = .object [(key, .array (Json.canonicalItems items))] := by
  obtain ⟨fields, key, rfl, hkeys, hword, hvalue⟩ := h
  refine ⟨key, Connective.ofKey?_eq_some_iff.2 hword, ?_⟩
  have hone : Json.sortFields (Json.canonicalFields fields) =
      [(key, .array (Json.canonicalItems items))] := by
    refine Json.sortFields_eq_singleton_iff.2 ⟨?_, ?_⟩
    · intro e he
      rw [Json.canonicalFields_eq_map] at he
      obtain ⟨raw, hraw, rfl⟩ := List.mem_map.1 he
      exact hkeys raw hraw
    · rw [Json.lastOf?_canonicalFields, hvalue, Option.map_some, Json.canonical]
  rw [canonical_object, hone]

/-- A document whose canonical form has one field connects the items of this field, if
its key is the word of a connective. -/
theorem connects_of_canonical_eq {v : Json} {connective : Connective} {key : String}
    {items : List Json} (hkey : Connective.ofKey? key = some connective)
    (h : v.canonical = .object [(key, .array items)]) : ∃ raw, Connects v connective raw := by
  cases v with
  | object fields =>
      rw [canonical_object, Json.object.injEq, Json.sortFields_eq_singleton_iff,
        Json.lastOf?_canonicalFields, Option.map_eq_some_iff] at h
      obtain ⟨hkeys, value, hvalue, hcanonical⟩ := h
      obtain ⟨raw, rfl, -⟩ := canonical_eq_array_iff.1 hcanonical
      refine ⟨raw, fields, key, rfl, ?_, Connective.ofKey?_eq_some_iff.1 hkey, hvalue⟩
      intro e he
      have hmem : (e.1, e.2.canonical) ∈ Json.canonicalFields fields := by
        rw [Json.canonicalFields_eq_map]
        exact List.mem_map_of_mem he
      exact hkeys (e.1, e.2.canonical) hmem
  | _ =>
      rw [Json.canonical] at h
      cases h

/-- An object that compares a column has two keys, and connects nothing. -/
theorem Compares.not_connects {v : Json} {c : Constraint} (h : Compares v c)
    (connective : Connective) (items : List Json) : ¬Connects v connective items := by
  rintro ⟨fields, key, rfl, hkeys, -, -⟩
  have hboth : ∃ column text, Json.lastOf? "column" fields = some (.string column) ∧
      Json.lastOf? "op" fields = some (.string text) := by
    cases h with
    | relation hcolumn _ hop _ _ => exact ⟨_, _, hcolumn, hop⟩
    | member hcolumn _ hop _ _ => exact ⟨_, _, hcolumn, hop⟩
  obtain ⟨column, text, hcolumn, hop⟩ := hboth
  have hfirst : "column" = key := hkeys _ (Json.mem_of_lastOf? hcolumn)
  have hsecond : "op" = key := hkeys _ (Json.mem_of_lastOf? hop)
  exact absurd (hfirst.trans hsecond.symm) (by decide)

/-! ### One step of the reader -/

/-- Reads the documents of a list, the first malformed one being reported. -/
def ofJsons (items : List Json) : Except ConstraintFault (List Constraint) :=
  ofItems (Json.canonicalItems items)

theorem ofJsons_cons_of_ok {v : Json} {c : Constraint} (h : ofJson v = .ok c) (rest : List Json) :
    ofJsons (v :: rest) = (ofJsons rest).map fun cs => c :: cs := by
  rw [ofJson] at h
  rw [ofJsons, Json.canonicalItems, ofItems, h, ofJsons]
  cases ofItems (Json.canonicalItems rest) <;> rfl

theorem ofJsons_cons_of_error {v : Json} {e : ConstraintFault} (h : ofJson v = .error e)
    (rest : List Json) : ofJsons (v :: rest) = .error e := by
  rw [ofJson] at h
  rw [ofJsons, Json.canonicalItems, ofItems, h]

theorem ofJson_of_connects {v : Json} {connective : Connective} {items : List Json}
    (h : Connects v connective items) :
    ofJson v = (ofJsons items).map fun parts => .combine connective parts := by
  obtain ⟨key, hkey, hcanonical⟩ := h.canonical_eq
  rw [ofJson, hcanonical, ofCanonical, hkey, ofJsons]
  cases ofItems (Json.canonicalItems items) <;> rfl

/-- An object that connects nothing is read as a comparison. -/
theorem ofJson_object_of_not_connects {fields : List (String × Json)}
    (h : ∀ connective items, ¬Connects (.object fields) connective items) :
    ofJson (.object fields) = comparison (Json.sortFields (Json.canonicalFields fields)) := by
  rw [ofJson, canonical_object, ofCanonical.eq_def]
  split
  · next key items heq =>
      rw [Json.object.injEq] at heq
      split
      · next connective hkey =>
          obtain ⟨raw, hraw⟩ := connects_of_canonical_eq (v := .object fields) hkey
            (by rw [canonical_object, heq])
          exact absurd hraw (h connective raw)
      · rw [heq]
  · next heq =>
      rw [Json.object.injEq] at heq
      rw [heq]
  all_goals
    next heq => cases heq

theorem ofJson_of_compares {v : Json} {c : Constraint} (h : Compares v c) : ofJson v = .ok c := by
  cases v with
  | object fields =>
      have hcanonical := compares_canonical_iff.2 h
      rw [canonical_object, ← comparison?_eq_some_iff] at hcanonical
      rw [ofJson_object_of_not_connects h.not_connects, comparison, hcanonical]
  | _ => cases h

theorem ofJson_of_malformed {v : Json} (h : Malformed v) :
    ofJson v = .error (.malformed v.canonical) := by
  cases v with
  | object fields =>
      have hnone : comparison? (Json.sortFields (Json.canonicalFields fields)) = none := by
        rw [Option.eq_none_iff_forall_ne_some]
        intro c hc
        rw [comparison?_eq_some_iff, ← canonical_object, compares_canonical_iff] at hc
        exact h.2 c hc
      rw [ofJson_object_of_not_connects h.1, comparison, hnone, canonical_object]
  | array items => rw [ofJson, Json.canonical, ofCanonical]
  | _ => rw [ofJson, Json.canonical, ofCanonical]

/-! ### Reading along a visit -/

mutual

/-- What is written is read. -/
theorem ofJson_of_written : ∀ {v : Json} {c : Constraint}, Written v c → ofJson v = .ok c
  | _, _, .compares h => ofJson_of_compares h
  | _, _, .connects h hparts => by
      rw [ofJson_of_connects h, ofJsons_of_written hparts]
      rfl

theorem ofJsons_of_written : ∀ {items : List Json} {parts : List Constraint},
    WrittenAll items parts → ofJsons items = .ok parts
  | _, _, .nil => rfl
  | _, _, .cons h hrest => by
      rw [ofJsons_cons_of_ok (ofJson_of_written h), ofJsons_of_written hrest]
      rfl

end

mutual

/-- A document without a malformed node writes a constraint. -/
theorem exists_written : ∀ {v : Json} {nodes : List Json}, Visits v nodes →
    (∀ n ∈ nodes, ¬Malformed n) → ∃ c, Written v c
  | v, _, .node h, hgood => by
      have hcompares : ∃ c, Compares v c := by
        by_contra hnone
        exact hgood v List.mem_cons_self ⟨h, not_exists.1 hnone⟩
      obtain ⟨c, hc⟩ := hcompares
      exact ⟨c, .compares hc⟩
  | _, _, .connects h hitems, hgood => by
      obtain ⟨parts, hparts⟩ := exists_writtenAll hitems (List.forall_mem_cons.1 hgood).2
      exact ⟨_, .connects h hparts⟩

theorem exists_writtenAll : ∀ {items nodes : List Json}, VisitsAll items nodes →
    (∀ n ∈ nodes, ¬Malformed n) → ∃ parts, WrittenAll items parts
  | _, _, .nil, _ => ⟨[], .nil⟩
  | _, _, .cons hfirst hrest, hgood => by
      obtain ⟨hgoodFirst, hgoodRest⟩ := List.forall_mem_append.1 hgood
      obtain ⟨c, hc⟩ := exists_written hfirst hgoodFirst
      obtain ⟨parts, hparts⟩ := exists_writtenAll hrest hgoodRest
      exact ⟨c :: parts, .cons hc hparts⟩

end

mutual

/-- The first malformed node is the one reported. -/
theorem ofJson_of_visits : ∀ {v : Json} {nodes : List Json}, Visits v nodes →
    ∀ {before node after}, nodes = before ++ node :: after → (∀ n ∈ before, ¬Malformed n) →
      Malformed node → ofJson v = .error (.malformed node.canonical)
  | v, _, .node h, before, node, after, hnodes, hgood, hbad => by
      cases before with
      | nil =>
          obtain rfl := (List.cons.inj hnodes).1
          exact ofJson_of_malformed hbad
      | cons n before =>
          have hnil := (List.cons.inj hnodes).2
          simp at hnil
  | v, _, .connects h hitems, before, node, after, hnodes, hgood, hbad => by
      cases before with
      | nil =>
          obtain rfl := (List.cons.inj hnodes).1
          exact absurd h (hbad.1 _ _)
      | cons n before =>
          have hbelow := ofJsons_of_visits hitems (List.cons.inj hnodes).2
            (List.forall_mem_cons.1 hgood).2 hbad
          rw [ofJson_of_connects h, hbelow]
          rfl

theorem ofJsons_of_visits : ∀ {items nodes : List Json}, VisitsAll items nodes →
    ∀ {before node after}, nodes = before ++ node :: after → (∀ n ∈ before, ¬Malformed n) →
      Malformed node → ofJsons items = .error (.malformed node.canonical)
  | _, _, .nil, before, _, _, hnodes, _, _ => by simp at hnodes
  | _, _, .cons hfirst hrest, before, node, after, hnodes, hgood, hbad => by
      rcases List.append_eq_append_iff.1 hnodes with ⟨middle, hbefore, hothers⟩ | ⟨middle, hf, ha⟩
      -- the node stands behind the nodes of the first document, which writes a constraint
      · obtain ⟨hgoodFirst, hgoodMiddle⟩ := List.forall_mem_append.1 (hbefore ▸ hgood)
        obtain ⟨c, hc⟩ := exists_written hfirst hgoodFirst
        rw [ofJsons_cons_of_ok (ofJson_of_written hc), ofJsons_of_visits hrest hothers hgoodMiddle hbad]
        rfl
      · cases middle with
        | nil =>
            have hgoodFirst := (List.append_nil before ▸ hf) ▸ hgood
            obtain ⟨c, hc⟩ := exists_written hfirst hgoodFirst
            have hothers := @ofJsons_of_visits _ _ hrest [] node after ha.symm (by simp) hbad
            rw [ofJsons_cons_of_ok (ofJson_of_written hc), hothers]
            rfl
        | cons n middle =>
            obtain rfl := (List.cons.inj ha).1
            exact ofJsons_cons_of_error (ofJson_of_visits hfirst hf hgood hbad) _

end

/-! ### Every document is visited -/

theorem Connects.depth_lt {v : Json} {connective : Connective} {items : List Json}
    (h : Connects v connective items) : Json.depthItems items < v.depth := by
  obtain ⟨fields, key, rfl, -, -, hvalue⟩ := h
  have hfield := Json.depth_le_depthFields (Json.mem_of_lastOf? hvalue)
  rw [Json.depth] at hfield
  rw [Json.depth]
  omega

theorem exists_visitsAll {n : Nat} (hvisits : ∀ v : Json, v.depth ≤ n → ∃ nodes, Visits v nodes) :
    ∀ items : List Json, Json.depthItems items ≤ n → ∃ nodes, VisitsAll items nodes
  | [], _ => ⟨[], .nil⟩
  | v :: rest, h => by
      rw [Json.depthItems] at h
      obtain ⟨first, hfirst⟩ := hvisits v (by omega)
      obtain ⟨others, hothers⟩ := exists_visitsAll hvisits rest (by omega)
      exact ⟨first ++ others, .cons hfirst hothers⟩

theorem exists_visits (v : Json) : ∃ nodes, Visits v nodes := by
  have hbounded : ∀ n (w : Json), w.depth ≤ n → ∃ nodes, Visits w nodes := by
    intro n
    induction n with
    | zero =>
        intro w hw
        refine ⟨[w], .node fun connective items h => ?_⟩
        have := h.depth_lt
        omega
    | succ n ih =>
        intro w hw
        by_cases h : ∃ connective items, Connects w connective items
        · obtain ⟨connective, items, hconnects⟩ := h
          have hlt := hconnects.depth_lt
          obtain ⟨below, hbelow⟩ := exists_visitsAll ih items (by omega)
          exact ⟨w :: below, .connects hconnects hbelow⟩
        · exact ⟨[w], .node fun connective items hconnects => h ⟨connective, items, hconnects⟩⟩
  exact hbounded v.depth v (Nat.le_refl _)

/-- Every document either writes a constraint or has a first malformed node. -/
theorem written_or_firstMalformed (v : Json) :
    (∃ c, Written v c) ∨ ∃ node, FirstMalformed v node := by
  obtain ⟨nodes, hnodes⟩ := exists_visits v
  by_cases hgood : ∀ n ∈ nodes, ¬Malformed n
  · exact .inl (exists_written hnodes hgood)
  · classical
    obtain ⟨n, hn⟩ := not_forall.1 hgood
    obtain ⟨hn, hbad⟩ := Classical.not_imp.1 hn
    have hsome : (nodes.find? fun n => decide (Malformed n)).isSome = true :=
      List.find?_isSome.2 ⟨n, hn, decide_eq_true (not_not.1 hbad)⟩
    obtain ⟨node, hnode⟩ := Option.isSome_iff_exists.1 hsome
    obtain ⟨hbad, before, after, rfl, hbefore⟩ := List.find?_eq_some_iff_append.1 hnode
    refine .inr ⟨node, before, after, hnodes, ?_, of_decide_eq_true hbad⟩
    intro m hm
    simpa using hbefore m hm

theorem ofJson_of_firstMalformed {v node : Json} (h : FirstMalformed v node) :
    ofJson v = .error (.malformed node.canonical) := by
  obtain ⟨before, after, hvisits, hgood, hbad⟩ := h
  exact ofJson_of_visits hvisits rfl hgood hbad

/-- A document is read as a constraint exactly when it writes this constraint. -/
theorem ofJson_eq_ok_iff {v : Json} {c : Constraint} : ofJson v = .ok c ↔ Written v c := by
  refine ⟨fun h => ?_, ofJson_of_written⟩
  rcases written_or_firstMalformed v with ⟨d, hd⟩ | ⟨node, hnode⟩
  · rw [ofJson_of_written hd] at h
    obtain rfl := Except.ok.inj h
    exact hd
  · rw [ofJson_of_firstMalformed hnode] at h
    cases h

/-- A document is refused exactly for its first malformed node. -/
theorem ofJson_eq_error_iff {v : Json} {e : ConstraintFault} :
    ofJson v = .error e ↔ ∃ node, FirstMalformed v node ∧ e = .malformed node.canonical := by
  constructor
  · intro h
    rcases written_or_firstMalformed v with ⟨c, hc⟩ | ⟨node, hnode⟩
    · rw [ofJson_of_written hc] at h
      cases h
    · rw [ofJson_of_firstMalformed hnode] at h
      exact ⟨node, hnode, (Except.error.inj h).symm⟩
  · rintro ⟨node, hnode, rfl⟩
    exact ofJson_of_firstMalformed hnode

/-! ### What was reported, read again -/

mutual

/-- A node is no deeper than the document. -/
theorem depth_le_of_visits : ∀ {v : Json} {nodes : List Json}, Visits v nodes →
    ∀ n ∈ nodes, n.depth ≤ v.depth
  | _, _, .node _, n, hn => by
      obtain rfl := List.mem_singleton.1 hn
      exact Nat.le_refl _
  | _, _, .connects h hitems, n, hn => by
      rcases List.mem_cons.1 hn with rfl | hn
      · exact Nat.le_refl _
      · have hbelow := depth_le_of_visitsAll hitems n hn
        have hlt := h.depth_lt
        omega

theorem depth_le_of_visitsAll : ∀ {items nodes : List Json}, VisitsAll items nodes →
    ∀ n ∈ nodes, n.depth ≤ Json.depthItems items
  | _, _, .nil, n, hn => by cases hn
  | _, _, .cons hfirst hrest, n, hn => by
      rw [Json.depthItems]
      rcases List.mem_append.1 hn with hn | hn
      · have hv := depth_le_of_visits hfirst n hn
        omega
      · have hothers := depth_le_of_visitsAll hrest n hn
        omega

end

/-- A malformed document is malformed in its canonical form. -/
theorem ofJson_canonical_of_malformed {v : Json} (h : Malformed v) :
    ofJson v.canonical = .error (.malformed v.canonical) := by
  rw [ofJson, Json.canonical_canonical, ← ofJson, ofJson_of_malformed h]

/-- The fragment that the text of a document is refused with is refused with itself. -/
theorem parse_message_of_parse {text : String} {v : Json} {e : ConstraintFault}
    (hdocument : Json.parse text = some v) (hrefused : parse text = .error e)
    (hnumbers : ∀ n ∈ e.numbers, n.ReadsBack) : parse e.message = .error e := by
  rw [parse, hdocument] at hrefused
  obtain ⟨node, ⟨before, after, hvisits, -, hbad⟩, rfl⟩ := ofJson_eq_error_iff.1 hrefused
  have hdepth : node.canonical.depth ≤ Json.maxDepth := by
    calc node.canonical.depth ≤ node.depth := Json.depth_canonical_le node
      _ ≤ v.depth := depth_le_of_visits hvisits node (by simp)
      _ ≤ Json.maxDepth := Json.depth_le_of_parseAs hdocument
  have hmessage : (ConstraintFault.malformed node.canonical).message = node.canonical.render := by
    rw [ConstraintFault.message, Json.canonical_canonical]
  have hfragment : node.canonical.NumbersReadBack := by
    rw [ConstraintFault.numbers, Json.canonical_canonical] at hnumbers
    exact hnumbers
  rw [hmessage, parse, Json.parse_render hdepth hfragment]
  exact ofJson_canonical_of_malformed hbad

/-- A refused constraint is reported as a syntax error with its wording. -/
theorem accessError_message (e : ConstraintFault) :
    (AccessError.constraint e).message = "[HBA-002] Syntax error in query " ++ e.message := by
  have hprefix : "[" ++ "HBA-002" ++ "] " ++ "Syntax error in query " =
      "[HBA-002] Syntax error in query " := by decide
  rw [← hprefix, String.append_assoc]
  rfl

end Constraint

/-- **The reader of constraints recognizes exactly the language.**  A document is read
as a constraint if and only if it writes it, with the parts and the scalars in the order
of the document.  Otherwise the fault is the syntax fault whose text is the compact form
of the first malformed node, the outer before the inner and from left to right.  And
whatever text of a document is refused, the fragment in its fault is refused in turn
with the same fault, provided that the numbers in the fragment read back, as integers
and doubles with short decimals do. -/
theorem constraint_language_recognized :
    (∀ (v : Json) (c : Constraint), Constraint.ofJson v = .ok c ↔ Constraint.Written v c) ∧
      (∀ (v : Json) (e : ConstraintFault), Constraint.ofJson v = .error e ↔
        ∃ node, Constraint.FirstMalformed v node ∧ e = .malformed node.canonical ∧
          (AccessError.constraint e).message =
            "[HBA-002] Syntax error in query " ++ node.canonical.render) ∧
      ∀ (text : String) (v : Json) (e : ConstraintFault), Json.parse text = some v →
        Constraint.parse text = .error e → (∀ n ∈ e.numbers, n.ReadsBack) →
          Constraint.parse e.message = .error e := by
  refine ⟨fun v c => Constraint.ofJson_eq_ok_iff, fun v e => ?_,
    fun text v e => Constraint.parse_message_of_parse⟩
  rw [Constraint.ofJson_eq_error_iff]
  constructor
  · rintro ⟨node, hnode, rfl⟩
    refine ⟨node, hnode, rfl, ?_⟩
    rw [Constraint.accessError_message, ConstraintFault.message, Json.canonical_canonical]
  · rintro ⟨node, hnode, he, -⟩
    exact ⟨node, hnode, he⟩

/-- A conjunction whose second part has a key beside `OR`, twice. -/
def refusedConstraint : String :=
  "\x7b\"And\":[\x7b\"column\":\"t\",\"op\":\" in\",\"$\":[1]\x7d,\x7b\"x\":2,\"OR\":[],\"x\":5e-1\x7d]\x7d"

/-- The double that stands there. -/
def oneHalf : Binary64 :=
  ⟨false, 4503599627370496, -53, by decide⟩

theorem refusedConstraint_fragment :
    ∃ v e, Json.parse refusedConstraint = some v ∧ Constraint.parse refusedConstraint = .error e ∧
      e.message = "\x7b\"OR\":[],\"x\":0.5\x7d" ∧ (∀ n ∈ e.numbers, n.ReadsBack) ∧
        Constraint.parse e.message = .error e := by
  have hdocument : (Json.parse refusedConstraint).isSome = true := by decide +kernel
  have hfault : ((Constraint.parse refusedConstraint).mapError fun e => (e.message, e.numbers)).map
      (fun _ => ()) = .error ("\x7b\"OR\":[],\"x\":0.5\x7d", [.double oneHalf]) := by
    decide +kernel
  have hhalf : (JsonNumber.double oneHalf).ReadsBack :=
    JsonNumber.readsBack_of_short (by decide) (by decide +kernel)
  obtain ⟨v, hv⟩ := Option.isSome_iff_exists.1 hdocument
  cases hrefused : Constraint.parse refusedConstraint with
  | ok c =>
      rw [hrefused] at hfault
      cases hfault
  | error e =>
      rw [hrefused] at hfault
      obtain ⟨hmessage, hnumbers⟩ := Prod.mk.inj (Except.error.inj hfault)
      have hback : ∀ n ∈ e.numbers, n.ReadsBack := by
        rw [hnumbers, List.forall_mem_singleton]
        exact hhalf
      exact ⟨v, e, hv, rfl, hmessage, hback,
        constraint_language_recognized.2.2 refusedConstraint v e hv hrefused hback⟩

end StreamStore
