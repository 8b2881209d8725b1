import StreamStore.Filter
import StreamStore.Proofs.Base64

/-!
# What constraints mean

`Constraint.Holds` says when the contents of a row satisfy a constraint, with
contents given as a function from columns to stored values.  Three conventions
are visible in it: a comparison holds of a column that is not stored, an empty
list of members or of alternatives holds, and texts are compared by their bytes.

A backend evaluates filters, not constraints.  `accepts_compile` is the bridge:
the filter that a constraint compiles to passes exactly the rows whose contents
satisfy the constraint, where the contents of a column are what the row has under
the column's qualifier.  Column names survive the base64 form in which filters
carry them.  Since the meaning of a constraint can be decided, the same reads as an
equation (`accepts_compile_eq_decide`).
-/

namespace StreamStore

open Text

/-- Whether the bytes of a value stand in a relation to the bytes of a text. -/
def Relation.Holds (r : Relation) (value text : String) : Prop :=
  match r with
  | less => bytesOf value < bytesOf text
  | lessOrEqual => bytesOf value ≤ bytesOf text
  | greater => bytesOf text < bytesOf value
  | greaterOrEqual => bytesOf text ≤ bytesOf value
  | equal => bytesOf value = bytesOf text
  | notEqual => bytesOf value ≠ bytesOf text

namespace Constraint

mutual

/-- Whether contents satisfy a constraint. -/
def Holds (stored? : String → Option String) : Constraint → Prop
  | .compare column relation value =>
      ∀ v, stored? column = some v → relation.Holds v value.spelling
  | .member column values =>
      ∀ v, stored? column = some v → values = [] ∨ ∃ x ∈ values, Relation.equal.Holds v x.spelling
  | .combine .all parts => HoldsAll stored? parts
  | .combine .any parts => parts = [] ∨ HoldsSome stored? parts

/-- Whether contents satisfy every constraint of a list. -/
def HoldsAll (stored? : String → Option String) : List Constraint → Prop
  | [] => True
  | k :: rest => Holds stored? k ∧ HoldsAll stored? rest

/-- Whether contents satisfy some constraint of a list. -/
def HoldsSome (stored? : String → Option String) : List Constraint → Prop
  | [] => False
  | k :: rest => Holds stored? k ∨ HoldsSome stored? rest

end

end Constraint

/-! ### Relations between texts -/

theorem Text.bytesOf_inj {s t : String} (h : bytesOf s = bytesOf t) : s = t := by
  have hread := textOf?_bytesOf s
  rw [h, textOf?_bytesOf] at hread
  exact (Option.some.inj hread).symm

theorem Text.bytesOf_le_iff {s t : String} : bytesOf s ≤ bytesOf t ↔ s < t ∨ s = t := by
  show ¬bytesOf t < bytesOf s ↔ _
  rw [bytesOf_lt_iff]
  constructor
  · intro h
    by_cases heq : s = t
    · exact .inr heq
    · exact .inl (SortedMap.lt_of_not_lt_of_ne h (Ne.symm heq))
  · rintro (h | rfl) hlt
    · exact String.lt_irrefl _ (String.lt_trans h hlt)
    · exact String.lt_irrefl _ hlt

/-- A comparison computes the relation between the bytes. -/
theorem Relation.holds_iff {r : Relation} {value text : String} :
    r.holds value text = true ↔ r.Holds value text := by
  have heq : value = text ↔ bytesOf value = bytesOf text := ⟨congrArg bytesOf, bytesOf_inj⟩
  cases r with
  | less => exact decide_eq_true_iff.trans bytesOf_lt_iff.symm
  | lessOrEqual =>
      rw [holds, Bool.or_eq_true, decide_eq_true_iff, beq_iff_eq]
      exact bytesOf_le_iff.symm
  | greater => exact decide_eq_true_iff.trans bytesOf_lt_iff.symm
  | greaterOrEqual =>
      rw [holds, Bool.or_eq_true, decide_eq_true_iff, beq_iff_eq]
      exact (or_congr_right eq_comm).trans bytesOf_le_iff.symm
  | equal => exact beq_iff_eq.trans heq
  | notEqual => exact bne_iff_ne.trans (not_congr heq)

/-! ### Compiled filters -/

variable {t : RecordType} {row : SortedMap String}

/-- What a row has under the qualifier of a column. -/
def contentsOf (t : RecordType) (row : SortedMap String) (column : String) : Option String :=
  row.get? (t.qualifier column)

theorem accepts_valueFilter {column : String} {relation : Relation} {value : Scalar} :
    Filter.accepts row (Constraint.valueFilter t column relation value) = true ↔
      ∀ v, contentsOf t row column = some v → relation.Holds v value.spelling := by
  rw [Constraint.valueFilter, Filter.accepts, Filter.acceptsValue, RecordType.encodedFamily,
    decodeIdentifier_encode, decodeIdentifier_encode]
  unfold contentsOf RecordType.qualifier
  dsimp only
  cases row.get? s!"{t.family}:{column}" with
  | none => exact iff_of_true rfl fun v hv => nomatch hv
  | some stored =>
      refine Relation.holds_iff.trans ⟨fun h v hv => ?_, fun h => h stored rfl⟩
      cases hv
      exact h

/-- Membership is compiled to equalities of which one must pass. -/
theorem accepts_memberFilter {column : String} {values : List Scalar} :
    Filter.accepts row
        (.list .any (values.map (Constraint.valueFilter t column .equal))) = true ↔
      ∀ v, contentsOf t row column = some v →
        values = [] ∨ ∃ x ∈ values, Relation.equal.Holds v x.spelling := by
  rw [Filter.accepts, Bool.or_eq_true, List.isEmpty_iff, List.map_eq_nil_iff,
    Filter.acceptsSome_eq, List.any_map, List.any_eq_true]
  constructor
  · rintro (hnil | ⟨x, hx, hpass⟩) v hv
    · exact .inl hnil
    · exact .inr ⟨x, hx, accepts_valueFilter.1 hpass v hv⟩
  · intro h
    cases hrow : contentsOf t row column with
    | none =>
        cases values with
        | nil => exact .inl rfl
        | cons x rest =>
            -- what is not stored passes already at the first member
            refine .inr ⟨x, List.mem_cons_self, accepts_valueFilter.2 fun v hv => ?_⟩
            rw [hrow] at hv
            cases hv
    | some stored =>
        refine (h stored hrow).imp_right fun ⟨x, hx, heq⟩ => ⟨x, hx, accepts_valueFilter.2 ?_⟩
        intro v hv
        rw [hrow] at hv
        cases hv
        exact heq

mutual

/-- **Compiling keeps the meaning.**  A row passes the filter of a constraint
exactly when its contents satisfy the constraint. -/
theorem accepts_compile (t : RecordType) (row : SortedMap String) :
    ∀ k : Constraint, Filter.accepts row (k.compile t) = true ↔ k.Holds (contentsOf t row)
  | .compare column relation value => by
      rw [Constraint.compile, Constraint.Holds]
      exact accepts_valueFilter
  | .member column values => by
      rw [Constraint.compile, Constraint.Holds]
      exact accepts_memberFilter
  | .combine .all parts => by
      rw [Constraint.compile, Filter.accepts, Constraint.Holds]
      exact acceptsAll_compileAll t row parts
  | .combine .any parts => by
      rw [Constraint.compile, Filter.accepts, Constraint.Holds, Bool.or_eq_true, List.isEmpty_iff,
        Constraint.compileAll_eq_map, List.map_eq_nil_iff, ← Constraint.compileAll_eq_map]
      exact or_congr_right (acceptsSome_compileAll t row parts)

theorem acceptsAll_compileAll (t : RecordType) (row : SortedMap String) :
    ∀ parts : List Constraint, Filter.acceptsAll row (Constraint.compileAll t parts) = true ↔
      Constraint.HoldsAll (contentsOf t row) parts
  | [] => iff_of_true rfl trivial
  | k :: rest => by
      rw [Constraint.compileAll, Filter.acceptsAll, Bool.and_eq_true, Constraint.HoldsAll]
      exact and_congr (accepts_compile t row k) (acceptsAll_compileAll t row rest)

theorem acceptsSome_compileAll (t : RecordType) (row : SortedMap String) :
    ∀ parts : List Constraint, Filter.acceptsSome row (Constraint.compileAll t parts) = true ↔
      Constraint.HoldsSome (contentsOf t row) parts
  | [] => iff_of_false Bool.false_ne_true id
  | k :: rest => by
      rw [Constraint.compileAll, Filter.acceptsSome, Bool.or_eq_true, Constraint.HoldsSome]
      exact or_congr (accepts_compile t row k) (acceptsSome_compileAll t row rest)

end

/-! ### Deciding constraints -/

instance Relation.decidableHolds (r : Relation) (value text : String) :
    Decidable (r.Holds value text) :=
  decidable_of_iff _ Relation.holds_iff

namespace Constraint

mutual

/-- Whether contents satisfy a constraint can be decided, part by part. -/
instance decidableHolds (stored? : String → Option String) :
    ∀ k : Constraint, Decidable (k.Holds stored?)
  | .compare column relation value =>
      inferInstanceAs (Decidable (∀ v ∈ stored? column, relation.Holds v value.spelling))
  | .member column values =>
      inferInstanceAs (Decidable (∀ v ∈ stored? column,
        values = [] ∨ ∃ x ∈ values, Relation.equal.Holds v x.spelling))
  | .combine .all parts => decidableHoldsAll stored? parts
  | .combine .any parts =>
      have := decidableHoldsSome stored? parts
      inferInstanceAs (Decidable (parts = [] ∨ HoldsSome stored? parts))

instance decidableHoldsAll (stored? : String → Option String) :
    ∀ parts : List Constraint, Decidable (HoldsAll stored? parts)
  | [] => isTrue trivial
  | k :: rest =>
      have := decidableHolds stored? k
      have := decidableHoldsAll stored? rest
      inferInstanceAs (Decidable (k.Holds stored? ∧ HoldsAll stored? rest))

instance decidableHoldsSome (stored? : String → Option String) :
    ∀ parts : List Constraint, Decidable (HoldsSome stored? parts)
  | [] => isFalse id
  | k :: rest =>
      have := decidableHolds stored? k
      have := decidableHoldsSome stored? rest
      inferInstanceAs (Decidable (k.Holds stored? ∨ HoldsSome stored? rest))

end

end Constraint

/-- **What a compiled filter answers.**  On every row the filter of a constraint
answers what the constraint means there, at any depth: no connective, relation or
convention about missing columns and empty lists changes on the way through the
encoded names. -/
theorem accepts_compile_eq_decide (t : RecordType) (k : Constraint) (row : SortedMap String) :
    Filter.accepts row (k.compile t) = decide (k.Holds (contentsOf t row)) := by
  have hmeaning : Filter.accepts row (k.compile t) = true ↔ k.Holds (contentsOf t row) :=
    accepts_compile t row k
  rw [Bool.eq_iff_iff, decide_eq_true_iff]
  exact hmeaning

/-- Numerals are compared as texts, so ten comes before nine. -/
example : (Constraint.compare "level" .less (.text "9")).Holds (fun _ => some "10") := by decide

/-! ### Contents that agree -/

mutual

/-- Only the columns that a constraint names count. -/
theorem Constraint.holds_congr {stored? stored?' : String → Option String} :
    ∀ k : Constraint, (∀ column ∈ k.mentions, stored? column = stored?' column) →
      (k.Holds stored? ↔ k.Holds stored?')
  | .compare column relation value => fun h => by
      rw [Holds, Holds, h column (by rw [mentions]; exact List.mem_singleton_self _)]
  | .member column values => fun h => by
      rw [Holds, Holds, h column (by rw [mentions]; exact List.mem_singleton_self _)]
  | .combine .all parts => fun h => by
      rw [Holds, Holds]
      exact holdsAll_congr parts fun column hc => h column (by rwa [mentions])
  | .combine .any parts => fun h => by
      rw [Holds, Holds]
      exact or_congr_right (holdsSome_congr parts fun column hc => h column (by rwa [mentions]))

theorem Constraint.holdsAll_congr {stored? stored?' : String → Option String} :
    ∀ parts : List Constraint,
      (∀ column ∈ mentionsAll parts, stored? column = stored?' column) →
      (HoldsAll stored? parts ↔ HoldsAll stored?' parts)
  | [] => fun _ => Iff.rfl
  | k :: rest => fun h => by
      rw [mentionsAll_cons] at h
      exact and_congr (holds_congr k fun column hc => h column (List.mem_append_left _ hc))
        (holdsAll_congr rest fun column hc => h column (List.mem_append_right _ hc))

theorem Constraint.holdsSome_congr {stored? stored?' : String → Option String} :
    ∀ parts : List Constraint,
      (∀ column ∈ mentionsAll parts, stored? column = stored?' column) →
      (HoldsSome stored? parts ↔ HoldsSome stored?' parts)
  | [] => fun _ => Iff.rfl
  | k :: rest => fun h => by
      rw [mentionsAll_cons] at h
      exact or_congr (holds_congr k fun column hc => h column (List.mem_append_left _ hc))
        (holdsSome_congr rest fun column hc => h column (List.mem_append_right _ hc))

end

end StreamStore
