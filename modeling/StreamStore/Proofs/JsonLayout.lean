import StreamStore.Json.Parser
import StreamStore.Json.Printer

/-!
# Layouts of a document

The compact form of a document and the indented one have the same tokens and differ in
the blanks between them.  A `Layout` says where blanks stand, and `Layout.chars` writes a
document with them; the two forms are `compact` and `indented` (`compact_chars`,
`indented_chars`).  What holds of a document in any layout is proved once.
-/

namespace StreamStore.Json

/-- Where blanks stand in a written document. -/
structure Layout where
  /-- What stands in front of an item or a field at some depth, and in front of the
  bracket that closes an array or object there. -/
  gap : Nat → List Char
  /-- What stands behind a colon. -/
  behindColon : List Char
  /-- In front of items there are only blanks. -/
  isSpace_of_mem_gap : ∀ depth, ∀ c ∈ gap depth, Parser.isSpace c = true
  /-- Behind colons there are only blanks. -/
  isSpace_of_mem_behindColon : ∀ c ∈ behindColon, Parser.isSpace c = true

namespace Layout

mutual

/-- A document at some depth. -/
def chars (l : Layout) (depth : Nat) : Json → List Char
  | .array (v :: rest) =>
      '[' :: (l.gap (depth + 1) ++ (chars l (depth + 1) v ++ itemChars l depth rest))
  | .object ((k, v) :: rest) =>
      '{' :: (l.gap (depth + 1) ++ (quote k ++
        ':' :: (l.behindColon ++ (chars l (depth + 1) v ++ fieldChars l depth rest))))
  | .array [] => ['[', ']']
  | .object [] => ['{', '}']
  | .null => ['n', 'u', 'l', 'l']
  | .bool true => ['t', 'r', 'u', 'e']
  | .bool false => ['f', 'a', 'l', 's', 'e']
  | .number n => numberText n
  | .string s => quote s

/-- The items after the first one of an array at some depth, and the closing bracket. -/
def itemChars (l : Layout) (depth : Nat) : List Json → List Char
  | [] => l.gap depth ++ [']']
  | v :: rest =>
      ',' :: (l.gap (depth + 1) ++ (chars l (depth + 1) v ++ itemChars l depth rest))

/-- The fields after the first one of an object at some depth, and the closing brace. -/
def fieldChars (l : Layout) (depth : Nat) : List (String × Json) → List Char
  | [] => l.gap depth ++ ['}']
  | (k, v) :: rest =>
      ',' :: (l.gap (depth + 1) ++ (quote k ++
        ':' :: (l.behindColon ++ (chars l (depth + 1) v ++ fieldChars l depth rest))))

end

/-! ### The two forms -/

/-- No blanks at all. -/
def compact : Layout where
  gap _ := []
  behindColon := []
  isSpace_of_mem_gap _ _ hc := nomatch hc
  isSpace_of_mem_behindColon _ hc := nomatch hc

theorem isSpace_of_mem_newLine {depth : Nat} {c : Char} (h : c ∈ newLine depth) :
    Parser.isSpace c = true := by
  rcases List.mem_cons.1 h with rfl | hspace
  · rfl
  · obtain rfl := List.eq_of_mem_replicate hspace
    rfl

/-- Every item on a line of its own, and a blank behind a colon. -/
def indented : Layout where
  gap := newLine
  behindColon := [' ']
  isSpace_of_mem_gap _ _ := isSpace_of_mem_newLine
  isSpace_of_mem_behindColon c hc := by
    obtain rfl := List.mem_singleton.1 hc
    rfl

mutual

/-- The compact form is a layout. -/
theorem compact_chars : ∀ (v : Json) (depth : Nat), compact.chars depth v = renderChars v
  | .null, _ => by rw [chars, renderChars]
  | .bool true, _ => by rw [chars, renderChars]
  | .bool false, _ => by rw [chars, renderChars]
  | .number _, _ => by rw [chars, renderChars]
  | .string _, _ => by rw [chars, renderChars]
  | .array [], _ => by rw [chars, renderChars]
  | .object [], _ => by rw [chars, renderChars]
  | .array (v :: rest), depth => by
      rw [chars, renderChars, compact_chars v, compact_itemChars rest]
      rfl
  | .object ((k, v) :: rest), depth => by
      rw [chars, renderChars, compact_chars v, compact_fieldChars rest]
      simp [compact]

theorem compact_itemChars : ∀ (items : List Json) (depth : Nat),
    compact.itemChars depth items = renderItems items
  | [], _ => by
      rw [itemChars, renderItems]
      rfl
  | v :: rest, depth => by
      rw [itemChars, renderItems, compact_chars v, compact_itemChars rest]
      rfl

theorem compact_fieldChars : ∀ (fields : List (String × Json)) (depth : Nat),
    compact.fieldChars depth fields = renderFields fields
  | [], _ => by
      rw [fieldChars, renderFields]
      rfl
  | (k, v) :: rest, depth => by
      rw [fieldChars, renderFields, compact_chars v, compact_fieldChars rest]
      simp [compact]

end

mutual

/-- The indented form is a layout. -/
theorem indented_chars : ∀ (v : Json) (depth : Nat), indented.chars depth v = prettyChars depth v
  | .null, _ => by rw [chars, prettyChars]
  | .bool true, _ => by rw [chars, prettyChars]
  | .bool false, _ => by rw [chars, prettyChars]
  | .number _, _ => by rw [chars, prettyChars]
  | .string _, _ => by rw [chars, prettyChars]
  | .array [], _ => by rw [chars, prettyChars]
  | .object [], _ => by rw [chars, prettyChars]
  | .array (v :: rest), depth => by
      rw [chars, prettyChars, indented_chars v, indented_itemChars rest]
      simp [indented]
  | .object ((k, v) :: rest), depth => by
      rw [chars, prettyChars, indented_chars v, indented_fieldChars rest]
      simp [indented]

theorem indented_itemChars : ∀ (items : List Json) (depth : Nat),
    indented.itemChars depth items = prettyItems depth items
  | [], _ => by
      rw [itemChars, prettyItems]
      rfl
  | v :: rest, depth => by
      rw [itemChars, prettyItems, indented_chars v, indented_itemChars rest]
      simp [indented]

theorem indented_fieldChars : ∀ (fields : List (String × Json)) (depth : Nat),
    indented.fieldChars depth fields = prettyFields depth fields
  | [], _ => by
      rw [fieldChars, prettyFields]
      rfl
  | (k, v) :: rest, depth => by
      rw [fieldChars, prettyFields, indented_chars v, indented_fieldChars rest]
      simp [indented]

end

end Layout

end StreamStore.Json
