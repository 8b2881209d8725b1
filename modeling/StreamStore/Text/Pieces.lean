/-!
# Cutting text at a separator

Row keys, column lists, qualifiers and paths are all texts with a separator
character.  `pieces` cuts at every occurrence and always answers at least one
piece; `cutOnce` cuts at the first occurrence only and answers nothing when
there is none.  Both are structural recursions over the characters, and
`joinWith_pieces` says that cutting loses nothing.
-/

namespace StreamStore.Text

/-- The pieces of a text between the occurrences of `sep`; a text without the
separator is its own only piece. -/
def pieces (sep : Char) : List Char → List (List Char)
  | [] => [[]]
  | c :: cs =>
      if c = sep then [] :: pieces sep cs
      else match pieces sep cs with
        | [] => [[c]]
        | p :: ps => (c :: p) :: ps

/-- What stands before and after the first occurrence of `sep`. -/
def cutOnce (sep : Char) : List Char → Option (List Char × List Char)
  | [] => none
  | c :: cs =>
      if c = sep then some ([], cs)
      else (cutOnce sep cs).map fun (before, after) => (c :: before, after)

/-- Pieces put together again, with `sep` between any two of them. -/
def joinWith (sep : Char) : List (List Char) → List Char
  | [] => []
  | [p] => p
  | p :: q :: ps => p ++ sep :: joinWith sep (q :: ps)

@[simp] theorem pieces_nil (sep : Char) : pieces sep [] = [[]] := rfl

@[simp] theorem pieces_cons_self (sep : Char) (cs : List Char) :
    pieces sep (sep :: cs) = [] :: pieces sep cs := by
  simp [pieces]

@[simp] theorem cutOnce_cons_self (sep : Char) (cs : List Char) :
    cutOnce sep (sep :: cs) = some ([], cs) := by
  simp [cutOnce]

theorem pieces_ne_nil (sep : Char) (cs : List Char) : pieces sep cs ≠ [] := by
  cases cs with
  | nil => simp
  | cons c cs =>
      rw [pieces]
      split
      · simp
      · split <;> simp

/-- Cutting loses nothing: the pieces, joined again, are the text. -/
theorem joinWith_pieces (sep : Char) (cs : List Char) :
    joinWith sep (pieces sep cs) = cs := by
  induction cs with
  | nil => rfl
  | cons c cs ih =>
      by_cases h : c = sep
      · subst h
        obtain ⟨p, ps, hp⟩ := List.exists_cons_of_ne_nil (pieces_ne_nil c cs)
        rw [pieces_cons_self, hp, joinWith, ← hp, ih, List.nil_append]
      · obtain ⟨p, ps, hp⟩ := List.exists_cons_of_ne_nil (pieces_ne_nil sep cs)
        rw [hp] at ih
        rw [pieces, if_neg h, hp]
        cases ps with
        | nil => simpa [joinWith] using ih
        | cons q qs => simpa [joinWith] using ih

end StreamStore.Text
