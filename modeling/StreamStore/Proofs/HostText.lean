import StreamStore.Proofs.ConstraintWords
import StreamStore.Proofs.Decimal
import StreamStore.Url.Parser

/-!
# The texts of hosts

An address is cut into its parts before its host is read.  A text is *whole* if this cut leaves
it alone: nothing in it ends an authority or its credentials, no tab or line end is dropped from
it, and a colon behind it is the first one outside brackets (`IsWhole`).

Whatever a host was read from, its own text is whole (`isWhole_text`): a name has none of the
characters that names must not have, an IPv4 address is of digits and points, and an IPv6
address stands in brackets.  The case of letters plays no part (`IsWhole.congr`).
-/

namespace StreamStore

/-! ### Characters -/

namespace Text

/-- A character that is no letter is no other character in small letters. -/
theorem toLower_eq_iff {c d : Char}
    (hd : ¬(65 ≤ d.toNat ∧ d.toNat ≤ 90 ∨ 97 ≤ d.toNat ∧ d.toNat ≤ 122)) :
    c.toLower = d ↔ c = d := by
  rw [← Char.toNat_inj, ← Char.toNat_inj, toNat_toLower]
  split <;> omega

theorem mem_joinWith {sep c : Char} {ps : List (List Char)} (h : c ∈ joinWith sep ps) :
    c = sep ∨ ∃ p ∈ ps, c ∈ p := by
  induction ps with
  | nil => exact absurd h List.not_mem_nil
  | cons p ps ih =>
      cases ps with
      | nil => exact .inr ⟨p, List.mem_singleton_self p, h⟩
      | cons q qs =>
          rw [joinWith, List.mem_append, List.mem_cons] at h
          rcases h with h | h | h
          · exact .inr ⟨p, List.mem_cons_self, h⟩
          · exact .inl h
          · rcases ih h with h | ⟨r, hr, hc⟩
            · exact .inl h
            · exact .inr ⟨r, List.mem_cons_of_mem p hr, hc⟩

/-- A number in base sixteen is written with sixteen digits. -/
theorem exists_digitChar_of_mem {n : Nat} {c : Char} (h : c ∈ Nat.toDigits 16 n) :
    ∃ d < 16, c = d.digitChar := by
  induction n using Nat.strong_induction_on with
  | h n ih =>
      by_cases hn : n < 16
      · rw [Nat.toDigits_of_lt_base hn, List.mem_singleton] at h
        exact ⟨n, hn, h⟩
      · have hdigits := Nat.toDigits_append_toDigits (b := 16) (n := n / 16) (d := n % 16)
          (by decide) (by omega) (Nat.mod_lt n (by decide))
        rw [Nat.div_add_mod] at hdigits
        rw [← hdigits, List.mem_append] at h
        rcases h with h | h
        · exact ih (n / 16) (by omega) h
        · rw [Nat.toDigits_of_lt_base (Nat.mod_lt n (by decide)), List.mem_singleton] at h
          exact ⟨n % 16, Nat.mod_lt n (by decide), h⟩

end Text

namespace Url

/-- Whether a character leaves the authority in which it stands, and the host in it, as they
are. -/
def inHost (c : Char) : Bool :=
  !(isLineChar c || endsAuthority true c || c == '@')

/-- Whether a character can stand in a host without brackets. -/
def inName (c : Char) : Bool :=
  inHost c && !(c == ':' || c == '[' || c == ']')

/-- Whether a colon behind a text is the first one outside brackets. -/
def endsAtColon : Bool → List Char → Bool
  | inside, [] => !inside
  | inside, c :: rest =>
      (c != ':' || inside) &&
        endsAtColon (if c = '[' then true else if c = ']' then false else inside) rest

/-- Whether a text is what a URL takes for its host when a port stands behind it. -/
def IsWhole (cs : List Char) : Prop :=
  cs.all inHost = true ∧ endsAtColon false cs = true

/-! ### The case of letters -/

theorem toLower_beq {c d : Char}
    (hd : ¬(65 ≤ d.toNat ∧ d.toNat ≤ 90 ∨ 97 ≤ d.toNat ∧ d.toNat ≤ 122)) :
    (c.toLower == d) = (c == d) :=
  Bool.eq_iff_iff.2 (by rw [beq_iff_eq, beq_iff_eq, Text.toLower_eq_iff hd])

theorem inHost_toLower (c : Char) : inHost c.toLower = inHost c := by
  simp only [inHost, isLineChar, endsAuthority, isSlash, endsPath,
    toLower_beq (c := c) (d := '\t') (by decide), toLower_beq (c := c) (d := '\n') (by decide),
    toLower_beq (c := c) (d := '\r') (by decide), toLower_beq (c := c) (d := '/') (by decide),
    toLower_beq (c := c) (d := '\\') (by decide), toLower_beq (c := c) (d := '?') (by decide),
    toLower_beq (c := c) (d := '#') (by decide), toLower_beq (c := c) (d := '@') (by decide)]

theorem endsAtColon_map_toLower (cs : List Char) :
    ∀ inside, endsAtColon inside (cs.map Char.toLower) = endsAtColon inside cs := by
  induction cs with
  | nil => exact fun inside => rfl
  | cons c cs ih =>
      intro inside
      have hcolon : (c.toLower != ':') = (c != ':') := congrArg not (toLower_beq (by decide))
      have hopen : c.toLower = '[' ↔ c = '[' := Text.toLower_eq_iff (by decide)
      have hclose : c.toLower = ']' ↔ c = ']' := Text.toLower_eq_iff (by decide)
      rw [List.map_cons, endsAtColon, endsAtColon, ih, hcolon]
      simp only [hopen, hclose]

theorem isWhole_map_toLower {cs : List Char} : IsWhole (cs.map Char.toLower) ↔ IsWhole cs := by
  rw [IsWhole, IsWhole, endsAtColon_map_toLower, List.all_map]
  simp only [Function.comp_def, inHost_toLower]

/-- A text is whole in any case of its letters. -/
theorem IsWhole.congr {s t : String} (h : IsWhole t.toList)
    (hcase : Text.smallLetters s = Text.smallLetters t) : IsWhole s.toList := by
  have hmap : s.toList.map Char.toLower = t.toList.map Char.toLower := by
    rw [Text.smallLetters, Text.smallLetters, ← String.toList_inj, String.toList_ofList,
      String.toList_ofList] at hcase
    exact hcase
  rw [← isWhole_map_toLower, hmap, isWhole_map_toLower]
  exact h

/-! ### Without and within brackets -/

theorem endsAtColon_of_inName {cs : List Char} (h : ∀ c ∈ cs, inName c = true) :
    endsAtColon false cs = true := by
  induction cs with
  | nil => rfl
  | cons c cs ih =>
      obtain ⟨hc, hcs⟩ := List.forall_mem_cons.1 h
      simp only [inName, Bool.and_eq_true, Bool.not_eq_true', Bool.or_eq_false_iff,
        beq_eq_false_iff_ne] at hc
      obtain ⟨-, ⟨hcolon, hopen⟩, hclose⟩ := hc
      rw [endsAtColon, if_neg hopen, if_neg hclose, ih hcs, Bool.and_true, Bool.or_false]
      exact bne_iff_ne.2 hcolon

theorem isWhole_of_inName {cs : List Char} (h : ∀ c ∈ cs, inName c = true) : IsWhole cs :=
  ⟨List.all_eq_true.2 fun c hc => (Bool.and_eq_true_iff.1 (h c hc)).1, endsAtColon_of_inName h⟩

/-- Inside brackets a colon means nothing. -/
theorem endsAtColon_bracket {cs : List Char} (h : ∀ c ∈ cs, c ≠ ']') :
    endsAtColon true (cs ++ [']']) = true := by
  induction cs with
  | nil => rfl
  | cons c cs ih =>
      obtain ⟨hc, hcs⟩ := List.forall_mem_cons.1 h
      rw [List.cons_append, endsAtColon, if_neg hc, ite_self, ih hcs, Bool.or_true, Bool.and_true]

theorem isWhole_bracketed {cs : List Char} (h : ∀ c ∈ cs, inHost c = true ∧ c ≠ ']') :
    IsWhole ('[' :: cs ++ [']']) := by
  constructor
  · rw [List.all_append, List.all_cons, List.all_eq_true.2 fun c hc => (h c hc).1]
    rfl
  · exact endsAtColon_bracket fun c hc => (h c hc).2

/-! ### Names -/

theorem forbiddenInName_digitChar {d : Nat} (h : d < 36) :
    forbiddenInName (Punycode.digitChar d) = false := by
  have all : ∀ e : Fin 36, forbiddenInName (Punycode.digitChar e.val) = false := by decide
  exact all ⟨d, h⟩

end Url

namespace Punycode

/-- Digits of base 36, all of them. -/
def AllDigits (cs : List Char) : Prop :=
  ∀ c ∈ cs, ∃ d < 36, c = digitChar d

theorem allDigits_nil : AllDigits [] :=
  List.forall_mem_nil _

theorem AllDigits.append {cs ds : List Char} (h : AllDigits cs) (h' : AllDigits ds) :
    AllDigits (cs ++ ds) :=
  List.forall_mem_append.2 ⟨h, h'⟩

theorem threshold_le (k bias : Nat) : threshold k bias ≤ 26 := by
  unfold threshold
  split
  · omega
  · split <;> omega

theorem allDigits_encodeDistance (bias k q : Nat) : AllDigits (encodeDistance bias k q) := by
  fun_induction encodeDistance bias k q with
  | case1 k q t h =>
      have hle : t ≤ 26 := threshold_le k bias
      intro c hc
      exact ⟨q, by omega, List.mem_singleton.1 hc⟩
  | case2 k q t h ih =>
      have hle : t ≤ 26 := threshold_le k bias
      have hmod : (q - t) % (36 - t) < 36 - t := Nat.mod_lt _ (by omega)
      exact List.forall_mem_cons.2 ⟨⟨t + (q - t) % (36 - t), by omega, rfl⟩, ih⟩

theorem allDigits_visit {basics m : Nat} {p : Progress} (h : AllDigits p.out) (c : Char) :
    AllDigits (visit basics m p c).out := by
  unfold visit
  split_ifs
  · exact h
  · exact h.append (allDigits_encodeDistance _ _ _)
  · exact h

theorem allDigits_foldl_visit {basics m : Nat} (label : List Char) {p : Progress}
    (h : AllDigits p.out) : AllDigits (label.foldl (visit basics m) p).out := by
  induction label generalizing p with
  | nil => exact h
  | cons c label ih => exact ih (allDigits_visit h c)

theorem allDigits_placeAll (label : List Char) (basics : Nat) (points : List Nat) :
    ∀ next p, AllDigits p.out → AllDigits (placeAll label basics points next p).out := by
  induction points with
  | nil => exact fun next p h => h
  | cons m points ih => exact fun next p h => ih _ _ (allDigits_foldl_visit label h)

/-- A label is written with its own characters, a dash and digits. -/
theorem mem_asciiLabel {label : List Char} {c : Char} (h : c ∈ asciiLabel label) :
    c ∈ label ∨ c = '-' ∨ ∃ d < 36, c = digitChar d := by
  unfold asciiLabel at h
  split at h
  · exact .inl h
  · simp only [encode, List.mem_cons, List.mem_append, List.mem_filter] at h
    rcases h with rfl | rfl | rfl | rfl | (hbasic | hdash) | hdigits
    · exact .inr (.inr ⟨23, by decide, rfl⟩)
    · exact .inr (.inr ⟨13, by decide, rfl⟩)
    · exact .inr (.inl rfl)
    · exact .inr (.inl rfl)
    · exact .inl hbasic.1
    · split_ifs at hdash
      · exact absurd hdash List.not_mem_nil
      · exact .inr (.inl (List.mem_singleton.1 hdash))
    · exact .inr (.inr (allDigits_placeAll _ _ _ _ _ allDigits_nil c hdigits))

end Punycode

namespace Url

/-- What a name is written as has none of the characters that names must not have. -/
theorem forbiddenInName_of_mem_asciiName {cs name : List Char} (h : asciiName? cs = some name) :
    ∀ c ∈ name, forbiddenInName c = false := by
  unfold asciiName? at h
  split at h
  · dsimp only at h
    split at h
    · cases h
    · next hany =>
        obtain rfl := Option.some.inj h
        simpa only [List.any_eq_true, not_exists, not_and, Bool.not_eq_true] using hany
  · obtain ⟨labels, -, h⟩ := Option.bind_eq_some_iff.1 h
    split at h
    · cases h
    · next hany =>
        obtain rfl := Option.some.inj h
        intro c hc
        rcases Text.mem_joinWith hc with rfl | ⟨label, hlabel, hc⟩
        · decide
        · obtain ⟨shown, hshown, rfl⟩ := List.mem_map.1 hlabel
          rcases Punycode.mem_asciiLabel hc with hc | rfl | ⟨d, hd, rfl⟩
          · simp only [List.any_eq_true, not_exists, not_and, Bool.not_eq_true] at hany
            exact hany shown hshown c hc
          · decide
          · exact forbiddenInName_digitChar hd

theorem inName_of_not_forbidden {c : Char} (h : forbiddenInName c = false) : inName c = true := by
  have hne : ∀ d : Char, forbiddenInName d = true → (c == d) = false := by
    intro d hd
    rw [beq_eq_false_iff_ne]
    rintro rfl
    rw [h] at hd
    cases hd
  simp only [inName, inHost, isLineChar, endsAuthority, isSlash, endsPath, hne '\t' (by decide),
    hne '\n' (by decide), hne '\r' (by decide), hne '/' (by decide), hne '\\' (by decide),
    hne '?' (by decide), hne '#' (by decide), hne '@' (by decide), hne ':' (by decide),
    hne '[' (by decide), hne ']' (by decide)]
  rfl

/-! ### Addresses -/

theorem inName_of_isDigit {c : Char} (h : c.isDigit = true) : inName c = true := by
  have hbounds := Text.digit_bounds h
  have all : ∀ n : Fin 58, 48 ≤ n.val → inName (Char.ofNat n.val) = true := by decide
  rw [← Char.ofNat_toNat c]
  exact all ⟨c.toNat, by omega⟩ hbounds.1

/-- An IPv4 address is written with digits and points. -/
theorem inName_of_mem_ipv4Text {n : Nat} {c : Char} (h : c ∈ (ipv4Text n).toList) :
    inName c = true := by
  have hdigit : ∀ m : Nat, c ∈ (toString m).toList → inName c = true := by
    intro m hm
    rw [Nat.toString_eq_ofList_toDigits, String.toList_ofList] at hm
    exact inName_of_isDigit (Text.isDigit_of_mem c hm)
  have hpoint : c ∈ ".".toList → inName c = true := by
    intro hm
    rw [List.mem_singleton.1 hm]
    decide
  rw [ipv4Text] at h
  simp only [String.toList_append, List.mem_append] at h
  rcases h with ((((((h | h) | h) | h) | h) | h) | h)
  · exact hdigit _ h
  · exact hpoint h
  · exact hdigit _ h
  · exact hpoint h
  · exact hdigit _ h
  · exact hpoint h
  · exact hdigit _ h

/-- The digits of an IPv6 address, with the colons between them. -/
theorem mem_groupsText {groups : List Nat} {c : Char} (h : c ∈ (groupsText groups).toList) :
    c = ':' ∨ ∃ d < 16, c = d.digitChar := by
  induction groups with
  | nil => exact absurd h (by simp [groupsText])
  | cons g groups ih =>
      have hgroup : c ∈ (String.ofList (Nat.toDigits 16 g)).toList →
          c = ':' ∨ ∃ d < 16, c = d.digitChar := by
        rw [String.toList_ofList]
        exact fun hc => .inr (Text.exists_digitChar_of_mem hc)
      by_cases hne : groups = []
      · subst hne
        rw [groupsText, List.map_singleton, String.intercalate_singleton] at h
        exact hgroup h
      · rw [groupsText, List.map_cons, String.intercalate_cons_of_ne_nil (by simpa using hne),
          String.toList_append, String.toList_append, List.mem_append, List.mem_append] at h
        rcases h with (h | h) | h
        · exact hgroup h
        · exact .inl (List.mem_singleton.1 h)
        · exact ih h

theorem mem_ipv6Text {groups : List Nat} {c : Char} (h : c ∈ (ipv6Text groups).toList) :
    c = ':' ∨ ∃ d < 16, c = d.digitChar := by
  unfold ipv6Text at h
  split at h
  · exact mem_groupsText h
  · simp only [String.toList_append, List.mem_append] at h
    rcases h with (h | h) | h
    · exact mem_groupsText h
    · have hcolons : c ∈ [':', ':'] := h
      simp only [List.mem_cons, List.not_mem_nil, or_false, or_self] at hcolons
      exact .inl hcolons
    · exact mem_groupsText h

theorem inHost_of_mem_ipv6Text {groups : List Nat} {c : Char} (h : c ∈ (ipv6Text groups).toList) :
    inHost c = true ∧ c ≠ ']' := by
  rcases mem_ipv6Text h with rfl | ⟨d, hd, rfl⟩
  · decide
  · have all : ∀ e : Fin 16, inHost (Nat.digitChar e.val) = true ∧ Nat.digitChar e.val ≠ ']' := by
      decide
    exact all ⟨d, hd⟩

/-! ### Hosts -/

/-- **The text of a host is whole**, whatever the host was read from. -/
theorem isWhole_text {cs : List Char} {host : Host} (h : Host.parse? cs = some host) :
    IsWhole host.text.toList := by
  unfold Host.parse? at h
  split at h
  · obtain ⟨inner, -, h⟩ := Option.bind_eq_some_iff.1 h
    obtain ⟨groups, -, rfl⟩ := Option.map_eq_some_iff.1 h
    have htext : (Host.ipv6 groups).text.toList = '[' :: (ipv6Text groups).toList ++ [']'] := by
      show ("[" ++ ipv6Text groups ++ "]").toList = _
      simp
    rw [htext]
    exact isWhole_bracketed fun c hc => inHost_of_mem_ipv6Text hc
  · split at h
    · cases h
    · next ascii hascii =>
        split_ifs at h
        · obtain ⟨address, -, rfl⟩ := Option.map_eq_some_iff.1 h
          exact isWhole_of_inName fun c hc => inName_of_mem_ipv4Text hc
        · obtain rfl := Option.some.inj h
          rw [Host.text, String.toList_ofList]
          exact isWhole_of_inName fun c hc =>
            inName_of_not_forbidden (forbiddenInName_of_mem_asciiName hascii c hc)

end Url

end StreamStore
