import StreamStore.Proofs.ByteOrder
import StreamStore.Proofs.KeySegments
import StreamStore.Url.Basic

/-!
# Names as segments of a path

A name that is appended to a path becomes a segment of its own, from which it can be
read back, exactly when it is `Plain`: it is none of the two names of dots, which are
skipped, and it has no tab and no line end, which are dropped.

Two facts carry this.  A segment is percent-encoded together with the percent sign and
the slash, so decoding it gives back what was encoded (`plainText?_segmentOf`), and in
a path as text the segments cannot run into each other (`slash_notMem_segmentOf`).  And
whatever is appended to a path, the segments that stand behind its trunk decode to plain
names (`Grown`), so a name that is not plain is never one of them.
-/

namespace StreamStore.Url

/-! ### Encoding and decoding -/

/-- A byte has two hexadecimal digits. -/
theorem hexDigits_lt (b : UInt8) : b.toNat / 16 < 16 ∧ b.toNat % 16 < 16 := by
  have hb : b.toNat < 256 := b.toNat_lt_size
  omega

theorem percentDecode_percentByte (b : UInt8) (rest : List Char) :
    percentDecode (percentByte b ++ rest) = b :: percentDecode rest := by
  obtain ⟨hhigh, hlow⟩ := hexDigits_lt b
  show percentDecode ('%' :: Text.hexDigit _ :: Text.hexDigit _ :: rest) = _
  rw [percentDecode, Text.hexValue?_hexDigit hhigh, Text.hexValue?_hexDigit hlow]
  show UInt8.ofNat _ :: _ = _
  rw [Nat.div_add_mod', UInt8.ofNat_toNat]

theorem percentDecode_flatMap_percentByte (bytes : List UInt8) (rest : List Char) :
    percentDecode (bytes.flatMap percentByte ++ rest) = bytes ++ percentDecode rest := by
  induction bytes with
  | nil => rfl
  | cons b bytes ih =>
      rw [List.flatMap_cons, List.append_assoc, percentDecode_percentByte, ih, List.cons_append]

theorem percentDecode_cons_of_ne {c : Char} (h : c ≠ '%') (rest : List Char) :
    percentDecode (c :: rest) = String.utf8EncodeChar c ++ percentDecode rest := by
  rw [percentDecode]
  intro a b tail heq
  exact absurd heq h

/-- A text that is percent-encoded, the percent sign included, decodes to its bytes. -/
theorem percentDecode_percentEncode {encoded : Char → Bool} (h : encoded '%' = true)
    (cs : List Char) :
    percentDecode (percentEncode encoded cs) = cs.flatMap String.utf8EncodeChar := by
  induction cs with
  | nil => rfl
  | cons c cs ih =>
      rw [percentEncode, List.flatMap_cons, List.flatMap_cons, ← percentEncode]
      split
      · rw [percentDecode_flatMap_percentByte, ih]
      · next hc =>
          have hne : c ≠ '%' := fun heq => hc (heq ▸ h)
          rw [List.singleton_append, percentDecode_cons_of_ne hne, ih]

/-- The segment that a text becomes. -/
def segmentOf (special : Bool) (cs : List Char) : String :=
  String.ofList (percentEncode (encodedInSegment special) cs)

theorem plainText?_segmentOf (special : Bool) (cs : List Char) :
    plainText? (segmentOf special cs) = some (String.ofList cs) := by
  have hpercent : encodedInSegment special '%' = true := by
    cases special <;> decide
  have hbytes : cs.flatMap String.utf8EncodeChar = Text.bytesOf (String.ofList cs) := by
    rw [Text.bytesOf_eq, String.toList_ofList]
  rw [plainText?, segmentOf, String.toList_ofList, percentDecode_percentEncode hpercent, hbytes,
    Text.textOf?_bytesOf]

variable {special : Bool}

theorem segmentOf_inj {cs ds : List Char} (h : segmentOf special cs = segmentOf special ds) :
    cs = ds := by
  have htext : some (String.ofList cs) = some (String.ofList ds) := by
    rw [← plainText?_segmentOf special cs, h, plainText?_segmentOf]
  exact String.ofList_injective (Option.some.inj htext)

theorem segmentOf_nil : segmentOf special [] = "" := rfl

theorem segmentOf_ne_empty {cs : List Char} (h : cs ≠ []) : segmentOf special cs ≠ "" :=
  fun heq => h (segmentOf_inj (heq.trans segmentOf_nil.symm))

theorem hexDigit_ne_slash {n : Nat} (h : n < 16) : Text.hexDigit n ≠ '/' := by
  have all : ∀ m : Fin 16, Text.hexDigit m.val ≠ '/' := by decide
  exact all ⟨n, h⟩

/-- A segment holds no slash. -/
theorem slash_notMem_segmentOf (cs : List Char) : '/' ∉ (segmentOf special cs).toList := by
  rw [segmentOf, String.toList_ofList, percentEncode, List.mem_flatMap]
  rintro ⟨c, -, hslash⟩
  split at hslash
  · obtain ⟨b, -, hb⟩ := List.mem_flatMap.1 hslash
    simp only [percentByte, List.mem_cons, List.not_mem_nil, or_false] at hb
    rcases hb with hb | hb | hb
    · exact absurd hb (by decide)
    · exact hexDigit_ne_slash (hexDigits_lt b).1 hb.symm
    · exact hexDigit_ne_slash (hexDigits_lt b).2 hb.symm
  · next hc =>
      rw [List.mem_singleton] at hslash
      subst hslash
      exact hc (by cases special <;> decide)

/-! ### Names -/

/-- Whether a name is appended to a path as it is. -/
structure Plain (name : String) : Prop where
  ne_dot : name ≠ "."
  ne_dots : name ≠ ".."
  noLineChar : ∀ c ∈ name.toList, isLineChar c = false

/-- Whether a name becomes a segment of its own, without its tabs and line ends. -/
def Ordinary (name : String) : Prop :=
  dropLineChars name.toList ≠ ['.'] ∧ dropLineChars name.toList ≠ ['.', '.']

/-- Whether a name takes the segment before it away: it is no name of dots, but becomes that
of the parent directory without its tabs and line ends. -/
def Climbs (name : String) : Prop :=
  name ≠ ".." ∧ dropLineChars name.toList = ['.', '.']

instance (name : String) : Decidable (Plain name) :=
  decidable_of_iff
    (name ≠ "." ∧ name ≠ ".." ∧ (name.toList.all fun c => !isLineChar c) = true)
    ⟨fun ⟨hdot, hdots, hall⟩ => ⟨hdot, hdots, by simpa using hall⟩,
      fun h => ⟨h.ne_dot, h.ne_dots, by simpa using h.noLineChar⟩⟩

instance (name : String) : Decidable (Climbs name) :=
  inferInstanceAs (Decidable (_ ∧ _))

theorem dropLineChars_of_noLineChar {cs : List Char} (h : ∀ c ∈ cs, isLineChar c = false) :
    dropLineChars cs = cs := by
  refine List.filter_eq_self.2 fun c hc => ?_
  rw [h c hc]
  rfl

theorem noLineChar_dropLineChars {cs : List Char} {c : Char} (h : c ∈ dropLineChars cs) :
    isLineChar c = false := by
  simpa using (List.mem_filter.1 h).2

theorem Plain.dropLineChars_eq {name : String} (h : Plain name) :
    dropLineChars name.toList = name.toList :=
  dropLineChars_of_noLineChar h.noLineChar

theorem Plain.ordinary {name : String} (h : Plain name) : Ordinary name := by
  rw [Ordinary, h.dropLineChars_eq]
  exact ⟨fun heq => h.ne_dot (String.toList_inj.1 heq),
    fun heq => h.ne_dots (String.toList_inj.1 heq)⟩

/-- What is left of an ordinary name is plain. -/
theorem plain_of_ordinary {name : String} (h : Ordinary name) :
    Plain (String.ofList (dropLineChars name.toList)) where
  ne_dot heq := h.1 (by rw [← String.toList_ofList (l := dropLineChars _), heq]; rfl)
  ne_dots heq := h.2 (by rw [← String.toList_ofList (l := dropLineChars _), heq]; rfl)
  noLineChar c hc := noLineChar_dropLineChars (String.toList_ofList ▸ hc)

theorem plain_empty : Plain "" := by
  decide

/-! ### Appending one name -/

/-- The segments behind which names are appended: the path `/` has none. -/
def trunk (segments : List String) : List String :=
  if segments = [""] then [] else segments

theorem trunk_of_ne {segments : List String} (h : segments ≠ [""]) : trunk segments = segments :=
  if_neg h

theorem addLast_outside_file (encode : List Char → String) (segments : List String)
    (raw : List Char) :
    addLast false encode segments raw = trunk segments ++ [encode (dropLineChars raw)] := by
  rw [addLast, trunk]
  split <;> rfl

theorem appendSegment_of_ordinary {name : String} (h : Ordinary name) (segments : List String) :
    appendSegment false special segments name =
      trunk segments ++ [segmentOf special (dropLineChars name.toList)] := by
  have hdots : ¬(name = "." ∨ name = "..") := by
    rintro (rfl | rfl)
    · exact h.1 rfl
    · exact h.2 rfl
  rw [appendSegment, if_neg hdots]
  dsimp only
  rw [if_neg h.1, if_neg h.2, addLast_outside_file]
  rfl

/-- What a name can do to a path. -/
theorem appendSegment_cases (special : Bool) (segments : List String) (name : String) :
    appendSegment false special segments name = segments ∨
      appendSegment false special segments name = trunk segments ++ [""] ∨
      (Climbs name ∧ appendSegment false special segments name = parent segments ++ [""]) ∨
      (Ordinary name ∧ appendSegment false special segments name =
        trunk segments ++ [segmentOf special (dropLineChars name.toList)]) := by
  by_cases hskip : name = "." ∨ name = ".."
  · exact .inl (if_pos hskip)
  · by_cases hdot : dropLineChars name.toList = ['.']
    · refine .inr (.inl ?_)
      rw [appendSegment, if_neg hskip]
      dsimp only
      rw [if_pos hdot, addLast_outside_file]
      rfl
    · by_cases hdots : dropLineChars name.toList = ['.', '.']
      · refine .inr (.inr (.inl ⟨⟨fun heq => hskip (.inr heq), hdots⟩, ?_⟩))
        rw [appendSegment, if_neg hskip]
        dsimp only
        rw [if_neg hdot, if_pos hdots]
      · exact .inr (.inr (.inr ⟨⟨hdot, hdots⟩, appendSegment_of_ordinary ⟨hdot, hdots⟩ segments⟩))

/-- A name that does not climb only adds to a path. -/
theorem exists_appendSegment_eq_append (special : Bool) {name : String} (h : ¬Climbs name) :
    ∃ more : List String, ∀ segments, segments ≠ [""] →
      appendSegment false special segments name = segments ++ more := by
  by_cases hskip : name = "." ∨ name = ".."
  · exact ⟨[], fun segments _ => (if_pos hskip).trans (List.append_nil _).symm⟩
  · by_cases hdot : dropLineChars name.toList = ['.']
    · refine ⟨[""], fun segments hne => ?_⟩
      rw [appendSegment, if_neg hskip]
      dsimp only
      rw [if_pos hdot, addLast_outside_file, trunk_of_ne hne]
      rfl
    · have hdots : dropLineChars name.toList ≠ ['.', '.'] := fun heq =>
        h ⟨fun hname => hskip (.inr hname), heq⟩
      refine ⟨[segmentOf special (dropLineChars name.toList)], fun segments hne => ?_⟩
      rw [appendSegment_of_ordinary ⟨hdot, hdots⟩, trunk_of_ne hne]

/-! ### Paths that have grown -/

/-- Whether all segments of a path behind the first `n` decode to plain names. -/
def Grown (n : Nat) (segments : List String) : Prop :=
  ∃ kept added, segments = kept ++ added ∧ kept.length ≤ n ∧
    ∀ s ∈ added, ∃ name, Plain name ∧ plainText? s = some name

namespace Grown

variable {n : Nat} {segments : List String}

theorem concat (h : Grown n segments) {s name : String} (hname : Plain name)
    (hs : plainText? s = some name) : Grown n (segments ++ [s]) := by
  obtain ⟨kept, added, rfl, hlength, hadded⟩ := h
  refine ⟨kept, added ++ [s], List.append_assoc .., hlength, fun x hx => ?_⟩
  rcases List.mem_append.1 hx with hx | hx
  · exact hadded x hx
  · rw [List.mem_singleton.1 hx]
    exact ⟨name, hname, hs⟩

theorem trunk (h : Grown n segments) : Grown n (trunk segments) := by
  rw [Url.trunk]
  split
  · exact ⟨[], [], rfl, Nat.zero_le n, fun s hs => nomatch hs⟩
  · exact h

theorem dropLast (h : Grown n segments) : Grown n segments.dropLast := by
  obtain ⟨kept, added, rfl, hlength, hadded⟩ := h
  by_cases hnil : added = []
  · subst hnil
    refine ⟨kept.dropLast, [], by simp, ?_, hadded⟩
    rw [List.length_dropLast]
    omega
  · rw [List.dropLast_append_of_ne_nil hnil]
    exact ⟨kept, added.dropLast, rfl, hlength,
      fun s hs => hadded s ((List.dropLast_sublist added).subset hs)⟩

theorem parent (h : Grown n segments) : Grown n (parent segments) := by
  rw [Url.parent]
  split
  · exact h
  · exact h.dropLast

theorem appendSegment (h : Grown n segments) (name : String) :
    Grown n (appendSegment false special segments name) := by
  have hempty : plainText? "" = some "" := rfl
  rcases appendSegment_cases special segments name with
    heq | heq | ⟨-, heq⟩ | ⟨hordinary, heq⟩ <;> rw [heq]
  · exact h
  · exact h.trunk.concat plain_empty hempty
  · exact h.parent.concat plain_empty hempty
  · exact h.trunk.concat (plain_of_ordinary hordinary) (plainText?_segmentOf special _)

theorem foldl (h : Grown n segments) (special : Bool) (names : List String) :
    Grown n (names.foldl (Url.appendSegment false special) segments) := by
  induction names generalizing segments with
  | nil => exact h
  | cons name names ih => exact ih (h.appendSegment name)

/-- The segments behind the first `n` decode to plain names only. -/
theorem plain_of_mem {front back : List String} (h : Grown n segments)
    (heq : segments = front ++ back) (hn : n ≤ front.length) {s name : String} (hs : s ∈ back)
    (hname : plainText? s = some name) : Plain name := by
  obtain ⟨kept, added, rfl, hlength, hadded⟩ := h
  have hmem : s ∈ added := by
    rcases List.append_eq_append_iff.1 heq with ⟨more, -, rfl⟩ | ⟨more, hkept, rfl⟩
    · exact List.mem_append_right _ hs
    · have hmore : more = [] := by
        have hlen := congrArg List.length hkept
        rw [List.length_append] at hlen
        exact List.length_eq_zero_iff.1 (by omega)
      subst hmore
      exact hs
  obtain ⟨plain, hplain, htext⟩ := hadded s hmem
  rw [htext] at hname
  exact Option.some.inj hname ▸ hplain

end Grown

/-! ### Paths as text -/

theorem toList_text_segments (segments : List String) :
    (Path.segments segments).text.toList = segments.flatMap fun s => '/' :: s.toList := by
  rw [Path.text, String.toList_join, List.flatMap_map]
  simp only [String.toList_append]
  rfl

/-- Two segments behind the same path and before the same segments can be told from the text
of the path. -/
theorem text_segments_inj {front back : List String} {a b a' b' : String} (ha : '/' ∉ a.toList)
    (ha' : '/' ∉ a'.toList)
    (h : (Path.segments (front ++ a :: b :: back)).text =
      (Path.segments (front ++ a' :: b' :: back)).text) : a = a' ∧ b = b' := by
  have htext := congrArg String.toList h
  rw [toList_text_segments, toList_text_segments, List.flatMap_append, List.flatMap_append] at htext
  have hpair := List.append_cancel_left htext
  simp only [List.flatMap_cons, List.cons_append, List.cons.injEq, true_and] at hpair
  -- the second segment begins at the first slash behind the first one
  have hcut := congrArg (Text.cutOnce '/') hpair
  rw [Text.cutOnce_append ha, Text.cutOnce_append ha'] at hcut
  obtain ⟨hfirst, hrest⟩ := Prod.mk.inj (Option.some.inj hcut)
  exact ⟨String.toList_inj.1 hfirst, String.toList_inj.1 (List.append_cancel_right hrest)⟩

/-- URLs that differ in their paths only have different texts. -/
theorem path_text_of_text {u : Url} {p q : Path} (h : { u with path := p }.text =
    { u with path := q }.text) : p.text = q.text := by
  unfold text at h
  have htext : toString p.text = toString q.text := by simpa using h
  exact htext

end StreamStore.Url
