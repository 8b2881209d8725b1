import StreamStore.Proofs.KeyRange

/-!
# Which streams a time range reads

A range is meant for one stream, but a bound that is left open is the padded id of
the stream with a wildcard behind it, compared as text.  Ids of more than twelve
characters are kept as they are, so one padded id can begin another one, and
keys of the longer id can lie between the bounds of the shorter.

`Strays` says in which cases they do, from the ids alone: the timestamps and the
nodes of the records do not matter.

* An id that continues the stream's own id with a character that is not before
  the first bound's wildcard or separator, nor after the last bound's separator.
* With no oldest timestamp also an id that continues the *border*, the id with its
  last character replaced by the next one, with a character before the wildcard.

With both bounds given neither case is possible, and with ids of at most twelve
characters there are no continuations, so these are the ranges that can be relied
on to read one stream only.
-/

namespace StreamStore

open Text

/-- Whether the records of another stream lie in the range of a stream; both ids
are padded. -/
def Strays (own other : String) (oldest newest : Option Nat) : Prop :=
  (∃ c rest, other.toList = own.toList ++ c :: rest ∧
    (newest = none → wildcard ≤ c) ∧ (newest ≠ none → separator < c) ∧
    (oldest ≠ none → c < separator)) ∨
  (oldest = none ∧ ∃ start last next c rest, own.toList = start ++ [last] ∧
    next.toNat = last.toNat + 1 ∧ other.toList = start ++ next :: c :: rest ∧ c < wildcard)

/-! ### Keys that continue the id of the stream -/

section

variable {s s' n : String} {oldest newest : Option Nat} {range : RowRange} {t : Nat} {k : RowKey}

/-- A text that continues the id of the stream lies behind the first key of the
range exactly when the continuation does. -/
theorem not_lt_firstRow_continued_iff {first : String} {c : Char} {tail : List Char}
    (hfirst : firstRow s newest = .ok first) (hc : c ≠ separator) :
    ¬(padStream s).toList ++ c :: tail < first.toList ↔
      (newest = none → wildcard ≤ c) ∧ (newest ≠ none → separator < c) := by
  cases newest with
  | none =>
      rw [firstRow_none hfirst, append_lt_append_iff, List.cons_lt_cons_iff]
      constructor
      · intro h
        exact ⟨fun _ => Char.not_lt.1 fun hlt => h (.inl hlt), fun hn => absurd rfl hn⟩
      · rintro h (hlt | ⟨-, hnil⟩)
        · exact Char.not_lt.2 (h.1 rfl) hlt
        · exact List.not_lt_nil _ hnil
  | some b =>
      have hne : c.toNat ≠ separator.toNat := fun h => hc (Char.toNat_inj.1 h)
      have hlt : ¬c < separator ↔ separator < c := by
        show ¬c.toNat < separator.toNat ↔ separator.toNat < c.toNat
        omega
      rw [firstRow_some hfirst, append_lt_append_iff, List.cons_lt_cons_iff, ← hlt]
      exact ⟨fun h => ⟨fun hb => (nomatch hb), fun _ hcs => h (.inl hcs)⟩,
        fun h hcs => hcs.elim (h.2 (fun hb => nomatch hb)) fun heq => hc heq.1⟩

/-- A text that continues the id of the stream lies before the end of the range
exactly when, in a range with an oldest timestamp, the continuation does. -/
theorem lt_stopRow_continued_iff {stop : String} {c : Char} {tail : List Char}
    (hstop : stopRow s oldest = .ok stop) (hc : c ≠ separator) :
    (padStream s).toList ++ c :: tail < stop.toList ↔ (oldest ≠ none → c < separator) := by
  cases oldest with
  | none =>
      obtain ⟨cs, last, next, hstream, hsucc, hend⟩ := stopRow_none hstop
      rw [hend, hstream, List.append_assoc, append_lt_append_iff]
      refine iff_of_true (List.cons_lt_cons_iff.2 (.inl ?_)) fun h => absurd rfl h
      show last.toNat < next.toNat
      omega
  | some a =>
      rw [stopRow_some hstop, append_lt_append_iff, List.cons_lt_cons_iff]
      exact ⟨fun h _ => h.resolve_right fun heq => hc heq.1,
        fun h => .inl (h fun ha => nomatch ha)⟩

/-- Every range begins with the id of its stream. -/
theorem firstRow_begins {first : String} (hfirst : firstRow s newest = .ok first) :
    ∃ more, first.toList = (padStream s).toList ++ more := by
  cases newest with
  | none => exact ⟨_, firstRow_none hfirst⟩
  | some b => exact ⟨_, firstRow_some hfirst⟩

/-! ### Keys of other streams -/

/-- An id has no separators, so nothing in it is one. -/
theorem ne_separator_of_mem (hs : separator ∉ s.toList) {c : Char}
    (hc : c ∈ (padStream s).toList) : c ≠ separator := by
  rintro rfl
  exact separator_notMem_padStream hs hc

/-- A key of another stream that begins with the id of the stream is in the range
exactly when the continuation of the id is between the bounds. -/
theorem strays_of_continued (hs : separator ∉ s.toList) (hs' : separator ∉ s'.toList)
    (hne : padStream s' ≠ padStream s) (hrange : rangeOf s oldest newest = .ok range)
    (hk : RowKey.encode s' t n = .ok k) (hcovers : range.Covers k.text) {r : List Char}
    (hr : k.text.toList = (padStream s).toList ++ r) :
    Strays (padStream s) (padStream s') oldest newest := by
  obtain ⟨hfirst, hstop⟩ := rangeOf_eq_ok_iff.1 hrange
  obtain ⟨hlow, hhigh⟩ := RowRange.covers_iff.1 hcovers
  obtain ⟨more, hother, rfl⟩ := beginning_of_stream (separator_notMem_padStream hs)
    (hr.symm.trans (toList_text_of_encode hk))
  cases more with
  | nil => exact absurd (String.toList_inj.1 (hother.trans (List.append_nil _))) hne
  | cons c rest =>
      have hc : c ≠ separator := ne_separator_of_mem hs' (hother ▸ by simp)
      rw [hr, List.cons_append] at hlow hhigh
      obtain ⟨hwild, hsep⟩ := (not_lt_firstRow_continued_iff hfirst hc).1 hlow
      exact .inl ⟨c, rest, hother, hwild, hsep, (lt_stopRow_continued_iff hstop hc).1 hhigh⟩

/-- What begins with a character after the wildcard is not before the wildcard. -/
theorem not_cons_lt_wildcard {c : Char} (hc : wildcard < c) (tail : List Char) :
    ¬c :: tail < [wildcard] := by
  rw [List.cons_lt_cons_iff]
  rintro (h | ⟨rfl, -⟩)
  · exact Nat.lt_asymm h hc
  · exact Nat.lt_irrefl _ hc

/-- A key that begins with the border of a stream and goes on before the wildcard
comes from an id that does so. -/
theorem strays_of_border {cs more r tail : List Char} {last next : Char} {m : Nat}
    (hstream : (padStream s).toList = cs ++ [last]) (hsucc : next.toNat = last.toNat + 1)
    (hother : (padStream s').toList = cs ++ more)
    (htail : next :: r = more ++ ':' :: (Nat.toDigits 10 m ++ tail)) (hwild : r < [wildcard]) :
    ∃ start last next c rest, (padStream s).toList = start ++ [last] ∧
      next.toNat = last.toNat + 1 ∧ (padStream s').toList = start ++ next :: c :: rest ∧
      c < wildcard := by
  cases more with
  | nil =>
      -- The border ends with a separator, and digits follow.
      obtain ⟨d, ds, hd⟩ := List.exists_cons_of_ne_nil (Nat.toDigits_ne_nil (n := m) (b := 10))
      obtain ⟨-, rfl⟩ := List.cons.inj htail
      have hdigit := (digit_bounds (isDigit_of_mem d (hd ▸ List.mem_cons_self))).1
      rw [hd] at hwild
      exact absurd hwild (not_cons_lt_wildcard (Nat.lt_of_lt_of_le (by decide) hdigit) _)
  | cons e rest =>
      obtain ⟨rfl, rfl⟩ := List.cons.inj htail
      cases rest with
      | nil => exact absurd hwild (not_cons_lt_wildcard (by decide) _)
      | cons c rest =>
          refine ⟨cs, last, next, c, rest, hstream, hsucc, hother, ?_⟩
          refine (List.cons_lt_cons_iff.1 hwild).resolve_right fun h => ?_
          exact List.not_lt_nil _ h.2

/-- A key of another stream in the range comes from a stray id. -/
theorem strays_of_covers (hs : separator ∉ s.toList) (hs' : separator ∉ s'.toList)
    (hne : padStream s' ≠ padStream s) (hrange : rangeOf s oldest newest = .ok range)
    (hk : RowKey.encode s' t n = .ok k) (hcovers : range.Covers k.text) :
    Strays (padStream s) (padStream s') oldest newest := by
  obtain ⟨hfirst, hstop⟩ := rangeOf_eq_ok_iff.1 hrange
  obtain ⟨hlow, hhigh⟩ := RowRange.covers_iff.1 hcovers
  obtain ⟨a, ha⟩ := firstRow_begins hfirst
  rw [ha] at hlow
  cases oldest with
  | some b =>
      -- Both bounds begin with the id, and so does everything between them.
      rw [stopRow_some hstop] at hhigh
      obtain ⟨r, hr⟩ := beginning_of_between hlow hhigh
      exact strays_of_continued hs hs' hne hrange hk hcovers hr
  | none =>
      obtain ⟨cs, last, next, hstream, hsucc, hend⟩ := stopRow_none hstop
      rw [hend] at hhigh
      rw [hstream, List.append_assoc] at hlow
      -- Between the id and its border there are continuations of the two only.
      rcases between_successor hsucc hlow hhigh with ⟨r, hr, -⟩ | ⟨r, hr, hwild⟩
      · refine strays_of_continued hs hs' hne hrange hk hcovers (r := r) ?_
        rw [hr, hstream, List.append_assoc, List.singleton_append]
      · have hcs : ':' ∉ cs := fun h =>
          separator_notMem_padStream hs (hstream ▸ List.mem_append_left _ h)
        obtain ⟨more, hother, htail⟩ := beginning_of_stream hcs
          (hr.symm.trans (toList_text_of_encode hk))
        exact .inr ⟨rfl, strays_of_border hstream hsucc hother htail hwild⟩

/-- Every key of a stray id is in the range. -/
theorem covers_of_strays (hs' : separator ∉ s'.toList)
    (hrange : rangeOf s oldest newest = .ok range) (hk : RowKey.encode s' t n = .ok k)
    (h : Strays (padStream s) (padStream s') oldest newest) : range.Covers k.text := by
  obtain ⟨hfirst, hstop⟩ := rangeOf_eq_ok_iff.1 hrange
  rw [RowRange.covers_iff, toList_text_of_encode hk]
  rcases h with ⟨c, rest, hother, hwild, hsep, hhigh⟩ |
      ⟨rfl, start, last, next, c, rest, hstream, hsucc, hother, hc⟩
  · have hc : c ≠ separator := ne_separator_of_mem hs' (hother ▸ by simp)
    rw [hother, List.append_assoc, List.cons_append]
    exact ⟨(not_lt_firstRow_continued_iff hfirst hc).2 ⟨hwild, hsep⟩,
      (lt_stopRow_continued_iff hstop hc).2 hhigh⟩
  · obtain ⟨a, ha⟩ := firstRow_begins hfirst
    obtain ⟨cs, last', next', hstream', hsucc', hend⟩ := stopRow_none hstop
    obtain ⟨rfl, hlast⟩ := List.append_inj' (hstream.symm.trans hstream') rfl
    obtain rfl : last = last' := by simpa using hlast
    obtain rfl : next = next' := Char.toNat_inj.1 (hsucc.trans hsucc'.symm)
    have hlt : last < next := by
      show last.toNat < next.toNat
      omega
    rw [ha, hend, hother, hstream, List.append_assoc, List.append_assoc, append_lt_append_iff,
      append_lt_append_iff]
    refine ⟨fun h => ?_, List.cons_lt_cons_iff.2 (.inr ⟨rfl, List.cons_lt_cons_iff.2 (.inl hc)⟩)⟩
    exact List.lt_asymm h (List.cons_lt_cons_iff.2 (.inl hlt))

end

/-! ### Main result -/

/-- With both bounds nothing strays. -/
theorem not_strays_of_bounded {own other : String} (a b : Nat) :
    ¬Strays own other (some a) (some b) := by
  rintro (⟨c, rest, -, -, hlow, hhigh⟩ | ⟨h, -⟩)
  · exact Nat.lt_asymm (hlow fun h => nomatch h) (hhigh fun h => nomatch h)
  · cases h

/-- An id that is not longer does not stray. -/
theorem not_strays_of_length_le {own other : String} {oldest newest : Option Nat}
    (h : other.toList.length ≤ own.toList.length) : ¬Strays own other oldest newest := by
  rintro (⟨c, rest, hother, -⟩ | ⟨-, start, last, next, c, rest, hown, -, hother, -⟩)
  · rw [hother, List.length_append, List.length_cons] at h
    omega
  · rw [hother, hown, List.length_append, List.length_append, List.length_cons, List.length_cons,
      List.length_singleton] at h
    omega

/-- **Which streams a range reads.**  The range of a stream covers no record of
another one exactly when the other id does not stray; it does not when both bounds
are given, nor when it has at most twelve characters. -/
theorem range_reads_one_stream_iff {s s' : String} {oldest newest : Option Nat} {range : RowRange}
    (hs : separator ∉ s.toList) (hs' : separator ∉ s'.toList)
    (hrange : rangeOf s oldest newest = .ok range) :
    ((∀ t n, t ≤ maxTimestamp → ∃ k, RowKey.encode s' t n = .ok k ∧
        (range.Covers k.text → padStream s' = padStream s)) ↔
      ¬Strays (padStream s) (padStream s') oldest newest) ∧
    (oldest ≠ none ∧ newest ≠ none ∨ s'.toList.length ≤ streamWidth →
      ¬Strays (padStream s) (padStream s') oldest newest) := by
  refine ⟨⟨fun hall hstray => ?_, fun hstray t n ht => ?_⟩, ?_⟩
  · obtain ⟨k, hk, hsame⟩ := hall 0 "" (Nat.zero_le _)
    have heq := hsame (covers_of_strays hs' hrange hk hstray)
    exact not_strays_of_length_le (heq ▸ Nat.le_refl _) hstray
  · have hk := RowKey.encode_eq_ok (s := s') (n := n) ht
    refine ⟨_, hk, fun hcovers => ?_⟩
    exact Classical.byContradiction fun hne =>
      hstray (strays_of_covers hs hs' hne hrange hk hcovers)
  · rintro (⟨ho, hn⟩ | hlen)
    · obtain ⟨a, rfl⟩ := Option.ne_none_iff_exists'.1 ho
      obtain ⟨b, rfl⟩ := Option.ne_none_iff_exists'.1 hn
      exact not_strays_of_bounded a b
    · refine not_strays_of_length_le ?_
      rw [length_padStream, length_padStream]
      omega

/-- The open range of a stream covers no record of another short id. -/
theorem open_range_skips_short_stream :
    ∃ range k, rangeOf "7" none none = .ok range ∧ RowKey.encode "42" 1000 "node" = .ok k ∧
      ¬range.Covers k.text := by
  have hrange : rangeOf "7" none none = .ok ⟨"000000000007*", "000000000008*"⟩ := rfl
  have hother : separator ∉ "42".toList := by decide
  obtain ⟨hiff, hshort⟩ := range_reads_one_stream_iff (by decide) hother hrange
  obtain ⟨k, hk, hsame⟩ := hiff.2 (hshort (.inr (by decide))) 1000 "node" (by decide)
  exact ⟨_, k, hrange, hk, fun h => absurd (hsame h) (by decide)⟩

/-- The open range of an id of twelve characters covers the records of the id with
a digit behind it. -/
theorem open_range_reads_longer_stream :
    ∃ range k, rangeOf "plant-boiler" none none = .ok range ∧
      RowKey.encode "plant-boiler2" 1000 "node" = .ok k ∧ range.Covers k.text ∧
      padStream "plant-boiler2" ≠ padStream "plant-boiler" := by
  have hrange : rangeOf "plant-boiler" none none = .ok ⟨"plant-boiler*", "plant-boiles*"⟩ := rfl
  have hk := RowKey.encode_eq_ok (s := "plant-boiler2") (t := 1000) (n := "node") (by decide)
  refine ⟨_, _, hrange, hk, covers_of_strays (by decide) hrange hk (.inl ⟨'2', [], ?_⟩), by decide⟩
  exact ⟨by decide, fun _ => by decide, fun h => absurd rfl h, fun h => absurd rfl h⟩

end StreamStore
