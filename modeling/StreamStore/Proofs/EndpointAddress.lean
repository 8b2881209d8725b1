import StreamStore.Proofs.HostText
import StreamStore.Proofs.PathSegments
import StreamStore.Settings

/-!
# The address of an endpoint

The address of an endpoint is its scheme, its host and its port, written one after the other
and read again as a URL.  The schemes are schemes of the web, so whatever is read has a host,
and some text was read as that host (`parse_url_inv`).

A host whose text is whole comes through: then the address can be read exactly if the host can,
and it is the URL of this host and this port (`parse_url_of_isWhole`).  Texts of hosts are whole
themselves, so an address that leads to the host as it was written comes about in no other way.
-/

namespace StreamStore

open Url

variable {e : Endpoint}

/-! ### The text of an address -/

theorem eq_of_mem_schemes {scheme : String} (h : scheme ∈ schemes) :
    scheme = "http" ∨ scheme = "https" := by
  simpa only [schemes, List.mem_cons, List.not_mem_nil, or_false] using h

theorem Endpoint.toList_url (e : Endpoint) :
    e.url.toList = e.scheme.toList ++ ':' :: '/' :: '/' ::
      (e.host.toList ++ ':' :: Nat.toDigits 10 e.port.toNat) := by
  show (e.scheme ++ "://" ++ e.host ++ ":" ++ toString e.port.toNat).toList = _
  rw [Nat.toString_eq_ofList_toDigits]
  simp

namespace Url

/-- Nothing is cut off a text that neither begins nor ends with a control or a blank. -/
theorem trimmed_eq {s : String} (hfirst : ∀ c ∈ s.toList.head?, 0x20 < c.toNat)
    (hlast : ∀ c ∈ s.toList.getLast?, 0x20 < c.toNat) : trimmed s = s.toList := by
  have hdrop : ∀ cs : List Char, (∀ c ∈ cs.head?, 0x20 < c.toNat) →
      (cs.dropWhile fun c => decide (c.toNat ≤ 0x20)) = cs := by
    intro cs hcs
    cases cs with
    | nil => rfl
    | cons c cs =>
        have hc : ¬c.toNat ≤ 0x20 := Nat.not_le.2 (hcs c rfl)
        rw [List.dropWhile_cons, if_neg (by simpa using hc)]
  rw [trimmed, hdrop _ hfirst, hdrop _ (by rwa [List.head?_reverse]), List.reverse_reverse]

theorem dropLineChars_append (cs ds : List Char) :
    dropLineChars (cs ++ ds) = dropLineChars cs ++ dropLineChars ds :=
  List.filter_append ..

/-- What a character of a host is not. -/
theorem not_of_inHost {c : Char} (h : inHost c = true) :
    isLineChar c = false ∧ endsAuthority true c = false ∧ (c == '@') = false := by
  rw [inHost, Bool.not_eq_true', Bool.or_eq_false_iff, Bool.or_eq_false_iff] at h
  exact ⟨h.1.1, h.1.2, h.2⟩

theorem inHost_of_mem_digits {n : Nat} {c : Char} (h : c ∈ Nat.toDigits 10 n) : inHost c = true :=
  (Bool.and_eq_true_iff.1 (inName_of_isDigit (Text.isDigit_of_mem c h))).1

theorem trimmed_url (hscheme : e.scheme ∈ schemes) : trimmed e.url = e.url.toList := by
  have hdigits : ∀ c ∈ Nat.toDigits 10 e.port.toNat, 0x20 < c.toNat := by
    intro c hc
    have hbounds := Text.digit_bounds (Text.isDigit_of_mem c hc)
    omega
  apply trimmed_eq
  · rw [e.toList_url]
    rcases eq_of_mem_schemes hscheme with h | h <;> rw [h] <;> rintro c ⟨⟩ <;> decide
  · intro c hc
    have htext : e.url.toList =
        (e.scheme.toList ++ ':' :: '/' :: '/' :: (e.host.toList ++ [':'])) ++
          Nat.toDigits 10 e.port.toNat := by
      rw [e.toList_url]
      simp
    rw [htext, List.getLast?_append_of_ne_nil _ Nat.toDigits_ne_nil] at hc
    exact hdigits c (List.mem_of_mem_getLast? hc)

/-- In an address of the web an authority follows the slashes behind the scheme. -/
theorem parse_url (hscheme : e.scheme ∈ schemes) :
    parse e.url = withAuthority? e.scheme
      ((dropLineChars e.host.toList ++ ':' :: Nat.toDigits 10 e.port.toNat).dropWhile
        fun c => c == '/' || c == '\\') := by
  have hdigits : dropLineChars (Nat.toDigits 10 e.port.toNat) = Nat.toDigits 10 e.port.toNat :=
    dropLineChars_of_noLineChar fun c hc => (not_of_inHost (inHost_of_mem_digits hc)).1
  have hrest : dropLineChars (e.host.toList ++ ':' :: Nat.toDigits 10 e.port.toNat) =
      dropLineChars e.host.toList ++ ':' :: Nat.toDigits 10 e.port.toNat := by
    rw [dropLineChars_append]
    exact congrArg (_ ++ ':' :: ·) hdigits
  rw [parse, trimmed_url hscheme, e.toList_url, ← hrest]
  rcases eq_of_mem_schemes hscheme with h | h
  · rw [h]
    rfl
  · rw [h]
    rfl

/-! ### Addresses in general -/

theorem server?_inv {scheme : String} {cs rest : List Char} {host : Host} {port : Option Nat}
    (hspecial : isSpecial scheme = true) (h : server? scheme cs = some (host, port, rest)) :
    ∃ text, Host.parse? text = some host := by
  unfold server? at h
  dsimp only at h
  rw [hspecial] at h
  split at h
  · cases h
  · next hempty =>
      rw [Bool.true_or, Bool.and_true] at hempty
      rw [if_neg hempty, if_pos rfl] at h
      obtain ⟨host', hhost, h⟩ := Option.bind_eq_some_iff.1 h
      refine ⟨_, hhost.trans (congrArg some ?_)⟩
      split at h
      · obtain ⟨⟨port', rest'⟩, -, h⟩ := Option.bind_eq_some_iff.1 h
        cases h
        rfl
      · cases h
        rfl

/-- An address of the web that can be read has paths under it and a host. -/
theorem withAuthority?_inv {scheme : String} {cs : List Char} {u : Url}
    (hspecial : isSpecial scheme = true) (h : withAuthority? scheme cs = some u) :
    u.scheme = scheme ∧ u.isBase = true ∧
      ∃ text host, u.host = some host ∧ Host.parse? text = some host := by
  unfold withAuthority? at h
  dsimp only at h
  obtain ⟨-, h⟩ := Option.ite_none_left_eq_some.1 h
  obtain ⟨⟨host, port, tail⟩, hserver, h⟩ := Option.bind_eq_some_iff.1 h
  obtain ⟨-, h⟩ := Option.ite_none_left_eq_some.1 h
  obtain rfl := Option.some.inj h
  obtain ⟨text, htext⟩ := server?_inv hspecial hserver
  exact ⟨rfl, rfl, text, host, rfl, htext⟩

theorem isSpecial_of_mem {scheme : String} (h : scheme ∈ schemes) : isSpecial scheme = true := by
  rcases eq_of_mem_schemes h with rfl | rfl <;> decide

theorem parse_url_inv (hscheme : e.scheme ∈ schemes) {u : Url} (h : parse e.url = some u) :
    u.scheme = e.scheme ∧ u.isBase = true ∧
      ∃ text host, u.host = some host ∧ Host.parse? text = some host := by
  rw [parse_url hscheme] at h
  exact withAuthority?_inv (isSpecial_of_mem hscheme) h

/-! ### Whole hosts -/

/-- The port is what stands behind the colon that a whole text ends at. -/
theorem cutPort_append {cs : List Char} (rest : List Char) :
    ∀ inside, endsAtColon inside cs = true →
      cutPort inside (cs ++ ':' :: rest) = (cs, some rest) := by
  induction cs with
  | nil =>
      intro inside h
      obtain rfl : inside = false := by simpa [endsAtColon] using h
      rfl
  | cons c cs ih =>
      intro inside h
      rw [endsAtColon, Bool.and_eq_true] at h
      have hcolon : ¬(c = ':' ∧ inside = false) := by
        rintro ⟨rfl, rfl⟩
        cases h.1
      rw [List.cons_append, cutPort, if_neg hcolon]
      dsimp only
      rw [ih _ h.2]

theorem dropWhile_of_forall {drop : Char → Bool} {cs : List Char} (h : ∀ c ∈ cs, drop c = false) :
    cs.dropWhile drop = cs := by
  cases cs with
  | nil => rfl
  | cons c cs => rw [List.dropWhile_cons, h c List.mem_cons_self, if_neg Bool.false_ne_true]

theorem cutBefore_of_forall {stop : Char → Bool} {cs : List Char} (h : ∀ c ∈ cs, stop c = false) :
    cutBefore stop cs = (cs, []) := by
  have hnot : ∀ c ∈ cs, (!stop c) = true := fun c hc => by rw [h c hc]; rfl
  rw [cutBefore, List.takeWhile_eq_self_iff.2 hnot, List.dropWhile_eq_nil_iff.2 hnot]

theorem port?_toDigits (scheme : String) {n : Nat} (hn : n ≤ 65535) :
    port? scheme (Nat.toDigits 10 n) =
      some (if impliedPort? scheme = some n then none else some n, []) := by
  have hcut : cutBefore (fun c => !c.isDigit) (Nat.toDigits 10 n) = (Nat.toDigits 10 n, []) :=
    cutBefore_of_forall fun c hc => by rw [Text.isDigit_of_mem c hc]; rfl
  have hempty : (Nat.toDigits 10 n).isEmpty = false :=
    List.isEmpty_eq_false_iff.2 Nat.toDigits_ne_nil
  rw [port?, hcut]
  dsimp only
  rw [Text.valueOf_toDigits, if_neg (by simpa using hn), hempty, Bool.false_or]
  simp only [decide_eq_true_eq]
  split_ifs <;> rfl

/-- The server of an authority is the host in front of its last colon, and the port behind it. -/
theorem server?_append {scheme : String} (hspecial : isSpecial scheme = true) {cs : List Char}
    (hcs : endsAtColon false cs = true) {n : Nat} (hn : n ≤ 65535) :
    server? scheme (cs ++ ':' :: Nat.toDigits 10 n) =
      (Host.parse? cs).map fun host =>
        (host, if impliedPort? scheme = some n then none else some n, []) := by
  rw [server?, cutPort_append _ _ hcs]
  dsimp only
  rw [hspecial, Bool.true_or, Bool.and_true]
  cases cs with
  | nil => rfl
  | cons c cs =>
      rw [List.isEmpty_cons, if_neg Bool.false_ne_true, if_pos rfl, port?_toDigits scheme hn]
      cases Host.parse? (c :: cs) <;> rfl

/-- Where nothing ends an authority, it is all server. -/
theorem withAuthority?_of_inHost {scheme : String} (hspecial : isSpecial scheme = true)
    {cs : List Char} (hcs : ∀ c ∈ cs, inHost c = true) {server : Option (Host × Option Nat)}
    (hserver : server? scheme cs = server.map fun (host, port) => (host, port, [])) :
    withAuthority? scheme cs = server.map fun (host, port) =>
      ⟨scheme, none, some host, port, false, .segments [""], none, none⟩ := by
  have hends : ∀ c ∈ cs, endsAuthority (isSpecial scheme) c = false := by
    intro c hc
    rw [hspecial]
    exact (not_of_inHost (hcs c hc)).2.1
  have hat : cutLastAt? cs = none := by
    refine if_neg fun hmem => ?_
    exact absurd (hcs '@' (by simpa using hmem)) (by decide)
  rw [withAuthority?]
  dsimp only
  rw [cutBefore_of_forall hends]
  dsimp only
  rw [hat, if_neg fun h => h.2 rfl]
  dsimp only
  rw [hserver, hspecial]
  cases server with
  | none => rfl
  | some server => rfl

end Url

/-- The port of an endpoint as a URL holds it: only if the scheme does not imply it. -/
def Endpoint.writtenPort? (e : Endpoint) : Option Nat :=
  if impliedPort? e.scheme = some e.port.toNat then none else some e.port.toNat

/-- The URL of a host and of the port of an endpoint. -/
def Endpoint.base (e : Endpoint) (host : Host) : Url :=
  ⟨e.scheme, none, some host, e.writtenPort?, false, .segments [""], none, none⟩

/-- **A whole host comes through.** -/
theorem parse_url_of_isWhole (hscheme : e.scheme ∈ schemes) (hwhole : IsWhole e.host.toList) :
    Url.parse e.url = (Host.parse? e.host.toList).map e.base := by
  have hport : e.port.toNat ≤ 65535 := Nat.le_of_lt_succ e.port.toNat_lt
  have hspecial := isSpecial_of_mem hscheme
  have hauthority : ∀ c ∈ e.host.toList ++ ':' :: Nat.toDigits 10 e.port.toNat,
      inHost c = true := by
    intro c hc
    rcases List.mem_append.1 hc with hc | hc
    · exact List.all_eq_true.1 hwhole.1 c hc
    · rcases List.mem_cons.1 hc with rfl | hc
      · decide
      · exact inHost_of_mem_digits hc
  have hlines : dropLineChars e.host.toList = e.host.toList :=
    dropLineChars_of_noLineChar fun c hc =>
      (not_of_inHost (hauthority c (List.mem_append_left _ hc))).1
  have hslashes : (e.host.toList ++ ':' :: Nat.toDigits 10 e.port.toNat).dropWhile
      (fun c => c == '/' || c == '\\') = e.host.toList ++ ':' :: Nat.toDigits 10 e.port.toNat :=
    dropWhile_of_forall fun c hc =>
      (Bool.or_eq_false_iff.1 (not_of_inHost (hauthority c hc)).2.1).1
  have hserver : server? e.scheme (e.host.toList ++ ':' :: Nat.toDigits 10 e.port.toNat) =
      ((Host.parse? e.host.toList).map fun host => (host, e.writtenPort?)).map
        fun (host, port) => (host, port, []) := by
    rw [server?_append hspecial hwhole.2 hport, Option.map_map]
    rfl
  rw [parse_url hscheme, hlines, hslashes, withAuthority?_of_inHost hspecial hauthority hserver,
    Option.map_map]
  rfl

end StreamStore
