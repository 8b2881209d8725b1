import Mathlib.Data.List.TakeWhile
import StreamStore.Proofs.FetchedColumns
import StreamStore.Proofs.KeyCodec
import StreamStore.ResultSet

/-!
# The segments of a key

A key is read by cutting it at its first two separators (`RowKey.parse`), so the node id
keeps every further separator, and the key of a record reads back as it was made
(`parse_text_of_encode`).  A row of a split page is named by cutting the key at *all* its
separators and taking the third piece, which is the node id up to its first separator
(`nodeHead`, `rowIdentity_of_records`).  The two agree on node ids without separators and
on no others (`nodeHead_eq_self_iff`).

The name of such a row is a timestamp, a separator and a text, and determines both
(`splitName_inj`).
-/

namespace StreamStore

/-! ### Keys of records -/

/-- The text of a key with its separators named. -/
theorem toList_text_eq {s n : String} {t : Nat} {k : RowKey} (h : RowKey.encode s t n = .ok k) :
    k.text.toList = (padStream s).toList ++
      separator :: (Nat.toDigits 10 (maxTimestamp - t) ++ separator :: n.toList) :=
  toList_text_of_encode h

/-- A node id up to its first separator. -/
def nodeHead (node : String) : String :=
  String.ofList (node.toList.takeWhile (· != separator))

/-- Only a node id with a separator is cut. -/
theorem nodeHead_eq_self_iff {node : String} : nodeHead node = node ↔ separator ∉ node.toList := by
  have hlists : nodeHead node = node ↔ node.toList.takeWhile (· != separator) = node.toList := by
    rw [nodeHead, ← String.toList_inj, String.toList_ofList]
  rw [hlists, List.takeWhile_eq_self_iff]
  constructor
  · intro h hmem
    simpa using h separator hmem
  · intro h c hc
    rw [bne_iff_ne]
    rintro rfl
    exact h hc

/-! ### Names of rows -/

/-- The name of a row by the time and the node of a record. -/
def splitName (timestamp : Nat) (node : String) : String :=
  s!"{timestamp}:{node}"

theorem toList_splitName (t : Nat) (node : String) :
    (splitName t node).toList = Nat.toDigits 10 t ++ separator :: node.toList := by
  show (splitName t node).toList = Nat.toDigits 10 t ++ ':' :: node.toList
  simp [splitName, toString, Nat.toList_repr]

/-- A name determines the time and the node. -/
theorem splitName_inj {t u : Nat} {m n : String} :
    splitName t m = splitName u n ↔ t = u ∧ m = n := by
  constructor
  · intro h
    have hcut : Text.cutOnce separator (splitName t m).toList =
        Text.cutOnce separator (splitName u n).toList := by rw [h]
    rw [toList_splitName, toList_splitName, Text.cutOnce_append (Text.separator_notMem_toDigits t),
      Text.cutOnce_append (Text.separator_notMem_toDigits u)] at hcut
    obtain ⟨htimes, hnodes⟩ := Prod.mk.inj (Option.some.inj hcut)
    exact ⟨Text.toDigits_inj htimes, String.toList_inj.1 hnodes⟩
  · rintro ⟨rfl, rfl⟩
    rfl

/-- Whether a cell belongs to a record: its row is the key of the record, at its own
timestamp. -/
def Cell.Records (c : Cell) (s node : String) : Prop :=
  ∃ k, RowKey.encode s c.timestamp node = .ok k ∧ c.rowKey = k.text

/-- The node id in the row key of a cell, if the key can be read. -/
def Cell.node? (c : Cell) : Option String :=
  (RowKey.parse c.rowKey).toOption.map RowKey.nodeId

section

variable {s m n : String} {c d : Cell}

/-- The key of a record has its node id. -/
theorem node?_of_records (hs : separator ∉ s.toList) (h : c.Records s n) : c.node? = some n := by
  obtain ⟨k, hk, hrow⟩ := h
  have hparse := RowKey.parse_text_of_encode hs hk
  obtain ⟨-, rfl⟩ := RowKey.encode_eq_ok_iff.1 hk
  rw [Cell.node?, hrow, hparse]
  rfl

/-- The row of a record's cell is named by the timestamp and the head of the node id. -/
theorem rowIdentity_of_records (hs : separator ∉ s.toList) (h : c.Records s n) :
    rowIdentity true c = splitName c.timestamp (nodeHead n) := by
  obtain ⟨k, hk, hrow⟩ := h
  have hcolon : separator ∉ (padStream s).toList := separator_notMem_padStream hs
  have hpieces : Text.pieces separator c.rowKey.toList =
      (padStream s).toList :: Nat.toDigits 10 (maxTimestamp - c.timestamp) ::
        Text.pieces separator n.toList := by
    rw [hrow, toList_text_eq hk, Text.pieces_append, Text.pieces_append, Text.pieces_of_notMem hcolon,
      Text.pieces_of_notMem (Text.separator_notMem_toDigits _)]
    rfl
  have hthird : (Text.pieces separator c.rowKey.toList)[2]? =
      some (n.toList.takeWhile (· != separator)) := by
    rw [hpieces, ← Text.head?_pieces, List.head?_eq_getElem?]
    rfl
  rw [rowIdentity, if_pos rfl]
  dsimp only
  rw [hthird]
  rfl

/-- Records of a stream have one key when they have one time and one node. -/
theorem rowKey_eq_iff_of_records (hs : separator ∉ s.toList) (hc : c.Records s m)
    (hd : d.Records s n) : c.rowKey = d.rowKey ↔ c.timestamp = d.timestamp ∧ m = n := by
  obtain ⟨k, hk, hrow⟩ := hc
  obtain ⟨l, hl, hrow'⟩ := hd
  constructor
  · intro h
    have hkl : k = l := by
      have hread := RowKey.parse_text_of_encode hs hk
      rw [← hrow, h, hrow', RowKey.parse_text_of_encode hs hl] at hread
      exact (Except.ok.inj hread).symm
    have htimes := RowKey.timestamp_of_encode hk
    rw [hkl, RowKey.timestamp_of_encode hl] at htimes
    obtain ⟨-, rfl⟩ := RowKey.encode_eq_ok_iff.1 hk
    obtain ⟨-, rfl⟩ := RowKey.encode_eq_ok_iff.1 hl
    exact ⟨htimes.symm, congrArg RowKey.nodeId hkl⟩
  · rintro ⟨htime, rfl⟩
    rw [htime, hl] at hk
    rw [hrow, hrow', Except.ok.inj hk]

end

end StreamStore
