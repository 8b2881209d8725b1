import StreamStore.Error
import StreamStore.Text.Pieces
import StreamStore.Text.Natural

/-!
# Row keys

The row of a record is named `streamId:reverseTimestamp:nodeId`.  The stream id
is filled up with zeros on the left to twelve characters, and the timestamp is
stored as its distance from the largest one, so that within a stream ascending
keys run from the newest record to the oldest.

* `RowKey.encode` and `RowKey.parse` are the two directions of the codec.  A
  parsed key keeps the stream id as it was written, and the node id keeps every
  further separator.  The stored timestamp never exceeds the largest one; that
  bound is a field of the type, so `timestamp` needs no case for underflow.
* `endKey` is the least key above all keys with a given beginning.
* `rangeOf` turns a time range of a stream into bounds for a scan: keys from
  `first` up to and without `stop`.
-/

namespace StreamStore

/-- The character between the segments of a row key. -/
def separator : Char := ':'

/-- How many characters a stream id is filled up to. -/
def streamWidth : Nat := 12

/-- The character after the beginning of a key in an open bound. -/
def wildcard : Char := '*'

/-- The name of a record's row. -/
structure RowKey where
  /-- The stream the record belongs to. -/
  streamId : String
  /-- The distance of the record's timestamp from the largest one. -/
  reverse : Nat
  /-- The node that wrote the record; empty when there is none. -/
  nodeId : String
  /-- The stored timestamp is in range. -/
  reverse_le : reverse ≤ maxTimestamp
  deriving DecidableEq

/-- A stream id filled up with zeros on the left; a longer one is left alone. -/
def padStream (streamId : String) : String :=
  String.ofList (List.replicate (streamWidth - streamId.toList.length) '0' ++ streamId.toList)

/-- The distance of a timestamp from the largest one. -/
def reverseTimestamp (timestamp : Nat) : Except RequestFault Nat :=
  if timestamp ≤ maxTimestamp then .ok (maxTimestamp - timestamp)
  else .error (.timestampTooLarge timestamp)

namespace RowKey

/-- The key of a record. -/
def encode (streamId : String) (timestamp : Nat) (nodeId : String) : Except RequestFault RowKey :=
  if timestamp ≤ maxTimestamp then
    .ok ⟨padStream streamId, maxTimestamp - timestamp, nodeId, Nat.sub_le ..⟩
  else .error (.timestampTooLarge timestamp)

/-- The timestamp of the record. -/
def timestamp (k : RowKey) : Nat :=
  maxTimestamp - k.reverse

/-- The key as it is stored: its three segments with separators between them. -/
def text (k : RowKey) : String :=
  s!"{k.streamId}:{k.reverse}:{k.nodeId}"

/-- Reads a stored key.  The first two separators end the stream id and the
timestamp; the rest is the node id. -/
def parse (s : String) : Except RequestFault RowKey :=
  match Text.cutOnce separator s.toList with
  | none => .error (.keyShape s)
  | some (stream, rest) =>
      match Text.cutOnce separator rest with
      | none => .error (.keyShape s)
      | some (middle, node) =>
          match Text.wordOf middle with
          | none => .error (.keyTimestamp s)
          | some n =>
              if h : n ≤ maxTimestamp then
                .ok ⟨String.ofList stream, n, String.ofList node, h⟩
              else .error (.keyTimestampTooLarge s)

end RowKey

/-- The character whose code point is the next one, if that is a character. -/
def succChar? (c : Char) : Option Char :=
  if h : (c.toNat + 1).isValidChar then some (Char.ofNatAux (c.toNat + 1) h) else none

/-- The least key above every key that begins with `start`: the last character
is replaced by its successor.  A beginning needs at least three characters. -/
def endKey (start : String) : Except RequestFault String :=
  let cs := start.toList
  if cs.length < 3 then .error (.tooShort start)
  else
    match cs.getLast? with
    | none => .error (.tooShort start)
    | some last =>
        match succChar? last with
        | none => .error (.noSuccessor start)
        | some next => .ok (String.ofList (cs.dropLast ++ [next]))

/-- The rows of a scan: from `first` on, up to and without `stop`. -/
structure RowRange where
  /-- The first row of the scan. -/
  first : String
  /-- The row before which the scan stops. -/
  stop : String
  deriving DecidableEq, Repr

/-- The rows of one stream from `oldest` to `newest`, both included.  Keys run
from the newest record to the oldest, so `newest` gives the first row and
`oldest` the end; an absent bound reaches to the border of the stream. -/
def rangeOf (streamId : String) (oldest newest : Option Nat) : Except RequestFault RowRange := do
  let padded := padStream streamId
  let first ← match newest with
    | some t => RowKey.text <$> RowKey.encode streamId t ""
    | none => pure (padded.push wildcard)
  let stop ← match oldest with
    | some t => RowKey.encode streamId t "" >>= fun k => endKey k.text
    | none => (·.push wildcard) <$> endKey padded
  return ⟨first, stop⟩

theorem RowKey.encode_eq_ok {s : String} {t : Nat} {n : String} (h : t ≤ maxTimestamp) :
    RowKey.encode s t n = .ok ⟨padStream s, maxTimestamp - t, n, Nat.sub_le ..⟩ := by
  rw [RowKey.encode, if_pos h]

/-- The stored timestamp gives the record's timestamp back. -/
theorem RowKey.timestamp_of_encode {s : String} {t : Nat} {n : String} {k : RowKey}
    (h : RowKey.encode s t n = .ok k) : k.timestamp = t := by
  rw [RowKey.encode] at h
  split at h
  · cases h
    simp only [RowKey.timestamp]
    omega
  · cases h

end StreamStore
