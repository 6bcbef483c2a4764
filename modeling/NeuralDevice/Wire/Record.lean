import NeuralDevice.Wire.Varint

/-!
Messages as sequences of tagged records. Reading splits bytes into records; a group is read to its end and
its content dropped, since no message here has one.
-/

namespace NeuralDevice.Wire

inductive Payload where
  | varint (value : UInt64)
  | fixed64
  | bytes (data : List UInt8)
  | group
  | fixed32 (value : UInt32)
  deriving DecidableEq, Repr

structure Record where
  tag : Nat
  payload : Payload
  deriving DecidableEq, Repr

/-- How the payload after a key is laid out. -/
inductive WireType where
  | varint
  | fixed64
  | delimited
  | startGroup
  | endGroup
  | fixed32
  deriving DecidableEq, Repr

namespace WireType

def code : WireType → Nat
  | .varint => 0
  | .fixed64 => 1
  | .delimited => 2
  | .startGroup => 3
  | .endGroup => 4
  | .fixed32 => 5

def ofCode? : Nat → Option WireType
  | 0 => some .varint
  | 1 => some .fixed64
  | 2 => some .delimited
  | 3 => some .startGroup
  | 4 => some .endGroup
  | 5 => some .fixed32
  | _ => none

end WireType

/-- The four bytes of a word, low byte first. -/
def writeFixed32 (value : UInt32) : List UInt8 :=
  [value.toUInt8, (value >>> 8).toUInt8, (value >>> 16).toUInt8, (value >>> 24).toUInt8]

def readFixed32 : List UInt8 → Option (UInt32 × List UInt8)
  | first :: second :: third :: fourth :: rest =>
    some (first.toUInt32 ||| second.toUInt32 <<< 8 ||| third.toUInt32 <<< 16
      ||| fourth.toUInt32 <<< 24, rest)
  | _ => none

/-- The first `count` bytes and the rest. -/
def takeBytes (count : Nat) (data : List UInt8) : Option (List UInt8 × List UInt8) :=
  if count ≤ data.length then some (data.take count, data.drop count) else none

def writeKey (tag : Nat) (wireType : WireType) : List UInt8 :=
  Varint.write (UInt64.ofNat (tag * 8 + wireType.code))

/-- A key of 32 bits: the tag, which is not zero, above the wire type. -/
def readKey (data : List UInt8) : Option ((Nat × WireType) × List UInt8) :=
  match Varint.read data with
  | none => none
  | some (key, rest) =>
    if UInt32.size ≤ key.toNat then none
    else
      match WireType.ofCode? (key.toNat % 8) with
      | none => none
      | some wireType => if key.toNat / 8 = 0 then none else some ((key.toNat / 8, wireType), rest)

/-- The payload of a type that is no group. -/
def readPayload (wireType : WireType) (data : List UInt8) : Option (Payload × List UInt8) :=
  match wireType with
  | .varint => (Varint.read data).map fun (value, rest) => (.varint value, rest)
  | .fixed64 => (takeBytes 8 data).map fun (_, rest) => (.fixed64, rest)
  | .delimited =>
    match Varint.read data with
    | none => none
    | some (count, rest) =>
      (takeBytes count.toNat rest).map fun (content, rest) => (.bytes content, rest)
  | .fixed32 => (readFixed32 data).map fun (value, rest) => (.fixed32 value, rest)
  | .startGroup | .endGroup => none

theorem length_takeBytes {count : Nat} {data taken rest : List UInt8}
    (found : takeBytes count data = some (taken, rest)) : rest.length ≤ data.length := by
  unfold takeBytes at found
  split at found
  · cases found
    simp
  · cases found

theorem length_readKey {data rest : List UInt8} {key : Nat × WireType}
    (found : readKey data = some (key, rest)) : rest.length < data.length := by
  unfold readKey at found
  split at found
  · cases found
  · rename_i value after read
    split at found
    · cases found
    · split at found
      · cases found
      · split at found
        · cases found
        · cases found
          exact Varint.length_read read

theorem length_readPayload {wireType : WireType} {data rest : List UInt8} {payload : Payload}
    (found : readPayload wireType data = some (payload, rest)) : rest.length ≤ data.length := by
  cases wireType with
  | varint =>
    obtain ⟨⟨value, after⟩, read, same⟩ := Option.map_eq_some_iff.mp found
    cases same
    exact Nat.le_of_lt (Varint.length_read read)
  | fixed64 =>
    obtain ⟨⟨taken, after⟩, read, same⟩ := Option.map_eq_some_iff.mp found
    cases same
    exact length_takeBytes read
  | delimited =>
    simp only [readPayload] at found
    split at found
    · cases found
    · rename_i count after read
      obtain ⟨⟨taken, beyond⟩, content, same⟩ := Option.map_eq_some_iff.mp found
      cases same
      exact Nat.le_trans (length_takeBytes content) (Nat.le_of_lt (Varint.length_read read))
  | fixed32 =>
    obtain ⟨⟨value, after⟩, read, same⟩ := Option.map_eq_some_iff.mp found
    cases same
    unfold readFixed32 at read
    split at read
    · cases read
      simp only [List.length_cons]
      omega
    · cases read
  | startGroup => cases found
  | endGroup => cases found

/-- The bytes after the end of all open `groups`, innermost first. Fewer than `limit` may be open around a
field. -/
def skipGroups (limit : Nat) (groups : List Nat) (data : List UInt8) : Option (List UInt8) :=
  match groups with
  | [] => some data
  | innermost :: outer =>
    match _key : readKey data with
    | none => none
    | some ((tag, .endGroup), rest) =>
      if tag = innermost then skipGroups limit outer rest else none
    | some ((tag, .startGroup), rest) =>
      if limit ≤ groups.length then none else skipGroups limit (tag :: groups) rest
    | some ((_, wireType), rest) =>
      if limit ≤ groups.length then none
      else
        match _payload : readPayload wireType rest with
        | none => none
        | some (_, rest) => skipGroups limit groups rest
  termination_by data.length
  decreasing_by
    · exact length_readKey _key
    · exact length_readKey _key
    · exact Nat.lt_of_le_of_lt (length_readPayload _payload) (length_readKey _key)

theorem length_skipGroups {limit : Nat} {groups : List Nat} {data rest : List UInt8}
    (found : skipGroups limit groups data = some rest) : rest.length ≤ data.length := by
  fun_induction skipGroups limit groups data <;>
    grind [→ length_readKey, → length_readPayload]

def readRecord (limit : Nat) (data : List UInt8) : Option (Record × List UInt8) :=
  match readKey data with
  | none => none
  | some ((tag, .startGroup), rest) =>
    (skipGroups limit [tag] rest).map fun rest => (⟨tag, .group⟩, rest)
  | some ((tag, wireType), rest) =>
    (readPayload wireType rest).map fun (payload, rest) => (⟨tag, payload⟩, rest)

theorem length_readRecord {limit : Nat} {data rest : List UInt8} {record : Record}
    (found : readRecord limit data = some (record, rest)) : rest.length < data.length := by
  unfold readRecord at found
  split at found
  · cases found
  · rename_i tag after key
    obtain ⟨beyond, skipped, same⟩ := Option.map_eq_some_iff.mp found
    cases same
    exact Nat.lt_of_le_of_lt (length_skipGroups skipped) (length_readKey key)
  · rename_i tag wireType after _ key
    obtain ⟨⟨payload, beyond⟩, read, same⟩ := Option.map_eq_some_iff.mp found
    cases same
    exact Nat.lt_of_le_of_lt (length_readPayload read) (length_readKey key)

def readRecords (limit : Nat) (data : List UInt8) : Option (List Record) :=
  if data = [] then some []
  else
    match _first : readRecord limit data with
    | none => none
    | some (record, rest) => (readRecords limit rest).map (record :: ·)
  termination_by data.length
  decreasing_by exact length_readRecord _first

/-- The bytes of a record. Only kinds that messages contain are written. -/
def Record.write (record : Record) : List UInt8 :=
  match record.payload with
  | .varint value => writeKey record.tag .varint ++ Varint.write value
  | .bytes data =>
    writeKey record.tag .delimited ++ Varint.write (UInt64.ofNat data.length) ++ data
  | .fixed32 value => writeKey record.tag .fixed32 ++ writeFixed32 value
  | .fixed64 | .group => []

end NeuralDevice.Wire
