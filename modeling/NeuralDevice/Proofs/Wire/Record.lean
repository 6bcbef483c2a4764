import Mathlib.Data.List.Basic
import NeuralDevice.Wire.Record

/-!
Records read back. What is written for records with proper tags is read as these records, whatever stands
behind them and however deep groups may nest.
-/

namespace NeuralDevice.Wire

/-- A tag that fits a key of 32 bits. -/
def IsTag (tag : Nat) : Prop := 0 < tag ∧ tag < 0x20000000

instance (tag : Nat) : Decidable (IsTag tag) := inferInstanceAs (Decidable (_ ∧ _))

/-- The bytes of a payload are counted with 64 bits. -/
def Payload.Fits : Payload → Prop
  | .bytes data => data.length < UInt64.size
  | .varint _ | .fixed64 | .group | .fixed32 _ => True

/-- The kinds of payloads that messages contain. -/
def Payload.IsWritten : Payload → Prop
  | .varint _ | .bytes _ | .fixed32 _ => True
  | .fixed64 | .group => False

theorem readFixed32_write (value : UInt32) (rest : List UInt8) :
    readFixed32 (writeFixed32 value ++ rest) = some (value, rest) := by
  have joined : value.toUInt8.toUInt32 ||| (value >>> 8).toUInt8.toUInt32 <<< 8 |||
      (value >>> 16).toUInt8.toUInt32 <<< 16 ||| (value >>> 24).toUInt8.toUInt32 <<< 24 = value := by
    apply UInt32.eq_of_toBitVec_eq
    ext index inside
    simp [-UInt32.toUInt32_toUInt8]
    grind
  simp only [writeFixed32, List.cons_append, List.nil_append, readFixed32, joined]

private theorem takeBytes_append (data rest : List UInt8) :
    takeBytes data.length (data ++ rest) = some (data, rest) := by
  simp [takeBytes]

theorem WireType.ofCode?_code (wireType : WireType) : ofCode? wireType.code = some wireType := by
  cases wireType <;> rfl

theorem WireType.code_lt (wireType : WireType) : wireType.code < 8 := by
  cases wireType <;> decide

theorem readKey_write {tag : Nat} (valid : IsTag tag) (wireType : WireType) (rest : List UInt8) :
    readKey (writeKey tag wireType ++ rest) = some ((tag, wireType), rest) := by
  have bounds := wireType.code_lt
  obtain ⟨positive, small⟩ := valid
  have key : (UInt64.ofNat (tag * 8 + wireType.code)).toNat = tag * 8 + wireType.code := by
    rw [UInt64.toNat_ofNat']
    exact Nat.mod_eq_of_lt (by omega)
  have found : (tag * 8 + wireType.code) % 8 = wireType.code := by omega
  have above : (tag * 8 + wireType.code) / 8 = tag := by omega
  have fits : ¬UInt32.size ≤ tag * 8 + wireType.code := by
    simp only [UInt32.size]
    omega
  simp only [readKey, writeKey, Varint.read_write, key, found, above, if_neg fits, WireType.ofCode?_code,
    if_neg (Nat.ne_of_gt positive)]

private theorem readRecord_write {record : Record} (valid : IsTag record.tag)
    (kind : record.payload.IsWritten) (fits : record.payload.Fits) (limit : Nat) (rest : List UInt8) :
    readRecord limit (record.write ++ rest) = some (record, rest) := by
  obtain ⟨tag, payload⟩ := record
  cases payload with
  | varint value =>
    simp only [Record.write, List.append_assoc, readRecord, readKey_write valid, readPayload,
      Varint.read_write, Option.map_some]
  | bytes data =>
    have length : (UInt64.ofNat data.length).toNat = data.length := by
      rw [UInt64.toNat_ofNat']
      exact Nat.mod_eq_of_lt fits
    simp only [Record.write, List.append_assoc, readRecord, readKey_write valid, readPayload,
      Varint.read_write, length, takeBytes_append, Option.map_some]
  | fixed32 value =>
    simp only [Record.write, List.append_assoc, readRecord, readKey_write valid, readPayload,
      readFixed32_write, Option.map_some]
  | fixed64 => exact absurd kind id
  | group => exact absurd kind id

private theorem readRecords_cons {limit : Nat} {data rest : List UInt8} {record : Record}
    (first : readRecord limit data = some (record, rest)) :
    readRecords limit data = (readRecords limit rest).map (record :: ·) := by
  have shorter := length_readRecord first
  rw [readRecords, if_neg (List.ne_nil_of_length_pos (Nat.zero_lt_of_lt shorter))]
  split
  · rename_i none
    rw [first] at none
    cases none
  · rename_i other found after
    rw [first] at after
    cases after
    rfl

/-- Written records are read back. -/
theorem readRecords_flatMap_write {records : List Record}
    (valid : ∀ record ∈ records, IsTag record.tag ∧ record.payload.IsWritten ∧ record.payload.Fits)
    (limit : Nat) : readRecords limit (records.flatMap Record.write) = some records := by
  induction records with
  | nil => rw [List.flatMap_nil, readRecords, if_pos rfl]
  | cons record rest ih =>
    rw [List.forall_mem_cons] at valid
    obtain ⟨⟨tag, kind, fits⟩, others⟩ := valid
    rw [List.flatMap_cons, readRecords_cons (readRecord_write tag kind fits limit _), ih others]
    rfl

end NeuralDevice.Wire
