import NeuralDevice.Numeric.Single
import NeuralDevice.Wire.Record

/-!
Fields of messages. A field says which tags it owns, how its value is written as records and how a record
is merged into the value read so far; a message is a field that owns the tags of all its parts.
-/

namespace NeuralDevice.Wire

/-- A type written as one variable-length number. The value written as zero is left out of messages. -/
class Scalar (α : Type) where
  toBits : α → UInt64
  ofBits : UInt64 → α
  ofBits_toBits : ∀ value : α, ofBits (toBits value) = value

instance : Scalar UInt32 where
  toBits := UInt32.toUInt64
  ofBits := UInt64.toUInt32
  ofBits_toBits value := by simp

instance : Scalar UInt64 where
  toBits := id
  ofBits := id
  ofBits_toBits _ := rfl

/-- Negative numbers are extended to 64 bits, and reading drops the high half. -/
instance : Scalar Int32 where
  toBits value := value.toInt64.toUInt64
  ofBits bits := bits.toInt64.toInt32
  ofBits_toBits value := by simp

instance : Scalar Int64 where
  toBits := Int64.toUInt64
  ofBits := UInt64.toInt64
  ofBits_toBits value := by simp

instance : Scalar Bool where
  toBits value := if value then 1 else 0
  ofBits bits := bits ≠ 0
  ofBits_toBits value := by cases value <;> decide

/-- A part of a message. Merging is told how deep further messages and groups may nest. -/
structure Field (α : Type) where
  initial : α
  tags : List Nat
  records : α → List Record
  merge : Nat → α → Record → Option α

namespace Field

def encode (field : Field α) (value : α) : List UInt8 := (field.records value).flatMap Record.write

/-- Merges one record; a record nobody owns is dropped. -/
def absorb (field : Field α) (limit : Nat) (value : α) (record : Record) : Option α :=
  if field.tags.contains record.tag then field.merge limit value record else some value

/-- Merges the records in `data` into a value. -/
def readInto (field : Field α) (limit : Nat) (value : α) (data : List UInt8) : Option α := do
  let records ← readRecords limit data
  records.foldlM (field.absorb limit) value

/-- How deep messages and groups may nest. -/
def nestingLimit : Nat := 100

def decode (field : Field α) (data : List UInt8) : Option α :=
  field.readInto nestingLimit field.initial data

/-- A number, left out when zero. -/
def number [Scalar α] (tag : Nat) : Field α where
  initial := Scalar.ofBits 0
  tags := [tag]
  records value :=
    if Scalar.toBits value = 0 then [] else [⟨tag, .varint (Scalar.toBits value)⟩]
  merge _ _ record :=
    match record.payload with
    | .varint bits => some (Scalar.ofBits bits)
    | _ => none

/-- A single-precision number, left out when zero of either sign. -/
def single (tag : Nat) : Field Single where
  initial := .zero
  tags := [tag]
  records value := if value.isZero then [] else [⟨tag, .fixed32 value.bits⟩]
  merge _ _ record :=
    match record.payload with
    | .fixed32 bits => some ⟨bits⟩
    | _ => none

/-- Bytes, left out when empty. -/
def bytes (tag : Nat) : Field (List UInt8) where
  initial := []
  tags := [tag]
  records value := if value.isEmpty then [] else [⟨tag, .bytes value⟩]
  merge _ _ record :=
    match record.payload with
    | .bytes data => some data
    | _ => none

/-- A text in UTF-8, left out when empty. -/
def text (tag : Nat) : Field String where
  initial := ""
  tags := [tag]
  records value := if value.isEmpty then [] else [⟨tag, .bytes value.toUTF8.data.toList⟩]
  merge _ _ record :=
    match record.payload with
    | .bytes data => String.fromUTF8? ⟨data.toArray⟩
    | _ => none

def unpackNumbers [Scalar α] (data : List UInt8) : Option (List α) :=
  if data = [] then some []
  else
    match _first : Varint.read data with
    | none => none
    | some (bits, rest) => (unpackNumbers rest).map (Scalar.ofBits bits :: ·)
  termination_by data.length
  decreasing_by exact Varint.length_read _first

/-- Repeated numbers, packed into one record; single records are read too. -/
def numbers [Scalar α] (tag : Nat) : Field (List α) where
  initial := []
  tags := [tag]
  records values :=
    if values.isEmpty then []
    else [⟨tag, .bytes (values.flatMap fun value => Varint.write (Scalar.toBits value))⟩]
  merge _ values record :=
    match record.payload with
    | .bytes data => (unpackNumbers data).map (values ++ ·)
    | .varint bits => some (values ++ [Scalar.ofBits bits])
    | _ => none

def unpackSingles : List UInt8 → Option (List Single)
  | [] => some []
  | first :: second :: third :: fourth :: rest =>
    match readFixed32 [first, second, third, fourth] with
    | some (bits, _) => (unpackSingles rest).map (⟨bits⟩ :: ·)
    | none => none
  | _ => none

/-- Repeated single-precision numbers, packed into one record; single records are read too. -/
def singles (tag : Nat) : Field (List Single) where
  initial := []
  tags := [tag]
  records values :=
    if values.isEmpty then []
    else [⟨tag, .bytes (values.flatMap fun value => writeFixed32 value.bits)⟩]
  merge _ values record :=
    match record.payload with
    | .bytes data => (unpackSingles data).map (values ++ ·)
    | .fixed32 bits => some (values ++ [⟨bits⟩])
    | _ => none

def mergeNested (inner : Field α) (limit : Nat) (value : α) (payload : Payload) : Option α :=
  match payload, limit with
  | .bytes data, limit + 1 => inner.readInto limit value data
  | _, _ => none

/-- A nested message; several records for it are merged. -/
def message (tag : Nat) (inner : Field α) : Field (Option α) where
  initial := none
  tags := [tag]
  records
    | none => []
    | some value => [⟨tag, .bytes (inner.encode value)⟩]
  merge limit value record :=
    (inner.mergeNested limit (value.getD inner.initial) record.payload).map some

/-- Repeated nested messages, one record each. -/
def messages (tag : Nat) (inner : Field α) : Field (List α) where
  initial := []
  tags := [tag]
  records values := values.map fun value => ⟨tag, .bytes (inner.encode value)⟩
  merge limit values record :=
    (inner.mergeNested limit inner.initial record.payload).map fun value => values ++ [value]

/-- Two parts side by side. -/
def both (first : Field α) (second : Field β) : Field (α × β) where
  initial := (first.initial, second.initial)
  tags := first.tags ++ second.tags
  records value := first.records value.1 ++ second.records value.2
  merge limit value record :=
    if first.tags.contains record.tag then
      (first.merge limit value.1 record).map fun part => (part, value.2)
    else (second.merge limit value.2 record).map fun part => (value.1, part)

/-- A part seen as another type with the same values. -/
def convert (field : Field α) (into : α → β) (out : β → α) : Field β where
  initial := into field.initial
  tags := field.tags
  records value := field.records (out value)
  merge limit value record := (field.merge limit (out value) record).map into

/-- One member of a choice: always written when chosen, and merged into what was chosen before. -/
structure Choice (α : Type) where
  tag : Nat
  payload : α → Payload
  merge : Nat → Option α → Payload → Option α

namespace Choice

def number [Scalar α] (tag : Nat) : Choice α where
  tag := tag
  payload value := .varint (Scalar.toBits value)
  merge _ _
    | .varint bits => some (Scalar.ofBits bits)
    | _ => none

def bytes (tag : Nat) : Choice (List UInt8) where
  tag := tag
  payload value := .bytes value
  merge _ _
    | .bytes data => some data
    | _ => none

def message (tag : Nat) (inner : Field α) : Choice α where
  tag := tag
  payload value := .bytes (inner.encode value)
  merge limit chosen payload := inner.mergeNested limit (chosen.getD inner.initial) payload

end Choice

/-- At most one of two members; a record of the other member replaces the one chosen before. -/
def either (first : Choice α) (second : Choice β) : Field (Option (α ⊕ β)) where
  initial := none
  tags := [first.tag, second.tag]
  records
    | none => []
    | some (.inl value) => [⟨first.tag, first.payload value⟩]
    | some (.inr value) => [⟨second.tag, second.payload value⟩]
  merge limit chosen record :=
    if record.tag = first.tag then
      let before := match chosen with
        | some (.inl value) => some value
        | _ => none
      (first.merge limit before record.payload).map fun value => some (.inl value)
    else
      let before := match chosen with
        | some (.inr value) => some value
        | _ => none
      (second.merge limit before record.payload).map fun value => some (.inr value)

end Field

end NeuralDevice.Wire
