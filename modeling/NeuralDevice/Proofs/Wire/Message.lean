import NeuralDevice.Proofs.Wire.Field
import NeuralDevice.Version
import NeuralDevice.Wire.Aidl
import NeuralDevice.Wire.Hal

/-!
Messages read back. The encoding of a message of any dialect is read as that message, to the last bit of its
floats, but for the sign of a zero in a field of its own; and what was read is encoded as it came.
-/

namespace NeuralDevice

open Wire.Field

/-! Figures and scales are fields of their own; their zeros lose the sign. -/

def PerformanceInfo.settled (info : PerformanceInfo) : PerformanceInfo :=
  ⟨info.execTime.settled, info.powerUsage.settled⟩

namespace Wire

def OperandPerformance.settled (performance : OperandPerformance) : OperandPerformance :=
  { performance with info := performance.info.map PerformanceInfo.settled }

namespace Hal

def V1_0.Capabilities.settled (capabilities : V1_0.Capabilities) : V1_0.Capabilities :=
  ⟨capabilities.float32.map PerformanceInfo.settled, capabilities.quantized8.map PerformanceInfo.settled⟩

def V1_0.Operand.settled (operand : V1_0.Operand) : V1_0.Operand :=
  { operand with scale := operand.scale.settled }

def V1_0.Model.settled (model : V1_0.Model) : V1_0.Model :=
  { model with operands := model.operands.map V1_0.Operand.settled }

def V1_2.Capabilities.settled (capabilities : V1_2.Capabilities) : V1_2.Capabilities where
  relaxedScalar := capabilities.relaxedScalar.map PerformanceInfo.settled
  relaxedTensor := capabilities.relaxedTensor.map PerformanceInfo.settled
  operandPerformance := capabilities.operandPerformance.map OperandPerformance.settled

def V1_2.Operand.settled (operand : V1_2.Operand) : V1_2.Operand :=
  { operand with scale := operand.scale.settled }

def V1_2.Model.settled (model : V1_2.Model) : V1_2.Model :=
  { model with operands := model.operands.map V1_2.Operand.settled }

end Hal

namespace Aidl

def Capabilities.settled (capabilities : Capabilities) : Capabilities where
  relaxedScalar := capabilities.relaxedScalar.map PerformanceInfo.settled
  relaxedTensor := capabilities.relaxedTensor.map PerformanceInfo.settled
  operandPerformance := capabilities.operandPerformance.map OperandPerformance.settled
  ifPerformance := capabilities.ifPerformance.map PerformanceInfo.settled
  whilePerformance := capabilities.whilePerformance.map PerformanceInfo.settled

def Operand.settled (operand : Operand) : Operand := { operand with scale := operand.scale.settled }

def Subgraph.settled (subgraph : Subgraph) : Subgraph :=
  { subgraph with operands := subgraph.operands.map Operand.settled }

def Model.settled (model : Model) : Model :=
  { model with
    main := model.main.map Subgraph.settled
    referenced := model.referenced.map Subgraph.settled }

end Aidl

section Shared

variable {index extent width span : Type} [Scalar index] [Scalar extent] [Scalar width] [Scalar span]
  {limit : Nat}

theorem NativeHandle.field_readsBack : NativeHandle.field.ReadsBack id limit :=
  convert_readsBack (both_merges numbers_merges numbers_merges) rfl (fun _ => rfl) fun _ => rfl

theorem Memory.field_readsBack : (Memory.field : Field (Memory width)).ReadsBack id (limit + 1) :=
  convert_readsBack
    (both_merges text_merges
      (both_merges number_merges (message_merges NativeHandle.field_readsBack)))
    rfl (fun _ => rfl) fun _ => by simp

theorem performanceField_readsBack : performanceField.ReadsBack PerformanceInfo.settled limit :=
  convert_readsBack (both_merges single_merges single_merges) rfl (fun _ => rfl) fun _ => rfl

theorem OperandPerformance.field_readsBack :
    OperandPerformance.field.ReadsBack OperandPerformance.settled (limit + 1) :=
  convert_readsBack (both_merges number_merges (message_merges performanceField_readsBack))
    rfl (fun _ => rfl) fun _ => rfl

theorem Location.field_readsBack : (Location.field : Field (Location index extent)).ReadsBack id limit :=
  convert_readsBack (both_merges number_merges (both_merges number_merges number_merges))
    rfl (fun _ => rfl) fun _ => rfl

theorem ChannelQuantization.field_readsBack :
    (ChannelQuantization.field : Field (ChannelQuantization index)).ReadsBack id limit :=
  convert_readsBack (both_merges singles_merges number_merges) rfl (fun _ => rfl) fun _ => rfl

theorem Operation.field_readsBack : (Operation.field : Field (Operation index)).ReadsBack id limit :=
  convert_readsBack
    (both_merges number_merges (both_merges numbers_merges numbers_merges))
    rfl (fun _ => rfl) fun _ => rfl

theorem VendorEntry.field_readsBack : (VendorEntry.field : Field (VendorEntry index)).ReadsBack id limit :=
  convert_readsBack (both_merges text_merges number_merges) rfl (fun _ => rfl) fun _ => rfl

theorem Argument.field_readsBack :
    (Argument.field : Field (Argument index extent)).ReadsBack id (limit + 1) :=
  convert_readsBack
    (both_merges number_merges
      (both_merges (message_merges Location.field_readsBack) numbers_merges))
    rfl (fun _ => rfl) fun _ => by simp

theorem Request.field_readsBack {π : Type} {pool : Field π} (reads : pool.ReadsBack id (limit + 1)) :
    (Request.field pool : Field (Request index extent π)).ReadsBack id (limit + 2) :=
  convert_readsBack
    (both_merges (messages_merges Argument.field_readsBack)
      (both_merges (messages_merges Argument.field_readsBack) (messages_merges reads)))
    rfl (fun _ => rfl) fun _ => by simp

theorem OutputShape.field_readsBack : (OutputShape.field : Field (OutputShape index)).ReadsBack id limit :=
  convert_readsBack (both_merges numbers_merges number_merges) rfl (fun _ => rfl) fun _ => rfl

theorem Timing.field_readsBack : (Timing.field : Field (Timing span)).ReadsBack id limit :=
  convert_readsBack (both_merges number_merges number_merges) rfl (fun _ => rfl) fun _ => rfl

theorem ExtensionType.field_readsBack :
    (ExtensionType.field : Field (ExtensionType index)).ReadsBack id limit :=
  convert_readsBack (both_merges number_merges (both_merges number_merges number_merges))
    rfl (fun _ => rfl) fun _ => rfl

theorem Extension.field_readsBack :
    (Extension.field : Field (Extension index)).ReadsBack id (limit + 1) :=
  convert_readsBack (both_merges text_merges (messages_merges ExtensionType.field_readsBack))
    rfl (fun _ => rfl) fun _ => by simp

theorem extraParamsField_merges {channelTag vendorTag : Nat} :
    (extraParamsField channelTag vendorTag : Field (Option (ExtraParams index))).Merges id (limit + 1) := by
  have merges : (extraParamsField channelTag vendorTag : Field (Option (ExtraParams index))).Merges
      (Option.map (Sum.map id id)) (limit + 1) :=
    either_merges (Choice.message_merges ChannelQuantization.field_readsBack) Choice.bytes_merges
  simpa using merges

end Shared

section Dialects

variable {limit : Nat}

namespace Hal

theorem requestField_readsBack : requestField.ReadsBack id (limit + 3) :=
  Wire.Request.field_readsBack Memory.field_readsBack

theorem V1_0.Capabilities.field_readsBack :
    V1_0.Capabilities.field.ReadsBack V1_0.Capabilities.settled (limit + 1) :=
  convert_readsBack
    (both_merges (message_merges performanceField_readsBack)
      (message_merges performanceField_readsBack))
    rfl (fun _ => rfl) fun _ => rfl

theorem V1_0.Operand.field_readsBack : V1_0.Operand.field.ReadsBack V1_0.Operand.settled (limit + 1) :=
  convert_readsBack
    (both_merges number_merges <| both_merges numbers_merges <|
      both_merges number_merges <| both_merges single_merges <|
      both_merges number_merges <| both_merges number_merges <|
      message_merges Location.field_readsBack)
    rfl (fun _ => rfl) fun _ => by simp [V1_0.Operand.settled]

theorem V1_0.Model.field_readsBack : V1_0.Model.field.ReadsBack V1_0.Model.settled (limit + 2) :=
  convert_readsBack
    (both_merges (messages_merges V1_0.Operand.field_readsBack) <|
      both_merges (messages_merges Operation.field_readsBack) <|
      both_merges numbers_merges <| both_merges numbers_merges <|
      both_merges bytes_merges <| messages_merges Memory.field_readsBack)
    rfl (fun _ => rfl) fun _ => by simp [V1_0.Model.settled]

theorem V1_2.Capabilities.field_readsBack :
    V1_2.Capabilities.field.ReadsBack V1_2.Capabilities.settled (limit + 2) :=
  convert_readsBack
    (both_merges (message_merges performanceField_readsBack) <|
      both_merges (message_merges performanceField_readsBack) <|
      messages_merges OperandPerformance.field_readsBack)
    rfl (fun _ => rfl) fun _ => rfl

theorem V1_2.Operand.field_readsBack : V1_2.Operand.field.ReadsBack V1_2.Operand.settled (limit + 1) :=
  convert_readsBack
    (both_merges number_merges <| both_merges numbers_merges <|
      both_merges number_merges <| both_merges single_merges <|
      both_merges number_merges <| both_merges number_merges <|
      both_merges (message_merges Location.field_readsBack) extraParamsField_merges)
    rfl (fun _ => rfl) fun _ => by simp [V1_2.Operand.settled]

theorem V1_2.Model.field_readsBack : V1_2.Model.field.ReadsBack V1_2.Model.settled (limit + 2) :=
  convert_readsBack
    (both_merges (messages_merges V1_2.Operand.field_readsBack) <|
      both_merges (messages_merges Operation.field_readsBack) <|
      both_merges numbers_merges <| both_merges numbers_merges <|
      both_merges bytes_merges <| both_merges (messages_merges Memory.field_readsBack) <|
      both_merges number_merges <| messages_merges VendorEntry.field_readsBack)
    rfl (fun _ => rfl) fun _ => by simp [V1_2.Model.settled]

end Hal

namespace Aidl

theorem Capabilities.field_readsBack : Capabilities.field.ReadsBack Capabilities.settled (limit + 2) :=
  convert_readsBack
    (both_merges (message_merges performanceField_readsBack) <|
      both_merges (message_merges performanceField_readsBack) <|
      both_merges (messages_merges OperandPerformance.field_readsBack) <|
      both_merges (message_merges performanceField_readsBack) <|
      message_merges performanceField_readsBack)
    rfl (fun _ => rfl) fun _ => rfl

theorem Operand.field_readsBack : Operand.field.ReadsBack Operand.settled (limit + 1) :=
  convert_readsBack
    (both_merges number_merges <| both_merges numbers_merges <|
      both_merges single_merges <| both_merges number_merges <|
      both_merges number_merges <|
      both_merges (message_merges Location.field_readsBack) extraParamsField_merges)
    rfl (fun _ => rfl) fun _ => by simp [Operand.settled]

theorem Subgraph.field_readsBack : Subgraph.field.ReadsBack Subgraph.settled (limit + 2) :=
  convert_readsBack
    (both_merges (messages_merges Operand.field_readsBack) <|
      both_merges (messages_merges Operation.field_readsBack) <|
      both_merges numbers_merges numbers_merges)
    rfl (fun _ => rfl) fun _ => by simp [Subgraph.settled]

theorem Model.field_readsBack : Model.field.ReadsBack Model.settled (limit + 3) :=
  convert_readsBack
    (both_merges (message_merges Subgraph.field_readsBack) <|
      both_merges (messages_merges Subgraph.field_readsBack) <|
      both_merges bytes_merges <| both_merges (messages_merges Memory.field_readsBack) <|
      both_merges number_merges <| messages_merges VendorEntry.field_readsBack)
    rfl (fun _ => rfl) fun _ => by simp [Model.settled]

theorem Pool.field_readsBack : Pool.field.ReadsBack id (limit + 2) :=
  convert_readsBack
    (either_merges (Choice.message_merges Memory.field_readsBack) Choice.number_merges)
    rfl (fun _ => rfl) fun _ => by simp

theorem requestField_readsBack : requestField.ReadsBack id (limit + 3) :=
  Wire.Request.field_readsBack Pool.field_readsBack

theorem ExecutionResult.field_readsBack : ExecutionResult.field.ReadsBack id (limit + 1) :=
  convert_readsBack
    (both_merges number_merges <|
      both_merges (messages_merges OutputShape.field_readsBack) <|
      message_merges Timing.field_readsBack)
    rfl (fun _ => rfl) fun _ => by simp

end Aidl

end Dialects

/-- A declared message: how its values are written and read, and what is read from a value's bytes. -/
structure Schema where
  Message : Type
  field : Field Message
  settled : Message → Message

/-- Every message a dialect declares, with those it takes over from an older one. -/
def schemas : Dialect → List Schema
  | .v1_0 =>
    [⟨_, NativeHandle.field, id⟩, ⟨_, performanceField, PerformanceInfo.settled⟩,
      ⟨_, Hal.V1_0.Capabilities.field, Hal.V1_0.Capabilities.settled⟩,
      ⟨Hal.Location, Location.field, id⟩, ⟨_, Hal.V1_0.Operand.field, Hal.V1_0.Operand.settled⟩,
      ⟨Hal.Operation, Operation.field, id⟩, ⟨Hal.Memory, Memory.field, id⟩,
      ⟨_, Hal.V1_0.Model.field, Hal.V1_0.Model.settled⟩, ⟨Hal.Argument, Argument.field, id⟩,
      ⟨_, Hal.requestField, id⟩]
  | .v1_2 =>
    [⟨_, NativeHandle.field, id⟩, ⟨_, performanceField, PerformanceInfo.settled⟩,
      ⟨_, OperandPerformance.field, OperandPerformance.settled⟩,
      ⟨_, Hal.V1_2.Capabilities.field, Hal.V1_2.Capabilities.settled⟩,
      ⟨Hal.Location, Location.field, id⟩, ⟨ChannelQuantization UInt32, ChannelQuantization.field, id⟩,
      ⟨_, Hal.V1_2.Operand.field, Hal.V1_2.Operand.settled⟩, ⟨Hal.Operation, Operation.field, id⟩,
      ⟨Hal.VendorEntry, VendorEntry.field, id⟩, ⟨Hal.Memory, Memory.field, id⟩,
      ⟨_, Hal.V1_2.Model.field, Hal.V1_2.Model.settled⟩, ⟨Hal.Argument, Argument.field, id⟩,
      ⟨_, Hal.requestField, id⟩, ⟨Hal.OutputShape, OutputShape.field, id⟩,
      ⟨Hal.Timing, Timing.field, id⟩, ⟨ExtensionType UInt32, ExtensionType.field, id⟩,
      ⟨Hal.Extension, Extension.field, id⟩]
  | .aidl =>
    [⟨_, NativeHandle.field, id⟩, ⟨_, performanceField, PerformanceInfo.settled⟩,
      ⟨_, OperandPerformance.field, OperandPerformance.settled⟩,
      ⟨_, Aidl.Capabilities.field, Aidl.Capabilities.settled⟩,
      ⟨Aidl.Location, Location.field, id⟩, ⟨ChannelQuantization Int32, ChannelQuantization.field, id⟩,
      ⟨_, Aidl.Operand.field, Aidl.Operand.settled⟩, ⟨Aidl.Operation, Operation.field, id⟩,
      ⟨_, Aidl.Subgraph.field, Aidl.Subgraph.settled⟩, ⟨Aidl.VendorEntry, VendorEntry.field, id⟩,
      ⟨Aidl.Memory, Memory.field, id⟩, ⟨_, Aidl.Model.field, Aidl.Model.settled⟩,
      ⟨Aidl.Argument, Argument.field, id⟩, ⟨_, Aidl.Pool.field, id⟩, ⟨_, Aidl.requestField, id⟩,
      ⟨Aidl.OutputShape, OutputShape.field, id⟩, ⟨Aidl.Timing, Timing.field, id⟩,
      ⟨_, Aidl.ExecutionResult.field, id⟩, ⟨ExtensionType Int32, ExtensionType.field, id⟩,
      ⟨Aidl.Extension, Extension.field, id⟩]

private theorem schemas_readsBack (dialect : Dialect) :
    ∀ schema ∈ schemas dialect, schema.field.ReadsBack schema.settled nestingLimit := by
  cases dialect with
  | v1_0 =>
    simp only [schemas, List.forall_mem_cons]
    exact ⟨NativeHandle.field_readsBack, performanceField_readsBack,
      Hal.V1_0.Capabilities.field_readsBack, Location.field_readsBack, Hal.V1_0.Operand.field_readsBack,
      Operation.field_readsBack, Memory.field_readsBack, Hal.V1_0.Model.field_readsBack,
      Argument.field_readsBack, Hal.requestField_readsBack, List.forall_mem_nil _⟩
  | v1_2 =>
    simp only [schemas, List.forall_mem_cons]
    exact ⟨NativeHandle.field_readsBack, performanceField_readsBack, OperandPerformance.field_readsBack,
      Hal.V1_2.Capabilities.field_readsBack, Location.field_readsBack,
      ChannelQuantization.field_readsBack, Hal.V1_2.Operand.field_readsBack, Operation.field_readsBack,
      VendorEntry.field_readsBack, Memory.field_readsBack, Hal.V1_2.Model.field_readsBack,
      Argument.field_readsBack, Hal.requestField_readsBack, OutputShape.field_readsBack,
      Timing.field_readsBack, ExtensionType.field_readsBack, Extension.field_readsBack,
      List.forall_mem_nil _⟩
  | aidl =>
    simp only [schemas, List.forall_mem_cons]
    exact ⟨NativeHandle.field_readsBack, performanceField_readsBack, OperandPerformance.field_readsBack,
      Aidl.Capabilities.field_readsBack, Location.field_readsBack, ChannelQuantization.field_readsBack,
      Aidl.Operand.field_readsBack, Operation.field_readsBack, Aidl.Subgraph.field_readsBack,
      VendorEntry.field_readsBack, Memory.field_readsBack, Aidl.Model.field_readsBack,
      Argument.field_readsBack, Aidl.Pool.field_readsBack, Aidl.requestField_readsBack,
      OutputShape.field_readsBack, Timing.field_readsBack, Aidl.ExecutionResult.field_readsBack,
      ExtensionType.field_readsBack, Extension.field_readsBack, List.forall_mem_nil _⟩

/-- The bytes of a message are read as that message, its own floats' zeros unsigned, and what was read is
written as the same bytes. So whatever some data was read as, the bytes written for it are read and written
again unchanged. Bytes count as written when 64 bits hold their number. -/
theorem decode_encode {dialect : Dialect} {schema : Schema} (declared : schema ∈ schemas dialect) :
    (∀ value, (schema.field.encode value).length < UInt64.size →
      schema.field.decode (schema.field.encode value) = some (schema.settled value) ∧
        schema.field.encode (schema.settled value) = schema.field.encode value) ∧
    ∀ data value, schema.field.decode data = some value →
      (schema.field.encode value).length < UInt64.size →
      (schema.field.decode (schema.field.encode value)).map schema.field.encode =
        some (schema.field.encode value) := by
  have reads := schemas_readsBack dialect schema declared
  have readBack : ∀ value, (schema.field.encode value).length < UInt64.size →
      schema.field.decode (schema.field.encode value) = some (schema.settled value) :=
    fun value short => reads.readInto_encode (fits_of_length_encode short)
  refine ⟨fun value short => ⟨readBack value short, reads.encode_settled value⟩, ?_⟩
  intro data value _ short
  rw [readBack value short, Option.map_some, reads.encode_settled]

/-- A negative code, a zero with a sign and a quiet NaN with a payload; the last part reads bytes that give the
code twice. -/
theorem decode_encode_signed_zero :
    let schema : Schema := ⟨_, OperandPerformance.field, OperandPerformance.settled⟩
    let value : OperandPerformance := ⟨-1, some ⟨⟨0x80000000⟩, ⟨0x7FC00001⟩⟩⟩
    schema ∈ schemas .v1_2 ∧ (schema.field.encode value).length < UInt64.size ∧
      schema.field.decode [0x08, 0x07, 0x08, 0x00] = some ⟨0, none⟩ ∧
      schema.field.decode (schema.field.encode value) = some ⟨-1, some ⟨.zero, ⟨0x7FC00001⟩⟩⟩ ∧
      schema.field.encode ⟨-1, some ⟨.zero, ⟨0x7FC00001⟩⟩⟩ = schema.field.encode value ∧
      (schema.field.decode (schema.field.encode ⟨0, none⟩)).map schema.field.encode =
        some (schema.field.encode ⟨0, none⟩) := by
  intro schema value
  have declared : schema ∈ schemas .v1_2 := by simp [schemas, schema]
  have short : (schema.field.encode value).length < UInt64.size := by decide +kernel
  have read : schema.field.decode [0x08, 0x07, 0x08, 0x00] = some ⟨0, none⟩ := by decide +kernel
  have whole := (decode_encode declared).1 value short
  exact ⟨declared, short, read, whole.1, whole.2,
    (decode_encode declared).2 _ ⟨0, none⟩ read (by decide +kernel)⟩

end Wire

end NeuralDevice
