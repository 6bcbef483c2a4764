import NeuralDevice.Conversion.Aidl
import NeuralDevice.Conversion.Hal
import NeuralDevice.Form.Message
import NeuralDevice.Validation.Device
import NeuralDevice.Validation.Model
import NeuralDevice.Validation.Request

/-! Conversions between documents, found by the dialect and the name of a type. -/

namespace NeuralDevice

/-- A wire type and the canonical type it converts to. -/
structure Conversion (ω γ : Type) where
  wire : Form ω
  canonical : Form γ
  field : Wire.Field ω
  toCanonical : FileStore → ω → Result γ
  ofCanonical : γ → Result ω
  /-- The rules for values that are checked on their way. -/
  rules : Option (Validate γ)

namespace Conversion

/-- Values that pass unchecked. -/
def plain [HasForm ω] [HasForm γ] (field : Wire.Field ω) (toCanonical : ω → Result γ)
    (ofCanonical : γ → Result ω) : Conversion ω γ :=
  ⟨form, form, field, fun _ => toCanonical, ofCanonical, none⟩

/-- Values that are checked after they are received and before they are sent. -/
def ruled [HasForm ω] [HasForm γ] [rules : Validate γ] (field : Wire.Field ω)
    (toCanonical : FileStore → ω → Result γ) (ofCanonical : γ → Result ω) : Conversion ω γ :=
  ⟨form, form, field, toCanonical, ofCanonical, some rules⟩

/-- Memories whose sizes are numbers of type `ω`. -/
def ofMemory (ω : Type) [HasForm ω] [Wire.Scalar ω] [Word ω] :
    Conversion (Wire.Memory ω) Memory :=
  ⟨form, form, Wire.Memory.field, Wire.Memory.toCanonical, Memory.toWire, none⟩

/-- The types that all dialects share up to the width of their numbers. -/
def withShared (ι ε ω : Type) [HasForm ι] [HasForm ε] [HasForm ω] [Wire.Scalar ι] [Wire.Scalar ε]
    [Wire.Scalar ω] [Word ι] [Word ε] [Word ω] (dialect : Dialect) (type : String) (fallback : α)
    (use : {ω γ : Type} → Conversion ω γ → α) : α :=
  match type with
  | "NativeHandle" =>
    use ⟨form, form, Wire.NativeHandle.field, Wire.NativeHandle.toCanonical, pure ∘ Handle.toWire, none⟩
  | "Memory" =>
    use (ofMemory ω)
  | "DataLocation" =>
    use (plain (ω := Wire.Location ι ε) Wire.Location.field Wire.Location.toCanonical DataLocation.toWire)
  | "RequestArgument" =>
    use (plain (ω := Wire.Argument ι ε) Wire.Argument.field Wire.Argument.toCanonical Argument.toWire)
  | "Operation" =>
    use (plain (ω := Wire.Operation ι) Wire.Operation.field (Wire.Operation.toCanonical dialect)
      (Operation.toWire dialect))
  | "ExtensionNameAndPrefix" =>
    use (plain (ω := Wire.VendorEntry ι) Wire.VendorEntry.field Wire.VendorEntry.toCanonical VendorEntry.toWire)
  | "ExtensionOperandTypeInformation" =>
    use (plain (ω := Wire.ExtensionType ι) Wire.ExtensionType.field Wire.ExtensionType.toCanonical ExtensionType.toWire)
  | "SymmPerChannelQuantParams" =>
    use (plain (ω := Wire.ChannelQuantization ι) Wire.ChannelQuantization.field pure pure)
  | "PerformanceInfo" => use (plain Wire.performanceField pure pure)
  | "OutputShape" =>
    use (ruled (ω := Wire.OutputShape ι) Wire.OutputShape.field (fun _ => Wire.OutputShape.toCanonical)
      OutputShape.toWire)
  | "Extension" =>
    use (ruled (ω := Wire.Extension ι) Wire.Extension.field (fun _ => Wire.Extension.toCanonical) Extension.toWire)
  | _ => fallback

/-- Calls `use` with the conversion of a type; `fallback` is for names that no type of the dialect has. -/
def named (dialect : Dialect) (type : String) (fallback : α)
    (use : {ω γ : Type} → Conversion ω γ → α) : α :=
  let performance (toCanonical : _) :=
    use (plain Wire.OperandPerformance.field toCanonical (OperandPerformance.toWire dialect))
  let hal :=
    if type == "Request" then
      use (ruled Wire.Hal.requestField Wire.Hal.requestToCanonical Wire.Hal.requestToWire)
    else withShared UInt32 UInt32 UInt64 dialect type fallback use
  match dialect, type with
  | .v1_0, "Capabilities" =>
    use (ruled Wire.Hal.V1_0.Capabilities.field (fun _ => Wire.Hal.V1_0.Capabilities.toCanonical)
      Wire.Hal.V1_0.Capabilities.ofCanonical)
  | .v1_0, "Operand" =>
    use (plain Wire.Hal.V1_0.Operand.field Wire.Hal.V1_0.Operand.toCanonical Wire.Hal.V1_0.Operand.ofCanonical)
  | .v1_0, "Model" =>
    use (ruled Wire.Hal.V1_0.Model.field Wire.Hal.V1_0.Model.toCanonical Wire.Hal.V1_0.Model.ofCanonical)
  | .v1_2, "Capabilities" =>
    use (ruled Wire.Hal.V1_2.Capabilities.field (fun _ => Wire.Hal.V1_2.Capabilities.toCanonical)
      Wire.Hal.V1_2.Capabilities.ofCanonical)
  | .v1_2, "Operand" =>
    use (plain Wire.Hal.V1_2.Operand.field Wire.Hal.V1_2.Operand.toCanonical Wire.Hal.V1_2.Operand.ofCanonical)
  | .v1_2, "OperandPerformance" => performance Wire.Hal.V1_2.performanceToCanonical
  | .v1_2, "Model" =>
    use (ruled Wire.Hal.V1_2.Model.field Wire.Hal.V1_2.Model.toCanonical Wire.Hal.V1_2.Model.ofCanonical)
  | .v1_2, "Timing" =>
    use (ruled Wire.Timing.field (fun _ => Wire.Hal.timingToCanonical) Wire.Hal.timingToWire)
  | .aidl, "Capabilities" =>
    use (ruled Wire.Aidl.Capabilities.field (fun _ => Wire.Aidl.Capabilities.toCanonical)
      Wire.Aidl.Capabilities.ofCanonical)
  | .aidl, "Operand" =>
    use (plain Wire.Aidl.Operand.field Wire.Aidl.Operand.toCanonical Wire.Aidl.Operand.ofCanonical)
  | .aidl, "OperandPerformance" => performance Wire.Aidl.performanceToCanonical
  | .aidl, "Subgraph" =>
    use (plain Wire.Aidl.Subgraph.field Wire.Aidl.Subgraph.toCanonical Wire.Aidl.Subgraph.ofCanonical)
  | .aidl, "Model" =>
    use (ruled Wire.Aidl.Model.field Wire.Aidl.Model.toCanonical Wire.Aidl.Model.ofCanonical)
  | .aidl, "Timing" =>
    use (ruled Wire.Timing.field (fun _ => Wire.Aidl.timingToCanonical) Wire.Aidl.timingToWire)
  | .aidl, "Request" =>
    use (ruled Wire.Aidl.requestField Wire.Aidl.requestToCanonical Wire.Aidl.requestToWire)
  | .aidl, "RequestMemoryPool" =>
    use ⟨form, form, Wire.Aidl.Pool.field, Wire.Aidl.Pool.toCanonical, Wire.Aidl.Pool.ofCanonical, none⟩
  | .aidl, "ExecutionResult" => use (plain Wire.Aidl.ExecutionResult.field pure pure)
  | .aidl, _ => withShared Int32 Int64 Int64 dialect type fallback use
  | _, _ => hal

end Conversion

end NeuralDevice
