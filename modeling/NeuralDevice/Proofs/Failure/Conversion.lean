import NeuralDevice.Conversion.Aidl
import NeuralDevice.Conversion.Hal
import NeuralDevice.Proofs.Failure.Validation

/-!
What cannot cross into or out of a dialect fails ordinarily: models and requests to be sent, reports received.
-/

namespace NeuralDevice

open Result

@[simp] theorem ConversionFault.isOrdinary_error (fault : ConversionFault) :
    fault.error.isOrdinary = true := by
  cases fault <;> rfl

@[simp] theorem MissingOperand.isOrdinary_error (missing : MissingOperand) :
    missing.error.isOrdinary = true := rfl

section Steps

variable {α β : Type}

@[simp] theorem failsOrdinarily_narrow [Word α] (what : String) (value : Int) :
    FailsOrdinarily (narrow what value : Result α) := by
  unfold narrow
  split <;> simp

@[simp] theorem failsOrdinarily_rewidth [Word α] [Word β] (what : String) (word : α) :
    FailsOrdinarily (rewidth what word : Result β) := by simp [rewidth]

@[simp] theorem failsOrdinarily_rewidthAll [Word α] [Word β] (what : String) (words : List α) :
    FailsOrdinarily (rewidthAll what words : Result (List β)) := by simp [rewidthAll]

@[simp] theorem failsOrdinarily_required (field : Option α) (name : String) :
    FailsOrdinarily (required field name) := by cases field <;> simp [required]

@[simp] theorem failsOrdinarily_receive [Validate α] [ValidatesOrdinarily α] (limit : Version)
    {converted : Result α} (ordinary : FailsOrdinarily converted) :
    FailsOrdinarily (receive limit converted) := by simp [receive, ordinary]

@[simp] theorem failsOrdinarily_send [Validate α] [ValidatesOrdinarily α] (limit : Version) (value : α)
    {convert : α → Result β} (ordinary : FailsOrdinarily (convert value)) :
    FailsOrdinarily (send limit value convert) := by simp [send, ordinary]

end Steps

section Codes

variable {α β : Type} [WireEnum α] [DecidableEq β] [WireTable β]

@[simp] theorem Coded.failsOrdinarily_toWire (dialect : Dialect) (type : Coded β) :
    FailsOrdinarily (type.toWire dialect) := by
  cases type with
  | builtin entry =>
    simp only [toWire]
    cases number? dialect entry <;> simp
  | vendor code => simp [toWire]

@[simp] theorem Coded.failsOrdinarily_ofWire (dialect : Dialect) (number : Int32) :
    FailsOrdinarily (Coded.ofWire dialect number : Result (Coded β)) := by
  unfold ofWire
  cases ofNumber? (β := β) dialect number with
  | some entry => simp
  | none => cases (if dialect.hasVendors then VendorCode.ofNumber? number else none) <;> simp

@[simp] theorem WireEnum.failsOrdinarily_toWire (dialect : Dialect) (value : α) :
    FailsOrdinarily (toWire dialect value) := by
  unfold toWire
  split <;> simp

@[simp] theorem WireEnum.failsOrdinarily_ofWire (dialect : Dialect) (code : Int32) :
    FailsOrdinarily (ofWire dialect code : Result α) := by
  unfold ofWire
  split <;> simp

end Codes

section Shared

variable {index extent width : Type} [Word index] [Word extent] [Word width]

@[simp] theorem DataLocation.failsOrdinarily_toWire (location : DataLocation) :
    FailsOrdinarily (location.toWire : Result (Wire.Location index extent)) := by simp [toWire]

@[simp] theorem ExtraParams.failsOrdinarily_toWire (params : ExtraParams) :
    FailsOrdinarily (params.toWire : Result (Option (Wire.ExtraParams index))) := by
  cases params <;> simp [toWire]

@[simp] theorem Operation.failsOrdinarily_toWire (dialect : Dialect) (operation : Operation) :
    FailsOrdinarily (operation.toWire dialect : Result (Wire.Operation index)) := by simp [toWire]

@[simp] theorem Memory.failsOrdinarily_toWire (memory : Memory) :
    FailsOrdinarily (memory.toWire : Result (Wire.Memory width)) := by simp [toWire]

@[simp] theorem VendorEntry.failsOrdinarily_toWire (entry : VendorEntry) :
    FailsOrdinarily (entry.toWire : Result (Wire.VendorEntry index)) := by simp [toWire]

@[simp] theorem Argument.failsOrdinarily_toWire (argument : Argument) :
    FailsOrdinarily (argument.toWire : Result (Wire.Argument index extent)) := by
  cases alive : argument.lifetime <;> simp [toWire, alive, ArgumentLifetime.isWithoutValue]

@[simp] theorem Wire.OutputShape.failsOrdinarily_toCanonical (shape : Wire.OutputShape index) :
    FailsOrdinarily shape.toCanonical := by simp [toCanonical]

@[simp] theorem Wire.Extension.failsOrdinarily_toCanonical (extension : Wire.Extension index) :
    FailsOrdinarily extension.toCanonical := by simp [toCanonical, Wire.ExtensionType.toCanonical]

@[simp] theorem PerformanceTable.failsOrdinarily_ofWire
    (entry : Wire.OperandPerformance → Result OperandPerformance) (entries : List Wire.OperandPerformance) :
    FailsOrdinarily (PerformanceTable.ofWire entry entries) := by simp [ofWire]

end Shared

section Models

@[simp] theorem failsOrdinarily_countConsumers (count : Nat) (operations : List Operation) :
    FailsOrdinarily (countConsumers count operations) := by
  refine failsOrdinarily_foldlM fun counts index _ => ?_
  unfold countConsumer
  split <;> simp

@[simp] theorem Wire.Hal.V1_0.Model.failsOrdinarily_ofCanonical (model : NeuralDevice.Model) :
    FailsOrdinarily (Wire.Hal.V1_0.Model.ofCanonical model) := by
  simp [ofCanonical, Wire.Hal.V1_0.Operand.ofCanonical]

@[simp] theorem Wire.Hal.V1_2.Model.failsOrdinarily_ofCanonical (model : NeuralDevice.Model) :
    FailsOrdinarily (Wire.Hal.V1_2.Model.ofCanonical model) := by
  simp [ofCanonical, Wire.Hal.V1_2.Operand.ofCanonical]

@[simp] theorem Wire.Aidl.Model.failsOrdinarily_ofCanonical (model : NeuralDevice.Model) :
    FailsOrdinarily (Wire.Aidl.Model.ofCanonical model) := by
  simp [ofCanonical, Wire.Aidl.Subgraph.ofCanonical, Wire.Aidl.Operand.ofCanonical]

end Models

section Requests

@[simp] theorem Wire.Hal.failsOrdinarily_requestToWire (request : NeuralDevice.Request) :
    FailsOrdinarily (requestToWire request) := by
  have pool (pool : MemoryPool) : FailsOrdinarily (poolToWire pool) := by
    cases pool <;> simp [poolToWire]
  simp [requestToWire, pool]

@[simp] theorem Wire.Aidl.failsOrdinarily_requestToWire (request : NeuralDevice.Request) :
    FailsOrdinarily (requestToWire request) := by
  have pool (pool : MemoryPool) : FailsOrdinarily (Pool.ofCanonical pool) := by
    cases pool <;> simp [Pool.ofCanonical]
  simp [requestToWire, pool]

@[simp] theorem Wire.Aidl.failsOrdinarily_deadlineToWire (deadline : Option TimePoint) :
    FailsOrdinarily (deadlineToWire deadline) := by cases deadline <;> simp [deadlineToWire]

@[simp] theorem Wire.Aidl.failsOrdinarily_durationToWire (duration : Option Duration) :
    FailsOrdinarily (durationToWire duration) := by cases duration <;> simp [durationToWire]

end Requests

section Reports

@[simp] theorem Wire.Hal.failsOrdinarily_timingToCanonical (timing : Wire.Hal.Timing) :
    FailsOrdinarily (timingToCanonical timing) := by simp [timingToCanonical]

@[simp] theorem Wire.Aidl.failsOrdinarily_timingToCanonical (timing : Wire.Aidl.Timing) :
    FailsOrdinarily (timingToCanonical timing) := by simp [timingToCanonical, durationToCanonical]

@[simp] theorem Wire.Hal.V1_0.Capabilities.failsOrdinarily_toCanonical (capabilities : Capabilities) :
    FailsOrdinarily capabilities.toCanonical := by simp [toCanonical]

@[simp] theorem Wire.Hal.V1_2.Capabilities.failsOrdinarily_toCanonical (capabilities : Capabilities) :
    FailsOrdinarily capabilities.toCanonical := by simp [toCanonical]

@[simp] theorem Wire.Aidl.Capabilities.failsOrdinarily_toCanonical (capabilities : Capabilities) :
    FailsOrdinarily capabilities.toCanonical := by simp [toCanonical]

end Reports

end NeuralDevice
