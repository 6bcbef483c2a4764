import NeuralDevice.Proofs.Failure.Basic
import NeuralDevice.Validation.Device
import NeuralDevice.Validation.Model
import NeuralDevice.Validation.Request

/-! Violated rules are ordinary failures, whichever value is validated. -/

namespace NeuralDevice

open Result

@[simp] theorem RangeFault.isOrdinary_error (fault : RangeFault) : fault.error.isOrdinary = true := rfl

@[simp] theorem ReportFault.isOrdinary_error (fault : ReportFault) : fault.error.isOrdinary = true := by
  cases fault <;> rfl

@[simp] theorem OperandFault.isOrdinary_error (index : Nat) (fault : OperandFault) :
    (fault.error index).isOrdinary = true := rfl

@[simp] theorem ModelFault.isOrdinary_error (fault : ModelFault) : fault.error.isOrdinary = true := by
  cases fault <;> rfl

@[simp] theorem RequestFault.isOrdinary_error (fault : RequestFault) : fault.error.isOrdinary = true := by
  cases fault <;> rfl

@[simp] theorem failsOrdinarily_newestVersion {α : Type} {check : α → Result Version} {start : Version}
    {values : List α} (each : ∀ value ∈ values, FailsOrdinarily (check value)) :
    FailsOrdinarily (newestVersion check start values) :=
  failsOrdinarily_foldlM fun _ value member => by simp [each value member]

@[simp] theorem failsOrdinarily_checkRange (offset length : UInt32) (size : Nat) (what : String) :
    FailsOrdinarily (checkRange offset length size what) := by simp [checkRange]

/-- Values whose violated rules are ordinary failures. -/
class ValidatesOrdinarily (α : Type) [Validate α] : Prop where
  ordinary : ∀ value : α, FailsOrdinarily (validate value)

attribute [simp] ValidatesOrdinarily.ordinary

section Reports

@[simp] theorem PerformanceInfo.failsOrdinarily_check (info : PerformanceInfo) (what : String) :
    FailsOrdinarily (info.check what) := by simp [check]

instance : ValidatesOrdinarily Capabilities where
  ordinary capabilities := by simp [validate, OperandPerformance.check]

instance : ValidatesOrdinarily Extension where
  ordinary extension := by
    simp only [validate]
    cases repeatedType? [] extension.operandTypes <;> simp

instance : ValidatesOrdinarily OutputShape := ⟨fun _ => by simp [validate]⟩

instance : ValidatesOrdinarily Timing where
  ordinary timing := by
    simp only [validate]
    split <;> simp

end Reports

namespace Operand

variable (index : Nat) (operand : Operand)

@[simp] theorem failsOrdinarily_checkExtraParams : FailsOrdinarily (operand.checkExtraParams index) := by
  unfold checkExtraParams
  split
  · unfold checkChannels
    split <;> simp
  all_goals simp

@[simp] theorem failsOrdinarily_checkLocation (model : Model) :
    FailsOrdinarily (operand.checkLocation model index) := by
  simp only [checkLocation]
  cases operand.lifetime with
  | constantReference => cases model.pools[operand.location.poolIndex.toNat]? <;> simp
  | pointer => cases operand.location.pointer <;> simp
  | _ => simp

@[simp] theorem failsOrdinarily_checkType (model : Model) :
    FailsOrdinarily (operand.checkType model index) := by
  unfold checkType
  split <;> simp

@[simp] theorem failsOrdinarily_check (model : Model) : FailsOrdinarily (operand.check model index) := by
  simp [check, validate, checkQuantization]

end Operand

namespace Subgraph

@[simp] theorem failsOrdinarily_checkListed (subgraph : Subgraph) (lifetime : OperandLifetime)
    (list : String) (seen indexes : List UInt32) :
    FailsOrdinarily (subgraph.checkListed lifetime list seen indexes) := by
  induction indexes generalizing seen with
  | nil => simp [checkListed]
  | cons index rest ih =>
    unfold checkListed
    split <;> simp [ih]

@[simp] theorem failsOrdinarily_check (model : Model) (subgraph : Subgraph) :
    FailsOrdinarily (subgraph.check model) := by
  have operation (index : Nat) (operation : Operation) :
      FailsOrdinarily (subgraph.checkOperation index operation) := by
    simp only [checkOperation]
    split <;> simp
  simp [check, checkIndexes, operation]

end Subgraph

@[simp] theorem Model.failsOrdinarily_checkVendors (seen vendors : List VendorEntry) :
    FailsOrdinarily (checkVendors seen vendors) := by
  induction vendors generalizing seen with
  | nil => simp [checkVendors]
  | cons entry rest ih => simp [checkVendors, ih]

instance : ValidatesOrdinarily Model := ⟨fun model => by simp [validate, Model.validateWith]⟩

section Requests

@[simp] theorem Argument.failsOrdinarily_check (argument : Argument) (pools : List MemoryPool)
    (what : String) : FailsOrdinarily (argument.check pools what) := by
  unfold check
  cases argument.lifetime with
  | pool =>
    dsimp only
    cases pools[argument.location.poolIndex.toNat]? with
    | none => simp
    | some pool => cases pool <;> simp
  | noValue => simp
  | pointer =>
    dsimp only
    cases argument.location.pointer <;> simp

@[simp] theorem MemoryPool.failsOrdinarily_check (pool : MemoryPool) : FailsOrdinarily pool.check := by
  cases pool <;> simp [check]

instance : ValidatesOrdinarily Request := ⟨fun request => by simp [validate, checkArguments]⟩

end Requests

end NeuralDevice
