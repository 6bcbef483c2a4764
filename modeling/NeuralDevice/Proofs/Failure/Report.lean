import NeuralDevice.Device.Device
import NeuralDevice.Proofs.Failure.Conversion

/-!
Reports of failures. A status that an endpoint reports is its own failure and never the death of an endpoint,
whatever its code; the transport alone tells of a death.
-/

namespace NeuralDevice

open Result

namespace WireEnum

variable {α : Type} [WireEnum α]

theorem code?_of_ofCode? {dialect : Dialect} {code : Int32} {value : α}
    (found : ofCode? dialect code = some value) : code? dialect value = some code := by
  simpa using List.find?_some found

end WireEnum

namespace ErrorStatus

/-- No status of an endpoint says that it is dead. -/
theorem ofWire_ne_deadObject (dialect : Dialect) (code : Int32) : ofWire dialect code ≠ .deadObject := by
  intro dead
  unfold ofWire at dead
  cases found : (WireEnum.ofCode? dialect code : Option ErrorStatus) with
  | none => simp [found] at dead
  | some status =>
    rw [found, Option.getD_some] at dead
    subst dead
    cases WireEnum.code?_of_ofCode? found

/-- A status other than a general failure has the one code that its dialect gives it. -/
theorem ofWire_eq_iff {dialect : Dialect} {status : ErrorStatus} {own code : Int32}
    (specific : status ≠ .generalFailure) (named : WireEnum.code? dialect status = some own)
    (read : ofWire dialect own = status) : ofWire dialect code = status ↔ code = own := by
  constructor
  · intro same
    unfold ofWire at same
    cases found : (WireEnum.ofCode? dialect code : Option ErrorStatus) with
    | none => exact absurd (by simpa [found] using same.symm) specific
    | some other =>
      rw [found, Option.getD_some] at same
      subst same
      exact Option.some.inj ((WireEnum.code?_of_ofCode? found).symm.trans named)
  · rintro rfl
    exact read

theorem ofWire_eq_none_iff {dialect : Dialect} {code : Int32} : ofWire dialect code = .none ↔ code = 0 :=
  ofWire_eq_iff nofun rfl (by cases dialect <;> rfl)

theorem ofWire_eq_outputInsufficientSize_iff {dialect : Dialect} {code : Int32} :
    ofWire dialect code = .outputInsufficientSize ↔ code = 3 :=
  ofWire_eq_iff nofun rfl (by cases dialect <;> rfl)

end ErrorStatus

@[simp] theorem isOrdinary_failedWith {dialect : Dialect} {code : Int32} {name : String}
    (failed : ErrorStatus.ofWire dialect code ≠ .none) :
    (failedWith name (ErrorStatus.ofWire dialect code)).isOrdinary = true :=
  Error.isOrdinary_ofStatus.mpr ⟨failed, ErrorStatus.ofWire_ne_deadObject dialect code⟩

theorem checkStatus_zero (dialect : Dialect) (name : String) : checkStatus dialect name 0 = pure () := by
  unfold checkStatus
  rw [ErrorStatus.ofWire_eq_none_iff.mpr rfl]

/-- Every code but that of success is an ordinary failure. -/
theorem checkStatus_of_ne_zero {dialect : Dialect} {code : Int32} (failed : code ≠ 0) (name : String) :
    ∃ error, checkStatus dialect name code = throw error ∧ error.isOrdinary = true := by
  have other : ErrorStatus.ofWire dialect code ≠ .none := fun none =>
    failed (ErrorStatus.ofWire_eq_none_iff.mp none)
  refine ⟨failedWith name (ErrorStatus.ofWire dialect code), ?_, isOrdinary_failedWith other⟩
  unfold checkStatus
  split
  · rename_i none
    exact absurd none other
  · rfl

@[simp] theorem failsOrdinarily_checkStatus (dialect : Dialect) (name : String) (code : Int32) :
    FailsOrdinarily (checkStatus dialect name code) := by
  by_cases succeeded : code = 0
  · rw [succeeded, checkStatus_zero]
    exact failsOrdinarily_pure ()
  · obtain ⟨error, refused, ordinary⟩ := @checkStatus_of_ne_zero dialect code succeeded name
    rw [refused]
    exact failsOrdinarily_throw.mpr ordinary

@[simp] theorem DeviceFault.isOrdinary_error (fault : DeviceFault) : fault.error.isOrdinary = true := by
  cases fault <;> rfl

@[simp] theorem ExecutionFault.isOrdinary_error (fault : ExecutionFault) : fault.error.isOrdinary = true := by
  cases fault <;> rfl

section Reports

@[simp] theorem Wire.Hal.V1_0.failsOrdinarily_readNotification (code : Int32) :
    FailsOrdinarily (readNotification code) := by
  unfold readNotification
  split
  · exact failsOrdinarily_pure _
  · rename_i failed
    exact failsOrdinarily_throw.mpr (isOrdinary_failedWith failed)

@[simp] theorem failsOrdinarily_outputsTooSmall {α index : Type} [Word index]
    (shapes : List (Wire.OutputShape index)) : FailsOrdinarily (outputsTooSmall shapes : Result α) := by
  simp [outputsTooSmall]

@[simp] theorem Wire.Hal.V1_2.Report.failsOrdinarily_toCanonical (report : Wire.Hal.V1_2.Report) :
    FailsOrdinarily report.toCanonical := by
  unfold toCanonical
  split
  · simp
  · simp
  · rename_i failed _
    exact failsOrdinarily_throw.mpr (isOrdinary_failedWith failed)

@[simp] theorem Wire.Aidl.ExecutionResult.failsOrdinarily_toCanonical (result : Wire.Aidl.ExecutionResult) :
    FailsOrdinarily result.toCanonical := by
  cases timing : result.timing <;> simp [toCanonical, timing]

@[simp] theorem Wire.Aidl.FencedTimes.failsOrdinarily_toCanonical (times : Wire.Aidl.FencedTimes) :
    FailsOrdinarily times.toCanonical := by simp [toCanonical]

end Reports

section Settings

@[simp] theorem PreparedModel.failsOrdinarily_aidlSettings (settings : ExecutionSettings) :
    FailsOrdinarily (aidlSettings settings) := by simp [aidlSettings]

@[simp] theorem Device.failsOrdinarily_aidlPreparation (settings : PreparationSettings) :
    FailsOrdinarily (aidlPreparation settings) := by simp [aidlPreparation]

@[simp] theorem Device.failsOrdinarily_checkFlags (model : Model) (flags : List Bool) :
    FailsOrdinarily (checkFlags model flags) := by simp [checkFlags]

end Settings

namespace TransportError

/-- Only a dead endpoint is reported as one. -/
theorem isDeadObject_error (failure : TransportError) :
    failure.error.isDeadObject = decide (failure = .dead) := by
  cases failure <;> rfl

theorem isDeadObject_errorWithStatus (failure : TransportError) :
    failure.errorWithStatus.isDeadObject = decide (failure = .dead) := by
  cases failure with
  | serviceSpecific code =>
    simpa [errorWithStatus, Error.isDeadObject, Error.status_ofStatus] using
      ErrorStatus.ofWire_ne_deadObject .aidl code
  | _ => rfl

end TransportError

end NeuralDevice
