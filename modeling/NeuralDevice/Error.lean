import NeuralDevice.Code.Setting

/-! Statuses reported by endpoints, and the errors callers receive. -/

namespace NeuralDevice

inductive ErrorStatus where
  | none
  | deviceUnavailable
  | generalFailure
  | outputInsufficientSize
  | invalidArgument
  | missedDeadlineTransient
  | missedDeadlinePersistent
  | resourceExhaustedTransient
  | resourceExhaustedPersistent
  | deadObject
  deriving DecidableEq, Repr, Inhabited

instance : Named ErrorStatus where
  all := [.none, .deviceUnavailable, .generalFailure, .outputInsufficientSize, .invalidArgument,
    .missedDeadlineTransient, .missedDeadlinePersistent, .resourceExhaustedTransient,
    .resourceExhaustedPersistent, .deadObject]
  name
    | .none => "NONE"
    | .deviceUnavailable => "DEVICE_UNAVAILABLE"
    | .generalFailure => "GENERAL_FAILURE"
    | .outputInsufficientSize => "OUTPUT_INSUFFICIENT_SIZE"
    | .invalidArgument => "INVALID_ARGUMENT"
    | .missedDeadlineTransient => "MISSED_DEADLINE_TRANSIENT"
    | .missedDeadlinePersistent => "MISSED_DEADLINE_PERSISTENT"
    | .resourceExhaustedTransient => "RESOURCE_EXHAUSTED_TRANSIENT"
    | .resourceExhaustedPersistent => "RESOURCE_EXHAUSTED_PERSISTENT"
    | .deadObject => "DEAD_OBJECT"

/-- The shape of an output after an execution, and whether its buffer could hold it. -/
structure OutputShape where
  dimensions : List UInt32
  isSufficient : Bool
  deriving DecidableEq, Repr, Inhabited

inductive Error where
  | invalidArgument (detail : String)
  | generalFailure (detail : String)
  | unsupported (detail : String)
  | deadObject (detail : String)
  | resourceExhausted (detail : String)
  | internalConsistency (detail : String)
  | deadlineExceeded (detail : String)
  | execution (status : ErrorStatus) (detail : String)
  | outputInsufficientSize (detail : String) (shapes : List OutputShape)
  deriving DecidableEq, Repr, Inhabited

namespace Error

/-- The error that stands for a status reported by an endpoint. -/
def ofStatus (status : ErrorStatus) (detail : String) : Error :=
  match status with
  | .invalidArgument => .invalidArgument detail
  | .generalFailure => .generalFailure detail
  | .deadObject => .deadObject detail
  | .outputInsufficientSize => .outputInsufficientSize detail []
  | .none | .deviceUnavailable | .missedDeadlineTransient | .missedDeadlinePersistent
  | .resourceExhaustedTransient | .resourceExhaustedPersistent => .execution status detail

/-- The status callers can test for. -/
def status : Error → ErrorStatus
  | .invalidArgument _ => .invalidArgument
  | .generalFailure _ | .unsupported _ | .internalConsistency _ => .generalFailure
  | .deadObject _ => .deadObject
  | .resourceExhausted _ => .resourceExhaustedTransient
  | .deadlineExceeded _ => .missedDeadlineTransient
  | .execution status _ => status
  | .outputInsufficientSize _ _ => .outputInsufficientSize

/-- Whether the endpoint is gone, so that reconnecting may help. -/
def isDeadObject (error : Error) : Bool := error.status = .deadObject

def text : Error → String
  | .invalidArgument detail => s!"Invalid argument: {detail}"
  | .generalFailure detail => s!"General failure: {detail}"
  | .unsupported detail => s!"Unsupported operation: {detail}"
  | .deadObject detail => s!"Remote endpoint died: {detail}"
  | .resourceExhausted detail => s!"Resource exhausted: {detail}"
  | .internalConsistency detail => s!"Internal consistency violation: {detail}"
  | .deadlineExceeded detail => s!"Deadline exceeded: {detail}"
  | .execution status detail => s!"Execution failed with {Named.name status}: {detail}"
  | .outputInsufficientSize detail _ => s!"Output buffers too small: {detail}"

theorem status_ofStatus (reported : ErrorStatus) (detail : String) :
    (ofStatus reported detail).status = reported := by
  cases reported <;> rfl

end Error

/-- What a call yields: a value or an error. -/
abbrev Result (α : Type) := Except Error α

end NeuralDevice
