import NeuralDevice.Numeric.Word
import NeuralDevice.Time
import NeuralDevice.Validation.Basic

/-!
Conversion between canonical values and wire messages. Integers are narrowed without wrapping, and the
validated entry points let only values through that their version can carry.
-/

namespace NeuralDevice

/-- Why a value cannot cross into or out of a dialect. -/
inductive ConversionFault where
  | outOfRange (what : String) (value : Int)
  | missingField (name : String)
  | unrepresentable (what value : String) (version : Version)
  | unrecognized (what : String) (code : Int32)
  | pointerLocation
  | pointerModel
  | pointerRequest
  | consumerCounts (found expected : Nat)
  | consumerCount (operand : Nat) (expected found : UInt32)
  | operandPerformance (cause : Error)
  | capabilities (cause : Error)
  | unrepresentableSpan (span : Duration)
  | negativeSpan (what : String) (nanoseconds : Int64)
  | earlyDeadline
  | receivedTooNew (required version : Version)
  | sentTooNew (required version : Version)
  deriving DecidableEq, Repr

def ConversionFault.error : ConversionFault → Error
  | .outOfRange what value => .invalidArgument s!"{what} value {value} is out of range"
  | .missingField name => .generalFailure s!"missing required field {name}"
  | .unrepresentable what value version =>
    let name := version.name
    .invalidArgument s!"{what} {value} cannot be represented in {name}"
  | .unrecognized what code => .generalFailure s!"Unrecognized {what} {code}"
  | .pointerLocation =>
    .invalidArgument "pointer-based locations cannot be sent to a remote endpoint"
  | .pointerModel =>
    .invalidArgument "Model cannot be converted because it contains pointer-based memory"
  | .pointerRequest =>
    .invalidArgument "Request cannot be converted because it contains pointer-based memory"
  | .consumerCounts found expected =>
    .internalConsistency s!"{found} consumer counts for {expected} operands"
  | .consumerCount operand expected found =>
    .generalFailure
      s!"Invalid numberOfConsumers for operand {operand}, expected {expected} but found {found}"
  | .operandPerformance cause =>
    let reason := cause.text
    .generalFailure
      s!"Invalid OperandType when converting OperandPerformance in Capabilities: {reason}"
  | .capabilities cause =>
    let reason := cause.text
    .generalFailure s!"Invalid Capabilities: {reason}"
  | .unrepresentableSpan span =>
    let written := span.text
    .invalidArgument s!"Timing value {written} is out of range"
  | .negativeSpan what nanoseconds => .generalFailure s!"Invalid {what} {nanoseconds}"
  | .earlyDeadline => .invalidArgument "deadline precedes the UNIX epoch"
  | .receivedTooNew required version =>
    let has := version.name
    let needs := required.name
    .generalFailure s!"Insufficient version: {has} vs required {needs}"
  | .sentTooNew required version =>
    let has := version.name
    let needs := required.name
    .invalidArgument s!"Insufficient version: {has} vs required {needs}"

/-- The word with the given value; a value that does not fit is an error, never wrapped. -/
def narrow [Word α] (what : String) (value : Int) : Result α :=
  match Word.ofInt? α value with
  | some word => pure word
  | none => throw (ConversionFault.outOfRange what value).error

def rewidth [Word α] [Word β] (what : String) (word : α) : Result β := narrow what (Word.toInt word)

/-- All values in another width; the first that does not fit is the error. -/
def rewidthAll [Word α] [Word β] (what : String) (words : List α) : Result (List β) :=
  words.mapM (rewidth what)

theorem narrow_eq_ok_iff [Word α] {what : String} {value : Int} {word : α} :
    narrow what value = .ok word ↔ Word.toInt word = value := by
  unfold narrow
  cases found : Word.ofInt? α value with
  | some other =>
    rw [← Word.ofInt?_eq_some_iff, found]
    simp [pure, Except.pure]
  | none =>
    rw [← Word.ofInt?_eq_some_iff, found]
    simp [throw, throwThe, MonadExceptOf.throw]

@[simp] theorem rewidth_self [Word α] (what : String) (word : α) :
    rewidth what word = (.ok word : Result α) :=
  narrow_eq_ok_iff.mpr rfl

def required (field : Option α) (name : String) : Result α :=
  match field with
  | some value => pure value
  | none => throw (ConversionFault.missingField name).error

/-- Accepts a received value if it is valid and `limit` could have carried it. -/
def receive [Validate α] (limit : Version) (converted : Result α) : Result α := do
  let value ← converted
  let required ← validate value
  if limit < required then throw (ConversionFault.receivedTooNew required limit).error
  pure value

/-- Converts a value to be sent if it is valid and `limit` can carry it. -/
def send [Validate α] (limit : Version) (value : α) (convert : α → Result β) : Result β := do
  let required ← validate value
  if limit < required then throw (ConversionFault.sentTooNew required limit).error
  convert value

end NeuralDevice
