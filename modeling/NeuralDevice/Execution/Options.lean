import NeuralDevice.Error
import NeuralDevice.Json.Reader
import NeuralDevice.Numeric.Word
import NeuralDevice.Time

/-!
How executions are submitted, and how that is configured in JSON. Unknown settings are ignored, missing ones
keep their defaults, and a setting must not be given twice.
-/

namespace NeuralDevice

structure ExecutionOptions where
  /-- Whether the synchronous call is tried before the asynchronous one. -/
  preferSynchronous : Bool
  /-- How long to wait for an asynchronous result of a caller without a deadline. -/
  asyncWaitTimeout : Option Duration
  deriving DecidableEq, Repr

namespace ExecutionOptions

def standard : ExecutionOptions := ⟨true, none⟩

instance : Inhabited ExecutionOptions := ⟨standard⟩

/-- A whole number that fits the word type. -/
def readWord? (α : Type) [Word α] : Json → Option Nat
  | .int value => if 0 ≤ value then (Word.ofInt? α value).map fun _ => value.toNat else none
  | .null | .bool _ | .real | .text _ | .list _ | .object _ => none

/-- The value of the only member with a key, if there is one; two are refused. -/
def onlyMember? (members : List (Option String × Json)) (key : String) : Option (Option Json) :=
  match members.filter fun entry => entry.1 == some key with
  | [] => some none
  | [entry] => some (some entry.2)
  | _ => none

/-- Seconds and nanoseconds; the whole seconds of both together must fit 64 bits. -/
def spanOfParts? (secs nanos : Json) : Option Duration := do
  let secs ← readWord? UInt64 secs
  let nanos ← readWord? UInt32 nanos
  if UInt64.size ≤ secs + nanos / Duration.perSecond then none
  pure (.ofSeconds secs nanos)

/-- A span of time: an object with these two members and no other, or a list of the two. -/
def readSpan? : Json → Option Duration
  | .list [secs, nanos] => spanOfParts? secs nanos
  | .object members => do
    if members.any fun entry => entry.1 != some "secs" && entry.1 != some "nanos" then none
    let secs ← onlyMember? members "secs"
    let nanos ← onlyMember? members "nanos"
    match secs, nanos with
    | some secs, some nanos => spanOfParts? secs nanos
    | _, _ => none
  | _ => none

/-- The wait timeout, where `null` stands for none. -/
def readTimeout? : Json → Option (Option Duration)
  | .null => some none
  | document => (readSpan? document).map some

def readFlag? : Json → Option Bool
  | .bool value => some value
  | .null | .int _ | .real | .text _ | .list _ | .object _ => none

/-- Options from an object of settings, or from a list of them in order. -/
def ofJson? : Json → Option ExecutionOptions
  | .list items =>
    match items with
    | [] => some standard
    | [prefer] => (readFlag? prefer).map fun prefer => { standard with preferSynchronous := prefer }
    | [prefer, timeout] => do
      let prefer ← readFlag? prefer
      let timeout ← readTimeout? timeout
      pure ⟨prefer, timeout⟩
    | _ => none
  | .object members => do
    if members.any fun entry => entry.1.isNone then none
    let prefer ← onlyMember? members "prefer_synchronous"
    let timeout ← onlyMember? members "async_wait_timeout"
    let prefer ← (prefer.map readFlag?).getD (some standard.preferSynchronous)
    let timeout ← (timeout.map readTimeout?).getD (some standard.asyncWaitTimeout)
    pure ⟨prefer, timeout⟩
  | _ => none

def ofText? (text : String) : Option ExecutionOptions := (Json.read? text).bind ofJson?

/-- Options from a text, with an error for a text that holds none. -/
def ofText (text : String) : Result ExecutionOptions :=
  match ofText? text with
  | some options => pure options
  | none => throw (.invalidArgument "invalid execution options")

def spanToJson (span : Duration) : Json :=
  .ofMembers [("secs", .nat span.seconds), ("nanos", .nat span.beyondSeconds)]

def toText (options : ExecutionOptions) : String :=
  (Json.ofMembers
    [("prefer_synchronous", .bool options.preferSynchronous),
      ("async_wait_timeout", (options.asyncWaitTimeout.map spanToJson).getD .null)]).write

end ExecutionOptions

end NeuralDevice
