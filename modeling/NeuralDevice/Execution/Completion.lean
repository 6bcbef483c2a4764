import NeuralDevice.Error
import NeuralDevice.Execution.Wait
import NeuralDevice.Graph.Request

/-! Where the result of an asynchronous execution arrives. The first result is kept and later ones ignored. -/

namespace NeuralDevice

structure ExecutionResult where
  outputShapes : List OutputShape
  timing : Timing
  deriving DecidableEq, Repr, Inhabited

/-- Why a wait ends without a result from the endpoint. -/
inductive WaitFault where
  | timedOut (waited : Duration)
  | endpointDied
  deriving DecidableEq, Repr

def WaitFault.error : WaitFault → Error
  | .timedOut waited =>
    let span := waited.text
    .deadlineExceeded s!"no execution result after waiting {span}"
  | .endpointDied => .deadObject "remote endpoint died before the execution completed"

/-- The result of one execution, once there is one. -/
structure Completion where
  result? : Option (Result ExecutionResult)

namespace Completion

def empty : Completion := ⟨none⟩

def isCompleted (completion : Completion) : Bool := completion.result?.isSome

/-- Takes a result unless there is one already. -/
def complete (completion : Completion) (result : Result ExecutionResult) : Completion :=
  match completion.result? with
  | some _ => completion
  | none => ⟨some result⟩

def completeDead (completion : Completion) : Completion :=
  completion.complete (throw WaitFault.endpointDied.error)

/-- The result, or the failure of a bounded wait for it. Without a bound, the wait for one that never comes lasts
forever. -/
def wait (completion : Completion) (timeout : Option Duration) : Result (Waited ExecutionResult) :=
  match completion.result?, timeout with
  | some result, _ => result.map .ended
  | none, some timeout => throw (WaitFault.timedOut timeout).error
  | none, none => pure .never

end Completion

end NeuralDevice
