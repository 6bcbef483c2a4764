import NeuralDevice.Code.Setting
import NeuralDevice.Execution.Fence
import NeuralDevice.Time

/-! What callers state with a preparation or an execution. -/

namespace NeuralDevice

/-- How a model is to be prepared. -/
structure PreparationSettings where
  preference : ExecutionPreference
  priority : Priority
  deadline : Option TimePoint
  deriving DecidableEq, Repr

def PreparationSettings.standard : PreparationSettings := ⟨.standard, .standard, none⟩

/-- How a request is to be executed. -/
structure ExecutionSettings where
  measure : MeasureTiming
  deadline : Option TimePoint
  /-- Bound on the time in one loop of the model. -/
  loopTimeout : Option Duration
  deriving DecidableEq, Repr

/-- How a request is to be executed once fences have fired. -/
structure FencedSettings extends ExecutionSettings where
  waitFor : List Fence
  /-- Bound on the time after the fences fired. -/
  timeoutAfterFence : Option Duration
  deriving DecidableEq, Repr

end NeuralDevice
