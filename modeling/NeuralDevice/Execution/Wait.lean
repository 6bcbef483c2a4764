/-! How waits come out. A bounded one always ends; one without bound may last forever, and then nothing follows. -/

namespace NeuralDevice

/-- A wait that ended with a value, or one that never ends. -/
inductive Waited (α : Type) where
  | ended (value : α)
  | never
  deriving DecidableEq, Repr

namespace Waited

def value? : Waited α → Option α
  | .ended value => some value
  | .never => none

def hasEnded : Waited α → Bool
  | .ended _ => true
  | .never => false

def map (change : α → β) : Waited α → Waited β
  | .ended value => .ended (change value)
  | .never => .never

end Waited

end NeuralDevice
