import NeuralDevice.Code.OperandType
import NeuralDevice.Error

/-!
Validation of canonical values. A valid value has the oldest version able to represent it; an invalid one
has the first violated rule as its error.
-/

namespace NeuralDevice

class Validate (α : Type) where
  validate : α → Result Version

export Validate (validate)

/-- The newest of `start` and the versions that `check` finds; the first failure aborts. -/
def newestVersion (check : α → Result Version) (start : Version) (values : List α) : Result Version :=
  values.foldlM (fun newest value => do
    let version ← check value
    pure (max newest version)) start

instance [Validate α] : Validate (List α) := ⟨newestVersion validate .v1_0⟩

instance : Validate OperandType := ⟨fun type => pure type.version⟩

instance : Validate DeviceType where
  validate
    | .unknown => throw (.invalidArgument "Invalid DeviceType UNKNOWN")
    | .other | .cpu | .gpu | .accelerator => pure .v1_2

/-- A region that leaves what it lies in. -/
structure RangeFault where
  what : String
  offset : UInt32
  length : UInt32
  size : Nat
  deriving DecidableEq, Repr

def RangeFault.error (fault : RangeFault) : Error :=
  .invalidArgument
    s!"{fault.what} range [{fault.offset}, +{fault.length}) exceeds its {fault.size} bytes"

/-- The region from `offset` on must end inside `size` bytes. -/
def checkRange (offset length : UInt32) (size : Nat) (what : String) : Result Unit :=
  if size < offset.toNat + length.toNat then throw (RangeFault.mk what offset length size).error
  else pure ()

end NeuralDevice
