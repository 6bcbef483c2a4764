import NeuralDevice.Location
import NeuralDevice.Memory.Store

/-!
Laying out new pools. Regions are placed back to back in the order in which they are appended, so each one
starts where the lengths before it add up to, and no pool reaches 4 GiB.
-/

namespace NeuralDevice

inductive LayoutFault where
  | tooManyPools (count : Nat)
  | regionTooLarge (length : Nat)
  | constantsTooLarge
  | outputsTooLarge
  deriving DecidableEq, Repr

def LayoutFault.error : LayoutFault → Error
  | .tooManyPools count => .invalidArgument s!"too many memory pools ({count})"
  | .regionTooLarge length => .invalidArgument s!"region of {length} bytes is too large"
  | .constantsTooLarge => .invalidArgument "constant pool exceeds 4 GiB"
  | .outputsTooLarge => .invalidArgument "output pool exceeds 4 GiB"

/-- The index of a pool appended after `count` others. -/
def nextPoolIndex (count : Nat) : Result UInt32 :=
  if count < UInt32.size then pure (UInt32.ofNat count) else throw (LayoutFault.tooManyPools count).error

/-- A pool under construction whose bytes are known. -/
structure ConstantBuilder where
  poolIndex : UInt32
  data : List UInt8
  regions : Nat
  length_data : data.length < UInt32.size

namespace ConstantBuilder

def new (poolIndex : UInt32) : ConstantBuilder := ⟨poolIndex, [], 0, by decide⟩

/-- Whether nothing was appended, not even an empty region. -/
def isEmpty (builder : ConstantBuilder) : Bool := builder.regions == 0

/-- Places `region` after everything appended so far. -/
def append (builder : ConstantBuilder) (region : List UInt8) :
    Result (DataLocation × ConstantBuilder) :=
  if UInt32.size ≤ region.length then throw (LayoutFault.regionTooLarge region.length).error
  else if fits : builder.data.length + region.length < UInt32.size then
    let location := DataLocation.inPool builder.poolIndex (UInt32.ofNat builder.data.length)
      (UInt32.ofNat region.length)
    pure (location, ⟨builder.poolIndex, builder.data ++ region, builder.regions + 1, by simpa using fits⟩)
  else throw LayoutFault.constantsTooLarge.error

/-- A pool that holds the appended bytes. -/
def finish (builder : ConstantBuilder) (store : FileStore) : Result (Memory × FileStore) := do
  let (memory, store) ← Memory.create store (UInt64.ofNat builder.data.length)
  let store ← memory.write store 0 builder.data
  pure (memory, store)

end ConstantBuilder

/-- A pool under construction whose bytes will be written by somebody else. -/
structure OutputBuilder where
  poolIndex : UInt32
  size : UInt32
  regions : Nat
  deriving DecidableEq, Repr

namespace OutputBuilder

def new (poolIndex : UInt32) : OutputBuilder := ⟨poolIndex, 0, 0⟩

/-- Whether nothing was appended, not even an empty region. -/
def isEmpty (builder : OutputBuilder) : Bool := builder.regions == 0

/-- Reserves `length` bytes after everything reserved so far. -/
def append (builder : OutputBuilder) (length : UInt32) : Result (DataLocation × OutputBuilder) :=
  if builder.size.toNat + length.toNat < UInt32.size then
    pure (.inPool builder.poolIndex builder.size length,
      ⟨builder.poolIndex, builder.size + length, builder.regions + 1⟩)
  else throw LayoutFault.outputsTooLarge.error

/-- A pool of zeros with the reserved size. -/
def finish (builder : OutputBuilder) (store : FileStore) : Result (Memory × FileStore) :=
  Memory.create store builder.size.toUInt64

end OutputBuilder

end NeuralDevice
