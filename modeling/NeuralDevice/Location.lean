import NeuralDevice.Host

/-! Where the data of an operand or argument lives. -/

namespace NeuralDevice

/-- A region of a pool, or of host memory when a pointer is present. -/
structure DataLocation where
  pointer : Option HostPointer
  poolIndex : UInt32
  offset : UInt32
  length : UInt32
  deriving DecidableEq, Repr, Inhabited

namespace DataLocation

def empty : DataLocation := ⟨none, 0, 0, 0⟩

def isEmpty (location : DataLocation) : Bool := location = empty

def inPool (poolIndex offset length : UInt32) : DataLocation := ⟨none, poolIndex, offset, length⟩

/-- All of the memory behind a pointer. -/
def ofPointer (pointer : HostPointer) : Result DataLocation :=
  if UInt32.size ≤ pointer.size.toNat then throw (HostFault.tooLarge pointer.size).error
  else pure ⟨some pointer, 0, 0, pointer.size.toUInt32⟩

/-- One past the last byte of the region. -/
def stop (location : DataLocation) : Nat := location.offset.toNat + location.length.toNat

end DataLocation

end NeuralDevice
