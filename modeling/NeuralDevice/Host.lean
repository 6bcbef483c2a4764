import NeuralDevice.Error

/-!
Caller-owned host memory. A host pointer never crosses a process boundary: its bytes are moved into shared
memory before a model or request is sent.
-/

namespace NeuralDevice

inductive HostFault where
  | nullPointer
  | readOnly
  | tooLong (length : Nat) (size : UInt64)
  | tooLarge (size : UInt64)
  deriving DecidableEq, Repr

def HostFault.error : HostFault → Error
  | .nullPointer => .invalidArgument "host pointer must not be null"
  | .readOnly => .invalidArgument "cannot write through a read-only host pointer"
  | .tooLong length size =>
    .invalidArgument s!"location length {length} exceeds the {size} bytes behind the host pointer"
  | .tooLarge size => .invalidArgument s!"host buffer of {size} bytes is too large"

/-- A pointer into a caller's buffer, and how many bytes from there on may be used. Pointers into one buffer may
overlap. -/
structure HostPointer where
  buffer : Nat
  offset : Nat
  size : UInt64
  isWritable : Bool
  deriving DecidableEq, Repr, Inhabited

structure HostMemory where
  buffers : List (List UInt8)
  deriving DecidableEq, Repr, Inhabited

namespace HostMemory

def buffer (host : HostMemory) (index : Nat) : List UInt8 :=
  (host.buffers[index]?).getD []

/-- The first `length` bytes behind the pointer. -/
def behind (host : HostMemory) (pointer : HostPointer) (length : Nat) : List UInt8 :=
  ((host.buffer pointer.buffer).drop pointer.offset).take length

/-- The buffers with `data` over the first bytes behind the pointer. No buffer changes its length. -/
def overwrite (host : HostMemory) (pointer : HostPointer) (data : List UInt8) : HostMemory :=
  ⟨host.buffers.modify pointer.buffer fun bytes => bytes.mapIdx fun position byte =>
    if position < pointer.offset then byte else data.getD (position - pointer.offset) byte⟩

end HostMemory

namespace HostPointer

/-- A pointer to a byte of a buffer; `none` is the null pointer. -/
def create (start : Option (Nat × Nat)) (size : UInt64) (isWritable : Bool) : Result HostPointer :=
  match start with
  | none => throw HostFault.nullPointer.error
  | some (buffer, offset) => pure ⟨buffer, offset, size, isWritable⟩

def checkLength (pointer : HostPointer) (length : Nat) : Result Unit :=
  if pointer.size.toNat < length then throw (HostFault.tooLong length pointer.size).error
  else pure ()

def read (pointer : HostPointer) (host : HostMemory) (length : Nat) : Result (List UInt8) := do
  pointer.checkLength length
  pure (host.behind pointer length)

def write (pointer : HostPointer) (host : HostMemory) (data : List UInt8) : Result HostMemory := do
  if !pointer.isWritable then throw HostFault.readOnly.error
  pointer.checkLength data.length
  pure (host.overwrite pointer data)

end HostPointer

end NeuralDevice
