import NeuralDevice.Error
import NeuralDevice.Memory.File

/-!
The open files of a process and the handles, memories and views that refer to them. A descriptor names
its file for good: duplicates of a descriptor are the same descriptor here, so handles are equal exactly
when they refer to the same files and hold the same integers.
-/

namespace NeuralDevice

inductive MemoryFault where
  | negativeDescriptor (descriptor : Int32)
  | closedDescriptor
  | missingDescriptor (memory : String)
  | outOfRange (offset length : Nat) (size : UInt64)
  | endOfFile
  | unsupportedOffset
  | allocationTooLarge (size : UInt64)
  | tooManyFiles (size : UInt64)
  deriving DecidableEq, Repr

def MemoryFault.error : MemoryFault → Error
  | .negativeDescriptor descriptor => .invalidArgument s!"invalid file descriptor {descriptor}"
  | .closedDescriptor => .generalFailure "I/O error: Bad file descriptor (os error 9)"
  | .missingDescriptor memory => .invalidArgument s!"memory \"{memory}\" has no file descriptor"
  | .outOfRange offset length size =>
    .invalidArgument s!"range [{offset}, +{length}) exceeds memory of {size} bytes"
  | .endOfFile => .generalFailure "I/O error: failed to fill whole buffer"
  | .unsupportedOffset => .generalFailure "I/O error: Invalid argument (os error 22)"
  | .allocationTooLarge size =>
    .resourceExhausted
      s!"failed to allocate {size} bytes of shared memory: number too large to fit in target type"
  | .tooManyFiles size =>
    .resourceExhausted
      s!"failed to allocate {size} bytes of shared memory: Too many open files (os error 24)"

abbrev Descriptor := Int32

/-- No file is this long: sizes and offsets of files have 63 bits. -/
def fileSizeLimit : Nat := 0x8000000000000000

/-- The open files; the descriptor of a file is its position. -/
structure FileStore where
  files : List File

namespace FileStore

def empty : FileStore := ⟨[]⟩

/-- There are no more files than descriptors. -/
def limit : Nat := 0x80000000

def position (descriptor : Descriptor) : Nat := descriptor.toInt.toNat

def open? (store : FileStore) (descriptor : Descriptor) : Option File :=
  if descriptor.toInt < 0 then none else store.files[position descriptor]?

def isOpen (store : FileStore) (descriptor : Descriptor) : Bool := (store.open? descriptor).isSome

/-- The store with the file of a descriptor replaced. -/
def set (store : FileStore) (descriptor : Descriptor) (file : File) : FileStore :=
  ⟨store.files.set (position descriptor) file⟩

def push (store : FileStore) (file : File) : FileStore := ⟨store.files ++ [file]⟩

def next (store : FileStore) : Descriptor := Int32.ofNat store.files.length

end FileStore

/-- Descriptors and integers that describe a memory object. -/
structure Handle where
  descriptors : List Descriptor
  ints : List Int32
  deriving DecidableEq, Repr, Inhabited

/-- A usable descriptor: nonnegative and open. -/
def Descriptor.check (store : FileStore) (descriptor : Descriptor) : Result Descriptor :=
  if descriptor.toInt < 0 then throw (MemoryFault.negativeDescriptor descriptor).error
  else if store.isOpen descriptor then pure descriptor
  else throw MemoryFault.closedDescriptor.error

/-- A handle on descriptors that somebody else owns. -/
def Handle.duplicate (store : FileStore) (descriptors : List Descriptor) (ints : List Int32) :
    Result Handle := do
  let descriptors ← descriptors.mapM (Descriptor.check store)
  pure ⟨descriptors, ints⟩

/-- A shared memory object: its declared size need not be the size of its file. -/
structure Memory where
  handle : Handle
  size : UInt64
  name : String
  deriving DecidableEq, Repr, Inhabited

/-- The name of pools allocated here. -/
def Memory.allocatedName : String := "ashmem"

/-- Allocates a zero-filled pool. -/
def Memory.create (store : FileStore) (size : UInt64) : Result (Memory × FileStore) :=
  if fileSizeLimit ≤ size.toNat then throw (MemoryFault.allocationTooLarge size).error
  else if FileStore.limit ≤ store.files.length then throw (MemoryFault.tooManyFiles size).error
  else pure (⟨⟨[store.next], []⟩, size, Memory.allocatedName⟩, store.push (.zeros size.toNat))

/-- Bounds-checked access to a memory object through its first descriptor. -/
structure MemoryView where
  descriptor : Descriptor
  size : UInt64
  deriving DecidableEq, Repr

def Memory.view (memory : Memory) (store : FileStore) : Result MemoryView :=
  match memory.handle.descriptors with
  | [] => throw (MemoryFault.missingDescriptor memory.name).error
  | descriptor :: _ =>
    if store.isOpen descriptor then pure ⟨descriptor, memory.size⟩
    else throw MemoryFault.closedDescriptor.error

namespace MemoryView

def file (view : MemoryView) (store : FileStore) : File :=
  (store.open? view.descriptor).getD (.zeros 0)

/-- Where a range ends, unless that does not fit in 64 bits. -/
def rangeStop? (offset length : Nat) : Option Nat :=
  if offset + length < UInt64.size then some (offset + length) else none

/-- Refuses a range that leaves the declared size, or bytes that would end where no file ends. -/
def checkRange (view : MemoryView) (offset length : Nat) : Result Unit :=
  match rangeStop? offset length with
  | none => throw (MemoryFault.outOfRange offset length view.size).error
  | some stop =>
    if view.size.toNat < stop then throw (MemoryFault.outOfRange offset length view.size).error
    else if length ≠ 0 ∧ fileSizeLimit ≤ stop then throw MemoryFault.unsupportedOffset.error
    else pure ()

def read (view : MemoryView) (store : FileStore) (offset length : Nat) : Result (List UInt8) := do
  view.checkRange offset length
  match (view.file store).read? offset length with
  | some data => pure data
  | none => throw MemoryFault.endOfFile.error

def write (view : MemoryView) (store : FileStore) (offset : Nat) (data : List UInt8) :
    Result FileStore := do
  view.checkRange offset data.length
  pure (store.set view.descriptor ((view.file store).overwrite offset data))

end MemoryView

namespace Memory

def read (memory : Memory) (store : FileStore) (offset length : Nat) : Result (List UInt8) := do
  let view ← memory.view store
  view.read store offset length

def write (memory : Memory) (store : FileStore) (offset : Nat) (data : List UInt8) :
    Result FileStore := do
  let view ← memory.view store
  view.write store offset data

end Memory

end NeuralDevice
