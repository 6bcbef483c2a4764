import NeuralDevice.Memory.Store
import NeuralDevice.Proofs.Result

/-!
Reading and writing shared memory. A write changes the bytes of its range in one file and nothing else. New
files come after all others, so what was open before stays what it was.
-/

namespace NeuralDevice

open Result

namespace FileStore

theorem open?_eq_some_iff {store : FileStore} {descriptor : Descriptor} {file : File} :
    store.open? descriptor = some file ↔
      0 ≤ descriptor.toInt ∧ store.files[position descriptor]? = some file := by
  unfold open?
  split <;> simp <;> omega

/-- Nonnegative descriptors are told apart by their positions. -/
private theorem position_injective {first second : Descriptor} (firstFits : 0 ≤ first.toInt)
    (secondFits : 0 ≤ second.toInt) (same : position first = position second) : first = second := by
  apply Int32.toInt_inj.mp
  unfold position at same
  omega

theorem toInt_next {store : FileStore} (room : store.files.length < limit) :
    store.next.toInt = store.files.length := by
  unfold limit at room
  exact Int32.toInt_ofNat_of_lt room

theorem position_next {store : FileStore} (room : store.files.length < limit) :
    position store.next = store.files.length := by
  rw [position, toInt_next room, Int.toNat_natCast]

/-- A file that is opened is behind the next descriptor. -/
theorem open?_push_next {store : FileStore} (room : store.files.length < limit) (file : File) :
    (store.push file).open? store.next = some file := by
  rw [open?_eq_some_iff, position_next room, toInt_next room]
  simp [push]

theorem open?_next {store : FileStore} (room : store.files.length < limit) :
    store.open? store.next = none := by
  cases found : store.open? store.next with
  | none => rfl
  | some file =>
    have inside := (open?_eq_some_iff.mp found).2
    rw [position_next room] at inside
    simp at inside

/-- Every file of the store is the same in the later one. -/
def IsKept (store later : FileStore) : Prop := store.files <+: later.files

theorem IsKept.refl (store : FileStore) : store.IsKept store := List.prefix_refl _

theorem IsKept.trans {first second third : FileStore} (before : first.IsKept second)
    (after : second.IsKept third) : first.IsKept third := List.IsPrefix.trans before after

theorem isKept_push (store : FileStore) (file : File) : store.IsKept (store.push file) :=
  List.prefix_append _ _

theorem IsKept.open? {store later : FileStore} (kept : store.IsKept later) {descriptor : Descriptor}
    {file : File} (opened : store.open? descriptor = some file) :
    later.open? descriptor = some file := by
  rw [open?_eq_some_iff] at opened ⊢
  obtain ⟨inside, rfl⟩ := List.getElem?_eq_some_iff.mp opened.2
  exact ⟨opened.1, List.prefix_iff_getElem?.mp kept _ inside⟩

theorem IsKept.open?_eq_none {store later : FileStore} (kept : store.IsKept later)
    {descriptor : Descriptor} (closed : later.open? descriptor = none) :
    store.open? descriptor = none := by
  cases found : store.open? descriptor with
  | none => rfl
  | some file => exact absurd (kept.open? found) (by simp [closed])

theorem open?_set_same {store : FileStore} {descriptor : Descriptor} {old : File}
    (opened : store.open? descriptor = some old) (file : File) :
    (store.set descriptor file).open? descriptor = some file := by
  rw [open?_eq_some_iff] at opened ⊢
  obtain ⟨inside, _⟩ := List.getElem?_eq_some_iff.mp opened.2
  exact ⟨opened.1, by simp [set, inside]⟩

theorem open?_set_other {store : FileStore} {descriptor other : Descriptor} {old : File}
    (opened : store.open? descriptor = some old) (differs : other ≠ descriptor) (file : File) :
    (store.set descriptor file).open? other = store.open? other := by
  have nonnegative := (open?_eq_some_iff.mp opened).1
  unfold open?
  split
  · rfl
  · rename_i fits
    have apart : position descriptor ≠ position other := fun same =>
      differs (position_injective (Int.not_lt.mp fits) nonnegative same.symm)
    simp [set, apart]

/-- A file that is not open in the store can be replaced in the later one. -/
theorem IsKept.set_new {store later : FileStore} (kept : store.IsKept later)
    {descriptor : Descriptor} {old : File} (closed : store.open? descriptor = none)
    (opened : later.open? descriptor = some old) (file : File) :
    store.IsKept (later.set descriptor file) := by
  have fits := (open?_eq_some_iff.mp opened).1
  have beyond : store.files.length ≤ position descriptor := by
    rw [FileStore.open?, if_neg (by omega)] at closed
    exact List.getElem?_eq_none_iff.mp closed
  refine List.prefix_iff_getElem?.mpr fun place inside => ?_
  simp only [set]
  rw [List.getElem?_set_ne (by omega)]
  exact List.prefix_iff_getElem?.mp kept place inside

end FileStore

/-- A range that does not end within 64 bits leaves every memory. -/
theorem MemoryView.checkRange_eq (view : MemoryView) (offset length : Nat) :
    view.checkRange offset length =
      if view.size.toNat < offset + length then throw (MemoryFault.outOfRange offset length view.size).error
      else if length ≠ 0 ∧ fileSizeLimit ≤ offset + length then throw MemoryFault.unsupportedOffset.error
      else pure () := by
  by_cases fits : offset + length < UInt64.size
  · simp only [checkRange, rangeStop?, if_pos fits]
  · have leaves : view.size.toNat < offset + length :=
      Nat.lt_of_lt_of_le view.size.toNat_lt (Nat.not_lt.mp fits)
    simp only [checkRange, rangeStop?, if_neg fits, if_pos leaves]

theorem MemoryView.checkRange_eq_ok_iff {view : MemoryView} {offset length : Nat} {passed : Unit} :
    view.checkRange offset length = .ok passed ↔
      offset + length ≤ view.size.toNat ∧ (length = 0 ∨ offset + length < fileSizeLimit) := by
  simp only [checkRange_eq, refuse_eq_ok_iff, pure_eq_ok_iff, and_true, Nat.not_lt]
  omega

theorem File.read?_eq_some_iff {file : File} {offset length : Nat} {data : List UInt8} :
    file.read? offset length = some data ↔
      (length = 0 ∨ offset + length ≤ file.size) ∧ file.slice offset length = data := by
  simp [File.read?]

theorem MemoryView.read_eq_ok_iff {view : MemoryView} {store : FileStore} {offset length : Nat}
    {data : List UInt8} :
    view.read store offset length = .ok data ↔
      view.checkRange offset length = .ok () ∧ (view.file store).read? offset length = some data := by
  unfold MemoryView.read
  rw [bind_eq_ok_iff]
  cases (view.file store).read? offset length with
  | none => simp [throw_ne_ok]
  | some bytes =>
    constructor
    · intro done
      obtain ⟨_, checked, same⟩ := done
      exact ⟨checked, congrArg some (pure_eq_ok_iff.mp same)⟩
    · intro both
      exact ⟨(), both.1, pure_eq_ok_iff.mpr (Option.some.inj both.2)⟩

namespace Memory

/-- Allocating puts a file of zeros behind the next descriptor. -/
theorem create_eq_ok_iff {store later : FileStore} {size : UInt64} {memory : Memory} :
    create store size = .ok (memory, later) ↔
      size.toNat < fileSizeLimit ∧ store.files.length < FileStore.limit ∧
        ⟨⟨[store.next], []⟩, size, allocatedName⟩ = memory ∧ store.push (.zeros size.toNat) = later := by
  simp only [create, refuse_eq_ok_iff, pure_eq_ok_iff, Nat.not_le, Prod.mk.injEq]

variable {memory : Memory} {store : FileStore} {descriptor : Descriptor} {file : File} {offset : Nat}

theorem view_eq_ok_iff {view : MemoryView} :
    memory.view store = .ok view ↔
      ∃ descriptor file, memory.handle.descriptors.head? = some descriptor ∧
        store.open? descriptor = some file ∧ ⟨descriptor, memory.size⟩ = view := by
  unfold Memory.view
  cases memory.handle.descriptors with
  | nil => simp [throw_ne_ok]
  | cons descriptor rest =>
    simp only [demand_eq_ok_iff, pure_eq_ok_iff]
    simp [FileStore.isOpen, Option.isSome_iff_exists]

private theorem view_of_open (first : memory.handle.descriptors.head? = some descriptor)
    (opened : store.open? descriptor = some file) :
    memory.view store = .ok ⟨descriptor, memory.size⟩ :=
  view_eq_ok_iff.mpr ⟨descriptor, file, first, opened, rfl⟩

/-- A range is read if it is inside the memory, and inside its file unless it is empty. -/
theorem read_eq_ok_iff {length : Nat} {data : List UInt8} :
    memory.read store offset length = .ok data ↔
      ∃ descriptor file, memory.handle.descriptors.head? = some descriptor ∧
        store.open? descriptor = some file ∧ offset + length ≤ memory.size.toNat ∧
        (length = 0 ∨ offset + length ≤ file.size ∧ offset + length < fileSizeLimit) ∧
        file.slice offset length = data := by
  simp only [Memory.read, bind_eq_ok_iff, view_eq_ok_iff, MemoryView.read_eq_ok_iff,
    MemoryView.checkRange_eq_ok_iff, File.read?_eq_some_iff]
  constructor
  · intro done
    obtain ⟨_, ⟨descriptor, file, first, opened, rfl⟩, ⟨inside, small⟩, long, found⟩ := done
    rw [MemoryView.file, opened] at long found
    exact ⟨descriptor, file, first, opened, inside, or_and_left.mpr ⟨long, small⟩, found⟩
  · intro parts
    obtain ⟨descriptor, file, first, opened, inside, fits, found⟩ := parts
    refine ⟨_, ⟨descriptor, file, first, opened, rfl⟩, ⟨inside, ?_⟩, ?_⟩
    · exact fits.imp_right And.right
    · rw [MemoryView.file, opened]
      exact ⟨fits.imp_right And.left, found⟩

/-- A range inside the memory and its file is read from the file. -/
theorem read_of_open {length : Nat} (first : memory.handle.descriptors.head? = some descriptor)
    (opened : store.open? descriptor = some file) (inside : offset + length ≤ memory.size.toNat)
    (long : offset + length ≤ file.size) (small : offset + length < fileSizeLimit) :
    memory.read store offset length = .ok (file.slice offset length) :=
  read_eq_ok_iff.mpr ⟨descriptor, file, first, opened, inside, .inr ⟨long, small⟩, rfl⟩

/-- A range inside the memory is written in its file. -/
theorem write_of_open {data : List UInt8} (first : memory.handle.descriptors.head? = some descriptor)
    (opened : store.open? descriptor = some file) (inside : offset + data.length ≤ memory.size.toNat)
    (small : offset + data.length < fileSizeLimit) :
    memory.write store offset data = .ok (store.set descriptor (file.overwrite offset data)) := by
  have checked : MemoryView.checkRange ⟨descriptor, memory.size⟩ offset data.length = .ok () :=
    MemoryView.checkRange_eq_ok_iff.mpr ⟨inside, .inr small⟩
  simp [write, view_of_open first opened, MemoryView.write, checked, MemoryView.file, opened, bind,
    Except.bind, pure, Except.pure]

theorem length_of_read {length : Nat} {data : List UInt8}
    (read : memory.read store offset length = .ok data) : data.length = length := by
  obtain ⟨_, _, -, -, -, -, rfl⟩ := read_eq_ok_iff.mp read
  exact File.length_slice _ _ _

/-- A memory whose file was open is read as before. -/
theorem read_of_isKept {later : FileStore} {length : Nat} (kept : store.IsKept later)
    (opened : ∀ descriptor, memory.handle.descriptors.head? = some descriptor →
      store.isOpen descriptor = true) :
    memory.read later offset length = memory.read store offset length := by
  unfold read view
  cases listed : memory.handle.descriptors with
  | nil => rfl
  | cons descriptor rest =>
    have isOpen : store.isOpen descriptor = true := opened descriptor (by rw [listed]; rfl)
    obtain ⟨file, found⟩ := Option.isSome_iff_exists.mp isOpen
    have still := kept.open? found
    simp [FileStore.isOpen, found, still, MemoryView.read, MemoryView.file, bind, Except.bind, pure,
      Except.pure]

theorem isOpen_of_read {length : Nat} {data : List UInt8}
    (read : memory.read store offset length = .ok data)
    (head : memory.handle.descriptors.head? = some descriptor) : store.isOpen descriptor = true := by
  obtain ⟨other, file, first, opened, -⟩ := read_eq_ok_iff.mp read
  obtain rfl := Option.some.inj (first.symm.trans head)
  exact Option.isSome_iff_exists.mpr ⟨file, opened⟩

end Memory

end NeuralDevice
