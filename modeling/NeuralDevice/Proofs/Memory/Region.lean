import NeuralDevice.Proofs.Conversion.Message
import NeuralDevice.Proofs.Validation.Request

/-!
Regions of shared memory that arguments lie in. A result written into a valid region is read back from it and
changes no other byte, so results written into disjoint regions are all found afterwards.
-/

namespace NeuralDevice

open Result

/-- The memory's descriptors are open, and the file behind the first is as long as the memory. -/
structure Memory.IsBacked (store : FileStore) (memory : Memory) : Prop where
  isOpen : memory.handle.IsOpen store
  long : ∃ descriptor file, memory.handle.descriptors.head? = some descriptor ∧
    store.open? descriptor = some file ∧ memory.size.toNat ≤ file.size

/-- Whether the argument lies at a byte of a file. -/
def Argument.Covers (pools : List MemoryPool) (argument : Argument) (descriptor : Descriptor)
    (position : Nat) : Prop :=
  argument.lifetime = .pool ∧
    ∃ memory, pools[argument.location.poolIndex.toNat]? = some (.memory memory) ∧
      memory.handle.descriptors.head? = some descriptor ∧
      argument.location.offset.toNat ≤ position ∧ position < argument.location.stop

/-- No byte of shared memory belongs to both arguments. -/
def Argument.IsDisjoint (pools : List MemoryPool) (first second : Argument) : Prop :=
  ∀ descriptor position, ¬(first.Covers pools descriptor position ∧
    second.Covers pools descriptor position)

/-- The files keep their sizes, and all bytes but the covered ones. -/
def FileStore.KeepsOutside (covered : Descriptor → Nat → Prop) (store later : FileStore) : Prop :=
  ∀ descriptor file, store.open? descriptor = some file →
    ∃ changed, later.open? descriptor = some changed ∧ changed.size = file.size ∧
      ∀ position, ¬covered descriptor position → changed.byte position = file.byte position

namespace FileStore.KeepsOutside

variable {covered wider : Descriptor → Nat → Prop} {first second third : FileStore}

theorem refl (store : FileStore) : KeepsOutside covered store store :=
  fun _ file opened => ⟨file, opened, rfl, fun _ _ => rfl⟩

theorem trans (before : KeepsOutside covered first second) (after : KeepsOutside covered second third) :
    KeepsOutside covered first third := by
  intro descriptor file opened
  obtain ⟨middle, there, size, same⟩ := before descriptor file opened
  obtain ⟨last, there', size', same'⟩ := after descriptor middle there
  exact ⟨last, there', size'.trans size, fun position outside =>
    (same' position outside).trans (same position outside)⟩

theorem weaken (kept : KeepsOutside covered first second)
    (wide : ∀ descriptor position, covered descriptor position → wider descriptor position) :
    KeepsOutside wider first second := by
  intro descriptor file opened
  obtain ⟨changed, there, size, same⟩ := kept descriptor file opened
  exact ⟨changed, there, size, fun position outside =>
    same position fun inside => outside (wide descriptor position inside)⟩

theorem isBacked (kept : KeepsOutside covered first second) {memory : Memory}
    (backed : memory.IsBacked first) : memory.IsBacked second := by
  obtain ⟨isOpen, descriptor, file, head, opened, long⟩ := backed
  refine ⟨fun other member => ?_, ?_⟩
  · obtain ⟨old, found⟩ := Option.isSome_iff_exists.mp (isOpen other member)
    obtain ⟨changed, there, _⟩ := kept other old found
    simp [FileStore.isOpen, there]
  · obtain ⟨changed, there, size, _⟩ := kept descriptor file opened
    exact ⟨descriptor, changed, head, there, by rw [size]; exact long⟩

end FileStore.KeepsOutside

theorem FileStore.IsKept.keepsOutside {store later : FileStore} (kept : store.IsKept later)
    (covered : Descriptor → Nat → Prop) : KeepsOutside covered store later :=
  fun _ file opened => ⟨file, kept.open? opened, rfl, fun _ _ => rfl⟩

private theorem File.slice_congr {first second : File} {offset length : Nat}
    (same : ∀ position, offset ≤ position → position < offset + length →
      first.byte position = second.byte position) :
    first.slice offset length = second.slice offset length := by
  apply List.ext_getElem
  · simp
  · intro index inside _
    rw [length_slice] at inside
    rw [getElem_slice, getElem_slice, same _ (by omega) (by omega)]

theorem File.slice_of_append {file : File} {total : Nat} {before part after : List UInt8}
    (whole : file.slice 0 total = before ++ part ++ after) :
    file.slice before.length part.length = part := by
  have count := congrArg List.length whole
  simp only [length_slice, List.length_append] at count
  apply List.ext_getElem
  · simp
  · intro index _ inside
    have within : before.length + index < (file.slice 0 total).length := by
      rw [length_slice]
      omega
    have byte := getElem_slice file 0 total (before.length + index) within
    rw [Nat.zero_add] at byte
    rw [getElem_slice, ← byte]
    simp only [whole, List.append_assoc]
    rw [List.getElem_append_right (by omega), List.getElem_append_left (by omega)]
    simp

namespace Argument

variable {pools : List MemoryPool} {store : FileStore} {argument : Argument}

theorem Covers.open?_ne_none {descriptor : Descriptor} {position : Nat}
    (covered : argument.Covers pools descriptor position)
    (backed : ∀ memory, .memory memory ∈ pools → memory.IsBacked store) :
    store.open? descriptor ≠ none := by
  obtain ⟨-, memory, found, head, -⟩ := covered
  obtain ⟨-, other, file, first, opened, -⟩ := backed memory (List.mem_of_getElem? found)
  obtain rfl := Option.some.inj (first.symm.trans head)
  simp [opened]

theorem IsValid.getElem?_append (valid : argument.IsValid pools) (alive : argument.lifetime = .pool)
    (added : List MemoryPool) :
    (pools ++ added)[argument.location.poolIndex.toNat]? =
      pools[argument.location.poolIndex.toNat]? := by
  obtain ⟨-, pool, found⟩ := valid.exists_pool alive
  obtain ⟨inside, -⟩ := List.getElem?_eq_some_iff.mp found
  exact List.getElem?_append_left inside

theorem IsValid.covers_append_iff (valid : argument.IsValid pools) (added : List MemoryPool)
    {descriptor : Descriptor} {position : Nat} :
    argument.Covers (pools ++ added) descriptor position ↔
      argument.Covers pools descriptor position := by
  unfold Covers
  refine and_congr_right fun alive => ?_
  rw [valid.getElem?_append alive]

theorem IsValid.read_eq_ok (valid : argument.IsValid pools) (alive : argument.lifetime = .pool)
    {memory : Memory} (found : pools[argument.location.poolIndex.toNat]? = some (.memory memory))
    {descriptor : Descriptor} {file : File}
    (head : memory.handle.descriptors.head? = some descriptor)
    (opened : store.open? descriptor = some file) (long : memory.size.toNat ≤ file.size) :
    memory.read store argument.location.offset.toNat argument.location.length.toNat =
      .ok (file.slice argument.location.offset.toNat argument.location.length.toNat) := by
  have inside := valid.stop_le alive found
  unfold DataLocation.stop at inside
  have offset := argument.location.offset.toNat_lt
  have length := argument.location.length.toNat_lt
  exact Memory.read_of_open head opened inside (by omega) (by unfold fileSizeLimit; omega)

end Argument

/-- Puts a result where its argument lies in shared memory, if it lies there. -/
def storeResult (pools : List MemoryPool) (store : FileStore) (result : Argument × List UInt8) :
    Result FileStore :=
  match result.1.lifetime, pools[result.1.location.poolIndex.toNat]? with
  | .pool, some (.memory memory) => memory.write store result.1.location.offset.toNat result.2
  | _, _ => pure store

/-- Whether the argument's region holds the data. -/
def Argument.Holds (pools : List MemoryPool) (store : FileStore) (argument : Argument)
    (data : List UInt8) : Prop :=
  ∀ memory, argument.lifetime = .pool →
    pools[argument.location.poolIndex.toNat]? = some (.memory memory) →
    memory.read store argument.location.offset.toNat argument.location.length.toNat = .ok data

/-- Writing inside a file keeps its size and all bytes outside the range. -/
private theorem FileStore.keepsOutside_set {store : FileStore} {descriptor : Descriptor} {file : File}
    {offset : Nat} {data : List UInt8} (opened : store.open? descriptor = some file)
    (inside : offset + data.length ≤ file.size) {covered : Descriptor → Nat → Prop}
    (wide : ∀ position, offset ≤ position → position < offset + data.length →
      covered descriptor position) :
    KeepsOutside covered store (store.set descriptor (file.overwrite offset data)) := by
  intro other old found
  by_cases same : other = descriptor
  · subst same
    obtain rfl : file = old := Option.some.inj (opened.symm.trans found)
    refine ⟨_, open?_set_same opened _, ?_, fun position outside => ?_⟩
    · rw [File.size_overwrite, File.grownSize]
      split <;> omega
    · apply File.byte_overwrite_outside
      by_contra within
      exact outside (wide position (by omega) (by omega))
  · exact ⟨old, (open?_set_other opened same _).trans found, rfl, fun _ _ => rfl⟩

private theorem storeResult_eq_ok {pools : List MemoryPool} {store : FileStore} {argument : Argument}
    {data : List UInt8} (valid : argument.IsValid pools)
    (backed : ∀ memory, .memory memory ∈ pools → memory.IsBacked store)
    (length : data.length = argument.location.length.toNat) :
    ∃ later, storeResult pools store (argument, data) = .ok later ∧
      FileStore.KeepsOutside (argument.Covers pools) store later ∧
      argument.Holds pools later data := by
  by_cases shared : ∃ memory, argument.lifetime = .pool ∧
      pools[argument.location.poolIndex.toNat]? = some (.memory memory)
  · obtain ⟨memory, alive, found⟩ := shared
    obtain ⟨-, descriptor, file, head, opened, long⟩ := backed memory (List.mem_of_getElem? found)
    have inside := valid.stop_le alive found
    unfold DataLocation.stop at inside
    have offsetBound := argument.location.offset.toNat_lt
    have lengthBound := argument.location.length.toNat_lt
    have small : argument.location.offset.toNat + data.length < fileSizeLimit := by
      unfold fileSizeLimit
      omega
    have written := Memory.write_of_open head opened (by omega) small
    refine ⟨_, by simpa only [storeResult, alive, found] using written, ?_, ?_⟩
    · refine FileStore.keepsOutside_set opened (by omega) fun position first last => ?_
      exact ⟨alive, memory, found, head, first, by unfold DataLocation.stop; omega⟩
    · intro other _ present
      obtain rfl : memory = other := by simpa using found.symm.trans present
      rw [← length, Memory.read_of_open head (FileStore.open?_set_same opened _) (by omega) ?_ small,
        File.slice_overwrite]
      rw [File.size_overwrite, File.grownSize]
      split <;> omega
  · refine ⟨store, ?_, .refl store, fun memory alive found => absurd ⟨memory, alive, found⟩ shared⟩
    unfold storeResult
    split
    · rename_i memory alive found
      exact absurd ⟨memory, alive, found⟩ shared
    · rfl

theorem Argument.Holds.keep {pools : List MemoryPool} {store later : FileStore} {argument : Argument}
    {data : List UInt8} {covered : Descriptor → Nat → Prop} (held : argument.Holds pools store data)
    (valid : argument.IsValid pools)
    (backed : ∀ memory, .memory memory ∈ pools → memory.IsBacked store)
    (kept : FileStore.KeepsOutside covered store later)
    (apart : ∀ descriptor position, argument.Covers pools descriptor position →
      ¬covered descriptor position) :
    argument.Holds pools later data := by
  intro memory alive found
  obtain ⟨-, descriptor, file, head, opened, long⟩ := backed memory (List.mem_of_getElem? found)
  obtain ⟨changed, there, size, same⟩ := kept descriptor file opened
  rw [← held memory alive found, valid.read_eq_ok alive found head there (by omega),
    valid.read_eq_ok alive found head opened long]
  refine congrArg Except.ok (File.slice_congr fun position first last => ?_)
  refine same position (apart descriptor position ?_)
  exact ⟨alive, memory, found, head, first, last⟩

theorem storeResults_eq_ok {pools : List MemoryPool} {store : FileStore}
    {results : List (Argument × List UInt8)} (valid : ∀ result ∈ results, result.1.IsValid pools)
    (backed : ∀ memory, .memory memory ∈ pools → memory.IsBacked store)
    (length : ∀ result ∈ results, result.2.length = result.1.location.length.toNat)
    (disjoint : results.Pairwise fun first second => first.1.IsDisjoint pools second.1) :
    ∃ later, results.foldlM (storeResult pools) store = .ok later ∧
      FileStore.KeepsOutside (fun descriptor position => ∃ result ∈ results,
        result.1.Covers pools descriptor position) store later ∧
      ∀ result ∈ results, result.1.Holds pools later result.2 := by
  induction results generalizing store with
  | nil => exact ⟨store, rfl, .refl store, by simp⟩
  | cons result rest ih =>
    rw [List.forall_mem_cons] at valid length
    obtain ⟨apart, disjoint⟩ := List.pairwise_cons.mp disjoint
    obtain ⟨middle, stored, keptFirst, held⟩ := storeResult_eq_ok valid.1 backed length.1
    have backedAfter : ∀ memory, .memory memory ∈ pools → memory.IsBacked middle :=
      fun memory member => keptFirst.isBacked (backed memory member)
    obtain ⟨later, storedRest, keptRest, heldRest⟩ := ih valid.2 backedAfter length.2 disjoint
    refine ⟨later, ?_, ?_, List.forall_mem_cons.mpr ⟨?_, heldRest⟩⟩
    · rw [List.foldlM_cons, stored]
      exact storedRest
    · refine (keptFirst.weaken ?_).trans (keptRest.weaken ?_)
      · exact fun _ _ covered => ⟨result, List.mem_cons_self, covered⟩
      · intro descriptor position inside
        rcases inside with ⟨other, member, covered⟩
        exact ⟨other, List.mem_cons_of_mem _ member, covered⟩
    · refine held.keep valid.1 backedAfter keptRest ?_
      intro descriptor position covered inside
      rcases inside with ⟨other, member, also⟩
      exact apart other member descriptor position ⟨covered, also⟩

end NeuralDevice
