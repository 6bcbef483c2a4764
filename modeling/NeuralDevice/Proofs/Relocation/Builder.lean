import NeuralDevice.Proofs.Memory.Store
import NeuralDevice.Relocation.Request

/-!
The pools that relocation adds. A new pool lies in a file that was not open before, and it is as long as what was
appended to its builder.
-/

namespace NeuralDevice

open Result

theorem nextPoolIndex_eq_ok_iff {count : Nat} {index : UInt32} :
    nextPoolIndex count = .ok index ↔ count < UInt32.size ∧ UInt32.ofNat count = index := by
  rw [nextPoolIndex, demand_eq_ok_iff, pure_eq_ok_iff]

/-- A shared memory that was opened after all files of `store` and holds `data`. -/
structure NewPool (store later : FileStore) (data : List UInt8) where
  memory : Memory
  descriptor : Descriptor
  file : File
  handle : memory.handle = ⟨[descriptor], []⟩
  size : memory.size.toNat = data.length
  isNew : store.open? descriptor = none
  opened : later.open? descriptor = some file
  fileSize : file.size = data.length
  contents : file.slice 0 data.length = data
  small : data.length < UInt32.size

theorem NewPool.head {store later : FileStore} {data : List UInt8} (pool : NewPool store later data) :
    pool.memory.handle.descriptors.head? = some pool.descriptor := by
  rw [pool.handle]
  rfl

/-- A new pool follows `count` others if one is needed. -/
inductive AddedPools (store later : FileStore) (count : Nat) (data : List UInt8) :
    Bool → List MemoryPool → Prop
  | nothing : AddedPools store later count data false []
  | one (pool : NewPool store later data) (counted : count < UInt32.size) :
    AddedPools store later count data true [.memory pool.memory]

/-- Opening further files keeps the pool, which is newer than all files opened earlier still. -/
def NewPool.widen {first store later last : FileStore} {data : List UInt8}
    (pool : NewPool store later data) (before : first.IsKept store) (after : later.IsKept last) :
    NewPool first last data where
  memory := pool.memory
  descriptor := pool.descriptor
  file := pool.file
  handle := pool.handle
  size := pool.size
  isNew := before.open?_eq_none pool.isNew
  opened := after.open? pool.opened
  fileSize := pool.fileSize
  contents := pool.contents
  small := pool.small

theorem AddedPools.widen {first store later last : FileStore} {count : Nat} {data : List UInt8}
    {isNeeded : Bool} {pools : List MemoryPool} (added : AddedPools store later count data isNeeded pools)
    (before : first.IsKept store) (after : later.IsKept last) :
    AddedPools first last count data isNeeded pools := by
  cases added with
  | nothing => exact .nothing
  | one pool counted => exact .one (pool.widen before after) counted

theorem NewPool.exists_of_create {store later : FileStore} {count : Nat} {memory : Memory}
    (small : count < UInt32.size)
    (created : Memory.create store (UInt64.ofNat count) = .ok (memory, later)) :
    store.IsKept later ∧
      ∃ pool : NewPool store later (List.replicate count 0), pool.memory = memory := by
  obtain ⟨_, room, rfl, rfl⟩ := Memory.create_eq_ok_iff.mp created
  have size : (UInt64.ofNat count).toNat = count := by
    rw [UInt64.toNat_ofNat', Nat.mod_eq_of_lt]
    exact Nat.lt_of_lt_of_le small (by decide)
  refine ⟨store.isKept_push _, ⟨_, store.next, .zeros count, rfl, ?_, ?_, ?_, ?_, ?_, ?_⟩, rfl⟩
  · simpa using size
  · exact FileStore.open?_next room
  · rw [size]
    exact FileStore.open?_push_next room _
  · simp [File.zeros]
  · simp [File.slice, File.zeros, List.map_const']
  · simpa using small

theorem NewPool.exists_of_write {store later last : FileStore} {data : List UInt8}
    (pool : NewPool store later (List.replicate data.length 0))
    (written : pool.memory.write later 0 data = .ok last) (kept : store.IsKept later) :
    store.IsKept last ∧ ∃ filled : NewPool store last data, filled.memory = pool.memory := by
  have length : (List.replicate data.length (0 : UInt8)).length = data.length := by simp
  have small : data.length < UInt32.size := length ▸ pool.small
  rw [Memory.write_of_open pool.head pool.opened (by rw [pool.size]; omega)
    (Nat.lt_of_lt_of_le (by omega) (show UInt32.size ≤ fileSizeLimit by decide))] at written
  cases written
  refine ⟨kept.set_new pool.isNew pool.opened _, ⟨pool.memory, pool.descriptor,
    pool.file.overwrite 0 data, pool.handle, by rw [pool.size, length], pool.isNew,
    FileStore.open?_set_same pool.opened _, ?_, pool.file.slice_overwrite 0 data, small⟩, rfl⟩
  have grown : pool.file.size = data.length := pool.fileSize.trans length
  rw [File.size_overwrite, File.grownSize, grown]
  split <;> omega

namespace ConstantBuilder

theorem append_eq_ok {builder later : ConstantBuilder} {region : List UInt8} {location : DataLocation}
    (done : builder.append region = .ok (location, later)) :
    location = .inPool builder.poolIndex (UInt32.ofNat builder.data.length) (UInt32.ofNat region.length) ∧
      later.poolIndex = builder.poolIndex ∧ later.data = builder.data ++ region ∧
      later.regions = builder.regions + 1 := by
  unfold append at done
  rw [refuse_eq_ok_iff] at done
  obtain ⟨-, placed⟩ := done
  split at placed
  · obtain ⟨rfl, rfl⟩ := Prod.mk.inj (pure_eq_ok_iff.mp placed)
    exact ⟨rfl, rfl, rfl, rfl⟩
  · exact absurd placed throw_ne_ok

theorem finish_eq_ok {builder : ConstantBuilder} {store later : FileStore} {memory : Memory}
    (done : builder.finish store = .ok (memory, later)) :
    store.IsKept later ∧ ∃ pool : NewPool store later builder.data, pool.memory = memory := by
  simp only [finish, bind_eq_ok_iff, pure_eq_ok_iff] at done
  obtain ⟨⟨created, middle⟩, made, written, filled, same⟩ := done
  obtain ⟨rfl, rfl⟩ := Prod.mk.inj same
  obtain ⟨kept, pool, rfl⟩ := NewPool.exists_of_create builder.length_data made
  exact pool.exists_of_write filled kept

theorem appendTo_eq_ok {builder : ConstantBuilder} {pools allPools : List MemoryPool}
    {store later : FileStore} (counted : pools.length < UInt32.size)
    (done : builder.appendTo pools store = .ok (allPools, later)) :
    store.IsKept later ∧ ∃ added, allPools = pools ++ added ∧
      AddedPools store later pools.length builder.data (!builder.isEmpty) added := by
  unfold appendTo at done
  cases empty : builder.isEmpty with
  | true =>
    simp only [empty, if_true, pure_eq_ok_iff] at done
    obtain ⟨rfl, rfl⟩ := Prod.mk.inj done
    exact ⟨.refl _, [], by simp, .nothing⟩
  | false =>
    simp only [empty, Bool.false_eq_true, if_false, bind_eq_ok_iff, pure_eq_ok_iff] at done
    obtain ⟨⟨memory, last⟩, finished, listed⟩ := done
    obtain ⟨rfl, rfl⟩ := Prod.mk.inj listed
    obtain ⟨kept, pool, rfl⟩ := finish_eq_ok finished
    exact ⟨kept, _, rfl, .one pool counted⟩

end ConstantBuilder

namespace OutputBuilder

/-- Reserved regions are appended as a pool of zeros unless there are none. -/
theorem appendTo_eq_ok {builder : OutputBuilder} {pools allPools : List MemoryPool}
    {store later : FileStore} (counted : pools.length < UInt32.size)
    (done : builder.appendTo pools store = .ok (allPools, later)) :
    store.IsKept later ∧ ∃ added, allPools = pools ++ added ∧
      AddedPools store later pools.length (List.replicate builder.size.toNat 0) (!builder.isEmpty)
        added := by
  unfold appendTo at done
  cases empty : builder.isEmpty with
  | true =>
    simp only [empty, if_true, pure_eq_ok_iff] at done
    obtain ⟨rfl, rfl⟩ := Prod.mk.inj done
    exact ⟨.refl _, [], by simp, .nothing⟩
  | false =>
    simp only [empty, Bool.false_eq_true, if_false, bind_eq_ok_iff, pure_eq_ok_iff, finish] at done
    obtain ⟨⟨memory, last⟩, made, listed⟩ := done
    obtain ⟨rfl, rfl⟩ := Prod.mk.inj listed
    have sized : builder.size.toUInt64 = UInt64.ofNat builder.size.toNat := by
      apply UInt64.toNat_inj.mp
      simp
    rw [sized] at made
    obtain ⟨kept, pool, rfl⟩ := NewPool.exists_of_create builder.size.toNat_lt made
    exact ⟨kept, _, rfl, .one pool counted⟩

end OutputBuilder

end NeuralDevice
