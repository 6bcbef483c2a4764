import NeuralDevice.Proofs.Memory.Region

/-!
Where relocated arguments lie. All memories of the relocated request are backed, the bytes of an input are read
from its region of the new pool, and outputs that shared no byte before share none afterwards.
-/

namespace NeuralDevice

open Result

theorem NewPool.isBacked {store later : FileStore} {data : List UInt8} (pool : NewPool store later data) :
    pool.memory.IsBacked later := by
  refine ⟨fun descriptor member => ?_, pool.descriptor, pool.file, pool.head, pool.opened, ?_⟩
  · rw [pool.handle] at member
    obtain rfl := List.mem_singleton.mp member
    simp [FileStore.isOpen, pool.opened]
  · exact Nat.le_of_eq (pool.size.trans pool.fileSize.symm)

theorem NewPool.read_eq_ok {store later : FileStore} {data before part after : List UInt8}
    (pool : NewPool store later data) (whole : data = before ++ part ++ after) :
    pool.memory.read later (UInt32.ofNat before.length).toNat part.length = .ok part := by
  have length : data.length = before.length + part.length + after.length := by
    rw [whole, List.length_append, List.length_append]
  have small := pool.small
  have start : (UInt32.ofNat before.length).toNat = before.length :=
    UInt32.toNat_ofNat_of_lt' (by omega)
  rw [start, Memory.read_of_open pool.head pool.opened (by rw [pool.size]; omega)
    (by rw [pool.fileSize]; omega)
    (Nat.lt_of_lt_of_le (by omega) (show UInt32.size ≤ fileSizeLimit by decide))]
  exact congrArg Except.ok (File.slice_of_append (pool.contents.trans whole))

namespace AddedPools

variable {store later : FileStore} {count : Nat} {data : List UInt8} {isNeeded : Bool}
  {earlier pools : List MemoryPool}

theorem isBacked (added : AddedPools store later count data isNeeded pools) :
    ∀ memory, .memory memory ∈ pools → memory.IsBacked later := by
  cases added with
  | nothing => simp
  | one pool few =>
    intro memory member
    cases List.mem_singleton.mp member
    exact pool.isBacked

private theorem eq_singleton (added : AddedPools store later count data isNeeded pools)
    (needed : isNeeded = true) : count < UInt32.size ∧ ∃ memory, pools = [.memory memory] := by
  cases added with
  | nothing => exact absurd needed nofun
  | one pool few => exact ⟨few, pool.memory, rfl⟩

theorem length_eq (added : AddedPools store later count data isNeeded pools) :
    pools.length = isNeeded.toNat := by
  cases added <;> rfl

theorem exists_memory (added : AddedPools store later count data isNeeded pools) {pool : MemoryPool}
    (member : pool ∈ pools) : ∃ memory, pool = .memory memory ∧ memory.size.toNat < UInt32.size := by
  cases added with
  | nothing => simp at member
  | one new few =>
    obtain rfl := List.mem_singleton.mp member
    exact ⟨new.memory, rfl, by rw [new.size]; exact new.small⟩

/-- A part of the data is read from where it lies in the pool that is added. -/
theorem read_eq_ok (added : AddedPools store later earlier.length data isNeeded pools)
    (needed : isNeeded = true) {before part after : List UInt8} (whole : data = before ++ part ++ after)
    (further : List MemoryPool) :
    ∃ memory,
      (earlier ++ pools ++ further)[(UInt32.ofNat earlier.length).toNat]? = some (.memory memory) ∧
        memory.read later (UInt32.ofNat before.length).toNat part.length = .ok part := by
  cases added with
  | nothing => exact absurd needed nofun
  | one pool few =>
    have index : (UInt32.ofNat earlier.length).toNat = earlier.length :=
      UInt32.toNat_ofNat_of_lt' few
    exact ⟨pool.memory, by simp [index], pool.read_eq_ok whole⟩

/-- A placed argument covers its own range of a file that was not open before. -/
theorem covers_placeAt (added : AddedPools store later earlier.length data isNeeded pools)
    (needed : isNeeded = true) {argument : Argument} (inHost : argument.isInHost = true) {offset : Nat}
    (inside : offset + argument.hostLength ≤ data.length) {descriptor : Descriptor} {position : Nat}
    (covered : (argument.placeAt (UInt32.ofNat earlier.length) offset).Covers (earlier ++ pools)
      descriptor position) :
    store.open? descriptor = none ∧ offset ≤ position ∧ position < offset + argument.hostLength := by
  cases added with
  | nothing => exact absurd needed nofun
  | one pool few =>
    have index : (UInt32.ofNat earlier.length).toNat = earlier.length :=
      UInt32.toNat_ofNat_of_lt' few
    have start : (UInt32.ofNat offset).toNat = offset :=
      UInt32.toNat_ofNat_of_lt' (Nat.lt_of_le_of_lt (by omega) pool.small)
    simp only [Argument.Covers, Argument.placeAt, inHost, if_true, DataLocation.inPool,
      DataLocation.stop, index, start] at covered
    obtain ⟨-, memory, found, head, first, last⟩ := covered
    obtain rfl : pool.memory = memory := by simpa using found
    obtain rfl : pool.descriptor = descriptor := by simpa [pool.handle] using head
    exact ⟨pool.isNew, first, by simpa [Argument.hostLength, inHost] using last⟩

/-- A byte that placed arguments cover was covered before or belongs to the range of the new file. -/
theorem covers_of_mem_placeAll (added : AddedPools store later earlier.length data isNeeded pools)
    {arguments : List Argument} (needed : arguments.any Argument.isInHost = true → isNeeded = true)
    {offset : Nat} (inside : offset + Argument.totalLength arguments ≤ data.length) {placed : Argument}
    (member : placed ∈ Argument.placeAll (UInt32.ofNat earlier.length) offset arguments)
    {descriptor : Descriptor} {position : Nat}
    (covered : placed.Covers (earlier ++ pools) descriptor position) :
    (∃ argument ∈ arguments, argument.Covers (earlier ++ pools) descriptor position) ∨
      store.open? descriptor = none ∧ offset ≤ position := by
  obtain ⟨argument, given, before, after, split, rfl⟩ :=
    exists_of_mem_forall₂ (Argument.forall₂_placeAll _ offset arguments) member
  cases inHost : argument.isInHost with
  | false =>
    rw [Argument.placeAt_of_not_isInHost inHost] at covered
    exact .inl ⟨argument, given, covered⟩
  | true =>
    rw [split, Argument.totalLength_append, Argument.totalLength_cons] at inside
    obtain ⟨closed, first, -⟩ := added.covers_placeAt
      (needed (List.any_eq_true.mpr ⟨argument, given, inHost⟩)) inHost (by omega) covered
    exact .inr ⟨closed, by omega⟩

/-- Placing arguments keeps them apart: from each other by their ranges, from others by the file. -/
private theorem pairwise_placeAll (added : AddedPools store later earlier.length data isNeeded pools)
    {arguments : List Argument} (needed : arguments.any Argument.isInHost = true → isNeeded = true)
    {offset : Nat} (inside : offset + Argument.totalLength arguments ≤ data.length)
    (opened : ∀ argument ∈ arguments, ∀ descriptor position,
      argument.Covers (earlier ++ pools) descriptor position → store.open? descriptor ≠ none)
    (disjoint : arguments.Pairwise (Argument.IsDisjoint (earlier ++ pools))) :
    (Argument.placeAll (UInt32.ofNat earlier.length) offset arguments).Pairwise
      (Argument.IsDisjoint (earlier ++ pools)) := by
  induction arguments generalizing offset with
  | nil => exact .nil
  | cons argument rest ih =>
    obtain ⟨apart, disjoint⟩ := List.pairwise_cons.mp disjoint
    rw [List.forall_mem_cons] at opened
    rw [Argument.totalLength_cons] at inside
    have neededAfter : rest.any Argument.isInHost = true → isNeeded = true :=
      fun some => needed (by rw [List.any_cons, some, Bool.or_true])
    refine .cons ?_ (ih neededAfter (by omega) opened.2 disjoint)
    intro placed member descriptor position shared
    rcases shared with ⟨covered, also⟩
    have others := added.covers_of_mem_placeAll neededAfter (by omega) member also
    cases inHost : argument.isInHost with
    | false =>
      rw [Argument.placeAt_of_not_isInHost inHost] at covered
      rcases others with ⟨other, given, shared⟩ | ⟨closed, -⟩
      · exact apart other given descriptor position ⟨covered, shared⟩
      · exact opened.1 descriptor position covered closed
    | true =>
      obtain ⟨closed, -, last⟩ := added.covers_placeAt
        (needed (by rw [List.any_cons, inHost, Bool.true_or])) inHost (by omega) covered
      rcases others with ⟨other, given, shared⟩ | ⟨-, first⟩
      · exact opened.2 other given descriptor position shared closed
      · omega

end AddedPools

namespace Request.IsRelocated

variable {host : HostMemory} {store later : FileStore} {request relocated : Request}
  {inputPools outputPools : List MemoryPool}

theorem isBacked (moved : request.IsRelocated host store later relocated inputPools outputPools)
    (backed : ∀ memory, .memory memory ∈ request.pools → memory.IsBacked store) :
    ∀ memory, .memory memory ∈ relocated.pools → memory.IsBacked later := by
  intro memory member
  rw [moved.pools, List.mem_append, List.mem_append] at member
  rcases member with (given | new) | new
  · exact (moved.kept.keepsOutside fun _ _ => False).isBacked (backed memory given)
  · exact moved.inputPool.isBacked memory new
  · exact moved.outputPool.isBacked memory new

/-- The new pool of the inputs holds the bytes of each where it is placed. -/
theorem read_placeAt (moved : request.IsRelocated host store later relocated inputPools outputPools)
    {before after : List Argument} {input : Argument} (split : request.inputs = before ++ input :: after)
    (inHost : input.isInHost = true) :
    ∃ memory, relocated.pools[(UInt32.ofNat request.pools.length).toNat]? = some (.memory memory) ∧
      memory.read later (UInt32.ofNat (Argument.totalLength before)).toNat input.location.length.toNat =
        .ok (input.hostBytes host) := by
  have member : input ∈ request.inputs := by simp [split]
  have whole : Argument.allBytes host request.inputs =
      Argument.allBytes host before ++ input.hostBytes host ++ Argument.allBytes host after := by
    simp [split, Argument.allBytes]
  have start : (Argument.allBytes host before).length = Argument.totalLength before := by
    refine Argument.length_allBytes fun other earlier => moved.length other ?_
    rw [split]
    exact List.mem_append_left _ earlier
  have length : (input.hostBytes host).length = input.location.length.toNat := by
    rw [moved.length input member, Argument.hostLength, if_pos inHost]
  rw [moved.pools, ← start, ← length]
  exact moved.inputPool.read_eq_ok (List.any_eq_true.mpr ⟨input, member, inHost⟩) whole outputPools

theorem exists_placed (moved : request.IsRelocated host store later relocated inputPools outputPools)
    {placed : Argument} (member : placed ∈ relocated.inputs ++ relocated.outputs) :
    ∃ argument ∈ request.inputs ++ request.outputs, ∃ pool offset,
      placed = argument.placeAt pool offset := by
  rw [moved.inputs, moved.outputs, List.mem_append] at member
  rcases member with input | output
  · obtain ⟨argument, given, offset, same⟩ := Argument.exists_of_mem_placeAll input
    exact ⟨argument, List.mem_append_left _ given, _, offset, same⟩
  · obtain ⟨argument, given, offset, same⟩ := Argument.exists_of_mem_placeAll output
    exact ⟨argument, List.mem_append_right _ given, _, offset, same⟩

theorem pointer_eq_none (moved : request.IsRelocated host store later relocated inputPools outputPools)
    {placed : Argument} (member : placed ∈ relocated.inputs ++ relocated.outputs) :
    placed.location.pointer = none := by
  obtain ⟨argument, -, pool, offset, rfl⟩ := moved.exists_placed member
  exact argument.pointer_placeAt pool offset

theorem hasNoPointerData (moved : request.IsRelocated host store later relocated inputPools outputPools) :
    relocated.hasNoPointerData = true :=
  hasNoPointerData_iff.mpr fun _ member => moved.pointer_eq_none member

theorem outputs_placed (moved : request.IsRelocated host store later relocated inputPools outputPools) :
    List.Forall₂
      (fun given placed => ∃ offset,
        placed = given.placeAt (UInt32.ofNat (request.pools ++ inputPools).length) offset)
      request.outputs relocated.outputs := by
  rw [moved.outputs]
  refine (Argument.forall₂_placeAll _ 0 request.outputs).imp ?_
  intro given placed located
  rcases located with ⟨before, after, -, rfl⟩
  exact ⟨_, rfl⟩

theorem last_pool (moved : request.IsRelocated host store later relocated inputPools outputPools)
    {output : Argument} (member : output ∈ request.outputs) (inHost : output.isInHost = true) :
    ∃ memory, relocated.pools.getLast? = some (.memory memory) ∧
      relocated.pools[relocated.pools.length - 1]? = some (.memory memory) ∧
      (UInt32.ofNat (request.pools ++ inputPools).length).toNat = relocated.pools.length - 1 := by
  have needed : request.outputs.any Argument.isInHost = true :=
    List.any_eq_true.mpr ⟨output, member, inHost⟩
  obtain ⟨few, memory, rfl⟩ := moved.outputPool.eq_singleton needed
  refine ⟨memory, ?_, ?_, ?_⟩
  · simp [moved.pools]
  · simp [moved.pools]
  · rw [UInt32.toNat_ofNat_of_lt' few]
    simp [moved.pools]

section Outputs

variable (valid : ∀ output ∈ request.outputs, output.IsValid request.pools)
  (backed : ∀ memory, .memory memory ∈ request.pools → memory.IsBacked store)

include valid in
theorem covers_iff (moved : request.IsRelocated host store later relocated inputPools outputPools)
    {output : Argument} (member : output ∈ request.outputs) {descriptor : Descriptor} {position : Nat} :
    output.Covers relocated.pools descriptor position ↔
      output.Covers request.pools descriptor position := by
  rw [moved.pools, List.append_assoc]
  exact (valid output member).covers_append_iff _

include valid in
/-- In files that were open, relocated outputs cover what the given ones do. -/
theorem covers_of_placed
    (moved : request.IsRelocated host store later relocated inputPools outputPools)
    {placed : Argument} (member : placed ∈ relocated.outputs) {descriptor : Descriptor} {position : Nat}
    (covered : placed.Covers relocated.pools descriptor position)
    (opened : store.open? descriptor ≠ none) :
    ∃ output ∈ request.outputs, output.Covers request.pools descriptor position := by
  rw [moved.outputs] at member
  rw [moved.pools] at covered
  have inside : 0 + Argument.totalLength request.outputs ≤
      (List.replicate (Argument.totalLength request.outputs) (0 : UInt8)).length := by simp
  rcases moved.outputPool.covers_of_mem_placeAll id inside member covered with
    ⟨output, given, shared⟩ | ⟨closed, -⟩
  · rw [← moved.pools] at shared
    exact ⟨output, given, (moved.covers_iff valid given).mp shared⟩
  · exact absurd closed opened

include valid backed in
/-- Outputs that share no byte of shared memory share none once they are relocated. -/
theorem disjoint_outputs
    (moved : request.IsRelocated host store later relocated inputPools outputPools)
    (disjoint : request.outputs.Pairwise (Argument.IsDisjoint request.pools)) :
    relocated.outputs.Pairwise (Argument.IsDisjoint relocated.pools) := by
  rw [moved.outputs, moved.pools]
  refine moved.outputPool.pairwise_placeAll id (by simp) ?_ ?_
  · intro output member descriptor position covered
    rw [← moved.pools] at covered
    exact ((moved.covers_iff valid member).mp covered).open?_ne_none backed
  · refine disjoint.imp_of_mem fun {first second} given other apart descriptor position shared => ?_
    rw [← moved.pools, moved.covers_iff valid given, moved.covers_iff valid other] at shared
    exact apart descriptor position shared

end Outputs

end Request.IsRelocated

end NeuralDevice
