import NeuralDevice.Proofs.Relocation.Region

/-!
How the new pools are laid out. The regions of relocated arguments follow one another in the order of the
arguments, from the start of the pool to its end, and no two of them share a byte.
-/

namespace NeuralDevice

open Result

namespace Argument

/-! Offsets are the lengths of the arguments before. -/

theorem totalLength_take_succ {arguments : List Argument} {place : Nat} {argument : Argument}
    (found : arguments[place]? = some argument) :
    totalLength (arguments.take (place + 1)) = totalLength (arguments.take place) + argument.hostLength := by
  rw [List.take_add_one, found, totalLength_append]
  simp [totalLength]

theorem totalLength_take_le (arguments : List Argument) (place : Nat) :
    totalLength (arguments.take place) ≤ totalLength arguments := by
  have whole := totalLength_append (arguments.take place) (arguments.drop place)
  rw [List.take_append_drop] at whole
  omega

private theorem totalLength_take_mono (arguments : List Argument) {first second : Nat} (ordered : first ≤ second) :
    totalLength (arguments.take first) ≤ totalLength (arguments.take second) := by
  have shorter := totalLength_take_le (arguments.take second) first
  rwa [List.take_take, Nat.min_eq_left ordered] at shorter

private theorem take_add_hostLength_le {arguments : List Argument} {place : Nat} {argument : Argument}
    (found : arguments[place]? = some argument) :
    totalLength (arguments.take place) + argument.hostLength ≤ totalLength arguments := by
  rw [← totalLength_take_succ found]
  exact totalLength_take_le arguments _

private theorem exists_of_lt_totalLength {arguments : List Argument} {position : Nat}
    (inside : position < totalLength arguments) :
    ∃ place argument, arguments[place]? = some argument ∧
      totalLength (arguments.take place) ≤ position ∧
      position < totalLength (arguments.take place) + argument.hostLength := by
  induction arguments generalizing position with
  | nil => exact absurd inside (Nat.not_lt_zero _)
  | cons argument rest ih =>
    rw [totalLength_cons] at inside
    by_cases first : position < argument.hostLength
    · exact ⟨0, argument, rfl, Nat.zero_le _, by simpa [totalLength] using first⟩
    · have further : position - argument.hostLength < totalLength rest := by omega
      obtain ⟨place, other, found, start, stop⟩ := ih further
      refine ⟨place + 1, other, found, ?_⟩
      rw [List.take_succ_cons, totalLength_cons]
      omega

theorem getElem?_placeAll (pool : UInt32) (offset : Nat) (arguments : List Argument) (place : Nat) :
    (placeAll pool offset arguments)[place]? =
      arguments[place]?.map fun argument =>
        argument.placeAt pool (offset + totalLength (arguments.take place)) := by
  induction arguments generalizing offset place with
  | nil => rfl
  | cons argument rest ih =>
    cases place with
    | zero => rfl
    | succ place =>
      rw [placeAll, List.getElem?_cons_succ, List.getElem?_cons_succ, ih, List.take_succ_cons,
        totalLength_cons, Nat.add_assoc]

/-- An argument that was moved into a region of a pool and is the same otherwise. -/
structure IsMovedTo (index offset : Nat) (argument placed : Argument) : Prop where
  lifetime : placed.lifetime = .pool
  pointer : placed.location.pointer = none
  poolIndex : placed.location.poolIndex.toNat = index
  offset : placed.location.offset.toNat = offset
  length : placed.location.length = argument.location.length
  dimensions : placed.dimensions = argument.dimensions

private theorem isMovedTo_placeAt {index offset : Nat} {argument : Argument} (inHost : argument.isInHost = true)
    (few : index < UInt32.size) (small : offset < UInt32.size) :
    argument.IsMovedTo index offset (argument.placeAt (UInt32.ofNat index) offset) := by
  unfold placeAt
  rw [if_pos inHost]
  exact ⟨rfl, rfl, UInt32.toNat_ofNat_of_lt' few, UInt32.toNat_ofNat_of_lt' small, rfl, rfl⟩

theorem IsMovedTo.stop_eq {index offset : Nat} {argument placed : Argument}
    (moved : argument.IsMovedTo index offset placed) (inHost : argument.isInHost = true) :
    placed.location.stop = offset + argument.hostLength := by
  rw [DataLocation.stop, moved.offset, moved.length, hostLength, if_pos inHost]

/-- How arguments of one kind are relocated into a pool of their own, which is there only if needed. -/
structure AreLaidOut (index : Nat) (pools : List MemoryPool) (given placed : List Argument) : Prop where
  count : placed.length = given.length
  kept : ∀ (place : Nat) (argument : Argument), given[place]? = some argument →
    argument.isInHost = false → placed[place]? = some argument
  moved : ∀ (place : Nat) (argument : Argument), given[place]? = some argument →
    argument.isInHost = true → ∃ other, placed[place]? = some other ∧
      argument.IsMovedTo index (totalLength (given.take place)) other
  needed : given.any isInHost = true →
    ∃ memory, pools = [.memory memory] ∧ memory.size.toNat = totalLength given
  unneeded : given.any isInHost = false → pools = []

/-- The region of an argument that was moved. -/
def IsRegion (given placed : List Argument) (place : Nat) (location : DataLocation) : Prop :=
  ∃ argument other, given[place]? = some argument ∧ argument.isInHost = true ∧
    placed[place]? = some other ∧ other.location = location

/-- The regions of arguments that were moved do not overlap, and together they are as long as the arguments. -/
structure Tile (given placed : List Argument) : Prop where
  disjoint : ∀ (first second : Nat) (location other : DataLocation), first < second →
    IsRegion given placed first location → IsRegion given placed second other →
      location.stop ≤ other.offset.toNat
  covered : ∀ position, position < totalLength given ↔ ∃ place location,
    IsRegion given placed place location ∧ location.offset.toNat ≤ position ∧ position < location.stop

namespace AreLaidOut

variable {index : Nat} {pools : List MemoryPool} {given placed : List Argument}

theorem exists_of_isRegion (laid : AreLaidOut index pools given placed) {place : Nat} {location : DataLocation}
    (region : IsRegion given placed place location) :
    ∃ argument, given[place]? = some argument ∧
      location.offset.toNat = totalLength (given.take place) ∧
      location.stop = totalLength (given.take (place + 1)) := by
  obtain ⟨argument, other, found, inHost, listed, rfl⟩ := region
  obtain ⟨same, there, moved⟩ := laid.moved place argument found inHost
  obtain rfl := Option.some.inj (listed.symm.trans there)
  exact ⟨argument, found, moved.offset, by rw [moved.stop_eq inHost, totalLength_take_succ found]⟩

theorem tile (laid : AreLaidOut index pools given placed) : Tile given placed := by
  refine ⟨fun first second location other ordered one two => ?_,
    fun position => ⟨fun inside => ?_, fun held => ?_⟩⟩
  · obtain ⟨_, _, _, stop⟩ := laid.exists_of_isRegion one
    obtain ⟨_, _, start, _⟩ := laid.exists_of_isRegion two
    rw [stop, start]
    exact totalLength_take_mono given ordered
  · obtain ⟨place, argument, found, start, stop⟩ := exists_of_lt_totalLength inside
    have inHost : argument.isInHost = true := by
      by_contra outside
      rw [hostLength, if_neg outside] at stop
      omega
    obtain ⟨other, listed, moved⟩ := laid.moved place argument found inHost
    refine ⟨place, other.location, ⟨argument, other, found, inHost, listed, rfl⟩, ?_, ?_⟩
    · rw [moved.offset]
      exact start
    · rw [moved.stop_eq inHost]
      exact stop
  · obtain ⟨place, location, region, -, before⟩ := held
    obtain ⟨_, _, _, stop⟩ := laid.exists_of_isRegion region
    exact Nat.lt_of_lt_of_le before (stop ▸ totalLength_take_le given _)

end AreLaidOut

end Argument

theorem AddedPools.areLaidOut {store later : FileStore} {count : Nat} {data : List UInt8}
    {given : List Argument} {pools : List MemoryPool}
    (added : AddedPools store later count data (given.any Argument.isInHost) pools)
    (total : data.length = Argument.totalLength given) :
    Argument.AreLaidOut count pools given (Argument.placeAll (UInt32.ofNat count) 0 given) := by
  have placed (place : Nat) (argument : Argument) (found : given[place]? = some argument) :
      (Argument.placeAll (UInt32.ofNat count) 0 given)[place]? =
        some (argument.placeAt (UInt32.ofNat count) (Argument.totalLength (given.take place))) := by
    rw [Argument.getElem?_placeAll, found, Nat.zero_add]
    rfl
  constructor
  · exact (Argument.forall₂_placeAll _ 0 given).length_eq.symm
  · intro place argument found bare
    rw [placed place argument found, Argument.placeAt_of_not_isInHost bare]
  · intro place argument found inHost
    refine ⟨_, placed place argument found, ?_⟩
    have needed : given.any Argument.isInHost = true :=
      List.any_eq_true.mpr ⟨argument, List.mem_of_getElem? found, inHost⟩
    have ends := Argument.take_add_hostLength_le found
    generalize given.any Argument.isInHost = isNeeded at added needed
    cases added with
    | nothing => cases needed
    | one pool few =>
      have small := pool.small
      exact Argument.isMovedTo_placeAt inHost few (by omega)
  · intro needed
    generalize given.any Argument.isInHost = isNeeded at added needed
    cases added with
    | nothing => cases needed
    | one pool few => exact ⟨pool.memory, rfl, pool.size.trans total⟩
  · intro unneeded
    generalize given.any Argument.isInHost = isNeeded at added unneeded
    cases added with
    | nothing => rfl
    | one pool few => cases unneeded

namespace Request

variable {host : HostMemory} {store later : FileStore} {request relocated : Request}

private theorem IsRelocated.read_input {inputPools outputPools : List MemoryPool}
    (moved : request.IsRelocated host store later relocated inputPools outputPools) {place : Nat}
    {input : Argument} (found : request.inputs[place]? = some input) (inHost : input.isInHost = true) :
    ∃ other memory, relocated.inputs[place]? = some other ∧
      relocated.pools[other.location.poolIndex.toNat]? = some (.memory memory) ∧
      memory.read later other.location.offset.toNat other.location.length.toNat =
        .ok (input.hostBytes host) := by
  have split : request.inputs = request.inputs.take place ++ input :: request.inputs.drop (place + 1) := by
    obtain ⟨inside, rfl⟩ := List.getElem?_eq_some_iff.mp found
    rw [← List.drop_eq_getElem_cons inside, List.take_append_drop]
  obtain ⟨memory, pool, read⟩ := moved.read_placeAt split inHost
  refine ⟨input.placeAt (UInt32.ofNat request.pools.length)
    (Argument.totalLength (request.inputs.take place)), memory, ?_, ?_, ?_⟩
  · rw [moved.inputs, Argument.getElem?_placeAll, found, Nat.zero_add]
    rfl
  · simpa only [Argument.placeAt, inHost, if_true, DataLocation.inPool] using pool
  · simpa only [Argument.placeAt, inHost, if_true, DataLocation.inPool] using read

/-- Relocation takes every argument out of host memory and changes nothing else about the request: each
argument of a kind gets a region of one new pool, and regions follow one another without a gap. The regions of
inputs hold their bytes, a valid request stays valid for the same versions, and nothing is relocated twice. -/
theorem relocation_is_lossless (backed : ∀ input ∈ request.inputs, input.IsBacked host)
    (done : request.relocate host store = .ok (relocated, later)) :
    (request.hasNoPointerData = true → relocated = request ∧ later = store) ∧
      relocated.hasNoPointerData = true ∧
      (∃ inputPools outputPools, relocated.pools = request.pools ++ inputPools ++ outputPools ∧
        Argument.AreLaidOut request.pools.length inputPools request.inputs relocated.inputs ∧
        Argument.AreLaidOut (request.pools.length + inputPools.length) outputPools request.outputs
          relocated.outputs) ∧
      Argument.Tile request.inputs relocated.inputs ∧ Argument.Tile request.outputs relocated.outputs ∧
      (∀ (place : Nat) (input : Argument), request.inputs[place]? = some input → input.isInHost = true →
        ∃ other memory, relocated.inputs[place]? = some other ∧
          relocated.pools[other.location.poolIndex.toNat]? = some (.memory memory) ∧
          memory.read later other.location.offset.toNat other.location.length.toNat =
            .ok (input.hostBytes host)) ∧
      store.IsKept later ∧
      (∀ version : Version, validate request = .ok version → validate relocated = .ok version) ∧
      ∀ (otherHost : HostMemory) (otherStore : FileStore),
        relocated.relocate otherHost otherStore = .ok (relocated, otherStore) := by
  obtain ⟨inputPools, outputPools, moved⟩ := isRelocated_of_relocate backed done
  have bare := moved.hasNoPointerData
  have inputs : Argument.AreLaidOut request.pools.length inputPools request.inputs relocated.inputs := by
    rw [moved.inputs]
    exact moved.inputPool.areLaidOut (Argument.length_allBytes moved.length)
  have outputs : Argument.AreLaidOut (request.pools.length + inputPools.length) outputPools request.outputs
      relocated.outputs := by
    rw [moved.outputs, ← List.length_append]
    exact moved.outputPool.areLaidOut List.length_replicate
  refine ⟨fun given => ?_, bare, ⟨inputPools, outputPools, moved.pools, inputs, outputs⟩, inputs.tile,
    outputs.tile, fun place input found inHost => moved.read_input found inHost, moved.kept,
    fun version valid => moved.validate_eq_ok valid, fun _ _ => relocate_of_hasNoPointerData bare⟩
  rw [relocate_of_hasNoPointerData given] at done
  cases done
  exact ⟨rfl, rfl⟩

/-- A request with host memory between other arguments, and a token among its pools. -/
def scattered : Request where
  inputs := [⟨.pointer, ⟨some ⟨0, 0, 3, false⟩, 0, 0, 3⟩, [3]⟩, .withoutValue, .ofPool 0 0 0,
    ⟨.pointer, ⟨some ⟨1, 0, 2, false⟩, 0, 0, 2⟩, []⟩]
  outputs := [.ofPool 0 0 4, ⟨.pointer, ⟨some ⟨2, 0, 4, true⟩, 0, 0, 4⟩, [2, 2]⟩]
  pools := [.token 7]

def scatteredHost : HostMemory := ⟨[[1, 2, 3], [4, 5], [0, 0, 0, 0]]⟩

/-- The inputs of `scattered` are gathered in a pool after the token, its output in one after that. -/
theorem scattered_is_gathered :
    ∃ relocated later memory,
      scattered.relocate scatteredHost .empty = .ok (relocated, later) ∧
        relocated.inputs =
          [⟨.pool, .inPool 1 0 3, [3]⟩, .withoutValue, .ofPool 0 0 0, ⟨.pool, .inPool 1 3 2, []⟩] ∧
        relocated.outputs = [.ofPool 0 0 4, ⟨.pool, .inPool 2 0 4, [2, 2]⟩] ∧
        relocated.pools[1]? = some (.memory memory) ∧ memory.read later 3 2 = .ok [4, 5] ∧
        validate relocated = .ok .v1_3 := by
  have backed : ∀ input ∈ scattered.inputs, input.IsBacked scatteredHost := by
    simp [scattered, scatteredHost, Argument.IsBacked, HostPointer.IsBacked, HostMemory.buffer,
      Argument.withoutValue, Argument.ofPool, DataLocation.empty, DataLocation.inPool]
  obtain ⟨-, -, -, -, -, reads, -, valid, -⟩ := relocation_is_lossless backed
    (rfl : scattered.relocate scatteredHost .empty = .ok (_, _))
  obtain ⟨other, memory, listed, pool, read⟩ := reads 3 _ rfl rfl
  cases listed
  exact ⟨_, _, memory, rfl, rfl, rfl, pool, read, valid .v1_3 rfl⟩

end Request

end NeuralDevice
