import NeuralDevice.Proofs.Relocation.Request
import NeuralDevice.Proofs.Validation.Basic
import NeuralDevice.Validation.Request

/-!
What makes a request valid, and why relocation keeps it valid: a relocated argument lies in a pool that is as
long as all arguments relocated into it, and shared memory needs no newer version.
-/

namespace NeuralDevice

open Result

/-- What an argument must satisfy, with the pools of its request. -/
def Argument.IsValid (pools : List MemoryPool) (argument : Argument) : Prop :=
  match argument.lifetime with
  | .pool =>
    argument.location.pointer = none ∧
      ∃ pool, pools[argument.location.poolIndex.toNat]? = some pool ∧
        ∀ memory, pool = .memory memory → argument.location.stop ≤ memory.size.toNat
  | .noValue => argument.location = .empty ∧ argument.dimensions = []
  | .pointer =>
    ∃ pointer, argument.location.pointer = some pointer ∧
      argument.location.length.toNat ≤ pointer.size.toNat

namespace Argument

theorem check_eq_ok_iff {argument : Argument} {pools : List MemoryPool} {what : String} :
    argument.check pools what = .ok () ↔ argument.IsValid pools := by
  unfold check IsValid
  cases argument.lifetime with
  | pool =>
    simp only [refuse_eq_ok_iff, Option.not_isSome_iff_eq_none]
    refine and_congr_right fun _ => ?_
    cases pools[argument.location.poolIndex.toNat]? with
    | none => simp [throw_ne_ok]
    | some pool =>
      cases pool with
      | memory memory => simp [checkRange_eq_ok_iff, DataLocation.stop]
      | token token => simp [pure_eq_ok_iff]
  | noValue =>
    simp only [refuse_eq_ok_iff, pure_eq_ok_iff, and_true, Bool.or_eq_true, Bool.not_eq_true',
      not_or, Bool.not_eq_false, List.isEmpty_iff, DataLocation.isEmpty, decide_eq_true_eq]
  | pointer =>
    cases present : argument.location.pointer with
    | none => simp [present, throw_ne_ok]
    | some pointer => simp [present, refuse_eq_ok_iff, pure_eq_ok_iff]

private theorem checkArguments_eq_ok_iff {pools : List MemoryPool} {kind : String}
    {arguments : List Argument} {passed : Unit} :
    checkArguments pools kind arguments = .ok passed ↔
      ∀ argument ∈ arguments, argument.IsValid pools := by
  rw [checkArguments, forM_eq_ok_iff]
  simp only [check_eq_ok_iff]
  exact forall_mem_zipIdx (IsValid pools)

/-- An argument in shared memory has no pointer and refers to a pool there is. -/
theorem IsValid.exists_pool {pools : List MemoryPool} {argument : Argument}
    (valid : argument.IsValid pools) (alive : argument.lifetime = .pool) :
    argument.location.pointer = none ∧
      ∃ pool, pools[argument.location.poolIndex.toNat]? = some pool := by
  unfold IsValid at valid
  rw [alive] at valid
  obtain ⟨bare, pool, found, -⟩ := valid
  exact ⟨bare, pool, found⟩

theorem IsValid.stop_le {pools : List MemoryPool} {argument : Argument}
    (valid : argument.IsValid pools) (alive : argument.lifetime = .pool) {memory : Memory}
    (found : pools[argument.location.poolIndex.toNat]? = some (.memory memory)) :
    argument.location.stop ≤ memory.size.toNat := by
  unfold IsValid at valid
  rw [alive] at valid
  obtain ⟨_, pool, located, inside⟩ := valid
  exact inside memory (Option.some.inj (located.symm.trans found))

theorem IsValid.isInHost_iff {pools : List MemoryPool} {argument : Argument}
    (valid : argument.IsValid pools) : argument.isInHost = true ↔ argument.lifetime = .pointer := by
  unfold IsValid at valid
  unfold isInHost
  cases alive : argument.lifetime with
  | pool =>
    rw [alive] at valid
    simp [valid.1]
  | noValue =>
    rw [alive] at valid
    simp [valid.1, DataLocation.empty]
  | pointer =>
    rw [alive] at valid
    obtain ⟨pointer, present, _⟩ := valid
    simp [present]

/-- A valid argument without a host pointer does not need one. -/
theorem IsValid.lifetime_ne_pointer {pools : List MemoryPool} {argument : Argument}
    (valid : argument.IsValid pools) (bare : argument.location.pointer = none) :
    argument.lifetime ≠ .pointer := by
  intro alive
  have inHost := valid.isInHost_iff.mpr alive
  simp [isInHost, bare] at inHost

/-- An argument that is not in host memory refers to a pool there is, or to none. -/
theorem IsValid.poolIndex_le {pools : List MemoryPool} {argument : Argument}
    (valid : argument.IsValid pools) (alive : argument.lifetime ≠ .pointer) :
    argument.location.poolIndex.toNat ≤ pools.length - 1 := by
  cases found : argument.lifetime with
  | pool =>
    obtain ⟨-, pool, present⟩ := valid.exists_pool found
    obtain ⟨inside, -⟩ := List.getElem?_eq_some_iff.mp present
    omega
  | noValue =>
    unfold IsValid at valid
    rw [found] at valid
    simp [valid.1, DataLocation.empty]
  | pointer => exact absurd found alive

theorem IsValid.append {pools : List MemoryPool} {argument : Argument} (valid : argument.IsValid pools)
    (added : List MemoryPool) : argument.IsValid (pools ++ added) := by
  unfold IsValid at valid ⊢
  cases alive : argument.lifetime with
  | pool =>
    rw [alive] at valid
    obtain ⟨bare, pool, found, inside⟩ := valid
    obtain ⟨within, _⟩ := List.getElem?_eq_some_iff.mp found
    exact ⟨bare, pool, by rw [List.getElem?_append_left within, found], inside⟩
  | noValue =>
    rw [alive] at valid
    exact valid
  | pointer =>
    rw [alive] at valid
    exact valid

end Argument

/-- A place in the new pool after `count` others is a valid one. -/
private theorem AddedPools.isValid_placeAt {store later : FileStore} {count offset : Nat} {data : List UInt8}
    {isNeeded : Bool} {earlier pools : List MemoryPool} {argument : Argument}
    (added : AddedPools store later count data isNeeded pools) (counted : earlier.length = count)
    (needed : isNeeded = true) (inHost : argument.isInHost = true)
    (inside : offset + argument.hostLength ≤ data.length) :
    (argument.placeAt (UInt32.ofNat count) offset).IsValid (earlier ++ pools) := by
  cases added with
  | nothing => exact absurd needed nofun
  | one pool few =>
    have index : (UInt32.ofNat count).toNat = count := UInt32.toNat_ofNat_of_lt' few
    have start : (UInt32.ofNat offset).toNat = offset :=
      UInt32.toNat_ofNat_of_lt' (Nat.lt_of_le_of_lt (by omega) pool.small)
    simp only [Argument.placeAt, inHost, if_true, Argument.IsValid, DataLocation.inPool, index,
      DataLocation.stop, start]
    refine ⟨trivial, .memory pool.memory, ?_, ?_⟩
    · rw [← counted, List.getElem?_append_right (Nat.le_refl _)]
      simp
    · intro memory same
      cases same
      rw [pool.size]
      simpa [Argument.hostLength, inHost] using inside

theorem AddedPools.isValid_placeAll {store later : FileStore} {data : List UInt8}
    {earlier pools : List MemoryPool} {arguments : List Argument}
    (added : AddedPools store later earlier.length data (arguments.any Argument.isInHost) pools)
    (total : data.length = Argument.totalLength arguments)
    (valid : ∀ argument ∈ arguments, argument.IsValid earlier) :
    ∀ placed ∈ Argument.placeAll (UInt32.ofNat earlier.length) 0 arguments,
      placed.IsValid (earlier ++ pools) := by
  intro placed member
  obtain ⟨argument, given, before, after, split, rfl⟩ :=
    exists_of_mem_forall₂ (Argument.forall₂_placeAll _ 0 arguments) member
  cases inHost : argument.isInHost with
  | false =>
    rw [Argument.placeAt_of_not_isInHost inHost]
    exact (valid argument given).append pools
  | true =>
    refine added.isValid_placeAt rfl (List.any_eq_true.mpr ⟨argument, given, inHost⟩) inHost ?_
    rw [total, split, Argument.totalLength_append, Argument.totalLength_cons]
    omega

theorem validate_request_eq_ok_iff {request : Request} {version : Version} :
    validate request = .ok version ↔
      newestVersion MemoryPool.check .v1_0 request.pools = .ok version ∧
        (∀ input ∈ request.inputs, input.IsValid request.pools) ∧
        ∀ output ∈ request.outputs, output.IsValid request.pools := by
  simp only [validate, bind_eq_ok_iff, pure_eq_ok_iff, Argument.checkArguments_eq_ok_iff, exists_const]
  constructor
  · intro checked
    rcases checked with ⟨newest, found, inputs, outputs, rfl⟩
    exact ⟨found, inputs, outputs⟩
  · intro parts
    rcases parts with ⟨found, inputs, outputs⟩
    exact ⟨version, found, inputs, outputs, rfl⟩

theorem Request.version_le_iff {request : Request} {version limit : Version}
    (validated : validate request = .ok version) (old : limit < .v1_3) :
    version ≤ limit ↔ ∀ pool ∈ request.pools, ∃ memory, pool = .memory memory := by
  obtain ⟨newest, -, -⟩ := validate_request_eq_ok_iff.mp validated
  rw [newestVersion_le_iff newest, and_iff_right limit.oldest_le]
  refine forall₂_congr fun pool _ => ?_
  cases pool with
  | memory memory => exact iff_of_true ⟨.v1_0, rfl, limit.oldest_le⟩ ⟨memory, rfl⟩
  | token token =>
    refine iff_of_false (fun found => ?_) nofun
    obtain ⟨needed, checked, carried⟩ := found
    simp only [MemoryPool.check, refuse_eq_ok_iff, pure_eq_ok_iff] at checked
    obtain ⟨-, rfl⟩ := checked
    exact absurd old (Version.not_lt.mpr carried)

theorem AddedPools.newestVersion_append {store later : FileStore} {count : Nat} {data : List UInt8}
    {isNeeded : Bool} {earlier pools : List MemoryPool} {version : Version}
    (added : AddedPools store later count data isNeeded pools)
    (newest : newestVersion MemoryPool.check .v1_0 earlier = .ok version) :
    newestVersion MemoryPool.check .v1_0 (earlier ++ pools) = .ok version := by
  cases added with
  | nothing => rwa [List.append_nil]
  | one pool few =>
    unfold newestVersion at newest ⊢
    rw [List.foldlM_append, bind_eq_ok_iff]
    exact ⟨version, newest, congrArg Except.ok (Version.max_oldest version)⟩

theorem Request.IsRelocated.validate_eq_ok {host : HostMemory} {store later : FileStore}
    {request relocated : Request} {inputPools outputPools : List MemoryPool}
    (moved : request.IsRelocated host store later relocated inputPools outputPools) {version : Version}
    (valid : validate request = .ok version) : validate relocated = .ok version := by
  obtain ⟨newest, inputs, outputs⟩ := validate_request_eq_ok_iff.mp valid
  have total : (Argument.allBytes host request.inputs).length =
      Argument.totalLength request.inputs := Argument.length_allBytes moved.length
  rw [validate_request_eq_ok_iff, moved.pools, moved.inputs, moved.outputs]
  refine ⟨?_, ?_, ?_⟩
  · exact moved.outputPool.newestVersion_append (moved.inputPool.newestVersion_append newest)
  · intro placed member
    exact (moved.inputPool.isValid_placeAll total inputs placed member).append outputPools
  · refine moved.outputPool.isValid_placeAll (by simp) fun output member => ?_
    exact (outputs output member).append inputPools

end NeuralDevice
