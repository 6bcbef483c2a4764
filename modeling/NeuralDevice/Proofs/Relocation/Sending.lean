import NeuralDevice.Proofs.Conversion.Gate
import NeuralDevice.Proofs.Relocation.Region

/-!
Why a relocated request can be sent: it refers to no host memory, its version can carry it, and its numbers fit
the fields of the message. Only the AIDL version has fields that are narrower than the numbers of a request.
-/

namespace NeuralDevice

open Result

/-- The numbers of a request and of the pools that relocation adds fit the fields of an AIDL message. -/
structure Request.FitsAidl (request : Request) : Prop where
  dimensions : ∀ argument ∈ request.inputs ++ request.outputs,
    ∀ dimension ∈ argument.dimensions, dimension.toNat < 2 ^ 31
  sizes : ∀ memory, .memory memory ∈ request.pools → memory.size.toNat < 2 ^ 63
  tokens : ∀ token, .token token ∈ request.pools → token.toNat < 2 ^ 31
  count : request.pools.length + (request.inputs.any Argument.isInHost).toNat +
    (request.outputs.any Argument.isInHost).toNat ≤ 2 ^ 31

namespace Request.IsRelocated

variable {host : HostMemory} {store later : FileStore} {request relocated : Request}
  {inputPools outputPools : List MemoryPool} {version : Version}

theorem lifetime_ne_pointer
    (moved : request.IsRelocated host store later relocated inputPools outputPools)
    (validated : validate request = .ok version) {placed : Argument}
    (member : placed ∈ relocated.inputs ++ relocated.outputs) :
    placed.IsValid relocated.pools ∧ placed.lifetime ≠ .pointer := by
  obtain ⟨-, inputs, outputs⟩ := validate_request_eq_ok_iff.mp (moved.validate_eq_ok validated)
  have valid : placed.IsValid relocated.pools := by
    rcases List.mem_append.mp member with input | output
    · exact inputs placed input
    · exact outputs placed output
  exact ⟨valid, valid.lifetime_ne_pointer (moved.pointer_eq_none member)⟩

private theorem length_pools (moved : request.IsRelocated host store later relocated inputPools outputPools) :
    relocated.pools.length = request.pools.length + (request.inputs.any Argument.isInHost).toNat +
      (request.outputs.any Argument.isInHost).toNat := by
  rw [moved.pools, List.length_append, List.length_append, moved.inputPool.length_eq,
    moved.outputPool.length_eq]

theorem carries (moved : request.IsRelocated host store later relocated inputPools outputPools)
    {limit : Version} (carried : Carries limit request) : Carries limit relocated := by
  obtain ⟨required, validated, notNewer⟩ := carried
  exact ⟨required, moved.validate_eq_ok validated, notNewer⟩

theorem exists_hal_message
    (moved : request.IsRelocated host store later relocated inputPools outputPools) {limit : Version}
    (carried : Carries limit request) (old : limit < .v1_3) :
    ∃ message, Wire.Hal.requestToWire relocated = .ok message := by
  obtain ⟨_, validated, notNewer⟩ := carried
  have valid : ∀ placed ∈ relocated.inputs ++ relocated.outputs, placed.IsValid relocated.pools :=
    fun _ member => (moved.lifetime_ne_pointer validated member).1
  have memories := (version_le_iff (moved.validate_eq_ok validated) old).mp (Version.not_lt.mp notNewer)
  exact (Wire.Hal.requestToWire_gated valid).succeeds_iff.mpr ⟨memories, moved.hasNoPointerData⟩

private theorem exists_aidl_pool (moved : request.IsRelocated host store later relocated inputPools outputPools)
    (fits : request.FitsAidl) {pool : MemoryPool} (member : pool ∈ relocated.pools) :
    ∃ message, Wire.Aidl.Pool.ofCanonical pool = .ok message := by
  have new : ∀ memory : Memory, memory.size.toNat < 2 ^ 63 →
      ∃ message, Wire.Aidl.Pool.ofCanonical (.memory memory) = .ok message := by
    intro memory small
    obtain ⟨message, sent⟩ : ∃ message : Wire.Aidl.Memory, memory.toWire = .ok message :=
      (memory.toWire_gated Int64).succeeds_iff.mpr ⟨trivial, Word.fits_int64_iff.mpr small⟩
    simp only [Wire.Aidl.Pool.ofCanonical, sent]
    exact ⟨_, rfl⟩
  have short : UInt32.size < 2 ^ 63 := by decide
  rw [moved.pools, List.mem_append, List.mem_append] at member
  rcases member with (given | added) | added
  · cases pool with
    | memory memory => exact new memory (fits.sizes memory given)
    | token token =>
      obtain ⟨sent, narrowed⟩ : ∃ sent : Int32, rewidth "memory token" token = .ok sent :=
        exists_narrow_iff.mpr (Word.fits_int32_iff.mpr (fits.tokens token given))
      simp only [Wire.Aidl.Pool.ofCanonical, narrowed]
      exact ⟨_, rfl⟩
  · obtain ⟨memory, rfl, small⟩ := moved.inputPool.exists_memory added
    exact new memory (Nat.lt_trans small short)
  · obtain ⟨memory, rfl, small⟩ := moved.outputPool.exists_memory added
    exact new memory (Nat.lt_trans small short)

/-- In the AIDL version, the indices of valid arguments fit because the pools are few. -/
private theorem exists_aidl_message
    (moved : request.IsRelocated host store later relocated inputPools outputPools)
    (validated : validate request = .ok version) (fits : request.FitsAidl) :
    ∃ message, Wire.Aidl.requestToWire relocated = .ok message := by
  have each : ∀ placed ∈ relocated.inputs ++ relocated.outputs,
      ∃ message : Wire.Aidl.Argument, placed.toWire = .ok message := by
    intro placed member
    obtain ⟨valid, alive⟩ := moved.lifetime_ne_pointer validated member
    have index := valid.poolIndex_le alive
    rw [moved.length_pools] at index
    have few := fits.count
    refine (Argument.toWire_gated _ _ (moved.pointer_eq_none member) alive).succeeds_iff.mpr
      ⟨trivial, ⟨Word.fits_int32_iff.mpr (by omega), Word.fits_int64_uint32 _, Word.fits_int64_uint32 _⟩, ?_⟩
    intro dimension listed
    refine Word.fits_int32_iff.mpr ?_
    obtain ⟨argument, given, pool, start, rfl⟩ := moved.exists_placed member
    rw [argument.dimensions_placeAt] at listed
    exact fits.dimensions argument given dimension listed
  obtain ⟨pools, filled⟩ : ∃ pools, relocated.pools.mapM Wire.Aidl.Pool.ofCanonical = .ok pools :=
    exists_mapM_eq_ok fun pool member => moved.exists_aidl_pool fits member
  obtain ⟨inputs, taken⟩ := exists_mapM_eq_ok fun placed member => each placed (List.mem_append_left _ member)
  obtain ⟨outputs, given⟩ := exists_mapM_eq_ok fun placed member => each placed (List.mem_append_right _ member)
  refine ⟨⟨inputs, outputs, pools⟩, ?_⟩
  simp only [Wire.Aidl.requestToWire, moved.hasNoPointerData, filled, taken, given]
  rfl

theorem exists_message (moved : request.IsRelocated host store later relocated inputPools outputPools)
    (dialect : Dialect) (carried : Carries dialect.version request)
    (fits : dialect = .aidl → request.FitsAidl) :
    ∃ message, (Crossing.request dialect).send relocated = .ok message := by
  obtain ⟨message, converted⟩ : ∃ message, (Crossing.request dialect).ofCanonical relocated = .ok message := by
    cases dialect with
    | v1_0 => exact moved.exists_hal_message carried (by decide)
    | v1_2 => exact moved.exists_hal_message carried (by decide)
    | aidl =>
      obtain ⟨_, validated, -⟩ := carried
      exact moved.exists_aidl_message validated (fits rfl)
  have limit : (Crossing.request dialect).limit = dialect.version := by cases dialect <;> rfl
  exact ⟨message, send_eq_ok_iff.mpr ⟨by rw [limit]; exact moved.carries carried, converted⟩⟩

end Request.IsRelocated

end NeuralDevice
