import NeuralDevice.Proofs.Relocation.Region

/-!
The results of a relocated request. Stored where the relocated outputs lie, they leave all other bytes of the
given files as they were, and what the relocated outputs hold, the given ones do.
-/

namespace NeuralDevice

open Result

/-- Whether the data is as long as the argument asks. -/
def Argument.Asks (argument : Argument) (data : List UInt8) : Prop :=
  data.length = argument.location.length.toNat

/-- The byte of a caller's buffer is one of the argument. -/
def Argument.ReachesByte (argument : Argument) (buffer position : Nat) : Prop :=
  ∃ pointer, argument.location.pointer = some pointer ∧
    pointer.Reaches argument.location.length.toNat buffer position

/-- Whether the arguments have no byte of host memory in common. -/
def Argument.IsApart (first second : Argument) : Prop :=
  ∀ buffer position, first.ReachesByte buffer position → ¬second.ReachesByte buffer position

theorem Argument.reachesByte_iff {argument : Argument} {pointer : HostPointer} {data : List UInt8}
    (present : argument.location.pointer = some pointer) (asked : argument.Asks data) {buffer position : Nat} :
    argument.ReachesByte buffer position ↔ pointer.Reaches data.length buffer position := by
  unfold ReachesByte
  rw [asked]
  simp [present]

namespace Request

/-- The results that go to host memory, each with its pointer. -/
def hostResults (request : Request) (results : List (List UInt8)) : List (HostPointer × List UInt8) :=
  (request.outputs.zip results).filterMap fun (output, data) =>
    output.location.pointer.map fun pointer => (pointer, data)

theorem mem_hostResults_iff {request : Request} {results : List (List UInt8)} {pointer : HostPointer}
    {data : List UInt8} :
    (pointer, data) ∈ request.hostResults results ↔
      ∃ output, (output, data) ∈ request.outputs.zip results ∧
        output.location.pointer = some pointer := by
  simp only [hostResults, List.mem_filterMap, Prod.exists, Option.map_eq_some_iff, Prod.mk.injEq]
  constructor
  · intro listed
    rcases listed with ⟨output, _, paired, _, present, rfl, rfl⟩
    exact ⟨output, paired, present⟩
  · intro parts
    rcases parts with ⟨output, paired, present⟩
    exact ⟨output, data, paired, pointer, present, rfl, rfl⟩

section HostResults

variable {host : HostMemory} {request : Request} {results : List (List UInt8)}

theorem hostResults_of_hasNoPointerData (bare : request.hasNoPointerData = true)
    (results : List (List UInt8)) : request.hostResults results = [] := by
  refine List.eq_nil_iff_forall_not_mem.mpr ?_
  intro result member
  rcases result with ⟨pointer, data⟩
  obtain ⟨output, paired, present⟩ := mem_hostResults_iff.mp member
  have absent := hasNoPointerData_iff.mp bare output (List.mem_append_right _ (List.of_mem_zip paired).1)
  exact absurd (absent.symm.trans present) nofun

theorem reachesByte_of_hostResults (sized : List.Forall₂ Argument.Asks request.outputs results)
    {result : HostPointer × List UInt8} {buffer position : Nat} (member : result ∈ request.hostResults results)
    (reached : result.1.Reaches result.2.length buffer position) :
    ∃ output ∈ request.outputs, output.ReachesByte buffer position := by
  obtain ⟨output, paired, present⟩ := mem_hostResults_iff.mp member
  have asked : output.Asks result.2 := List.forall₂_zip sized paired
  exact ⟨output, (List.of_mem_zip paired).1, (Argument.reachesByte_iff present asked).mpr reached⟩

private theorem pairwise_hostResults (apart : request.outputs.Pairwise Argument.IsApart)
    (sized : List.Forall₂ Argument.Asks request.outputs results) :
    (request.hostResults results).Pairwise fun first second => ∀ buffer position,
      first.1.Reaches first.2.length buffer position → ¬second.1.Reaches second.2.length buffer position := by
  rw [← List.map_fst_zip (Nat.le_of_eq sized.length_eq), List.pairwise_map] at apart
  refine List.Pairwise.filterMap _ ?_ (List.Pairwise.and_mem.mp apart)
  intro one other separate first isFirst second isSecond buffer position reachedFirst reachedSecond
  obtain ⟨memberOne, memberOther, differ⟩ := separate
  obtain ⟨_, presentOne, rfl⟩ := Option.map_eq_some_iff.mp isFirst
  obtain ⟨_, presentOther, rfl⟩ := Option.map_eq_some_iff.mp isSecond
  have askedOne : one.1.Asks one.2 := List.forall₂_zip sized memberOne
  have askedOther : other.1.Asks other.2 := List.forall₂_zip sized memberOther
  exact differ buffer position ((Argument.reachesByte_iff presentOne askedOne).mpr reachedFirst)
    ((Argument.reachesByte_iff presentOther askedOther).mpr reachedSecond)

theorem behind_overwriteAll_hostResults (backed : ∀ output ∈ request.outputs, output.IsBacked host)
    (apart : request.outputs.Pairwise Argument.IsApart)
    (taken : ∀ output ∈ request.outputs, output.TakesResults)
    (sized : List.Forall₂ Argument.Asks request.outputs results) {output : Argument}
    {data : List UInt8} {pointer : HostPointer} (paired : (output, data) ∈ request.outputs.zip results)
    (present : output.location.pointer = some pointer) :
    (host.overwriteAll (request.hostResults results)).behind pointer data.length = data := by
  refine HostMemory.behind_overwriteAll (pairwise_hostResults apart sized)
    (mem_hostResults_iff.mpr ⟨output, paired, present⟩) ?_
  have inside := (List.of_mem_zip paired).1
  have long := backed output inside pointer present
  have short := (taken output inside pointer present).2
  have asked : data.length = output.location.length.toNat := List.forall₂_zip sized paired
  unfold HostPointer.IsBacked at long
  omega

end HostResults

namespace IsRelocated

variable {host : HostMemory} {store later last : FileStore} {request relocated : Request}
  {inputPools outputPools : List MemoryPool} {results : List (List UInt8)} {version : Version}

/-- Results are stored where the relocated outputs lie; the given files change only where outputs lay. -/
theorem storeResults_eq_ok
    (moved : request.IsRelocated host store later relocated inputPools outputPools)
    (validated : validate request = .ok version)
    (backed : ∀ memory, .memory memory ∈ request.pools → memory.IsBacked store)
    (disjoint : request.outputs.Pairwise (Argument.IsDisjoint request.pools))
    (sized : List.Forall₂ Argument.Asks request.outputs results) :
    ∃ last, (relocated.outputs.zip results).foldlM (storeResult relocated.pools) later = .ok last ∧
      FileStore.KeepsOutside (fun descriptor position =>
        ∃ output ∈ request.outputs, output.Covers request.pools descriptor position) store last ∧
      ∀ result ∈ relocated.outputs.zip results, result.1.Holds relocated.pools last result.2 := by
  obtain ⟨-, -, valid⟩ := validate_request_eq_ok_iff.mp validated
  obtain ⟨-, -, placedValid⟩ := validate_request_eq_ok_iff.mp (moved.validate_eq_ok validated)
  have lengths : results.length = relocated.outputs.length :=
    sized.length_eq.symm.trans moved.outputs_placed.length_eq
  have apart : (relocated.outputs.zip results).Pairwise fun first second =>
      first.1.IsDisjoint relocated.pools second.1 := by
    rw [← List.pairwise_map, List.map_fst_zip (Nat.le_of_eq lengths.symm)]
    exact moved.disjoint_outputs valid backed disjoint
  have asked : ∀ result ∈ relocated.outputs.zip results,
      result.2.length = result.1.location.length.toNat := by
    intro result member
    rcases result with ⟨placed, data⟩
    obtain ⟨given, ⟨offset, rfl⟩, paired⟩ := exists_of_mem_zip moved.outputs_placed.flip member
    rw [Argument.length_placeAt]
    exact List.forall₂_zip sized paired
  obtain ⟨last, stored, kept, held⟩ := NeuralDevice.storeResults_eq_ok
    (fun result member => placedValid _ (List.of_mem_zip member).1) (moved.isBacked backed) asked apart
  refine ⟨last, stored, ?_, held⟩
  intro descriptor file opened
  obtain ⟨changed, there, size, same⟩ := kept descriptor file (moved.kept.open? opened)
  refine ⟨changed, there, size, fun position outside => same position ?_⟩
  intro stored
  rcases stored with ⟨result, member, covered⟩
  exact outside (moved.covers_of_placed valid (List.of_mem_zip member).1 covered (by simp [opened]))

theorem holds_of_placed (moved : request.IsRelocated host store later relocated inputPools outputPools)
    (valid : ∀ output ∈ request.outputs, output.IsValid request.pools)
    (held : ∀ result ∈ relocated.outputs.zip results, result.1.Holds relocated.pools last result.2) :
    ∀ result ∈ request.outputs.zip results, result.1.Holds request.pools last result.2 := by
  intro result member memory alive found
  rcases result with ⟨output, data⟩
  obtain ⟨placed, ⟨offset, rfl⟩, paired⟩ := exists_of_mem_zip moved.outputs_placed member
  have good := valid output (List.of_mem_zip member).1
  have bare : output.isInHost = false := by
    rw [Bool.eq_false_iff, ne_eq, good.isInHost_iff, alive]
    exact nofun
  rw [Argument.placeAt_of_not_isInHost bare] at paired
  refine held _ paired memory alive ?_
  rw [moved.pools, List.append_assoc, good.getElem?_append alive]
  exact found

theorem hostResults_eq_nil
    (moved : request.IsRelocated host store later relocated inputPools outputPools)
    (missing : ∀ memory, relocated.pools.getLast? ≠ some (.memory memory)) :
    request.hostResults results = [] := by
  refine List.eq_nil_iff_forall_not_mem.mpr ?_
  intro result member
  rcases result with ⟨pointer, data⟩
  obtain ⟨output, paired, present⟩ := mem_hostResults_iff.mp member
  obtain ⟨memory, final, -⟩ := moved.last_pool (List.of_mem_zip paired).1
    (by simp [Argument.isInHost, present])
  exact missing memory final

end IsRelocated

end Request

end NeuralDevice
