import NeuralDevice.Proofs.Conversion.Message
import NeuralDevice.Proofs.Memory.Host
import NeuralDevice.Proofs.Relocation.Builder

/-!
What relocation makes of a request. Arguments in host memory get regions of new pools, one after another from
the start of the pool; the pool of the inputs holds their bytes in that order. Everything else is kept.
-/

namespace NeuralDevice

open Result

namespace Argument

def isInHost (argument : Argument) : Bool := argument.location.pointer.isSome

/-- Number of bytes the argument takes in a new pool. -/
def hostLength (argument : Argument) : Nat :=
  if argument.isInHost then argument.location.length.toNat else 0

/-- The bytes of the argument in host memory. -/
def hostBytes (host : HostMemory) (argument : Argument) : List UInt8 :=
  match argument.location.pointer with
  | some pointer => host.behind pointer argument.location.length.toNat
  | none => []

/-- Whether the caller's buffer of the argument has the bytes that its pointer promises. -/
def IsBacked (host : HostMemory) (argument : Argument) : Prop :=
  ∀ pointer, argument.location.pointer = some pointer → pointer.IsBacked host

/-- Whether the caller's buffer of an output takes results of its length. -/
def TakesResults (argument : Argument) : Prop :=
  ∀ pointer, argument.location.pointer = some pointer →
    pointer.isWritable = true ∧ argument.location.length.toNat ≤ pointer.size.toNat

/-- The argument, if in host memory, in a region of a pool. -/
def placeAt (pool : UInt32) (offset : Nat) (argument : Argument) : Argument :=
  if argument.isInHost then
    { argument with
      lifetime := .pool
      location := .inPool pool (UInt32.ofNat offset) argument.location.length }
  else argument

/-- Arguments in regions of a pool, one after another. -/
def placeAll (pool : UInt32) : Nat → List Argument → List Argument
  | _, [] => []
  | offset, argument :: rest =>
    argument.placeAt pool offset :: placeAll pool (offset + argument.hostLength) rest

/-- Total length of the arguments in host memory. -/
def totalLength (arguments : List Argument) : Nat := (arguments.map hostLength).sum

/-- The bytes of all arguments in host memory, one after another. -/
def allBytes (host : HostMemory) (arguments : List Argument) : List UInt8 :=
  arguments.flatMap (hostBytes host)

theorem totalLength_cons (argument : Argument) (rest : List Argument) :
    totalLength (argument :: rest) = argument.hostLength + totalLength rest := by
  simp [totalLength]

theorem totalLength_append (before after : List Argument) :
    totalLength (before ++ after) = totalLength before + totalLength after := by
  simp [totalLength]

theorem allBytes_cons (host : HostMemory) (argument : Argument) (rest : List Argument) :
    allBytes host (argument :: rest) = argument.hostBytes host ++ allBytes host rest := by
  simp [allBytes]

private theorem relocateInput_eq_ok {host : HostMemory} {argument moved : Argument}
    {builder later : ConstantBuilder} (backed : argument.IsBacked host)
    (done : argument.relocateInput host builder = .ok (moved, later)) :
    moved = argument.placeAt builder.poolIndex builder.data.length ∧
      later.poolIndex = builder.poolIndex ∧
      later.data = builder.data ++ argument.hostBytes host ∧
      later.regions = builder.regions + argument.isInHost.toNat ∧
      (argument.hostBytes host).length = argument.hostLength := by
  unfold relocateInput at done
  cases found : argument.location.pointer with
  | none =>
    rw [found] at done
    cases pure_eq_ok_iff.mp done
    simp [placeAt, hostBytes, hostLength, isInHost, found]
  | some pointer =>
    simp only [found, bind_eq_ok_iff, HostPointer.read_eq_ok_iff, pure_eq_ok_iff] at done
    obtain ⟨data, ⟨short, bytes⟩, ⟨location, appended⟩, placed, same⟩ := done
    obtain ⟨rfl, rfl⟩ := Prod.mk.inj same
    have length : data.length = argument.location.length.toNat :=
      bytes ▸ HostMemory.length_behind (backed pointer found) short
    obtain ⟨rfl, pool, filled, regions⟩ := ConstantBuilder.append_eq_ok placed
    simp [placeAt, hostBytes, hostLength, isInHost, found, bytes, length, pool, filled, regions]

private theorem relocateInputs_eq_ok {host : HostMemory} {inputs moved : List Argument}
    {builder later : ConstantBuilder} (backed : ∀ argument ∈ inputs, argument.IsBacked host)
    (done : (inputs.mapM (relocateInput host)).run builder = .ok (moved, later)) :
    moved = placeAll builder.poolIndex builder.data.length inputs ∧
      later.poolIndex = builder.poolIndex ∧
      later.data = builder.data ++ allBytes host inputs ∧
      later.regions = builder.regions + inputs.countP isInHost ∧
      ∀ input ∈ inputs, (input.hostBytes host).length = input.hostLength := by
  induction inputs generalizing builder moved with
  | nil =>
    obtain ⟨rfl, rfl⟩ := Prod.mk.inj (pure_eq_ok_iff.mp done)
    simp [placeAll, allBytes]
  | cons argument rest ih =>
    obtain ⟨first, middle, others, head, tail, rfl⟩ := mapM_run_cons_eq_ok_iff.mp done
    obtain ⟨rfl, pool, data, regions, length⟩ :=
      relocateInput_eq_ok (backed argument List.mem_cons_self) head
    obtain ⟨rfl, pools, datas, regionss, lengths⟩ :=
      ih (fun other member => backed other (List.mem_cons_of_mem _ member)) tail
    refine ⟨?_, pools.trans pool, ?_, ?_, ?_⟩
    · simp [placeAll, pool, data, length]
    · rw [datas, data, allBytes_cons, List.append_assoc]
    · rw [regionss, regions, List.countP_cons, Nat.add_assoc]
      cases argument.isInHost <;> simp [Nat.add_comm]
    · exact List.forall_mem_cons.mpr ⟨length, lengths⟩

theorem relocateOutput_eq_ok {argument moved : Argument} {builder later : OutputBuilder}
    (done : argument.relocateOutput builder = .ok (moved, later)) :
    moved = argument.placeAt builder.poolIndex builder.size.toNat ∧
      later.poolIndex = builder.poolIndex ∧
      later.size.toNat = builder.size.toNat + argument.hostLength ∧
      later.regions = builder.regions + argument.isInHost.toNat ∧ argument.TakesResults := by
  unfold relocateOutput at done
  cases found : argument.location.pointer with
  | none =>
    rw [found] at done
    cases pure_eq_ok_iff.mp done
    simp [placeAt, hostLength, isInHost, TakesResults, found]
  | some pointer =>
    simp only [found, bind_eq_ok_iff, throw_bind, refuse_eq_ok_iff, pure_eq_ok_iff,
      HostPointer.checkLength_eq_ok_iff, OutputBuilder.append, demand_eq_ok_iff] at done
    obtain ⟨writable, _, short, ⟨location, appended⟩, ⟨fits, placed⟩, same⟩ := done
    obtain ⟨rfl, rfl⟩ := Prod.mk.inj same
    obtain ⟨rfl, rfl⟩ := Prod.mk.inj placed
    refine ⟨?_, rfl, ?_, ?_, ?_⟩
    · simp [placeAt, isInHost, found]
    · simp only [hostLength, isInHost, found, Option.isSome_some, if_true, UInt32.toNat_add]
      exact Nat.mod_eq_of_lt fits
    · simp [isInHost, found]
    · intro other present
      cases found.symm.trans present
      exact ⟨by simpa using writable, short⟩

theorem relocateOutputs_eq_ok {outputs moved : List Argument} {builder later : OutputBuilder}
    (done : (outputs.mapM relocateOutput).run builder = .ok (moved, later)) :
    moved = placeAll builder.poolIndex builder.size.toNat outputs ∧
      later.poolIndex = builder.poolIndex ∧
      later.size.toNat = builder.size.toNat + totalLength outputs ∧
      later.regions = builder.regions + outputs.countP isInHost ∧
      ∀ output ∈ outputs, output.TakesResults := by
  induction outputs generalizing builder moved with
  | nil =>
    obtain ⟨rfl, rfl⟩ := Prod.mk.inj (pure_eq_ok_iff.mp done)
    simp [placeAll, totalLength]
  | cons argument rest ih =>
    obtain ⟨first, middle, others, head, tail, rfl⟩ := mapM_run_cons_eq_ok_iff.mp done
    obtain ⟨rfl, pool, size, regions, taken⟩ := relocateOutput_eq_ok head
    obtain ⟨rfl, pools, sizes, regionss, takens⟩ := ih tail
    refine ⟨?_, pools.trans pool, ?_, ?_, ?_⟩
    · simp [placeAll, pool, size]
    · rw [sizes, size, totalLength_cons, Nat.add_assoc]
    · rw [regionss, regions, List.countP_cons, Nat.add_assoc]
      cases argument.isInHost <;> simp [Nat.add_comm]
    · intro output member
      rcases List.mem_cons.mp member with rfl | later
      · exact taken
      · exact takens output later

theorem length_allBytes {host : HostMemory} {arguments : List Argument}
    (length : ∀ argument ∈ arguments, (argument.hostBytes host).length = argument.hostLength) :
    (allBytes host arguments).length = totalLength arguments := by
  induction arguments with
  | nil => rfl
  | cons argument rest ih =>
    rw [List.forall_mem_cons] at length
    rw [allBytes_cons, totalLength_cons, List.length_append, length.1, ih length.2]

theorem placeAt_of_not_isInHost {argument : Argument} (bare : argument.isInHost = false)
    (pool : UInt32) (offset : Nat) : argument.placeAt pool offset = argument := by
  simp [placeAt, bare]

theorem placeAll_of_not_isInHost {arguments : List Argument}
    (bare : arguments.any isInHost = false) (pool : UInt32) (offset : Nat) :
    placeAll pool offset arguments = arguments := by
  induction arguments generalizing offset with
  | nil => rfl
  | cons argument rest ih =>
    rw [List.any_cons, Bool.or_eq_false_iff] at bare
    rw [placeAll, placeAt_of_not_isInHost bare.1, ih bare.2]

theorem countP_beq_zero (arguments : List Argument) :
    (!(arguments.countP isInHost == 0)) = arguments.any isInHost := by
  induction arguments with
  | nil => rfl
  | cons argument rest ih =>
    rw [List.countP_cons, List.any_cons, ← ih]
    cases argument.isInHost <;> simp

theorem forall₂_placeAll (pool : UInt32) (offset : Nat) (arguments : List Argument) :
    List.Forall₂
      (fun argument placed => ∃ before after, arguments = before ++ argument :: after ∧
        placed = argument.placeAt pool (offset + totalLength before))
      arguments (placeAll pool offset arguments) := by
  induction arguments generalizing offset with
  | nil => exact .nil
  | cons argument rest ih =>
    refine .cons ⟨[], rest, rfl, rfl⟩ ((ih (offset + argument.hostLength)).imp ?_)
    intro other placed located
    rcases located with ⟨before, after, rfl, rfl⟩
    refine ⟨argument :: before, after, rfl, ?_⟩
    rw [totalLength_cons, Nat.add_assoc]

/-! What placing keeps: the length and the dimensions, and no pointer. -/

theorem length_placeAt (argument : Argument) (pool : UInt32) (offset : Nat) :
    (argument.placeAt pool offset).location.length = argument.location.length := by
  unfold placeAt
  split <;> rfl

theorem dimensions_placeAt (argument : Argument) (pool : UInt32) (offset : Nat) :
    (argument.placeAt pool offset).dimensions = argument.dimensions := by
  unfold placeAt
  split <;> rfl

theorem pointer_placeAt (argument : Argument) (pool : UInt32) (offset : Nat) :
    (argument.placeAt pool offset).location.pointer = none := by
  unfold placeAt
  split
  · rfl
  · rename_i bare
    simpa [isInHost] using bare

theorem exists_of_mem_placeAll {pool : UInt32} {arguments : List Argument} {placed : Argument}
    (member : placed ∈ placeAll pool 0 arguments) :
    ∃ argument ∈ arguments, ∃ offset, placed = argument.placeAt pool offset := by
  obtain ⟨argument, given, _, _, _, rfl⟩ :=
    exists_of_mem_forall₂ (forall₂_placeAll pool 0 arguments) member
  exact ⟨argument, given, _, rfl⟩

end Argument

/-- How a request is relocated: which pools are new, and what they hold. -/
structure Request.IsRelocated (host : HostMemory) (store later : FileStore)
    (request relocated : Request) (inputPools outputPools : List MemoryPool) : Prop where
  inputs : relocated.inputs =
    Argument.placeAll (UInt32.ofNat request.pools.length) 0 request.inputs
  outputs : relocated.outputs =
    Argument.placeAll (UInt32.ofNat (request.pools ++ inputPools).length) 0 request.outputs
  pools : relocated.pools = request.pools ++ inputPools ++ outputPools
  kept : store.IsKept later
  inputPool : AddedPools store later request.pools.length (Argument.allBytes host request.inputs)
    (request.inputs.any Argument.isInHost) inputPools
  outputPool : AddedPools store later (request.pools ++ inputPools).length
    (List.replicate (Argument.totalLength request.outputs) 0)
    (request.outputs.any Argument.isInHost) outputPools
  length : ∀ input ∈ request.inputs, (input.hostBytes host).length = input.hostLength
  taken : ∀ output ∈ request.outputs, output.TakesResults

namespace Request

theorem relocate_of_hasNoPointerData {host : HostMemory} {store : FileStore} {request : Request}
    (bare : request.hasNoPointerData = true) : request.relocate host store = .ok (request, store) := by
  simp [relocate, bare, pure, Except.pure]

theorem relocate_eq_ok_iff {host : HostMemory} {store later : FileStore}
    {request relocated : Request} (moves : request.hasNoPointerData = false) :
    request.relocate host store = .ok (relocated, later) ↔
      ∃ inputPool inputs constants pools middle outputPool outputs regions allPools,
        nextPoolIndex request.pools.length = .ok inputPool ∧
        (request.inputs.mapM (Argument.relocateInput host)).run (.new inputPool) =
          .ok (inputs, constants) ∧
        constants.appendTo request.pools store = .ok (pools, middle) ∧
        nextPoolIndex pools.length = .ok outputPool ∧
        (request.outputs.mapM Argument.relocateOutput).run (.new outputPool) = .ok (outputs, regions) ∧
        regions.appendTo pools middle = .ok (allPools, later) ∧
        ⟨inputs, outputs, allPools⟩ = relocated := by
  simp only [relocate, moves, bind_eq_ok_iff, pure_eq_ok_iff, Bool.false_eq_true, if_false]
  constructor
  · intro done
    rcases done with ⟨inputPool, counted, ⟨inputs, constants⟩, copied, ⟨pools, middle⟩, filled, outputPool,
      recounted, ⟨outputs, regions⟩, reserved, ⟨allPools, last⟩, zeroed, same⟩
    obtain ⟨listed, rfl⟩ := Prod.mk.inj same
    exact ⟨_, _, _, _, _, _, _, _, _, counted, copied, filled, recounted, reserved, zeroed, listed⟩
  · intro steps
    rcases steps with ⟨inputPool, inputs, constants, pools, middle, outputPool, outputs, regions, allPools,
      counted, copied, filled, recounted, reserved, zeroed, rfl⟩
    exact ⟨_, counted, (_, _), copied, (_, _), filled, _, recounted, (_, _), reserved, (_, _), zeroed, rfl⟩

theorem takesResults_of_relocate {host : HostMemory} {store later : FileStore}
    {request relocated : Request} (done : request.relocate host store = .ok (relocated, later)) :
    ∀ output ∈ request.outputs, output.TakesResults := by
  cases bare : request.hasNoPointerData with
  | true =>
    intro output member pointer present
    have absent := hasNoPointerData_iff.mp bare output (List.mem_append_right _ member)
    simp [present] at absent
  | false =>
    obtain ⟨_, _, _, _, _, _, _, _, _, _, _, _, _, reserved, _⟩ := (relocate_eq_ok_iff bare).mp done
    exact (Argument.relocateOutputs_eq_ok reserved).2.2.2.2

/-- If outputs are in host memory, the last pool of the relocated request is a memory. -/
theorem exists_last_memory_of_relocate {host : HostMemory} {store later : FileStore} {request relocated : Request}
    (done : request.relocate host store = .ok (relocated, later)) {output : Argument}
    (member : output ∈ request.outputs) (inHost : output.isInHost = true) :
    ∃ memory, relocated.pools.getLast? = some (.memory memory) := by
  have present : request.outputs.any Argument.isInHost = true := List.any_eq_true.mpr ⟨output, member, inHost⟩
  have moves : request.hasNoPointerData = false := by
    rw [Bool.eq_false_iff]
    intro bare
    have absent := hasNoPointerData_iff.mp bare output (List.mem_append_right _ member)
    simp [Argument.isInHost, absent] at inHost
  obtain ⟨_, _, _, pools, _, _, _, regions, _, _, _, _, recounted, reserved, zeroed, rfl⟩ :=
    (relocate_eq_ok_iff moves).mp done
  obtain ⟨-, -, -, spaced, -⟩ := Argument.relocateOutputs_eq_ok reserved
  have needed : (!regions.isEmpty) = true := by
    rw [OutputBuilder.isEmpty, spaced, OutputBuilder.new, Nat.zero_add, Argument.countP_beq_zero, present]
  obtain ⟨-, added, rfl, pool⟩ := OutputBuilder.appendTo_eq_ok (nextPoolIndex_eq_ok_iff.mp recounted).1 zeroed
  rw [needed] at pool
  cases pool with
  | one pool counted => exact ⟨pool.memory, List.getLast?_concat⟩

private theorem not_isInHost_of_hasNoPointerData {request : Request} (bare : request.hasNoPointerData = true) :
    request.inputs.any Argument.isInHost = false ∧ request.outputs.any Argument.isInHost = false := by
  rw [hasNoPointerData_iff] at bare
  simp only [List.any_eq_false, Argument.isInHost]
  constructor
  · intro input member
    simp [bare input (List.mem_append_left _ member)]
  · intro output member
    simp [bare output (List.mem_append_right _ member)]

theorem isRelocated_of_hasNoPointerData {host : HostMemory} {store : FileStore} {request : Request}
    (bare : request.hasNoPointerData = true)
    (taken : ∀ output ∈ request.outputs, output.TakesResults) :
    request.IsRelocated host store store request [] [] := by
  obtain ⟨inputs, outputs⟩ := not_isInHost_of_hasNoPointerData bare
  refine ⟨?_, ?_, by simp, .refl _, ?_, ?_, ?_, taken⟩
  · rw [Argument.placeAll_of_not_isInHost inputs]
  · rw [Argument.placeAll_of_not_isInHost outputs]
  · rw [inputs]
    exact .nothing
  · rw [outputs]
    exact .nothing
  · intro input member
    have absent := hasNoPointerData_iff.mp bare input (List.mem_append_left _ member)
    simp [Argument.hostBytes, Argument.hostLength, Argument.isInHost, absent]

/-- Relocation gives every argument in host memory its own region of a new pool. -/
theorem isRelocated_of_relocate {host : HostMemory} {store later : FileStore}
    {request relocated : Request} (backed : ∀ input ∈ request.inputs, input.IsBacked host)
    (done : request.relocate host store = .ok (relocated, later)) :
    ∃ inputPools outputPools,
      request.IsRelocated host store later relocated inputPools outputPools := by
  have taken := takesResults_of_relocate done
  cases bare : request.hasNoPointerData with
  | true =>
    rw [relocate_of_hasNoPointerData bare] at done
    cases done
    exact ⟨[], [], isRelocated_of_hasNoPointerData bare taken⟩
  | false =>
    obtain ⟨inputPool, inputs, constants, pools, middle, outputPool, outputs, regions, allPools, counted,
      copied, filled, recounted, reserved, zeroed, rfl⟩ := (relocate_eq_ok_iff bare).mp done
    obtain ⟨few, rfl⟩ := nextPoolIndex_eq_ok_iff.mp counted
    obtain ⟨stillFew, rfl⟩ := nextPoolIndex_eq_ok_iff.mp recounted
    obtain ⟨rfl, -, data, appended, lengths⟩ := Argument.relocateInputs_eq_ok backed copied
    obtain ⟨rfl, -, size, spaced, -⟩ := Argument.relocateOutputs_eq_ok reserved
    obtain ⟨before, inputPools, rfl, inputAdded⟩ := ConstantBuilder.appendTo_eq_ok few filled
    obtain ⟨after, outputPools, rfl, outputAdded⟩ := OutputBuilder.appendTo_eq_ok stillFew zeroed
    have someInput : (!constants.isEmpty) = request.inputs.any Argument.isInHost := by
      rw [ConstantBuilder.isEmpty, appended, ConstantBuilder.new, Nat.zero_add, Argument.countP_beq_zero]
    have someOutput : (!regions.isEmpty) = request.outputs.any Argument.isInHost := by
      rw [OutputBuilder.isEmpty, spaced, OutputBuilder.new, Nat.zero_add, Argument.countP_beq_zero]
    have bytes : constants.data = Argument.allBytes host request.inputs := data
    have total : regions.size.toNat = Argument.totalLength request.outputs := by
      simpa [OutputBuilder.new] using size
    refine ⟨inputPools, outputPools, rfl, rfl, rfl, before.trans after, ?_, ?_, lengths, taken⟩
    · rw [← someInput, ← bytes]
      exact inputAdded.widen (.refl _) after
    · rw [← someOutput, ← total]
      exact outputAdded.widen before (.refl _)

end Request

end NeuralDevice
