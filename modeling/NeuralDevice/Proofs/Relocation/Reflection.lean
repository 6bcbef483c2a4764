import NeuralDevice.Proofs.Relocation.Model
import NeuralDevice.Proofs.Validation.Request

/-!
When relocation hides no fault. It goes by host pointers and appends pools, so it would mend a location that has
a pointer against its lifetime, or that is in a pool which is yet to come. Of anything else, what is relocated is
valid only if what was given is.
-/

namespace NeuralDevice

open Result

/-- A pointer only where it belongs, and no region in the `added` pools that follow `count` others. -/
structure DataLocation.IsUnambiguous (count added : Nat) (isInHost isInPool : Prop) (location : DataLocation) :
    Prop where
  pointer : location.pointer.isSome = true → isInHost
  pool : isInPool → location.poolIndex.toNat < count ∨ count + added ≤ location.poolIndex.toNat

theorem DataLocation.IsUnambiguous.getElem?_eq {π : Type} {pools added : List π} {count : Nat}
    {isInHost isInPool : Prop} {location : DataLocation}
    (clear : location.IsUnambiguous pools.length count isInHost isInPool) (few : added.length ≤ count)
    (alive : isInPool) {pool : π} (found : (pools ++ added)[location.poolIndex.toNat]? = some pool) :
    pools[location.poolIndex.toNat]? = some pool := by
  obtain ⟨inside, -⟩ := List.getElem?_eq_some_iff.mp found
  rw [List.length_append] at inside
  have before : location.poolIndex.toNat < pools.length := by
    rcases clear.pool alive with before | after
    · exact before
    · omega
  rwa [List.getElem?_append_left before] at found

/-! Models. -/

namespace Operand

variable {host : HostMemory} {store later : FileStore} {builder : ConstantBuilder} {model relocated : Model}
  {added : List Memory} {operand moved : Operand} {count : Nat}

private theorem IsPlaced.hasValidLocation_of_moved (placed : operand.IsPlaced host builder moved)
    (extended : Model.Extends store later builder model relocated added) (few : added.length ≤ count)
    (clear : operand.location.IsUnambiguous model.pools.length count (operand.lifetime = .pointer)
      (operand.lifetime = .constantReference))
    (valid : moved.HasValidLocation relocated) : operand.HasValidLocation model := by
  cases placed with
  | moved present read =>
    have alive := clear.pointer (by rw [present]; rfl)
    unfold HasValidLocation
    rw [alive]
    exact ⟨_, present, (HostPointer.read_eq_ok_iff.mp read).1⟩
  | kept =>
    unfold HasValidLocation at valid ⊢
    cases alive : operand.lifetime with
    | constantCopy =>
      rw [alive] at valid
      simpa only [extended.values] using valid
    | constantReference =>
      rw [alive] at valid
      obtain ⟨bare, pool, found, inside⟩ := valid
      rw [extended.pools] at found
      exact ⟨bare, pool, clear.getElem?_eq few alive found, inside⟩
    | subgraph =>
      rw [alive] at valid
      simpa only [extended.count] using valid
    | pointer | temporaryVariable | subgraphInput | subgraphOutput | noValue =>
      rw [alive] at valid
      exact valid

theorem IsPlaced.isValid_of_moved (placed : operand.IsPlaced host builder moved)
    (extended : Model.Extends store later builder model relocated added) (few : added.length ≤ count)
    (clear : operand.location.IsUnambiguous model.pools.length count (operand.lifetime = .pointer)
      (operand.lifetime = .constantReference))
    (valid : moved.IsValid relocated) : operand.IsValid model := by
  have location := placed.hasValidLocation_of_moved extended few clear valid.location
  obtain ⟨type, quantization, extraParams, -⟩ := valid
  unfold HasDeclaredType at type
  rw [extended.vendors] at type
  cases placed with
  | kept => exact ⟨type, quantization, extraParams, location⟩
  | moved => exact ⟨type, quantization, extraParams, location⟩

end Operand

namespace Subgraph

variable {host : HostMemory} {builder : ConstantBuilder} {model relocated : Model}
  {subgraph moved : Subgraph}

private theorem IsPlaced.exists_given (placed : subgraph.IsPlaced host builder moved) {index : Nat} {other : Operand}
    (found : moved.operands[index]? = some other) :
    ∃ operand, subgraph.operands[index]? = some operand ∧ operand.IsPlaced host builder other := by
  obtain ⟨inside, rfl⟩ := List.getElem?_eq_some_iff.mp found
  have there : index < subgraph.operands.length := placed.operands.length_eq ▸ inside
  exact ⟨subgraph.operands[index], List.getElem?_eq_getElem there, placed.operands.get there inside⟩

theorem IsPlaced.lists_of_moved (placed : subgraph.IsPlaced host builder moved)
    (valid : ∀ operand ∈ subgraph.operands, operand.HasValidLocation model) {lifetime : OperandLifetime}
    (other : lifetime ≠ .pointer) (free : lifetime ≠ .constantReference) {indexes : List UInt32}
    (lists : moved.Lists lifetime indexes) : subgraph.Lists lifetime indexes := by
  refine ⟨fun index listed => ?_, lists.distinct, ?_⟩
  · obtain ⟨moved, found, alive⟩ := lists.named index listed
    obtain ⟨operand, there, same⟩ := placed.exists_given found
    refine ⟨operand, there, ?_⟩
    exact (same.lifetime_eq_iff (valid operand (List.mem_of_getElem? there)) other free).mp alive
  · rw [← placed.countLifetime_eq valid other free, lists.complete]

theorem IsPlaced.isValid_of_moved (placed : subgraph.IsPlaced host builder moved)
    (valid : ∀ operand ∈ subgraph.operands, operand.IsValid model) (validMoved : moved.IsValid relocated) :
    subgraph.IsValid model := by
  have located : ∀ operand ∈ subgraph.operands, operand.HasValidLocation model := fun operand member =>
    (valid operand member).location
  refine ⟨valid, ?_, ?_, ?_⟩
  · rw [← placed.operations, placed.operands.length_eq]
    exact validMoved.operations
  · rw [← placed.inputIndexes]
    refine placed.lists_of_moved located ?_ ?_ validMoved.inputs <;> nofun
  · rw [← placed.outputIndexes]
    refine placed.lists_of_moved located ?_ ?_ validMoved.outputs <;> nofun

end Subgraph

namespace Model

/-- Operands with pointers are marked so, and no constant is in a pool that only relocation adds. -/
def IsUnambiguous (model : Model) : Prop :=
  ∀ subgraph ∈ model.subgraphs, ∀ operand ∈ subgraph.operands,
    operand.location.IsUnambiguous model.pools.length (!model.hasNoPointerData).toNat
      (operand.lifetime = .pointer) (operand.lifetime = .constantReference)

variable {host : HostMemory} {store later : FileStore} {model relocated : Model} {version : Version}

theorem validate_relocated_iff (clear : model.IsUnambiguous)
    (done : model.relocate host store = .ok (relocated, later)) :
    validate relocated = .ok version ↔ validate model = .ok version := by
  obtain ⟨builder, added, moved, count⟩ := isRelocated_of_relocate done
  refine ⟨fun validated => ?_, moved.validate_eq_ok⟩
  obtain ⟨valid, least⟩ := validate_eq_ok_iff.mp validated
  have subgraphs : ∀ subgraph ∈ model.subgraphs, subgraph.IsValid model := by
    intro subgraph given
    obtain ⟨other, listed, placed⟩ := exists_of_mem_forall₂ moved.subgraphs.flip given
    have validMoved := valid.subgraphs other listed
    refine placed.isValid_of_moved (fun operand member => ?_) validMoved
    obtain ⟨_, present, same⟩ := exists_of_mem_forall₂ placed.operands.flip member
    exact same.isValid_of_moved moved.toExtends (Nat.le_of_eq count) (clear subgraph given operand member)
      (validMoved.operands _ present)
  refine validate_eq_ok_iff.mpr ⟨⟨?_, subgraphs, ?_⟩, fun limit => ?_⟩
  · rw [← moved.vendors]
    exact valid.vendors
  · rw [← moved.isAcyclic_eq subgraphs]
    exact valid.acyclic
  · rw [least limit, moved.isKnownTo_iff subgraphs]

end Model

/-! Requests. -/

namespace MemoryPool

variable {start version : Version} {pools added : List MemoryPool}

private theorem newestVersion_of_memories (memories : ∀ pool ∈ added, ∃ memory, pool = .memory memory)
    (newest : newestVersion check start added = .ok version) : start = version := by
  induction added with
  | nil => exact pure_eq_ok_iff.mp newest
  | cons pool rest ih =>
    rw [List.forall_mem_cons] at memories
    obtain ⟨⟨memory, rfl⟩, others⟩ := memories
    obtain ⟨needed, checked, later⟩ := newestVersion_cons_eq_ok_iff.mp newest
    cases pure_eq_ok_iff.mp checked
    rw [Version.max_oldest] at later
    exact ih others later

/-- Without memories that were added, pools need the version they need with them. -/
private theorem newestVersion_of_append (memories : ∀ pool ∈ added, ∃ memory, pool = .memory memory)
    (newest : newestVersion check start (pools ++ added) = .ok version) :
    newestVersion check start pools = .ok version := by
  induction pools generalizing start with
  | nil => exact pure_eq_ok_iff.mpr (newestVersion_of_memories memories newest)
  | cons pool rest ih =>
    obtain ⟨needed, checked, later⟩ := newestVersion_cons_eq_ok_iff.mp newest
    exact newestVersion_cons_eq_ok_iff.mpr ⟨needed, checked, ih later⟩

end MemoryPool

namespace Argument

/-- An argument as it was if outside host memory, and any argument for one whose memory is long enough. -/
inductive IsCarried (argument : Argument) : Argument → Prop
  | kept (bare : argument.location.pointer = none) : IsCarried argument argument
  | moved {pointer : HostPointer} (present : argument.location.pointer = some pointer)
    (fits : argument.location.length.toNat ≤ pointer.size.toNat) (moved : Argument) :
    IsCarried argument moved

variable {argument moved : Argument}

private theorem isCarried_of_relocateInput {host : HostMemory} {builder later : ConstantBuilder}
    (done : (argument.relocateInput host).run builder = .ok (moved, later)) : argument.IsCarried moved := by
  unfold relocateInput StateT.run at done
  cases present : argument.location.pointer with
  | none =>
    simp only [present, pure_eq_ok_iff] at done
    obtain ⟨rfl, -⟩ := Prod.mk.inj done
    exact .kept present
  | some pointer =>
    simp only [present, bind_eq_ok_iff, HostPointer.read_eq_ok_iff] at done
    obtain ⟨_, ⟨fits, -⟩, -⟩ := done
    exact .moved present fits moved

private theorem isCarried_of_relocateOutput {builder later : OutputBuilder}
    (done : argument.relocateOutput.run builder = .ok (moved, later)) : argument.IsCarried moved := by
  obtain ⟨rfl, -, -, -, taken⟩ := relocateOutput_eq_ok done
  cases present : argument.location.pointer with
  | none =>
    rw [placeAt_of_not_isInHost (by simp [isInHost, present])]
    exact .kept present
  | some pointer => exact .moved present (taken pointer present).2 _

private theorem relocateInputs_of_bare {host : HostMemory} {inputs : List Argument}
    (bare : inputs.any isInHost = false) (builder : ConstantBuilder) :
    (inputs.mapM (relocateInput host)).run builder = .ok (inputs, builder) := by
  induction inputs with
  | nil => rfl
  | cons argument rest ih =>
    rw [List.any_cons, Bool.or_eq_false_iff] at bare
    have absent : argument.location.pointer = none := by simpa [isInHost] using bare.1
    have same : (argument.relocateInput host).run builder = .ok (argument, builder) := by
      unfold relocateInput StateT.run
      rw [absent]
      rfl
    exact mapM_run_cons_eq_ok_iff.mpr ⟨argument, builder, rest, same, ih bare.2, rfl⟩

theorem IsCarried.isValid_of_moved {pools added : List MemoryPool} {count : Nat}
    (carried : argument.IsCarried moved) (few : added.length ≤ count)
    (clear : argument.location.IsUnambiguous pools.length count (argument.lifetime = .pointer)
      (argument.lifetime = .pool))
    (valid : moved.IsValid (pools ++ added)) : argument.IsValid pools := by
  cases carried with
  | moved present fits =>
    unfold IsValid
    rw [clear.pointer (by rw [present]; rfl)]
    exact ⟨_, present, fits⟩
  | kept bare =>
    unfold IsValid at valid ⊢
    cases alive : argument.lifetime with
    | pool =>
      rw [alive] at valid
      obtain ⟨-, pool, found, inside⟩ := valid
      exact ⟨bare, pool, clear.getElem?_eq few alive found, inside⟩
    | noValue | pointer =>
      rw [alive] at valid
      exact valid

end Argument

namespace Request

/-- Number of pools that relocation adds: one for inputs and one for outputs, if they are in host memory. -/
def addedPools (request : Request) : Nat :=
  (request.inputs.any Argument.isInHost).toNat + (request.outputs.any Argument.isInHost).toNat

/-- Arguments with pointers are marked so, and none is in a pool that only relocation adds. -/
def IsUnambiguous (request : Request) : Prop :=
  ∀ argument ∈ request.inputs ++ request.outputs,
    argument.location.IsUnambiguous request.pools.length request.addedPools (argument.lifetime = .pointer)
      (argument.lifetime = .pool)

/-- What relocation makes of a request, whatever is in the buffers of the caller. -/
structure IsCarried (request relocated : Request) (added : List MemoryPool) : Prop where
  pools : relocated.pools = request.pools ++ added
  memories : ∀ pool ∈ added, ∃ memory, pool = .memory memory
  count : added.length ≤ request.addedPools
  inputs : List.Forall₂ Argument.IsCarried request.inputs relocated.inputs
  outputs : List.Forall₂ Argument.IsCarried request.outputs relocated.outputs

variable {host : HostMemory} {store later : FileStore} {request relocated : Request} {version : Version}

private theorem isCarried_of_hasNoPointerData (bare : request.hasNoPointerData = true) :
    request.IsCarried request [] where
  pools := (List.append_nil _).symm
  memories := nofun
  count := Nat.zero_le _
  inputs := List.forall₂_same.mpr fun input member =>
    .kept (by simpa using hasNoPointerData_iff.mp bare input (List.mem_append_left _ member))
  outputs := List.forall₂_same.mpr fun output member =>
    .kept (by simpa using hasNoPointerData_iff.mp bare output (List.mem_append_right _ member))

private theorem exists_isCarried (done : request.relocate host store = .ok (relocated, later)) :
    ∃ added, request.IsCarried relocated added := by
  cases bare : request.hasNoPointerData with
  | true =>
    rw [relocate_of_hasNoPointerData bare] at done
    cases done
    exact ⟨[], isCarried_of_hasNoPointerData bare⟩
  | false =>
    obtain ⟨inputPool, inputs, constants, pools, middle, outputPool, outputs, regions, allPools, counted,
      copied, filled, recounted, reserved, zeroed, rfl⟩ := (relocate_eq_ok_iff bare).mp done
    obtain ⟨few, -⟩ := nextPoolIndex_eq_ok_iff.mp counted
    obtain ⟨stillFew, -⟩ := nextPoolIndex_eq_ok_iff.mp recounted
    obtain ⟨-, inputPools, rfl, inputAdded⟩ := ConstantBuilder.appendTo_eq_ok few filled
    obtain ⟨-, outputPools, rfl, outputAdded⟩ := OutputBuilder.appendTo_eq_ok stillFew zeroed
    have someInput : (!constants.isEmpty).toNat ≤ (request.inputs.any Argument.isInHost).toNat := by
      cases bare : request.inputs.any Argument.isInHost with
      | true => exact Bool.toNat_le _
      | false =>
        rw [Argument.relocateInputs_of_bare bare] at copied
        cases copied
        exact Nat.le_refl _
    have someOutput : (!regions.isEmpty) = request.outputs.any Argument.isInHost := by
      obtain ⟨-, -, -, spaced, -⟩ := Argument.relocateOutputs_eq_ok reserved
      rw [OutputBuilder.isEmpty, spaced, OutputBuilder.new, Nat.zero_add, Argument.countP_beq_zero]
    refine ⟨inputPools ++ outputPools, by simp, ?_, ?_, ?_, ?_⟩
    · intro pool member
      rcases List.mem_append.mp member with input | output
      · obtain ⟨memory, same, -⟩ := inputAdded.exists_memory input
        exact ⟨memory, same⟩
      · obtain ⟨memory, same, -⟩ := outputAdded.exists_memory output
        exact ⟨memory, same⟩
    · rw [List.length_append, inputAdded.length_eq, outputAdded.length_eq, someOutput]
      exact Nat.add_le_add_right someInput _
    · exact forall₂_of_mapM_run Argument.isCarried_of_relocateInput copied
    · exact forall₂_of_mapM_run Argument.isCarried_of_relocateOutput reserved

theorem validate_of_relocated (clear : request.IsUnambiguous)
    (done : request.relocate host store = .ok (relocated, later))
    (validated : validate relocated = .ok version) : validate request = .ok version := by
  obtain ⟨added, carried⟩ := exists_isCarried done
  obtain ⟨newest, inputs, outputs⟩ := validate_request_eq_ok_iff.mp validated
  rw [carried.pools] at newest inputs outputs
  refine validate_request_eq_ok_iff.mpr ⟨MemoryPool.newestVersion_of_append carried.memories newest, ?_, ?_⟩
  · intro input member
    obtain ⟨moved, present, same⟩ := exists_of_mem_forall₂ carried.inputs.flip member
    exact same.isValid_of_moved carried.count (clear input (List.mem_append_left _ member))
      (inputs moved present)
  · intro output member
    obtain ⟨moved, present, same⟩ := exists_of_mem_forall₂ carried.outputs.flip member
    exact same.isValid_of_moved carried.count (clear output (List.mem_append_right _ member))
      (outputs moved present)

end Request

end NeuralDevice
