import NeuralDevice.Proofs.Validation.Model
import NeuralDevice.Proofs.Validation.Request

/-!
What validation guarantees about data. Main statement: a model or request is valid exactly if all that it refers
to is there and every region ends inside what it lies in, and the parts that are not about locations are valid.
Ends of regions are sums of natural numbers, so no region wraps around.
-/

namespace NeuralDevice

open Result

/-- The operand's data is where its lifetime says, and nowhere else. -/
structure Operand.IsResolvable (model : Model) (operand : Operand) : Prop where
  copied : operand.lifetime = .constantCopy →
    operand.location.poolIndex = 0 ∧ operand.location.stop ≤ model.operandValues.length
  pooled : operand.lifetime = .constantReference →
    ∃ pool, model.pools[operand.location.poolIndex.toNat]? = some pool ∧
      operand.location.stop ≤ pool.size.toNat
  pointed : operand.lifetime = .pointer →
    ∃ pointer, operand.location.pointer = some pointer ∧
      operand.location.length.toNat ≤ pointer.size.toNat
  nested : operand.lifetime = .subgraph →
    operand.type = .builtin .subgraph ∧
      ∃ subgraph, model.referenced[operand.location.offset.toNat]? = some subgraph
  bare : operand.lifetime ≠ .pointer → operand.location.pointer = none
  absent : operand.lifetime ∈ [.temporaryVariable, .subgraphInput, .subgraphOutput, .noValue] →
    operand.location = .empty

/-- All that operands and operations of a model refer to is there. -/
structure Model.IsResolvable (model : Model) : Prop where
  operands : ∀ subgraph ∈ model.subgraphs, ∀ operand ∈ subgraph.operands, operand.IsResolvable model
  operations : ∀ subgraph ∈ model.subgraphs, ∀ operation ∈ subgraph.operations,
    ∀ index ∈ operation.inputs ++ operation.outputs,
      ∃ operand, subgraph.operands[index.toNat]? = some operand

/-- What an operand must satisfy wherever its data is. -/
structure Operand.IsWellTyped (model : Model) (operand : Operand) : Prop where
  type : operand.HasDeclaredType model
  quantization : operand.hasValidQuantization = true
  extraParams : operand.HasValidExtraParams

/-- What a model must satisfy wherever its data is. -/
structure Model.IsWellFormed (model : Model) : Prop where
  vendors : checkVendors [] model.vendors = .ok ()
  operands : ∀ subgraph ∈ model.subgraphs, ∀ operand ∈ subgraph.operands, operand.IsWellTyped model
  inputs : ∀ subgraph ∈ model.subgraphs, subgraph.Lists .subgraphInput subgraph.inputIndexes
  outputs : ∀ subgraph ∈ model.subgraphs, subgraph.Lists .subgraphOutput subgraph.outputIndexes
  acyclic : model.isAcyclic = true

/-- The argument's data is where its lifetime says, and nowhere else. The size of a token's memory is not known. -/
structure Argument.IsResolvable (pools : List MemoryPool) (argument : Argument) : Prop where
  pooled : argument.lifetime = .pool →
    ∃ pool, pools[argument.location.poolIndex.toNat]? = some pool ∧
      ∀ memory, pool = .memory memory → argument.location.stop ≤ memory.size.toNat
  pointed : argument.lifetime = .pointer →
    ∃ pointer, argument.location.pointer = some pointer ∧
      argument.location.length.toNat ≤ pointer.size.toNat
  bare : argument.lifetime ≠ .pointer → argument.location.pointer = none
  absent : argument.lifetime = .noValue → argument.location = .empty ∧ argument.dimensions = []

def Request.IsResolvable (request : Request) : Prop :=
  ∀ argument ∈ request.inputs ++ request.outputs, argument.IsResolvable request.pools

def Request.IsWellFormed (request : Request) : Prop := .token 0 ∉ request.pools

theorem exists_getElem?_iff {α : Type} {values : List α} {index : Nat} :
    (∃ value, values[index]? = some value) ↔ index < values.length := by
  simp [List.getElem?_eq_some_iff]

theorem Operand.isResolvable_iff {model : Model} {operand : Operand} :
    operand.IsResolvable model ↔ operand.HasValidLocation model := by
  constructor
  · intro resolvable
    unfold HasValidLocation
    cases alive : operand.lifetime with
    | constantCopy => exact ⟨resolvable.bare (by simp [alive]), resolvable.copied alive⟩
    | constantReference => exact ⟨resolvable.bare (by simp [alive]), resolvable.pooled alive⟩
    | pointer => exact resolvable.pointed alive
    | subgraph =>
      obtain ⟨typed, named⟩ := resolvable.nested alive
      exact ⟨resolvable.bare (by simp [alive]), typed, exists_getElem?_iff.mp named⟩
    | temporaryVariable | subgraphInput | subgraphOutput | noValue =>
      exact resolvable.absent (by simp [alive])
  · intro placed
    have inHost := placed.isSome_pointer_iff
    unfold HasValidLocation at placed
    refine ⟨fun alive => ?copied, fun alive => ?pooled, fun alive => ?pointed, fun alive => ?nested,
      fun elsewhere => ?bare, fun without => ?absent⟩
    case copied | pooled =>
      rw [alive] at placed
      exact placed.2
    case pointed =>
      rw [alive] at placed
      exact placed
    case nested =>
      rw [alive] at placed
      obtain ⟨-, typed, inside⟩ := placed
      exact ⟨typed, exists_getElem?_iff.mpr inside⟩
    case bare => exact Option.not_isSome_iff_eq_none.mp fun present => elsewhere (inHost.mp present)
    case absent =>
      simp only [List.mem_cons, List.not_mem_nil, or_false] at without
      rcases without with alive | alive | alive | alive <;>
      · rw [alive] at placed
        exact placed

theorem Argument.isResolvable_iff {pools : List MemoryPool} {argument : Argument} :
    argument.IsResolvable pools ↔ argument.IsValid pools := by
  constructor
  · intro resolvable
    unfold IsValid
    cases alive : argument.lifetime with
    | pool => exact ⟨resolvable.bare (by simp [alive]), resolvable.pooled alive⟩
    | noValue => exact resolvable.absent alive
    | pointer => exact resolvable.pointed alive
  · intro valid
    have inHost := valid.isInHost_iff
    unfold IsValid at valid
    refine ⟨fun alive => ?pooled, fun alive => ?pointed, fun elsewhere => ?bare, fun alive => ?absent⟩
    case pooled =>
      rw [alive] at valid
      exact valid.2
    case pointed | absent =>
      rw [alive] at valid
      exact valid
    case bare => exact Option.not_isSome_iff_eq_none.mp fun present => elsewhere (inHost.mp present)

private theorem Model.isValid_iff {model : Model} :
    model.IsValid ↔ model.IsWellFormed ∧ model.IsResolvable := by
  constructor
  · intro valid
    have operands := fun subgraph member => (valid.subgraphs subgraph member).operands
    refine ⟨⟨valid.vendors, fun subgraph member operand present => ?_, fun subgraph member => ?_,
      fun subgraph member => ?_, valid.acyclic⟩, fun subgraph member operand present => ?_,
      fun subgraph member operation performed index named => ?_⟩
    · have typed := operands subgraph member operand present
      exact ⟨typed.type, typed.quantization, typed.extraParams⟩
    · exact (valid.subgraphs subgraph member).inputs
    · exact (valid.subgraphs subgraph member).outputs
    · exact Operand.isResolvable_iff.mpr (operands subgraph member operand present).location
    · have inside := (valid.subgraphs subgraph member).operations operation performed index named
      exact exists_getElem?_iff.mpr inside
  · intro both
    rcases both with ⟨formed, resolvable⟩
    refine ⟨formed.vendors, fun subgraph member => ⟨fun operand present => ?_, ?_,
      formed.inputs subgraph member, formed.outputs subgraph member⟩, formed.acyclic⟩
    · have typed := formed.operands subgraph member operand present
      have placed := Operand.isResolvable_iff.mp (resolvable.operands subgraph member operand present)
      exact ⟨typed.type, typed.quantization, typed.extraParams, placed⟩
    · intro operation performed index named
      exact exists_getElem?_iff.mp (resolvable.operations subgraph member operation performed index named)

private theorem exists_newestVersion_pools_iff {pools : List MemoryPool} :
    (∃ version, newestVersion MemoryPool.check .v1_0 pools = .ok version) ↔ .token 0 ∉ pools := by
  rw [exists_newestVersion_iff]
  constructor
  · intro each zero
    obtain ⟨version, passed⟩ := each _ zero
    cases passed
  · intro named pool member
    cases pool with
    | memory memory => exact ⟨.v1_0, rfl⟩
    | token number =>
      have real : number ≠ 0 := fun zero => named (zero ▸ member)
      exact ⟨.v1_3, by simp [MemoryPool.check, real, pure_eq_ok_iff]⟩

/-- Validation lets through exactly the models and requests whose data can be found, among those that are well
formed otherwise: it accepts no region that leaves what it lies in and nothing that names what is not there, and
refuses nothing else on account of a location. -/
theorem validation_admits_resolvable :
    (∀ model : Model, (∃ version, validate model = .ok version) ↔
      model.IsWellFormed ∧ model.IsResolvable) ∧
    ∀ request : Request, (∃ version, validate request = .ok version) ↔
      request.IsWellFormed ∧ request.IsResolvable := by
  constructor
  · intro model
    exact Model.checks.passes_iff.trans Model.isValid_iff
  · intro request
    unfold Request.IsWellFormed Request.IsResolvable
    simp only [validate_request_eq_ok_iff, exists_and_right, exists_newestVersion_pools_iff,
      Argument.isResolvable_iff, List.forall_mem_append]

end NeuralDevice
