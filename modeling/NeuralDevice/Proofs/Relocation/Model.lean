import NeuralDevice.Proofs.Relocation.Operand
import NeuralDevice.Proofs.Validation.Model

/-!
Why relocation preserves what a model means. Operands keep their order and, unless they were in host memory,
stay what they were, so indexes, references between subgraphs and the required version stay the same.
-/

namespace NeuralDevice

open Result

namespace Subgraph

/-- A subgraph with each operand placed and everything else kept. -/
structure IsPlaced (host : HostMemory) (builder : ConstantBuilder) (subgraph moved : Subgraph) : Prop where
  operands : List.Forall₂ (Operand.IsPlaced host builder) subgraph.operands moved.operands
  operations : moved.operations = subgraph.operations
  inputIndexes : moved.inputIndexes = subgraph.inputIndexes
  outputIndexes : moved.outputIndexes = subgraph.outputIndexes

variable {host : HostMemory} {builder later : ConstantBuilder} {model : Model} {subgraph moved : Subgraph}

theorem IsPlaced.grow (grown : builder.Grows later) (placed : subgraph.IsPlaced host builder moved) :
    subgraph.IsPlaced host later moved :=
  ⟨placed.operands.imp fun _ _ => .grow grown, placed.operations, placed.inputIndexes, placed.outputIndexes⟩

theorem relocate_eq_ok (done : (subgraph.relocate host).run builder = .ok (moved, later)) :
    builder.Grows later ∧ subgraph.IsPlaced host later moved := by
  simp only [relocate, StateT.run_bind, StateT.run_pure, bind_eq_ok_iff, pure_eq_ok_iff] at done
  obtain ⟨⟨operands, last⟩, each, same⟩ := done
  obtain ⟨rfl, rfl⟩ := Prod.mk.inj same
  have placed : builder.Grows last ∧
      List.Forall₂ (Operand.IsPlaced host last) subgraph.operands operands :=
    mapM_run_eq_ok .refl .trans .grow Operand.relocate_eq_ok each
  exact ⟨placed.1, placed.2, rfl, rfl, rfl⟩

private theorem IsPlaced.exists_operand (placed : subgraph.IsPlaced host builder moved) {index : Nat}
    {operand : Operand} (found : subgraph.operands[index]? = some operand) :
    ∃ other, moved.operands[index]? = some other ∧ operand.IsPlaced host builder other := by
  obtain ⟨inside, rfl⟩ := List.getElem?_eq_some_iff.mp found
  have there : index < moved.operands.length := placed.operands.length_eq ▸ inside
  exact ⟨moved.operands[index], List.getElem?_eq_getElem there, placed.operands.get inside there⟩

section Locations

variable (valid : ∀ operand ∈ subgraph.operands, operand.HasValidLocation model)

include valid in
theorem IsPlaced.countLifetime_eq (placed : subgraph.IsPlaced host builder moved) {lifetime : OperandLifetime}
    (other : lifetime ≠ .pointer) (free : lifetime ≠ .constantReference) :
    moved.countLifetime lifetime = subgraph.countLifetime lifetime := by
  have both := (List.forall₂_and_left _ _).mpr ⟨valid, placed.operands⟩
  unfold countLifetime
  generalize subgraph.operands = operands at both ⊢
  generalize moved.operands = others at both ⊢
  induction both with
  | nil => rfl
  | cons head _ ih =>
    simp only [List.countP_cons, ih, decide_eq_true_eq, head.2.lifetime_eq_iff head.1 other free]

include valid in
private theorem IsPlaced.references_eq (placed : subgraph.IsPlaced host builder moved) :
    moved.references = subgraph.references := by
  have both := (List.forall₂_and_left _ _).mpr ⟨valid, placed.operands⟩
  unfold references
  generalize subgraph.operands = operands at both ⊢
  generalize moved.operands = others at both ⊢
  induction both with
  | nil => rfl
  | @cons operand other _ _ head _ ih =>
    rcases head with ⟨located, head⟩
    have same : other.lifetime = .subgraph ↔ operand.lifetime = .subgraph :=
      head.lifetime_eq_iff located nofun nofun
    by_cases alive : operand.lifetime = .subgraph
    · obtain rfl := head.eq_of_lifetime located (by rw [alive]; nofun)
      rw [List.filter_cons_of_pos (by simpa using alive), List.filter_cons_of_pos (by simpa using alive),
        List.map_cons, List.map_cons, ih]
    · rw [List.filter_cons_of_neg (by simpa [same] using alive),
        List.filter_cons_of_neg (by simpa using alive), ih]

include valid in
theorem IsPlaced.lists (placed : subgraph.IsPlaced host builder moved) {lifetime : OperandLifetime}
    (other : lifetime ≠ .pointer) (free : lifetime ≠ .constantReference) {indexes : List UInt32}
    (lists : subgraph.Lists lifetime indexes) : moved.Lists lifetime indexes := by
  refine ⟨fun index listed => ?_, lists.distinct, ?_⟩
  · obtain ⟨operand, found, alive⟩ := lists.named index listed
    obtain ⟨moved, there, same⟩ := placed.exists_operand found
    refine ⟨moved, there, ?_⟩
    exact (same.lifetime_eq_iff (valid operand (List.mem_of_getElem? found)) other free).mpr alive
  · rw [placed.countLifetime_eq valid other free, lists.complete]

end Locations

theorem IsPlaced.isValid {store later : FileStore} {relocated : Model} {added : List Memory}
    (placed : subgraph.IsPlaced host builder moved)
    (extended : Model.Extends store later builder model relocated added)
    (valid : subgraph.IsValid model) : moved.IsValid relocated := by
  have located : ∀ operand ∈ subgraph.operands, operand.HasValidLocation model := fun operand member =>
    (valid.operands operand member).location
  refine ⟨fun other member => ?_, ?_, ?_, ?_⟩
  · obtain ⟨operand, given, same⟩ := exists_of_mem_forall₂ placed.operands member
    exact same.isValid extended (valid.operands operand given)
  · rw [placed.operations, ← placed.operands.length_eq]
    exact valid.operations
  · rw [placed.inputIndexes]
    refine placed.lists located ?_ ?_ valid.inputs <;> nofun
  · rw [placed.outputIndexes]
    refine placed.lists located ?_ ?_ valid.outputs <;> nofun

/-- Every version knows as much of a relocated subgraph as of the given one. -/
theorem IsPlaced.isKnownTo_iff (placed : subgraph.IsPlaced host builder moved)
    (valid : subgraph.IsValid model) {limit : Version} : moved.IsKnownTo limit ↔ subgraph.IsKnownTo limit := by
  constructor
  · intro known
    refine ⟨fun operand member => ?_, placed.operations ▸ known.operations⟩
    obtain ⟨other, listed, same⟩ := exists_of_mem_forall₂ placed.operands.flip member
    rw [← same.version_eq (valid.operands operand member).location]
    exact known.operands other listed
  · intro known
    refine ⟨fun other listed => ?_, placed.operations ▸ known.operations⟩
    obtain ⟨operand, member, same⟩ := exists_of_mem_forall₂ placed.operands listed
    rw [same.version_eq (valid.operands operand member).location]
    exact known.operands operand member

end Subgraph

namespace Model

private theorem isAcyclic_congr {first second : Model}
    (same : first.subgraphs.map Subgraph.references = second.subgraphs.map Subgraph.references) :
    first.isAcyclic = second.isAcyclic := by
  have count : first.referenced.length = second.referenced.length := by
    simpa [subgraphs] using congrArg List.length same
  have graph : first.referenceGraph = second.referenceGraph := by
    unfold referenceGraph
    dsimp only
    rw [same, count]
  rw [isAcyclic, isAcyclic, graph]

/-- How a model is relocated: each operand is placed, and one pool is new if anything was appended to it. -/
structure IsRelocated (host : HostMemory) (store later : FileStore) (builder : ConstantBuilder)
    (model relocated : Model) (added : List Memory) : Prop
    extends Model.Extends store later builder model relocated added where
  subgraphs : List.Forall₂ (Subgraph.IsPlaced host builder) model.subgraphs relocated.subgraphs
  relaxed : relocated.relaxFloat32 = model.relaxFloat32

variable {host : HostMemory} {store later : FileStore} {builder : ConstantBuilder}
  {model relocated : Model} {added : List Memory}

theorem relocate_of_hasNoPointerData (bare : model.hasNoPointerData = true) :
    model.relocate host store = .ok (model, store) := by
  simp [relocate, bare, pure, Except.pure]

theorem IsRelocated.hasNoPointerData
    (moved : model.IsRelocated host store later builder relocated added) :
    relocated.hasNoPointerData = true := by
  rw [hasNoPointerData_iff]
  intro other listed operand member
  obtain ⟨subgraph, -, placed⟩ := exists_of_mem_forall₂ moved.subgraphs listed
  obtain ⟨_, -, same⟩ := exists_of_mem_forall₂ placed.operands member
  exact same.pointer_eq_none

private theorem hasNoPointerData_of_regions {subgraphs : List Subgraph}
    (placed : List.Forall₂ (Subgraph.IsPlaced host builder) model.subgraphs subgraphs)
    (empty : builder.regions = 0) : model.hasNoPointerData = true := by
  rw [hasNoPointerData_iff]
  intro subgraph listed operand member
  obtain ⟨_, -, placed⟩ := exists_of_mem_forall₂ placed.flip listed
  obtain ⟨_, -, same⟩ := exists_of_mem_forall₂ placed.operands.flip member
  exact same.pointer_eq_none_of_regions empty

theorem isRelocated_of_hasNoPointerData (bare : model.hasNoPointerData = true) :
    model.IsRelocated host store store (.new 0) model [] where
  values := rfl
  vendors := rfl
  count := rfl
  pools := (List.append_nil _).symm
  kept := .refl store
  constants := .nothing rfl
  subgraphs := by
    rw [hasNoPointerData_iff] at bare
    refine List.forall₂_same.mpr fun subgraph listed => ⟨?_, rfl, rfl, rfl⟩
    exact List.forall₂_same.mpr fun operand member => .kept (bare subgraph listed operand member)
  relaxed := rfl

/-- Relocation places all operands, and adds a pool exactly if one of them was in host memory. -/
theorem isRelocated_of_relocate (done : model.relocate host store = .ok (relocated, later)) :
    ∃ builder added, model.IsRelocated host store later builder relocated added ∧
      added.length = (!model.hasNoPointerData).toNat := by
  cases bare : model.hasNoPointerData with
  | true =>
    rw [relocate_of_hasNoPointerData bare] at done
    cases done
    exact ⟨_, _, isRelocated_of_hasNoPointerData bare, rfl⟩
  | false =>
    simp only [relocate, bare, Bool.false_eq_true, if_false, bind_eq_ok_iff] at done
    obtain ⟨index, counted, ⟨main, middle⟩, first, ⟨referenced, builder⟩, others, finished⟩ := done
    obtain ⟨few, rfl⟩ := nextPoolIndex_eq_ok_iff.mp counted
    obtain ⟨grown, placedMain⟩ := Subgraph.relocate_eq_ok first
    have rest : middle.Grows builder ∧
        List.Forall₂ (Subgraph.IsPlaced host builder) model.referenced referenced :=
      mapM_run_eq_ok .refl .trans .grow Subgraph.relocate_eq_ok others
    have placed : List.Forall₂ (Subgraph.IsPlaced host builder) model.subgraphs (main :: referenced) :=
      .cons (placedMain.grow rest.1) rest.2
    have index : builder.poolIndex.toNat = model.pools.length := by
      rw [rest.1.poolIndex, grown.poolIndex]
      exact UInt32.toNat_ofNat_of_lt' few
    have filled : builder.isEmpty = false := by
      refine beq_eq_false_iff_ne.mpr fun empty => ?_
      rw [hasNoPointerData_of_regions placed empty] at bare
      cases bare
    simp only [filled, Bool.false_eq_true, if_false, bind_eq_ok_iff, pure_eq_ok_iff] at finished
    obtain ⟨⟨memory, last⟩, made, same⟩ := finished
    obtain ⟨rfl, rfl⟩ := Prod.mk.inj same
    obtain ⟨kept, pool, rfl⟩ := ConstantBuilder.finish_eq_ok made
    exact ⟨builder, _, ⟨⟨rfl, rfl, rest.2.length_eq.symm, rfl, kept, .one pool index⟩, placed, rfl⟩, rfl⟩

theorem IsRelocated.forall₂_isValid (moved : model.IsRelocated host store later builder relocated added)
    (valid : ∀ subgraph ∈ model.subgraphs, subgraph.IsValid model) :
    List.Forall₂ (fun subgraph other => subgraph.IsValid model ∧ subgraph.IsPlaced host builder other)
      model.subgraphs relocated.subgraphs :=
  (List.forall₂_and_left _ _).mpr ⟨valid, moved.subgraphs⟩

theorem IsRelocated.isAcyclic_eq (moved : model.IsRelocated host store later builder relocated added)
    (valid : ∀ subgraph ∈ model.subgraphs, subgraph.IsValid model) :
    relocated.isAcyclic = model.isAcyclic := by
  have same : List.Forall₂ (fun subgraph other => Subgraph.references other = Subgraph.references subgraph)
      model.subgraphs relocated.subgraphs := by
    refine (moved.forall₂_isValid valid).imp fun subgraph other both => ?_
    exact both.2.references_eq fun operand member => (both.1.operands operand member).location
  refine isAcyclic_congr ?_
  rw [← List.forall₂_eq_eq_eq, List.forall₂_map_left_iff, List.forall₂_map_right_iff]
  exact same.flip

theorem IsRelocated.isKnownTo_iff (moved : model.IsRelocated host store later builder relocated added)
    (valid : ∀ subgraph ∈ model.subgraphs, subgraph.IsValid model) {limit : Version} :
    relocated.IsKnownTo limit ↔ model.IsKnownTo limit := by
  have each := moved.forall₂_isValid valid
  have referenced : relocated.referenced = [] ↔ model.referenced = [] := by
    rw [← List.length_eq_zero_iff, moved.count, List.length_eq_zero_iff]
  constructor
  · intro known
    refine ⟨moved.vendors ▸ known.vendors, moved.relaxed ▸ known.relaxed,
      known.referenced.imp_left referenced.mp, fun subgraph given => ?_⟩
    obtain ⟨other, listed, valid, placed⟩ := exists_of_mem_forall₂ each.flip given
    exact (placed.isKnownTo_iff valid).mp (known.subgraphs other listed)
  · intro known
    refine ⟨moved.vendors ▸ known.vendors, moved.relaxed ▸ known.relaxed,
      known.referenced.imp_left referenced.mpr, fun other listed => ?_⟩
    obtain ⟨subgraph, given, valid, placed⟩ := exists_of_mem_forall₂ each listed
    exact (placed.isKnownTo_iff valid).mpr (known.subgraphs subgraph given)

theorem IsRelocated.validate_eq_ok (moved : model.IsRelocated host store later builder relocated added)
    {version : Version} (validated : validate model = .ok version) : validate relocated = .ok version := by
  obtain ⟨valid, least⟩ := validate_eq_ok_iff.mp validated
  refine validate_eq_ok_iff.mpr ⟨⟨?_, fun other listed => ?_, ?_⟩, fun limit => ?_⟩
  · rw [moved.vendors]
    exact valid.vendors
  · obtain ⟨subgraph, given, placed⟩ := exists_of_mem_forall₂ moved.subgraphs listed
    exact placed.isValid moved.toExtends (valid.subgraphs subgraph given)
  · rw [moved.isAcyclic_eq valid.subgraphs]
    exact valid.acyclic
  · rw [least limit, moved.isKnownTo_iff valid.subgraphs]

end Model

/-- An operand after relocation: only its lifetime and its location may differ, and its data is the same. -/
structure Operand.KeepsMeaning (host : HostMemory) (store later : FileStore) (model relocated : Model)
    (operand moved : Operand) : Prop where
  rest : moved = { operand with lifetime := moved.lifetime, location := moved.location }
  outside : operand.location.pointer = none → moved = operand
  constant : ∀ bytes, operand.constant? host store model = some bytes →
    ∀ otherHost, moved.constant? otherHost later relocated = some bytes
  constant_of_open : model.HasOpenPools store →
    ∀ otherHost, moved.constant? otherHost later relocated = operand.constant? host store model

/-- A subgraph after relocation. -/
structure Subgraph.KeepsMeaning (host : HostMemory) (store later : FileStore) (model relocated : Model)
    (subgraph moved : Subgraph) : Prop where
  operands : List.Forall₂ (Operand.KeepsMeaning host store later model relocated) subgraph.operands
    moved.operands
  operations : moved.operations = subgraph.operations
  inputIndexes : moved.inputIndexes = subgraph.inputIndexes
  outputIndexes : moved.outputIndexes = subgraph.outputIndexes

/-- With all descriptors open, the constants of a relocated subgraph are those of the given one. -/
theorem Subgraph.KeepsMeaning.map_constant?_eq {host : HostMemory} {store later : FileStore}
    {model relocated : Model} {subgraph moved : Subgraph}
    (kept : subgraph.KeepsMeaning host store later model relocated moved) (opened : model.HasOpenPools store)
    (otherHost : HostMemory) :
    moved.operands.map (Operand.constant? otherHost later relocated) =
      subgraph.operands.map (Operand.constant? host store model) := by
  rw [← List.forall₂_eq_eq_eq, List.forall₂_map_left_iff, List.forall₂_map_right_iff]
  exact (kept.operands.imp fun _ _ same => same.constant_of_open opened otherHost).flip

namespace Model

variable {host : HostMemory} {store later : FileStore} {builder : ConstantBuilder}
  {model relocated : Model} {added : List Memory} {version : Version}

private theorem IsRelocated.keepsMeaning (moved : model.IsRelocated host store later builder relocated added)
    (valid : model.IsValid) :
    List.Forall₂ (Subgraph.KeepsMeaning host store later model relocated) model.subgraphs
      relocated.subgraphs := by
  refine (moved.forall₂_isValid valid.subgraphs).imp fun subgraph other both => ?_
  refine ⟨?_, both.2.operations, both.2.inputIndexes, both.2.outputIndexes⟩
  have each := (List.forall₂_and_left _ _).mpr ⟨both.1.operands, both.2.operands⟩
  refine each.imp fun operand placed pair => ?_
  have located := pair.1.location
  exact ⟨pair.2.eq_with, fun bare => pair.2.eq_of_lifetime located (located.lifetime_ne_pointer bare),
    fun _ resolved => pair.2.constant?_eq_some moved.toExtends located resolved,
    fun opened => pair.2.constant?_eq_of_open moved.toExtends located opened⟩

/-- Relocation takes the constants of a valid model out of host memory and changes nothing that the model
means: every constant has the bytes it had, everything else about operands, operations and subgraphs is the same,
and the same versions know the model. One pool is added exactly if some constant was in host memory. -/
theorem relocation_keeps_meaning (validated : validate model = .ok version)
    (done : model.relocate host store = .ok (relocated, later)) :
    relocated.hasNoPointerData = true ∧
      validate relocated = .ok version ∧
      List.Forall₂ (Subgraph.KeepsMeaning host store later model relocated) model.subgraphs
        relocated.subgraphs ∧
      relocated.operandValues = model.operandValues ∧
      relocated.relaxFloat32 = model.relaxFloat32 ∧
      relocated.vendors = model.vendors ∧
      (∃ added, relocated.pools = model.pools ++ added ∧
        added.length = (!model.hasNoPointerData).toNat) ∧
      store.IsKept later ∧
      (model.hasNoPointerData = true → relocated = model ∧ later = store) ∧
      ∀ (otherHost : HostMemory) (otherStore : FileStore),
        relocated.relocate otherHost otherStore = .ok (relocated, otherStore) := by
  obtain ⟨builder, added, moved, count⟩ := isRelocated_of_relocate done
  have bare := moved.hasNoPointerData
  refine ⟨bare, moved.validate_eq_ok validated, moved.keepsMeaning (validate_eq_ok_iff.mp validated).1,
    moved.values, moved.relaxed, moved.vendors, ⟨added, moved.pools, count⟩, moved.kept, fun given => ?_,
    fun _ _ => relocate_of_hasNoPointerData bare⟩
  rw [relocate_of_hasNoPointerData given] at done
  cases done
  exact ⟨rfl, rfl⟩

/-- Constants in host memory in two subgraphs, one of them without bytes. -/
def spread : Model where
  main :=
    ⟨[⟨.builtin .tensorFloat32, [2], .zero, 0, .subgraphInput, .empty, .none⟩,
      ⟨.builtin .tensorFloat32, [3], .zero, 0, .pointer, ⟨some ⟨0, 0, 3, false⟩, 0, 0, 3⟩, .none⟩,
      ⟨.builtin .tensorFloat32, [2], .zero, 0, .constantCopy, .inPool 0 1 2, .none⟩,
      ⟨.builtin .subgraph, [], .zero, 0, .subgraph, .empty, .none⟩], [], [0], []⟩
  referenced :=
    [⟨[⟨.builtin .tensorFloat32, [0], .zero, 0, .pointer, ⟨some ⟨0, 0, 3, false⟩, 0, 0, 0⟩, .none⟩,
      ⟨.builtin .tensorFloat32, [2], .zero, 0, .pointer, ⟨some ⟨1, 0, 2, false⟩, 0, 0, 2⟩, .none⟩], [], [], []⟩]
  operandValues := [9, 8, 7]
  pools := []
  relaxFloat32 := false
  vendors := []

def spreadHost : HostMemory := ⟨[[1, 2, 3], [4, 5]]⟩

/-- One pool takes the constants of both subgraphs, and each is found there. -/
theorem spread_is_gathered :
    ∃ relocated later first second, spread.relocate spreadHost .empty = .ok (relocated, later) ∧
      validate relocated = .ok .v1_3 ∧ relocated.pools.length = 1 ∧
      relocated.subgraphs = [first, second] ∧
      first.operands.map (Operand.constant? ⟨[]⟩ later relocated) =
        [none, some [1, 2, 3], some [8, 7], none] ∧
      second.operands.map (Operand.constant? ⟨[]⟩ later relocated) = [some [], some [4, 5]] := by
  obtain ⟨-, valid, meaning, -, -, -, ⟨added, pools, count⟩, -⟩ :=
    relocation_keeps_meaning (rfl : validate spread = .ok .v1_3)
      (rfl : spread.relocate spreadHost .empty = .ok (_, _))
  have opened : spread.HasOpenPools .empty := nofun
  obtain ⟨main, referenced⟩ := List.forall₂_cons.mp meaning
  have other := (List.forall₂_cons.mp referenced).1
  refine ⟨_, _, _, _, rfl, valid, ?_, rfl, main.map_constant?_eq opened ⟨[]⟩,
    other.map_constant?_eq opened ⟨[]⟩⟩
  rw [pools, List.length_append, count]
  rfl

end Model

end NeuralDevice
