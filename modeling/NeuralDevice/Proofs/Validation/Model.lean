import NeuralDevice.Proofs.Validation.Operand
import NeuralDevice.Validation.Model

/-!
What makes a model valid, and which versions know it. A model is valid if all its parts are, and a version knows
it if it knows every type, parameter, lifetime and setting that the model uses.
-/

namespace NeuralDevice

open Result

namespace Subgraph

/-- The list names every operand with the lifetime once and nothing else. -/
structure Lists (subgraph : Subgraph) (lifetime : OperandLifetime) (indexes : List UInt32) : Prop where
  named : ∀ index ∈ indexes, ∃ operand,
    subgraph.operands[index.toNat]? = some operand ∧ operand.lifetime = lifetime
  distinct : indexes.Nodup
  complete : subgraph.countLifetime lifetime = indexes.length

/-- What a subgraph of a model must satisfy. -/
structure IsValid (model : Model) (subgraph : Subgraph) : Prop where
  operands : ∀ operand ∈ subgraph.operands, operand.IsValid model
  operations : ∀ operation ∈ subgraph.operations, ∀ index ∈ operation.inputs ++ operation.outputs,
    index.toNat < subgraph.operands.length
  inputs : subgraph.Lists .subgraphInput subgraph.inputIndexes
  outputs : subgraph.Lists .subgraphOutput subgraph.outputIndexes

/-- The version knows all that the subgraph uses. -/
structure IsKnownTo (limit : Version) (subgraph : Subgraph) : Prop where
  operands : ∀ operand ∈ subgraph.operands, operand.version ≤ limit
  operations : ∀ operation ∈ subgraph.operations, operation.type.version ≤ limit

section Checks

variable {model : Model} {subgraph : Subgraph}

private theorem checkListed_eq_ok_iff {lifetime : OperandLifetime} {list : String} {seen indexes : List UInt32}
    {passed : Unit} :
    subgraph.checkListed lifetime list seen indexes = .ok passed ↔
      (∀ index ∈ indexes, ∃ operand,
        subgraph.operands[index.toNat]? = some operand ∧ operand.lifetime = lifetime) ∧
      indexes.Nodup ∧ ∀ index ∈ indexes, index ∉ seen := by
  induction indexes generalizing seen with
  | nil => simp [checkListed, pure_eq_ok_iff]
  | cons index rest ih =>
    unfold checkListed
    cases found : subgraph.operands[index.toNat]? with
    | none => simp [found, throw_ne_ok]
    | some operand =>
      simp only [refuse_eq_ok_iff, ih, List.forall_mem_cons, List.nodup_cons, found]
      -- The rest must avoid the head as well, which is what it means that none is listed twice.
      constructor
      · intro checked
        rcases checked with ⟨alive, fresh, named, distinct, avoided⟩
        have once : index ∉ rest := fun listed => avoided index listed List.mem_cons_self
        refine ⟨⟨⟨operand, rfl, by simpa using alive⟩, named⟩, ⟨once, distinct⟩, by simpa using fresh, ?_⟩
        intro other listed taken
        exact avoided other listed (List.mem_cons_of_mem _ taken)
      · intro checked
        rcases checked with ⟨⟨⟨_, same, alive⟩, named⟩, ⟨once, distinct⟩, fresh, avoided⟩
        cases same
        refine ⟨by simpa using alive, by simpa using fresh, named, distinct, ?_⟩
        intro other listed taken
        rcases List.mem_cons.mp taken with rfl | taken
        · exact once listed
        · exact avoided other listed taken

theorem checkIndexes_eq_ok_iff {indexes : List UInt32} {lifetime : OperandLifetime} {list : String}
    {passed : Unit} :
    subgraph.checkIndexes indexes lifetime list = .ok passed ↔ subgraph.Lists lifetime indexes := by
  simp only [checkIndexes, bind_eq_ok_iff, checkListed_eq_ok_iff, refuse_eq_ok_iff, pure_eq_ok_iff,
    exists_const, ne_eq, not_not, and_true]
  constructor
  · intro checked
    rcases checked with ⟨⟨named, distinct, -⟩, complete⟩
    exact ⟨named, distinct, complete⟩
  · intro lists
    exact ⟨⟨lists.named, lists.distinct, nofun⟩, lists.complete⟩

private theorem checkOperation_eq_ok_iff {index : Nat} {operation : Operation} {version : Version} :
    subgraph.checkOperation index operation = .ok version ↔
      (∀ index ∈ operation.inputs ++ operation.outputs, index.toNat < subgraph.operands.length) ∧
        operation.type.version = version := by
  simp only [checkOperation]
  cases found : (operation.inputs ++ operation.outputs).find?
      (fun operand => subgraph.operands.length ≤ operand.toNat) with
  | none =>
    have inside := List.find?_eq_none.mp found
    simp only [decide_eq_true_eq, Nat.not_le] at inside
    rw [pure_eq_ok_iff]
    exact ⟨fun same => ⟨inside, same⟩, fun passed => passed.2⟩
  | some operand =>
    have outside := List.find?_some found
    simp only [decide_eq_true_eq] at outside
    constructor
    · intro refused
      exact absurd refused throw_ne_ok
    · intro passed
      exact absurd (passed.1 operand (List.mem_of_find?_eq_some found)) (Nat.not_lt.mpr outside)

theorem checks (model : Model) : Checks (Subgraph.check model) (IsValid model) IsKnownTo := by
  have operands := Checks.numbered (Operand.check model) Operand.check_eq_ok_iff .v1_0
  have operations := fun subgraph : Subgraph =>
    Checks.numbered subgraph.checkOperation checkOperation_eq_ok_iff
  constructor
  · intro subgraph
    simp only [check, bind_eq_ok_iff, checkIndexes_eq_ok_iff, pure_eq_ok_iff]
    constructor
    · intro passed
      rcases passed with ⟨_, older, typed, newer, performed, _, inputs, _, outputs, -⟩
      exact ⟨operands.passes_iff.mp ⟨older, typed⟩,
        (operations subgraph older).passes_iff.mp ⟨newer, performed⟩, inputs, outputs⟩
    · intro valid
      obtain ⟨older, typed⟩ := operands.passes_iff.mpr valid.operands
      obtain ⟨newer, performed⟩ := (operations subgraph older).passes_iff.mpr valid.operations
      exact ⟨newer, older, typed, newer, performed, (), valid.inputs, (), valid.outputs, rfl⟩
  · intro subgraph version passed limit
    simp only [check, bind_eq_ok_iff, checkIndexes_eq_ok_iff, pure_eq_ok_iff] at passed
    obtain ⟨older, typed, _, performed, _, _, _, _, rfl⟩ := passed
    rw [(operations subgraph older).le_iff performed, operands.le_iff typed]
    constructor
    · intro found
      exact ⟨found.1.2, found.2⟩
    · intro known
      exact ⟨⟨limit.oldest_le, known.operands⟩, known.operations⟩

end Checks

end Subgraph

namespace Model

structure IsValid (model : Model) : Prop where
  vendors : checkVendors [] model.vendors = .ok ()
  subgraphs : ∀ subgraph ∈ model.subgraphs, subgraph.IsValid model
  acyclic : model.isAcyclic = true

structure IsKnownTo (limit : Version) (model : Model) : Prop where
  vendors : model.vendors = [] ∨ .v1_2 ≤ limit
  relaxed : model.relaxFloat32 = false ∨ .v1_1 ≤ limit
  referenced : model.referenced = [] ∨ .v1_3 ≤ limit
  subgraphs : ∀ subgraph ∈ model.subgraphs, subgraph.IsKnownTo limit

private theorem baseVersion_le_iff {model : Model} {limit : Version} :
    model.baseVersion ≤ limit ↔
      (model.vendors = [] ∨ .v1_2 ≤ limit) ∧ (model.relaxFloat32 = false ∨ .v1_1 ≤ limit) ∧
        (model.referenced = [] ∨ .v1_3 ≤ limit) := by
  have oldest := limit.oldest_le
  simp only [baseVersion, Version.max_le_iff, and_assoc]
  refine and_congr ?_ (and_congr ?_ ?_)
  · cases model.vendors <;> simp [oldest]
  · cases model.relaxFloat32 <;> simp [oldest]
  · cases model.referenced <;> simp [oldest]

theorem validate_eq_validateWith (model : Model) : validate model = model.validateWith Digraph.isCyclic := rfl

theorem checks : Checks validate IsValid IsKnownTo := by
  constructor
  · intro model
    simp only [validate_eq_validateWith, validateWith, bind_eq_ok_iff, throw_bind, refuse_eq_ok_iff, pure_eq_ok_iff]
    constructor
    · intro passed
      rcases passed with ⟨_, _, declared, version, checked, acyclic, -⟩
      have subgraphs := ((Subgraph.checks model).newestVersion _).passes_iff.mp ⟨version, checked⟩
      exact ⟨declared, subgraphs, by simpa [isAcyclic] using acyclic⟩
    · intro valid
      obtain ⟨version, checked⟩ :=
        ((Subgraph.checks model).newestVersion model.baseVersion).passes_iff.mpr valid.subgraphs
      exact ⟨version, (), valid.vendors, version, checked, by simpa [isAcyclic] using valid.acyclic, rfl⟩
  · intro model version passed limit
    simp only [validate_eq_validateWith, validateWith, bind_eq_ok_iff, throw_bind, refuse_eq_ok_iff,
      pure_eq_ok_iff] at passed
    obtain ⟨_, -, _, checked, -, rfl⟩ := passed
    rw [((Subgraph.checks model).newestVersion _).le_iff checked, baseVersion_le_iff]
    constructor
    · intro found
      rcases found with ⟨⟨vendors, relaxed, referenced⟩, subgraphs⟩
      exact ⟨vendors, relaxed, referenced, subgraphs⟩
    · intro known
      exact ⟨⟨known.vendors, known.relaxed, known.referenced⟩, known.subgraphs⟩

theorem validate_eq_ok_iff {model : Model} {version : Version} :
    validate model = .ok version ↔
      model.IsValid ∧ ∀ limit, version ≤ limit ↔ model.IsKnownTo limit :=
  checks.eq_ok_iff

end Model

end NeuralDevice
