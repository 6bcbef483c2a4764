import Mathlib.Data.List.Nodup
import Mathlib.Data.List.Perm.Subperm
import NeuralDevice.Proofs.Validation.Model

/-!
Which lists of inputs and outputs a subgraph accepts: the permutations of the positions of the operands with the
lifetime. Membership, no repetition and the right number are checked; that nothing is missing then follows by
counting.
-/

namespace NeuralDevice.Subgraph

open Result

variable {subgraph : Subgraph} {lifetime : OperandLifetime} {indexes seen : List UInt32}
  {marks : List Bool}

/-- Where the operands with a lifetime are. -/
def positions (subgraph : Subgraph) (lifetime : OperandLifetime) : List Nat :=
  subgraph.operands.findIdxs fun operand => operand.lifetime = lifetime

theorem mem_positions {position : Nat} :
    position ∈ subgraph.positions lifetime ↔
      ∃ operand, subgraph.operands[position]? = some operand ∧ operand.lifetime = lifetime := by
  simp only [positions, List.mem_findIdxs_iff_exists_getElem_pos, decide_eq_true_eq,
    List.getElem?_eq_some_iff]
  constructor
  · intro found
    obtain ⟨inside, alive⟩ := found
    exact ⟨subgraph.operands[position], ⟨inside, rfl⟩, alive⟩
  · intro found
    obtain ⟨_, ⟨inside, rfl⟩, alive⟩ := found
    exact ⟨inside, alive⟩

private theorem nodup_positions : (subgraph.positions lifetime).Nodup := List.nodup_findIdxs

theorem length_positions : (subgraph.positions lifetime).length = subgraph.countLifetime lifetime :=
  List.length_findIdxs

private theorem lists_iff_perm :
    subgraph.Lists lifetime indexes ↔ (indexes.map UInt32.toNat).Perm (subgraph.positions lifetime) := by
  have injective : Function.Injective UInt32.toNat := fun _ _ => UInt32.toNat_inj.mp
  constructor
  · intro lists
    have distinct : (indexes.map UInt32.toNat).Nodup := lists.distinct.map injective
    have named : indexes.map UInt32.toNat ⊆ subgraph.positions lifetime := by
      intro position listed
      obtain ⟨index, member, rfl⟩ := List.mem_map.mp listed
      exact mem_positions.mpr (lists.named index member)
    refine (distinct.subperm named).perm_of_length_le ?_
    rw [length_positions, lists.complete, List.length_map]
  · intro permuted
    refine ⟨fun index listed => ?_, ?_, ?_⟩
    · exact mem_positions.mp (permuted.mem_iff.mp (List.mem_map_of_mem listed))
    · exact (permuted.nodup_iff.mpr nodup_positions).of_map
    · rw [← length_positions, ← permuted.length_eq, List.length_map]

/-- `checkListed` with a table of marks, one for each operand, in place of the indexes seen so far; `none` stands
for an access outside the table. -/
def checkMarked (subgraph : Subgraph) (lifetime : OperandLifetime) (list : String) :
    List Bool → List UInt32 → Option (Result Unit)
  | _, [] => some (pure ())
  | marks, index :: rest =>
    match subgraph.operands[index.toNat]? with
    | none => some (throw (ModelFault.indexOutOfRange list index).error)
    | some operand =>
      if operand.lifetime ≠ lifetime then
        some (throw (ModelFault.wrongLifetime list index operand.lifetime lifetime).error)
      else
        match marks[index.toNat]? with
        | none => none
        | some true => some (throw (ModelFault.listedTwice list index).error)
        | some false => checkMarked subgraph lifetime list (marks.set index.toNat true) rest

/-- Each operand has a mark, which tells whether its index was seen. -/
def IsMarked (subgraph : Subgraph) (seen : List UInt32) (marks : List Bool) : Prop :=
  ∀ index : UInt32, index.toNat < subgraph.operands.length →
    marks[index.toNat]? = some (seen.contains index)

private theorem isMarked_nil : subgraph.IsMarked [] (List.replicate subgraph.operands.length false) := by
  intro index inside
  rw [List.getElem?_replicate_of_lt inside]
  rfl

theorem IsMarked.set (marked : subgraph.IsMarked seen marks) {index : UInt32}
    (inside : index.toNat < subgraph.operands.length) :
    subgraph.IsMarked (index :: seen) (marks.set index.toNat true) := by
  obtain ⟨within, -⟩ := List.getElem?_eq_some_iff.mp (marked index inside)
  intro other there
  by_cases same : index = other
  · subst same
    simp [within]
  · have apart : index.toNat ≠ other.toNat := fun equal => same (UInt32.toNat_inj.mp equal)
    rw [List.getElem?_set_ne apart, marked other there]
    simp [Ne.symm same]

private theorem checkMarked_eq (marked : subgraph.IsMarked seen marks) (list : String) :
    subgraph.checkMarked lifetime list marks indexes =
      some (subgraph.checkListed lifetime list seen indexes) := by
  induction indexes generalizing seen marks with
  | nil => rfl
  | cons index rest ih =>
    unfold checkMarked checkListed
    cases found : subgraph.operands[index.toNat]? with
    | none => rfl
    | some operand =>
      obtain ⟨inside, -⟩ := List.getElem?_eq_some_iff.mp found
      by_cases alive : operand.lifetime = lifetime
      · simp only [alive, ne_eq, not_true_eq_false, if_false, marked index inside]
        cases repeated : seen.contains index with
        | true => rfl
        | false => exact ih (marked.set inside)
      · simp [alive]

/-- A subgraph accepts a list of its inputs or outputs exactly if the list is a permutation of the positions of
the operands with that lifetime. A table with one mark for each operand suffices to tell, and no access to it
ever lies outside. -/
theorem checkIndexes_accepts_permutations (subgraph : Subgraph) (indexes : List UInt32)
    (lifetime : OperandLifetime) (list : String) :
    (subgraph.checkIndexes indexes lifetime list = .ok () ↔
      (indexes.map UInt32.toNat).Perm (subgraph.positions lifetime)) ∧
    subgraph.checkMarked lifetime list (List.replicate subgraph.operands.length false) indexes =
      some (subgraph.checkListed lifetime list [] indexes) :=
  ⟨checkIndexes_eq_ok_iff.trans lists_iff_perm, checkMarked_eq isMarked_nil list⟩

end NeuralDevice.Subgraph
