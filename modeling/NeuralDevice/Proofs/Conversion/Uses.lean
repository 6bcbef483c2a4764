import Mathlib.Algebra.BigOperators.Group.Finset.Piecewise
import NeuralDevice.Conversion.Hal
import NeuralDevice.Proofs.Result

/-!
Numbers of uses. Operands are counted by running over all inputs of all operations, and the count that an operand
ends with is the number of inputs that name it. A received list of counts passes only if it is the one counted.
-/

namespace NeuralDevice

open Result

/-- How many inputs name an operand. An operation that names it twice counts twice. -/
def usesOf (inputs : List (List UInt32)) (operand : Nat) : Nat :=
  (inputs.map fun taken => taken.countP fun index => index.toNat = operand).sum

def usesIn (inputs : List (List UInt32)) : Nat := (inputs.map List.length).sum

/-- The counts are one for each operand, every input names one of the operands, and each count is the number of
inputs that name its operand. -/
structure CountUses (inputs : List (List UInt32)) (counts : List UInt32) : Prop where
  present : ∀ taken ∈ inputs, ∀ index ∈ taken, index.toNat < counts.length
  counted : ∀ operand (inside : operand < counts.length), counts[operand].toNat = usesOf inputs operand

theorem usesOf_eq_countP (inputs : List (List UInt32)) (operand : Nat) :
    usesOf inputs operand = inputs.flatten.countP fun index => index.toNat = operand :=
  List.countP_flatten.symm

theorem usesIn_eq_length (inputs : List (List UInt32)) : usesIn inputs = inputs.flatten.length :=
  List.length_flatten.symm

private theorem usesOf_le_usesIn (inputs : List (List UInt32)) (operand : Nat) :
    usesOf inputs operand ≤ usesIn inputs := by
  rw [usesOf_eq_countP, usesIn_eq_length]
  exact List.countP_le_length

/-- Every input that names one of the first `count` operands is a use of exactly one of them. -/
private theorem sum_usesOf {inputs : List (List UInt32)} {count : Nat}
    (present : ∀ taken ∈ inputs, ∀ index ∈ taken, index.toNat < count) :
    ((List.range count).map (usesOf inputs)).sum = usesIn inputs := by
  have used : ∀ index ∈ inputs.flatten, index.toNat < count := List.forall_mem_flatten.mpr present
  simp only [funext (usesOf_eq_countP inputs), usesIn_eq_length]
  show ∑ operand ∈ Finset.range count, _ = _
  generalize inputs.flatten = indexes at used
  induction indexes with
  | nil => simp
  | cons index rest ih =>
    rw [List.forall_mem_cons] at used
    -- The new index is a use of the one operand that it names, which is below the count.
    have once : ∑ operand ∈ Finset.range count, (if index.toNat = operand then 1 else 0) = 1 := by
      rw [Finset.sum_ite_eq, if_pos (Finset.mem_range.mpr used.1)]
    simp only [List.countP_cons, decide_eq_true_eq, Finset.sum_add_distrib, ih used.2, once, List.length_cons]

/-! Counting. -/

private theorem countConsumer_eq_ok_iff {before after : List UInt32} {index : UInt32} :
    countConsumer before index = .ok after ↔
      index.toNat < before.length ∧ before.modify index.toNat (· + 1) = after := by
  unfold countConsumer
  cases found : before[index.toNat]? with
  | none =>
    have outside := List.getElem?_eq_none_iff.mp found
    exact iff_of_false throw_ne_ok fun inside => Nat.not_lt.mpr outside inside.1
  | some count =>
    obtain ⟨inside, rfl⟩ := List.getElem?_eq_some_iff.mp found
    rw [pure_eq_ok_iff, List.modify_eq_set_getElem?, found]
    exact (and_iff_right inside).symm

/-- One more use of an operand. -/
def addUse (counts : List UInt32) (index : UInt32) : List UInt32 := counts.modify index.toNat (· + 1)

private theorem foldlM_countConsumer_eq_ok_iff {indexes : List UInt32} {before after : List UInt32} :
    indexes.foldlM countConsumer before = .ok after ↔
      (∀ index ∈ indexes, index.toNat < before.length) ∧ indexes.foldl addUse before = after := by
  induction indexes generalizing before with
  | nil => simp [pure_eq_ok_iff]
  | cons index rest ih =>
    simp only [List.foldlM_cons, bind_eq_ok_iff, countConsumer_eq_ok_iff, ih, List.forall_mem_cons,
      List.foldl_cons]
    constructor
    · intro steps
      rcases steps with ⟨middle, ⟨inside, rfl⟩, others, done⟩
      rw [List.length_modify] at others
      exact ⟨⟨inside, others⟩, done⟩
    · intro run
      rcases run with ⟨⟨inside, others⟩, done⟩
      refine ⟨_, ⟨inside, rfl⟩, ?_, done⟩
      rwa [List.length_modify]

private theorem getElem?_foldl_addUse (indexes counts : List UInt32) (operand : Nat) :
    (indexes.foldl addUse counts)[operand]? =
      counts[operand]?.map (· + UInt32.ofNat (indexes.countP fun index => index.toNat = operand)) := by
  induction indexes generalizing counts with
  | nil => simp
  | cons index rest ih =>
    rw [List.foldl_cons, ih, addUse, List.getElem?_modify, List.countP_cons, Option.map_eq_map, Option.map_map]
    congr 1
    funext count
    by_cases named : index.toNat = operand
    -- The new use is added first here and last there, which words do not tell apart.
    · simp only [Function.comp_apply, named, if_true, decide_true, UInt32.ofNat_add]
      rw [UInt32.add_assoc, UInt32.add_comm 1]
      rfl
    · simp only [Function.comp_apply, named, if_false, decide_false, Bool.false_eq_true, Nat.add_zero]

/-- Uses are counted exactly if all that is named is there. The counts are the numbers of uses, as words. -/
theorem countConsumers_eq_ok_iff {operandCount : Nat} {operations : List Operation} {counts : List UInt32} :
    countConsumers operandCount operations = .ok counts ↔
      (∀ taken ∈ operations.map (·.inputs), ∀ index ∈ taken, index.toNat < operandCount) ∧
        (List.range operandCount).map (fun operand => UInt32.ofNat (usesOf (operations.map (·.inputs)) operand)) =
          counts := by
  rw [countConsumers, foldlM_countConsumer_eq_ok_iff, List.length_replicate, List.flatMap_def]
  refine and_congr List.forall_mem_flatten (Eq.congr_left ?_)
  apply List.ext_getElem?
  intro operand
  rw [getElem?_foldl_addUse, List.getElem?_replicate, List.getElem?_map]
  by_cases inside : operand < operandCount
  · simp [inside, usesOf_eq_countP]
  · simp [inside]

theorem length_of_countConsumers {operandCount : Nat} {operations : List Operation} {counts : List UInt32}
    (counted : countConsumers operandCount operations = .ok counts) : counts.length = operandCount := by
  rw [← (countConsumers_eq_ok_iff.mp counted).2, List.length_map, List.length_range]

theorem exists_countConsumers_iff {operandCount : Nat} {operations : List Operation} :
    (∃ counts, countConsumers operandCount operations = .ok counts) ↔
      ∀ operation ∈ operations, ∀ index ∈ operation.inputs, index.toNat < operandCount := by
  simp only [countConsumers_eq_ok_iff, exists_and_left, exists_eq', and_true, List.forall_mem_map]

theorem countConsumers_eq_ok_iff_countUses {operandCount : Nat} {operations : List Operation}
    {counts : List UInt32} (few : usesIn (operations.map (·.inputs)) < 2 ^ 32) :
    countConsumers operandCount operations = .ok counts ↔
      counts.length = operandCount ∧ CountUses (operations.map (·.inputs)) counts := by
  rw [countConsumers_eq_ok_iff]
  constructor
  · intro counted
    rcases counted with ⟨present, rfl⟩
    refine ⟨by simp, by simpa using present, fun operand inside => ?_⟩
    have small := Nat.lt_of_le_of_lt (usesOf_le_usesIn (operations.map (·.inputs)) operand) few
    rw [List.getElem_map, List.getElem_range, UInt32.toNat_ofNat_of_lt' small]
  · intro counted
    rcases counted with ⟨rfl, uses⟩
    refine ⟨uses.present, List.ext_getElem (by simp) fun operand _ inside => ?_⟩
    rw [List.getElem_map, List.getElem_range, ← uses.counted operand inside, UInt32.ofNat_toNat]

theorem CountUses.sum_eq {inputs : List (List UInt32)} {counts : List UInt32} (uses : CountUses inputs counts) :
    (counts.map (·.toNat)).sum = usesIn inputs := by
  rw [← sum_usesOf uses.present]
  congr 1
  apply List.ext_getElem
  · simp
  · intro operand inside _
    simp [uses.counted]

/-! Checking. -/

theorem checkConsumers_eq_ok_iff {expected found : List UInt32} :
    checkConsumers expected found = .ok () ↔ expected = found := by
  simp only [checkConsumers, throw_bind, refuse_eq_ok_iff, forM_eq_ok_iff, demand_eq_ok_iff, pure_eq_ok_iff,
    and_true, ne_eq, not_not]
  rw [← List.forall₂_eq_eq_eq, List.forall₂_iff_zip]
  constructor
  · intro checked
    rcases checked with ⟨same, checked⟩
    refine ⟨same.symm, fun {first second} paired => ?_⟩
    obtain ⟨place, inside, located⟩ := List.mem_iff_getElem.mp paired
    have listed : (expected.zip found)[place]? = some (first, second) := by
      rw [List.getElem?_eq_getElem inside, located]
    exact checked ((first, second), place) (List.mk_mem_zipIdx_iff_getElem?.mpr listed)
  · intro agree
    rcases agree with ⟨same, paired⟩
    refine ⟨same.symm, fun numbered member => ?_⟩
    rcases numbered with ⟨⟨first, second⟩, place⟩
    exact paired (List.fst_mem_of_mem_zipIdx member)

theorem checkConsumers_set {counts : List UInt32} {operand : Nat} {old count : UInt32}
    (held : counts[operand]? = some old) (other : count ≠ old) :
    checkConsumers counts (counts.set operand count) =
      .error (ConversionFault.consumerCount operand old count).error := by
  have inside : operand < counts.length := (List.getElem?_eq_some_iff.mp held).1
  rw [checkConsumers, List.length_set]
  simp only [ne_eq, not_true, if_false]
  have paired : (counts.zip (counts.set operand count))[operand]? = some (old, count) :=
    List.getElem?_zip_eq_some.mpr ⟨held, List.getElem?_set_self inside⟩
  have numbered : (counts.zip (counts.set operand count)).zipIdx[operand]? = some ((old, count), operand) := by
    rw [List.getElem?_zipIdx, paired]
    simp
  refine forM_eq_error numbered (if_neg other.symm) fun earlier before entry listed => ?_
  rw [List.getElem?_zipIdx, Option.map_eq_some_iff] at listed
  obtain ⟨pair, paired, rfl⟩ := listed
  obtain ⟨first, second⟩ := List.getElem?_zip_eq_some.mp paired
  rw [List.getElem?_set_ne (Nat.ne_of_gt before), first] at second
  exact if_pos (Option.some.inj second)

end NeuralDevice
