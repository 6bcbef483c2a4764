import NeuralDevice.Proofs.Result
import NeuralDevice.Validation.Basic

/-!
The version that validation finds. It is the least one that is not older than anything in the value, so to
compare it with a limit is to compare every part with the limit.
-/

namespace NeuralDevice

open Result

theorem checkRange_eq_ok_iff {offset length : UInt32} {size : Nat} {what : String} {passed : Unit} :
    checkRange offset length size what = .ok passed ↔ offset.toNat + length.toNat ≤ size := by
  simp only [checkRange, refuse_eq_ok_iff, pure_eq_ok_iff, and_true, Nat.not_lt]

namespace Version

theorem max_le_iff {first second limit : Version} :
    max first second ≤ limit ↔ first ≤ limit ∧ second ≤ limit := by
  cases first <;> cases second <;> cases limit <;> decide

theorem le_refl (version : Version) : version ≤ version := Nat.le_refl version.rank

theorem le_antisymm {first second : Version} (forth : first ≤ second) (back : second ≤ first) :
    first = second := by
  have same : first.rank = second.rank := Nat.le_antisymm forth back
  cases first <;> cases second <;> first | rfl | exact absurd same (by decide)

theorem not_lt {first second : Version} : ¬first < second ↔ second ≤ first := Nat.not_lt

theorem oldest_le (version : Version) : .v1_0 ≤ version := Nat.zero_le version.rank

theorem max_oldest (version : Version) : max version .v1_0 = version := by
  cases version <;> rfl

theorem le_oldest_iff {version : Version} : version ≤ .v1_0 ↔ version = .v1_0 := by
  cases version <;> decide

theorem le_newest (version : Version) : version ≤ .aidl := by
  cases version <;> decide

/-- A version is known from the limits it meets. -/
private theorem eq_of_le_iff {first second : Version} (same : ∀ limit, first ≤ limit ↔ second ≤ limit) :
    first = second :=
  le_antisymm ((same second).mpr second.le_refl) ((same first).mp first.le_refl)

end Version

section Newest

variable {α : Type} {check : α → Result Version} {start newest : Version} {values : List α}

theorem newestVersion_cons_eq_ok_iff {value : α} {rest : List α} :
    newestVersion check start (value :: rest) = .ok newest ↔
      ∃ version, check value = .ok version ∧
        newestVersion check (max start version) rest = .ok newest := by
  simp only [newestVersion, List.foldlM_cons, bind_eq_ok_iff, pure_eq_ok_iff]
  constructor
  · intro found
    rcases found with ⟨_, ⟨version, checked, rfl⟩, later⟩
    exact ⟨version, checked, later⟩
  · intro found
    rcases found with ⟨version, checked, later⟩
    exact ⟨_, ⟨version, checked, rfl⟩, later⟩

/-- There is a newest version exactly if every value has one. -/
theorem exists_newestVersion_iff :
    (∃ newest, newestVersion check start values = .ok newest) ↔
      ∀ value ∈ values, ∃ version, check value = .ok version := by
  induction values generalizing start with
  | nil => simp [newestVersion, pure_eq_ok_iff]
  | cons value rest ih =>
    simp only [newestVersion_cons_eq_ok_iff, List.forall_mem_cons]
    constructor
    · intro found
      rcases found with ⟨newest, version, checked, later⟩
      exact ⟨⟨version, checked⟩, ih.mp ⟨newest, later⟩⟩
    · intro each
      rcases each with ⟨⟨version, checked⟩, others⟩
      obtain ⟨newest, later⟩ := ih.mpr others
      exact ⟨newest, version, checked, later⟩

/-- The newest version meets a limit exactly if all that were found do. -/
theorem newestVersion_le_iff (found : newestVersion check start values = .ok newest) {limit : Version} :
    newest ≤ limit ↔
      start ≤ limit ∧ ∀ value ∈ values, ∃ version, check value = .ok version ∧ version ≤ limit := by
  induction values generalizing start with
  | nil =>
    cases pure_eq_ok_iff.mp found
    simp
  | cons value rest ih =>
    obtain ⟨version, checked, later⟩ := newestVersion_cons_eq_ok_iff.mp found
    have only : (∃ other, check value = .ok other ∧ other ≤ limit) ↔ version ≤ limit := by
      simp [checked]
    rw [ih later, Version.max_le_iff, List.forall_mem_cons, only, and_assoc]

/-- A check that passes what is valid, with the oldest version among those that know it. -/
structure Checks (check : α → Result Version) (valid : α → Prop) (known : Version → α → Prop) : Prop where
  passes_iff : ∀ {value}, (∃ version, check value = .ok version) ↔ valid value
  le_iff : ∀ {value version}, check value = .ok version → ∀ {limit}, version ≤ limit ↔ known limit value

variable {valid : α → Prop} {known : Version → α → Prop}

theorem Checks.eq_ok_iff (checks : Checks check valid known) {value : α} {version : Version} :
    check value = .ok version ↔ valid value ∧ ∀ limit, version ≤ limit ↔ known limit value := by
  constructor
  · intro passed
    exact ⟨checks.passes_iff.mp ⟨version, passed⟩, fun limit => checks.le_iff passed⟩
  · intro found
    rcases found with ⟨sound, least⟩
    obtain ⟨other, passed⟩ := checks.passes_iff.mpr sound
    have same : other = version := Version.eq_of_le_iff fun limit =>
      (checks.le_iff passed).trans (least limit).symm
    rw [passed, same]

theorem Checks.newestVersion (checks : Checks check valid known) (start : Version) :
    Checks (newestVersion check start) (fun values => ∀ value ∈ values, valid value)
      fun limit values => start ≤ limit ∧ ∀ value ∈ values, known limit value where
  passes_iff := by
    intro values
    rw [exists_newestVersion_iff]
    exact forall₂_congr fun value _ => checks.passes_iff
  le_iff := by
    intro values newest found limit
    have passed := exists_newestVersion_iff.mp ⟨newest, found⟩
    rw [newestVersion_le_iff found]
    refine and_congr_right fun _ => forall₂_congr fun value member => ?_
    obtain ⟨version, checked⟩ := passed value member
    rw [← checks.le_iff checked]
    simp [checked]

end Newest

/-- What numbered members satisfy without regard to their numbers, the members satisfy. -/
theorem forall_mem_zipIdx {α : Type} (rule : α → Prop) {values : List α} :
    (∀ numbered ∈ values.zipIdx, rule numbered.1) ↔ ∀ value ∈ values, rule value := by
  constructor
  · intro each value member
    obtain ⟨place, inside, rfl⟩ := List.mem_iff_getElem.mp member
    exact each (values[place], place)
      (List.mk_mem_zipIdx_iff_getElem?.mpr (List.getElem?_eq_getElem inside))
  · intro each numbered member
    exact each numbered.1 (List.fst_mem_of_mem_zipIdx member)

/-- A list passes if each member does, whatever its number, and needs what each of them needs. -/
theorem Checks.numbered {α : Type} (check : Nat → α → Result Version) {valid : α → Prop}
    {needed : α → Version}
    (each : ∀ {index value version},
      check index value = .ok version ↔ valid value ∧ needed value = version) (start : Version) :
    Checks
      (fun values : List α => NeuralDevice.newestVersion (fun (value, index) => check index value) start
        values.zipIdx)
      (fun values => ∀ value ∈ values, valid value)
      fun limit values => start ≤ limit ∧ ∀ value ∈ values, needed value ≤ limit := by
  have member : Checks (fun numbered : α × Nat => check numbered.2 numbered.1)
      (fun numbered => valid numbered.1) fun limit numbered => needed numbered.1 ≤ limit := by
    constructor
    · intro numbered
      simp [each]
    · intro numbered version passed limit
      rw [(each.mp passed).2]
  constructor
  · intro values
    exact (member.newestVersion start).passes_iff.trans (forall_mem_zipIdx valid)
  · intro values newest found limit
    rw [(member.newestVersion start).le_iff found]
    exact and_congr_right fun _ => forall_mem_zipIdx fun value => needed value ≤ limit

end NeuralDevice
