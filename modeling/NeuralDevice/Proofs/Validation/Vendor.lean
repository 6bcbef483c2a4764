import NeuralDevice.Proofs.Validation.Model

/-!
Whose a vendor code is. The extensions of a valid model differ in names and vendors, so a code has one name at
most. That it has one is checked for the types of operands only: the type of an operation may be nobody's.
-/

namespace NeuralDevice

open Result

theorem filter_eq_singleton {α κ : Type} [BEq κ] [LawfulBEq κ] {key : α → κ} {values : List α} {value : α}
    (distinct : values.Pairwise fun first second => key first ≠ key second) (member : value ∈ values) :
    values.filter (fun other => key other == key value) = [value] := by
  induction values with
  | nil => cases member
  | cons first rest ih =>
    obtain ⟨apart, distinct⟩ := List.pairwise_cons.mp distinct
    rcases List.mem_cons.mp member with rfl | later
    · have alone : rest.filter (fun other => key other == key value) = [] :=
        List.filter_eq_nil_iff.mpr fun other present same => apart other present (beq_iff_eq.mp same).symm
      rw [List.filter_cons_of_pos (by simp), alone]
    · rw [List.filter_cons_of_neg (by simpa using apart value later), ih distinct later]

/-- Two extensions of one model share neither name nor vendor. -/
def VendorEntry.IsApart (first second : VendorEntry) : Prop :=
  first.name ≠ second.name ∧ first.vendor ≠ second.vendor

namespace Model

private theorem checkVendors_eq_ok_iff {seen entries : List VendorEntry} :
    checkVendors seen entries = .ok () ↔
      (∀ entry ∈ entries, entry.name ≠ "" ∧ entry.vendor ≠ 0) ∧
        entries.Pairwise VendorEntry.IsApart ∧
        ∀ entry ∈ entries, ∀ other ∈ seen, other.IsApart entry := by
  induction entries generalizing seen with
  | nil => simp [checkVendors, pure_eq_ok_iff]
  | cons entry rest ih =>
    simp only [checkVendors, refuse_eq_ok_iff, ih, List.forall_mem_cons, List.pairwise_cons,
      VendorEntry.IsApart, Bool.or_eq_true, String.isEmpty_iff, beq_iff_eq, List.any_eq_true, not_or,
      not_exists, not_and]
    -- The rest must be apart from the first as well, which is what it means that no two are the same.
    constructor
    · intro checked
      obtain ⟨own, fresh, named, distinct, apart⟩ := checked
      exact ⟨⟨own, named⟩, ⟨fun other present => (apart other present).1, distinct⟩, fresh,
        fun other present => (apart other present).2⟩
    · intro checked
      obtain ⟨⟨own, named⟩, ⟨first, distinct⟩, fresh, others⟩ := checked
      exact ⟨own, fresh, named, distinct, fun other present => ⟨first other present, others other present⟩⟩

def TypesOperand (model : Model) (code : VendorCode) : Prop :=
  ∃ subgraph ∈ model.subgraphs, ∃ operand ∈ subgraph.operands, operand.type = .vendor code

def TypesOperation (model : Model) (code : VendorCode) : Prop :=
  ∃ subgraph ∈ model.subgraphs, ∃ operation ∈ subgraph.operations, operation.type = .vendor code

/-- The code is of this extension and of no other: no other has the vendor or the name, and the name is found. -/
structure Attributes (model : Model) (code : VendorCode) (entry : VendorEntry) : Prop where
  vendor : model.vendors.filter (fun other => other.vendor == code.vendor) = [entry]
  name : model.vendors.filter (fun other => other.name == entry.name) = [entry]
  named : entry.name ≠ ""
  found : model.extensionName? code = some entry.name

variable {model : Model} {code : VendorCode} {entry : VendorEntry} {version : Version}

private theorem IsValid.attributes (valid : model.IsValid) (declared : entry ∈ model.vendors)
    (same : entry.vendor = code.vendor) : model.Attributes code entry := by
  obtain ⟨named, distinct, -⟩ := checkVendors_eq_ok_iff.mp valid.vendors
  have sole : model.vendors.filter (fun other => other.vendor == code.vendor) = [entry] := by
    rw [← same]
    exact filter_eq_singleton (distinct.imp fun apart => apart.2) declared
  refine ⟨sole, filter_eq_singleton (distinct.imp fun apart => apart.1) declared, (named entry declared).1, ?_⟩
  rw [extensionName?, ← List.head?_filter, sole]
  rfl

private theorem IsValid.exists_entry (valid : model.IsValid) (used : model.TypesOperand code) :
    ∃ entry ∈ model.vendors, entry.vendor = code.vendor := by
  obtain ⟨subgraph, member, operand, present, typed⟩ := used
  have declared := ((valid.subgraphs subgraph member).operands operand present).type
  unfold Operand.HasDeclaredType at declared
  rw [typed] at declared
  exact declared

/-- In a valid model a code belongs to one extension, with a name of its own, if it is the type of an operand or
its vendor is declared; any other code has no name. -/
theorem operand_codes_are_attributed (validated : validate model = .ok version) (code : VendorCode) :
    (model.TypesOperand code ∨ (∃ entry ∈ model.vendors, entry.vendor = code.vendor) →
      ∃ entry, model.Attributes code entry) ∧
    ((∀ entry ∈ model.vendors, entry.vendor ≠ code.vendor) → model.extensionName? code = none) := by
  have valid := (validate_eq_ok_iff.mp validated).1
  constructor
  · intro used
    obtain ⟨entry, declared, same⟩ := used.elim valid.exists_entry id
    exact ⟨entry, valid.attributes declared same⟩
  · intro undeclared
    rw [extensionName?, List.find?_eq_none.mpr fun entry member => by simpa using undeclared entry member]
    rfl

def fifthsType : VendorCode := ⟨0x50001, by decide⟩

/-- The code of another vendor's type with the same number. -/
def seventhsType : VendorCode := ⟨0x70001, by decide⟩

/-- An operand of one vendor's type and an operation of another's. -/
def attributed : Model where
  main :=
    ⟨[⟨.vendor fifthsType, [2], .zero, 0, .temporaryVariable, .empty, .none⟩], [⟨.vendor seventhsType, [0], [0]⟩],
      [], []⟩
  referenced := []
  operandValues := []
  pools := []
  relaxFloat32 := false
  vendors := [⟨"com.example.seven", 7⟩, ⟨"com.example.five", 5⟩]

theorem codes_of_both_kinds_are_attributed :
    validate attributed = .ok .v1_2 ∧ attributed.TypesOperand fifthsType ∧
      (∃ entry, attributed.Attributes fifthsType entry) ∧ attributed.TypesOperation seventhsType ∧
      ∃ entry, attributed.Attributes seventhsType entry := by
  have valid : validate attributed = .ok .v1_2 := rfl
  have operand : attributed.TypesOperand fifthsType := ⟨_, .head _, _, .head _, rfl⟩
  have declared : ∃ entry ∈ attributed.vendors, entry.vendor = seventhsType.vendor := ⟨_, .head _, rfl⟩
  exact ⟨valid, operand, (operand_codes_are_attributed valid fifthsType).1 (.inl operand),
    ⟨_, .head _, _, .head _, rfl⟩, (operand_codes_are_attributed valid seventhsType).1 (.inr declared)⟩

/-- An operation of a vendor that the model does not declare. -/
def orphaned : Model := ⟨⟨[], [⟨.vendor fifthsType, [], []⟩], [], []⟩, [], [], [], false, []⟩

/-- Nothing asks that the vendor of an operation is declared, so a valid model can have an operation whose code is
of no extension. -/
theorem orphaned_operations_are_valid :
    validate orphaned = .ok .v1_2 ∧ orphaned.TypesOperation fifthsType ∧
      orphaned.extensionName? fifthsType = none ∧ ¬∃ entry, orphaned.Attributes fifthsType entry := by
  refine ⟨rfl, ⟨_, .head _, _, .head _, rfl⟩, rfl, fun attributed => ?_⟩
  obtain ⟨entry, ⟨vendor, -, -, -⟩⟩ := attributed
  cases vendor

end Model

end NeuralDevice
