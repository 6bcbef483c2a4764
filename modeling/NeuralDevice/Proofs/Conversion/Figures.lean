import NeuralDevice.Proofs.Conversion.Crossing
import NeuralDevice.Proofs.Conversion.Refusal

/-!
Performance figures cross between versions. However a table came about, its entries ascend, so the binary search
finds what it lists. Leaving out what a version cannot name keeps the order, so a table that was sent is received
without them.
-/

namespace NeuralDevice

open Result

namespace PerformanceTable

/-- The tables that there are: made of a list of entries or of two figures, empty, or received with capabilities. -/
inductive IsMade : PerformanceTable → Prop
  | create {entries : List OperandPerformance} {table : PerformanceTable}
      (accepted : PerformanceTable.create entries = .ok table) : IsMade table
  | ofTwoFigures (float32 quantized8 : PerformanceInfo) :
      IsMade (PerformanceTable.ofTwoFigures float32 quantized8)
  | empty : IsMade default
  | received {dialect : Dialect} {store : FileStore} {message : (Crossing.capabilities dialect).Message}
      {capabilities : Capabilities}
      (accepted : (Crossing.capabilities dialect).toCanonical store message = .ok capabilities) :
      IsMade capabilities.operandPerformance
  | checked {dialect : Dialect} {store : FileStore} {message : (Crossing.capabilities dialect).Message}
      {capabilities : Capabilities}
      (accepted : (Crossing.capabilities dialect).receive store message = .ok capabilities) :
      IsMade capabilities.operandPerformance

theorem isAscending_of_ofWire {convert : Wire.OperandPerformance → Result OperandPerformance}
    {messages : List Wire.OperandPerformance} {table : PerformanceTable}
    (received : ofWire convert messages = .ok table) : isAscending table.entries = true := by
  simp only [ofWire, bind_eq_ok_iff, mapError_eq_ok_iff, create_eq_ok_iff] at received
  obtain ⟨entries, _, ascending, rfl⟩ := received
  exact ascending

end PerformanceTable

namespace Capabilities

variable {capabilities : Capabilities}

theorem isAscending_of_v1_0 {figures : Wire.Hal.V1_0.Capabilities}
    (converted : figures.toCanonical = .ok capabilities) :
    PerformanceTable.isAscending capabilities.operandPerformance.entries = true := by
  simp only [Wire.Hal.V1_0.Capabilities.toCanonical, bind_eq_ok_iff, pure_eq_ok_iff] at converted
  obtain ⟨float32, -, quantized8, -, rfl⟩ := converted
  exact PerformanceTable.isAscending_ofTwoFigures float32 quantized8

theorem isAscending_of_v1_2 {figures : Wire.Hal.V1_2.Capabilities}
    (converted : figures.toCanonical = .ok capabilities) :
    PerformanceTable.isAscending capabilities.operandPerformance.entries = true := by
  simp only [Wire.Hal.V1_2.Capabilities.toCanonical, bind_eq_ok_iff, pure_eq_ok_iff] at converted
  obtain ⟨table, made, _, -, _, -, rfl⟩ := converted
  exact PerformanceTable.isAscending_of_ofWire made

theorem isAscending_of_aidl {figures : Wire.Aidl.Capabilities}
    (converted : figures.toCanonical = .ok capabilities) :
    PerformanceTable.isAscending capabilities.operandPerformance.entries = true := by
  simp only [Wire.Aidl.Capabilities.toCanonical, bind_eq_ok_iff, pure_eq_ok_iff] at converted
  obtain ⟨table, made, rfl⟩ := converted
  exact PerformanceTable.isAscending_of_ofWire made

theorem isAscending_of_received {dialect : Dialect} {store : FileStore}
    {message : (Crossing.capabilities dialect).Message}
    (accepted : (Crossing.capabilities dialect).toCanonical store message = .ok capabilities) :
    PerformanceTable.isAscending capabilities.operandPerformance.entries = true := by
  cases dialect with
  | v1_0 => exact isAscending_of_v1_0 accepted
  | v1_2 => exact isAscending_of_v1_2 accepted
  | aidl => exact isAscending_of_aidl accepted

end Capabilities

namespace PerformanceTable

theorem IsMade.isAscending {table : PerformanceTable} (made : table.IsMade) :
    PerformanceTable.isAscending table.entries = true := by
  cases made with
  | create accepted =>
    obtain ⟨ascending, same⟩ := create_eq_ok_iff.mp accepted
    rw [same]
    exact ascending
  | ofTwoFigures float32 quantized8 => exact isAscending_ofTwoFigures float32 quantized8
  | empty => rfl
  | received accepted => exact Capabilities.isAscending_of_received accepted
  | checked accepted => exact Capabilities.isAscending_of_received (receive_eq_ok_iff.mp accepted).1

/-- Entries make a table exactly if their codes ascend throughout. Every table there is finds by binary search what a
scan finds, and its entries make a table again. -/
theorem tables_are_searched_as_scanned :
    (∀ entries : List OperandPerformance, (∃ table, create entries = .ok table) ↔
        entries.Pairwise fun first second => first.type.code.toNat < second.type.code.toNat) ∧
      ∀ table : PerformanceTable, table.IsMade →
        (∀ type, table.lookup type = table.scan type) ∧ create table.entries = .ok table := by
  refine ⟨fun entries => ?_, fun table made => ?_⟩
  · rw [← isAscending_iff]
    constructor
    · intro accepted
      obtain ⟨table, accepted⟩ := accepted
      exact (create_eq_ok_iff.mp accepted).1
    · intro ascending
      exact ⟨⟨entries⟩, create_eq_ok_iff.mpr ⟨ascending, rfl⟩⟩
  · exact ⟨lookup_eq_scan made.isAscending, create_eq_ok_iff.mpr ⟨made.isAscending, rfl⟩⟩

/-- The first type of the first vendor. -/
def firstVendorType : OperandType := .vendor ⟨0x10000, by decide⟩

/-- Figures for a type that all versions know, for one that only AIDL has, for an OEM type and for a vendor's. -/
def mixed : PerformanceTable where
  entries :=
    [⟨.builtin .float32, ⟨.zero, .zero⟩⟩, ⟨.builtin .tensorQuant8AsymmSigned, ⟨.zero, .largest⟩⟩,
     ⟨.builtin .oem, ⟨.zero, .zero⟩⟩, ⟨firstVendorType, ⟨.largest, .zero⟩⟩]

theorem mixed_figures_are_found :
    create mixed.entries = .ok mixed ∧ mixed.lookup (.builtin .oem) = ⟨.zero, .zero⟩ ∧
      mixed.lookup firstVendorType = ⟨.largest, .zero⟩ ∧ mixed.lookup (.builtin .int32) = .none := by
  have accepted : create mixed.entries = .ok mixed := rfl
  obtain ⟨scanned, again⟩ := tables_are_searched_as_scanned.2 mixed (.create accepted)
  simp only [scanned]
  exact ⟨again, rfl, rfl, rfl⟩

/-! Crossings. -/

/-- The entries that a version can name. -/
def named (dialect : Dialect) (table : PerformanceTable) : PerformanceTable :=
  ⟨table.entries.filter fun entry => entry.type.isNameable dialect⟩

theorem isAscending_named {table : PerformanceTable} (ascending : isAscending table.entries = true)
    (dialect : Dialect) : isAscending (table.named dialect).entries = true :=
  isAscending_iff.mpr ((isAscending_iff.mp ascending).filter _)

private theorem scan_named_of_nameable {dialect : Dialect} {type : OperandType}
    (nameable : type.isNameable dialect = true) (table : PerformanceTable) :
    (table.named dialect).scan type = table.scan type := by
  have kept : ∀ entry : OperandPerformance,
      (entry.type.isNameable dialect && decide (entry.type = type)) = decide (entry.type = type) := by
    intro entry
    by_cases typed : entry.type = type
    · rw [typed, nameable, Bool.true_and]
    · rw [decide_eq_false typed, Bool.and_false]
  simp only [scan, named, List.find?_filter, Bool.decide_and, Bool.decide_eq_true, kept]

private theorem scan_named_of_not_nameable {dialect : Dialect} {type : OperandType}
    (unnameable : type.isNameable dialect = false) (table : PerformanceTable) :
    (table.named dialect).scan type = .none := by
  have missed : (table.named dialect).entries.find? (fun entry => entry.type = type) = none := by
    rw [List.find?_eq_none]
    intro entry member typed
    have nameable := (List.mem_filter.mp member).2
    rw [of_decide_eq_true typed, unnameable] at nameable
    cases nameable
  rw [scan, missed]
  rfl

private theorem lookup_named {table : PerformanceTable} (ascending : isAscending table.entries = true)
    (dialect : Dialect) (type : OperandType) :
    (table.named dialect).lookup type = if type.isNameable dialect then table.lookup type else .none := by
  rw [lookup_eq_scan (isAscending_named ascending dialect), lookup_eq_scan ascending]
  split
  · rename_i nameable
    exact scan_named_of_nameable nameable table
  · rename_i unnameable
    exact scan_named_of_not_nameable (Bool.not_eq_true _ ▸ unnameable) table

theorem ofWire_of_toWire {dialect : Dialect} {convert : Wire.OperandPerformance → Result OperandPerformance}
    (each : ∀ entry, Returns (OperandPerformance.toWire dialect) convert entry entry)
    {table : PerformanceTable} (ascending : isAscending table.entries = true)
    {messages : List Wire.OperandPerformance} (sent : table.toWire dialect = .ok messages) :
    ofWire convert messages = .ok (table.named dialect) := by
  have received := Returns.mapM id (fun entry _ => each entry) _ sent
  rw [List.map_id] at received
  simp only [ofWire, bind_eq_ok_iff, mapError_eq_ok_iff, create_eq_ok_iff]
  exact ⟨_, received, isAscending_named ascending dialect, rfl⟩

end PerformanceTable

theorem OperandPerformance.exists_toWire_iff {dialect : Dialect} {entry : OperandPerformance} :
    (∃ message, entry.toWire dialect = .ok message) ↔
      entry.type.isNameable dialect = true ∧ entry.type.HasSignedCode := by
  rw [← (entry.type.toWire_gated dialect).succeeds_iff]
  simp only [toWire, bind_eq_ok_iff, pure_eq_ok_iff]
  constructor
  · intro sent
    rcases sent with ⟨_, type, typed, _⟩
    exact ⟨type, typed⟩
  · intro typed
    rcases typed with ⟨type, typed⟩
    exact ⟨_, type, typed, rfl⟩

/-- A table can be sent where vendors are known, unless the code of a vendor's type is too large. -/
theorem PerformanceTable.exists_toWire_iff {dialect : Dialect} (newer : dialect ≠ .v1_0)
    {table : PerformanceTable} :
    (∃ messages, table.toWire dialect = .ok messages) ↔ ∀ entry ∈ table.entries, entry.type.HasSignedCode := by
  simp only [toWire, exists_mapM_eq_ok_iff, OperandPerformance.exists_toWire_iff, List.mem_filter]
  constructor
  · intro sent entry member
    cases typed : entry.type with
    | builtin builtin => trivial
    | vendor code =>
      have nameable : entry.type.isNameable dialect = true := by
        rw [typed]
        cases dialect with
        | v1_0 => exact absurd rfl newer
        | v1_2 | aidl => rfl
      exact typed ▸ (sent entry ⟨member, nameable⟩).2
  · intro small entry kept
    exact ⟨kept.2, small entry kept.1⟩

/-- What is left of capabilities on the other side of a version that has tables. -/
structure Capabilities.Crossed (dialect : Dialect) (sent received : Capabilities) : Prop where
  entries : received.operandPerformance.entries =
    sent.operandPerformance.entries.filter fun entry => entry.type.isNameable dialect
  named : ∀ type : OperandType, type.isNameable dialect = true →
    received.operandPerformance.lookup type = sent.operandPerformance.lookup type
  unnamed : ∀ type : OperandType, type.isNameable dialect = false →
    received.operandPerformance.lookup type = .none
  relaxedScalar : received.relaxedScalar = sent.relaxedScalar
  relaxedTensor : received.relaxedTensor = sent.relaxedTensor
  ifPerformance : received.ifPerformance = if dialect = .aidl then sent.ifPerformance else .none
  whilePerformance : received.whilePerformance = if dialect = .aidl then sent.whilePerformance else .none

/-- What is left of capabilities on the other side of version 1.0, which has two figures. -/
structure Capabilities.Condensed (sent received : Capabilities) : Prop where
  floats : ∀ type ∈ [Coded.builtin BuiltinOperand.float32, .builtin .tensorFloat32],
    received.operandPerformance.lookup type = sent.operandPerformance.lookup (.builtin .tensorFloat32)
  others : ∀ type : OperandType, type.isNameable .v1_0 = true →
    type ∉ [Coded.builtin BuiltinOperand.float32, .builtin .tensorFloat32] →
    received.operandPerformance.lookup type = sent.operandPerformance.lookup (.builtin .tensorQuant8Asymm)
  unnamed : ∀ type : OperandType, type.isNameable .v1_0 = false →
    received.operandPerformance.lookup type = .none
  relaxedScalar : received.relaxedScalar = sent.operandPerformance.lookup (.builtin .tensorFloat32)
  relaxedTensor : received.relaxedTensor = sent.operandPerformance.lookup (.builtin .tensorFloat32)
  ifPerformance : received.ifPerformance = .none
  whilePerformance : received.whilePerformance = .none

private theorem PerformanceTable.lookup_ofTwoFigures (float32 quantized8 : PerformanceInfo) (type : OperandType) :
    (ofTwoFigures float32 quantized8).lookup type =
      if type.isNameable .v1_0 then
        if type ∈ [Coded.builtin BuiltinOperand.float32, .builtin .tensorFloat32] then float32 else quantized8
      else .none := by
  rw [lookup_eq_scan (isAscending_ofTwoFigures float32 quantized8)]
  cases type with
  | vendor code => rfl
  | builtin entry => cases entry <;> rfl

theorem OperandPerformance.toWire_returns {dialect : Dialect}
    {convert : Wire.OperandPerformance → Result OperandPerformance}
    (converts : ∀ code type info, Coded.ofWire dialect code = .ok type →
      convert ⟨code, some info⟩ = .ok ⟨type, info⟩) (entry : OperandPerformance) :
    Returns (OperandPerformance.toWire dialect) convert entry entry := by
  intro message sent
  simp only [toWire, bind_eq_ok_iff, pure_eq_ok_iff] at sent
  obtain ⟨code, typed, rfl⟩ := sent
  exact converts code entry.type entry.info ((Coded.wire_inverse _ _ _).mp typed)

namespace Crossing

private theorem capabilities_condensed (sent : Capabilities) (store : FileStore) :
    ∃ message received, (capabilities .v1_0).ofCanonical sent = .ok message ∧
      (capabilities .v1_0).toCanonical store message = .ok received ∧ sent.Condensed received := by
  have figures := PerformanceTable.lookup_ofTwoFigures (sent.operandPerformance.lookup (.builtin .tensorFloat32))
    (sent.operandPerformance.lookup (.builtin .tensorQuant8Asymm))
  refine ⟨_, _, rfl, rfl, ?_, ?_, ?_, rfl, rfl, rfl, rfl⟩
  · intro type member
    have nameable : type.isNameable .v1_0 = true := by
      rcases List.mem_pair.mp member with rfl | rfl <;> rfl
    rw [figures, if_pos nameable, if_pos member]
  · intro type nameable other
    rw [figures, if_pos nameable, if_neg other]
  · intro type unnameable
    rw [figures, if_neg (Bool.not_eq_true _ ▸ unnameable)]

private theorem exists_ofCanonical_iff {dialect : Dialect} (newer : dialect ≠ .v1_0) {sent : Capabilities} :
    (∃ message, (capabilities dialect).ofCanonical sent = .ok message) ↔
      ∃ messages, sent.operandPerformance.toWire dialect = .ok messages := by
  cases dialect with
  | v1_0 => exact absurd rfl newer
  | v1_2 | aidl =>
    constructor
    · intro crossed
      obtain ⟨message, crossed⟩ := crossed
      obtain ⟨messages, listed, _⟩ := bind_eq_ok_iff.mp crossed
      exact ⟨messages, listed⟩
    · intro listed
      obtain ⟨messages, listed⟩ := listed
      exact ⟨_, bind_eq_ok_iff.mpr ⟨messages, listed, rfl⟩⟩

private theorem capabilities_crossed {dialect : Dialect} (newer : dialect ≠ .v1_0) {sent : Capabilities}
    (ascending : PerformanceTable.isAscending sent.operandPerformance.entries = true) (store : FileStore)
    {message : (capabilities dialect).Message} (crossing : (capabilities dialect).ofCanonical sent = .ok message) :
    ∃ received, (capabilities dialect).toCanonical store message = .ok received ∧
      sent.Crossed dialect received := by
  have figures := PerformanceTable.lookup_named ascending dialect
  have named : ∀ type : OperandType, type.isNameable dialect = true →
      (sent.operandPerformance.named dialect).lookup type = sent.operandPerformance.lookup type :=
    fun type nameable => (figures type).trans (if_pos nameable)
  have unnamed : ∀ type : OperandType, type.isNameable dialect = false →
      (sent.operandPerformance.named dialect).lookup type = .none :=
    fun type unnameable => (figures type).trans (if_neg (Bool.not_eq_true _ ▸ unnameable))
  cases dialect with
  | v1_0 => exact absurd rfl newer
  | v1_2 =>
    obtain ⟨messages, listed, made⟩ := bind_eq_ok_iff.mp crossing
    cases pure_eq_ok_iff.mp made
    have each := OperandPerformance.toWire_returns fun code type info typed =>
      show Wire.Hal.V1_2.performanceToCanonical ⟨code, some info⟩ = .ok ⟨type, info⟩ from
        bind_eq_ok_iff.mpr ⟨type, typed, rfl⟩
    have received := PerformanceTable.ofWire_of_toWire each ascending listed
    exact ⟨_, bind_eq_ok_iff.mpr ⟨_, received, rfl⟩, rfl, named, unnamed, rfl, rfl, rfl, rfl⟩
  | aidl =>
    obtain ⟨messages, listed, made⟩ := bind_eq_ok_iff.mp crossing
    cases pure_eq_ok_iff.mp made
    have each := OperandPerformance.toWire_returns fun code type info typed =>
      show Wire.Aidl.performanceToCanonical ⟨code, some info⟩ = .ok ⟨type, info⟩ from
        bind_eq_ok_iff.mpr ⟨type, typed, rfl⟩
    have received := PerformanceTable.ofWire_of_toWire each ascending listed
    exact ⟨_, bind_eq_ok_iff.mpr ⟨_, received, rfl⟩, rfl, named, unnamed, rfl, rfl, rfl, rfl⟩

/-- Capabilities that can be sent are received without what the version cannot name, and only the code of a vendor's
type keeps them from being sent. Through version 1.0 their figures for floats and for quantized numbers come back. -/
theorem capabilities_cross_versions (sent : Capabilities) (made : sent.operandPerformance.IsMade)
    (store : FileStore) :
    (∀ dialect, dialect ≠ .v1_0 →
      (∀ message, (capabilities dialect).ofCanonical sent = .ok message →
        ∃ received, (capabilities dialect).toCanonical store message = .ok received ∧
          sent.Crossed dialect received) ∧
      ((∃ error, (capabilities dialect).ofCanonical sent = .error error) ↔
        ∃ entry ∈ sent.operandPerformance.entries,
          entry.type.isVendor = true ∧ 2 ^ 31 ≤ entry.type.code.toNat)) ∧
      ∃ message received, (capabilities .v1_0).ofCanonical sent = .ok message ∧
        (capabilities .v1_0).toCanonical store message = .ok received ∧ sent.Condensed received := by
  refine ⟨fun dialect newer => ⟨fun message crossing => ?_, ?_⟩, capabilities_condensed sent store⟩
  · exact capabilities_crossed newer made.isAscending store crossing
  · rw [exists_error_iff, exists_ofCanonical_iff newer, PerformanceTable.exists_toWire_iff newer]
    simp only [not_forall, exists_prop, Coded.not_hasSignedCode_iff]

def mixedCapabilities : Capabilities :=
  ⟨⟨.zero, .zero⟩, ⟨.zero, .largest⟩, .mixed, ⟨.largest, .zero⟩, ⟨.zero, .zero⟩⟩

theorem mixed_figures_cross_in_part :
    ∃ message received, (capabilities .aidl).ofCanonical mixedCapabilities = .ok message ∧
      (capabilities .aidl).toCanonical .empty message = .ok received ∧
      received.operandPerformance.lookup PerformanceTable.firstVendorType = ⟨.largest, .zero⟩ ∧
      received.operandPerformance.lookup (.builtin .oem) = .none ∧
      received.ifPerformance = mixedCapabilities.ifPerformance := by
  have accepted : PerformanceTable.create PerformanceTable.mixed.entries = .ok PerformanceTable.mixed := rfl
  have made : mixedCapabilities.operandPerformance.IsMade := .create accepted
  have listed : (⟨PerformanceTable.firstVendorType, ⟨.largest, .zero⟩⟩ : OperandPerformance) ∈
      mixedCapabilities.operandPerformance.entries := by decide
  have crosses := (capabilities_cross_versions mixedCapabilities made .empty).1 .aidl (by decide)
  obtain ⟨received, accepted, crossed⟩ := crosses.1 _ rfl
  refine ⟨_, received, rfl, accepted, ?_, crossed.unnamed _ rfl, crossed.ifPerformance⟩
  rw [crossed.named _ rfl]
  exact PerformanceTable.lookup_of_mem made.isAscending listed

end Crossing

end NeuralDevice
