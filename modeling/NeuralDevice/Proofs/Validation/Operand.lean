import NeuralDevice.Proofs.Validation.Basic
import NeuralDevice.Validation.Operand

/-!
What makes an operand of a model valid, and which version knows it. The number of the operand appears only in
messages, so validity does not depend on it.
-/

namespace NeuralDevice

open Result

def ExtraParams.version : ExtraParams → Version
  | .none => .v1_0
  | .channelQuant _ | .vendor _ => .v1_2

def OperandLifetime.version : OperandLifetime → Version
  | .subgraph => .v1_3
  | .temporaryVariable | .subgraphInput | .subgraphOutput | .constantCopy | .constantReference
  | .noValue | .pointer => .v1_0

namespace Operand

/-- The oldest version that knows the operand. -/
def version (operand : Operand) : Version :=
  max (max operand.type.version operand.extraParams.version) operand.lifetime.version

/-- A vendor type belongs to a declared extension; only tensors have dimensions. -/
def HasDeclaredType (model : Model) (operand : Operand) : Prop :=
  match operand.type with
  | .vendor code => ∃ entry ∈ model.vendors, entry.vendor = code.vendor
  | .builtin type => type.isTensor = true ∨ operand.dimensions = []

/-- Parameters for the channels of a dimension: a scale for each, if their number is known. -/
def HasValidChannels (operand : Operand) (params : ChannelQuantization) : Prop :=
  ∃ channels, operand.dimensions[params.channelDim.toNat]? = some channels ∧
    (channels ≠ 0 → params.scales.length = channels.toNat) ∧
    ∀ scale ∈ params.scales, scale.le .zero = false

/-- The parameters are those of the type. -/
def HasValidExtraParams (operand : Operand) : Prop :=
  match operand.extraParams with
  | .channelQuant params =>
    operand.type = .builtin .tensorQuant8SymmPerChannel ∧ operand.HasValidChannels params
  | .vendor _ => operand.type.isVendor = true
  | .none => operand.type ≠ .builtin .tensorQuant8SymmPerChannel

/-- The data of the operand is where its lifetime says. -/
def HasValidLocation (model : Model) (operand : Operand) : Prop :=
  let location := operand.location
  match operand.lifetime with
  | .constantCopy =>
    location.pointer = none ∧ location.poolIndex = 0 ∧ location.stop ≤ model.operandValues.length
  | .constantReference =>
    location.pointer = none ∧
      ∃ pool, model.pools[location.poolIndex.toNat]? = some pool ∧ location.stop ≤ pool.size.toNat
  | .pointer =>
    ∃ pointer, location.pointer = some pointer ∧ location.length.toNat ≤ pointer.size.toNat
  | .subgraph =>
    location.pointer = none ∧ operand.type = .builtin .subgraph ∧
      location.offset.toNat < model.referenced.length
  | .temporaryVariable | .subgraphInput | .subgraphOutput | .noValue => location = .empty

/-- What an operand must satisfy in its model. -/
structure IsValid (model : Model) (operand : Operand) : Prop where
  type : operand.HasDeclaredType model
  quantization : operand.hasValidQuantization = true
  extraParams : operand.HasValidExtraParams
  location : operand.HasValidLocation model

theorem version_le_iff {operand : Operand} {limit : Version} :
    operand.version ≤ limit ↔
      operand.type.version ≤ limit ∧ operand.extraParams.version ≤ limit ∧
        operand.lifetime.version ≤ limit := by
  rw [version, Version.max_le_iff, Version.max_le_iff, and_assoc]

theorem HasValidLocation.isSome_pointer_iff {model : Model} {operand : Operand}
    (placed : operand.HasValidLocation model) :
    operand.location.pointer.isSome = true ↔ operand.lifetime = .pointer := by
  unfold HasValidLocation at placed
  cases alive : operand.lifetime with
  | pointer =>
    rw [alive] at placed
    obtain ⟨pointer, present, -⟩ := placed
    simp [present]
  | constantCopy | constantReference | subgraph =>
    rw [alive] at placed
    simp [placed.1]
  | temporaryVariable | subgraphInput | subgraphOutput | noValue =>
    rw [alive] at placed
    simp only at placed
    simp [placed, DataLocation.empty]

section Checks

variable {model : Model} {index : Nat} {operand : Operand} {required : Version}

private theorem checkType_eq_ok_iff {passed : Unit} :
    operand.checkType model index = .ok passed ↔ operand.HasDeclaredType model := by
  unfold checkType HasDeclaredType
  cases operand.type with
  | vendor code => simp [demand_eq_ok_iff, pure_eq_ok_iff]
  | builtin type =>
    cases tensor : type.isTensor <;> simp [tensor, demand_eq_ok_iff, pure_eq_ok_iff]

private theorem checkQuantization_eq_ok_iff {passed : Unit} :
    operand.checkQuantization index = .ok passed ↔ operand.hasValidQuantization = true := by
  rw [checkQuantization, demand_eq_ok_iff, pure_eq_ok_iff, and_iff_left rfl]

private theorem checkChannels_eq_ok_iff {params : ChannelQuantization} :
    operand.checkChannels index params = .ok required ↔
      operand.HasValidChannels params ∧ .v1_2 = required := by
  unfold checkChannels HasValidChannels
  cases operand.dimensions[params.channelDim.toNat]? with
  | none => simp [throw_ne_ok]
  | some channels =>
    simp only [throw_bind, refuse_eq_ok_iff, pure_eq_ok_iff, Option.some.injEq, exists_eq_left',
      not_and, not_not, Bool.not_eq_true, List.any_eq_false, and_assoc]

private theorem checkExtraParams_eq_ok_iff :
    operand.checkExtraParams index = .ok required ↔
      operand.HasValidExtraParams ∧ operand.extraParams.version = required := by
  unfold checkExtraParams HasValidExtraParams ExtraParams.version
  by_cases perChannel : operand.type = .builtin .tensorQuant8SymmPerChannel
  · cases operand.extraParams with
    | channelQuant params => simp [perChannel, checkChannels_eq_ok_iff]
    | none => simp [perChannel, throw_ne_ok]
    | vendor data => simp [perChannel, throw_ne_ok, Coded.isVendor]
  · cases operand.extraParams with
    | channelQuant params => simp [perChannel, throw_ne_ok]
    | none => simp [perChannel, pure_eq_ok_iff]
    | vendor data =>
      cases typed : operand.type with
      | builtin type =>
        rw [typed] at perChannel
        cases type <;> first | exact absurd rfl perChannel | simp [throw_ne_ok, Coded.isVendor]
      | vendor code => simp [pure_eq_ok_iff, Coded.isVendor]

private theorem checkLocation_eq_ok_iff :
    operand.checkLocation model index = .ok required ↔
      operand.HasValidLocation model ∧ operand.lifetime.version = required := by
  unfold checkLocation HasValidLocation OperandLifetime.version
  simp only [throw_bind, refuse_eq_ok_iff, not_and, ne_eq, Option.not_isSome_iff_eq_none]
  cases operand.lifetime with
  | constantCopy =>
    simp [demand_eq_ok_iff, bind_eq_ok_iff, pure_eq_ok_iff, checkRange_eq_ok_iff, DataLocation.stop,
      and_assoc, -bind_pure_comp]
  | constantReference =>
    cases model.pools[operand.location.poolIndex.toNat]? with
    | none => simp [throw_ne_ok]
    | some pool =>
      simp [bind_eq_ok_iff, pure_eq_ok_iff, checkRange_eq_ok_iff, DataLocation.stop, and_assoc,
        -bind_pure_comp]
  | pointer =>
    cases operand.location.pointer with
    | none => simp [throw_ne_ok]
    | some pointer => simp [refuse_eq_ok_iff, pure_eq_ok_iff]
  | subgraph =>
    simp [demand_eq_ok_iff, refuse_eq_ok_iff, pure_eq_ok_iff, and_assoc]
  | temporaryVariable | subgraphInput | subgraphOutput | noValue =>
    have bare : operand.location = .empty → operand.location.pointer = none := by
      intro empty
      rw [empty]
      rfl
    simp only [refuse_eq_ok_iff, pure_eq_ok_iff, DataLocation.isEmpty, reduceCtorEq,
      not_false_eq_true, true_imp_iff, Bool.not_eq_true', decide_eq_false_iff_not, not_not]
    exact ⟨fun passed => passed.2, fun passed => ⟨bare passed.1, passed⟩⟩

theorem check_eq_ok_iff :
    operand.check model index = .ok required ↔
      operand.IsValid model ∧ operand.version = required := by
  simp only [check, validate, bind_eq_ok_iff, pure_eq_ok_iff, checkType_eq_ok_iff,
    checkQuantization_eq_ok_iff, checkExtraParams_eq_ok_iff, checkLocation_eq_ok_iff]
  constructor
  · intro checked
    rcases checked with
      ⟨_, rfl, _, type, _, quantization, _, ⟨extraParams, rfl⟩, _, ⟨location, rfl⟩, rfl⟩
    exact ⟨⟨type, quantization, extraParams, location⟩, rfl⟩
  · intro checked
    rcases checked with ⟨valid, rfl⟩
    exact ⟨_, rfl, (), valid.type, (), valid.quantization, _, ⟨valid.extraParams, rfl⟩, _,
      ⟨valid.location, rfl⟩, rfl⟩

end Checks

end Operand

end NeuralDevice
