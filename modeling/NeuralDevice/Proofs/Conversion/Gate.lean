import NeuralDevice.Proofs.Conversion.Crossing
import NeuralDevice.Proofs.Conversion.Refusal
import NeuralDevice.Proofs.Validation.Model
import NeuralDevice.Proofs.Validation.Request

/-!
Validation is the gate to every dialect. The version that it finds decides whether versions 1.0 and 1.2 can
carry a value; beyond that only host memory, and numbers that a message cannot hold, are refused.
-/

namespace NeuralDevice

open Result

/-- The types that a subgraph uses satisfy a rule. -/
structure Subgraph.HasTypes (operand : OperandType → Prop) (operation : OperationType → Prop)
    (subgraph : Subgraph) : Prop where
  operands : ∀ member ∈ subgraph.operands, operand member.type
  operations : ∀ member ∈ subgraph.operations, operation member.type

/-- The vendor codes that a model uses fit signed numbers. -/
def Model.HasSignedCodes (model : Model) : Prop :=
  ∀ subgraph ∈ model.subgraphs, subgraph.HasTypes Coded.HasSignedCode Coded.HasSignedCode

/-- No type that a model uses is left to the maker of the driver. -/
def Model.HasNoOem (model : Model) : Prop :=
  ∀ subgraph ∈ model.subgraphs,
    subgraph.HasTypes (fun type => type.isOem = false) fun type => type.isOem = false

/-! The numbers of a model that fit the signed fields of an AIDL message. -/

structure Operand.FitsAidl (operand : Operand) : Prop where
  type : operand.type.HasSignedCode
  dimensions : ∀ dimension ∈ operand.dimensions, dimension.toNat < 2 ^ 31
  poolIndex : operand.location.poolIndex.toNat < 2 ^ 31
  channelDim : ∀ params, operand.extraParams = .channelQuant params → params.channelDim.toNat < 2 ^ 31

structure Operation.FitsAidl (operation : Operation) : Prop where
  type : operation.type.HasSignedCode
  operands : ∀ index ∈ operation.inputs ++ operation.outputs, index.toNat < 2 ^ 31

structure Subgraph.FitsAidl (subgraph : Subgraph) : Prop where
  operands : ∀ operand ∈ subgraph.operands, operand.FitsAidl
  operations : ∀ operation ∈ subgraph.operations, operation.FitsAidl
  indexes : ∀ index ∈ subgraph.inputIndexes ++ subgraph.outputIndexes, index.toNat < 2 ^ 31

structure Model.FitsAidl (model : Model) : Prop where
  subgraphs : ∀ subgraph ∈ model.subgraphs, subgraph.FitsAidl
  pools : ∀ pool ∈ model.pools, pool.size.toNat < 2 ^ 63

/-- Without host memory, no operand of a valid model lives there. -/
theorem Model.IsValid.bare_of_hasNoPointerData {model : Model} (valid : model.IsValid)
    (noPointers : model.hasNoPointerData = true) {subgraph : Subgraph}
    (listed : subgraph ∈ model.subgraphs) {operand : Operand} (member : operand ∈ subgraph.operands) :
    operand.location.pointer = none ∧ operand.lifetime ≠ .pointer := by
  have bare := hasNoPointerData_iff.mp noPointers subgraph listed operand member
  refine ⟨bare, fun alive => ?_⟩
  have placed := ((valid.subgraphs subgraph listed).operands operand member).location
  have present := placed.isSome_pointer_iff.mpr alive
  simp [bare] at present

/-- A model without referenced subgraphs has one subgraph. -/
theorem Model.forall_mem_subgraphs {model : Model} (unreferenced : model.referenced = [])
    {rule : Subgraph → Prop} : (∀ subgraph ∈ model.subgraphs, rule subgraph) ↔ rule model.main := by
  simp [subgraphs, unreferenced]

theorem Model.isKnownTo_iff_of_old {model : Model} {limit : Version} (old : ¬.v1_3 ≤ limit) :
    model.IsKnownTo limit ↔
      model.referenced = [] ∧ (model.relaxFloat32 = false ∨ .v1_1 ≤ limit) ∧
        (model.vendors = [] ∨ .v1_2 ≤ limit) ∧ model.main.IsKnownTo limit := by
  constructor
  · intro known
    have unreferenced := known.referenced.resolve_right old
    have main := (forall_mem_subgraphs unreferenced).mp known.subgraphs
    exact ⟨unreferenced, known.relaxed, known.vendors, main⟩
  · intro parts
    rcases parts with ⟨unreferenced, relaxed, vendors, main⟩
    exact ⟨vendors, relaxed, .inl unreferenced, (forall_mem_subgraphs unreferenced).mpr main⟩

private theorem ExtraParams.version_le_oldest_iff {params : ExtraParams} :
    params.version ≤ .v1_0 ↔ params = .none := by
  cases params with
  | none => exact iff_of_true (by decide) rfl
  | channelQuant | vendor => exact iff_of_false (show ¬Version.v1_2 ≤ Version.v1_0 by decide) nofun

private theorem ExtraParams.version_le (params : ExtraParams) : params.version ≤ .v1_2 := by
  cases params with
  | none => exact Version.oldest_le _
  | channelQuant | vendor => exact Version.le_refl _

/-! Numbers in the fields of messages. -/

private theorem VendorEntry.fits_uint32 (entry : VendorEntry) : Word.Fits UInt32 (Word.toInt entry.vendor) := by
  have small := entry.vendor.toNat_lt
  exact ⟨Int.natCast_nonneg _, Int.ofNat_lt.mpr (Nat.lt_trans small (by decide))⟩

private theorem VendorEntry.fits_int32 (entry : VendorEntry) : Word.Fits Int32 (Word.toInt entry.vendor) := by
  have small := entry.vendor.toNat_lt
  exact Word.fits_int32_iff.mpr (Nat.lt_trans small (by decide))

theorem Word.fits_int32_uint32 {word : UInt32} : Word.Fits Int32 (Word.toInt word) ↔ word.toNat < 2 ^ 31 :=
  Word.fits_int32_iff

theorem Word.fits_int64_uint32 (word : UInt32) : Word.Fits Int64 (Word.toInt word) :=
  Word.fits_int64_iff.mpr (Nat.lt_trans word.toNat_lt (by decide))

private theorem Word.fits_int64_uint64 {word : UInt64} : Word.Fits Int64 (Word.toInt word) ↔ word.toNat < 2 ^ 63 :=
  Word.fits_int64_iff

namespace Wire.Hal

/-! Versions 1.0 and 1.2. -/

theorem V1_0.Operand.ofCanonical_gated {operand : NeuralDevice.Operand}
    (bare : operand.location.pointer = none) (alive : operand.lifetime ≠ .pointer) :
    Gated (operand.version ≤ .v1_0) True (V1_0.Operand.ofCanonical operand) := by
  have parts := (operand.type.toWire_gated .v1_0).bind fun type _ =>
    (OperandLifetime.toWire_gated .v1_0 alive).bind fun lifetime _ =>
      (DataLocation.toWire_gated UInt32 UInt32 bare).bind fun location _ =>
        Gated.of_pure (V1_0.Operand.mk type operand.dimensions 0 operand.scale operand.zeroPoint
          lifetime (some location))
  have known : operand.version ≤ .v1_0 ↔
      operand.type.isNameable .v1_0 = true ∧ operand.extraParams = .none ∧
        operand.lifetime.version ≤ .v1_0 := by
    rw [Operand.version_le_iff, ExtraParams.version_le_oldest_iff,
      Coded.isNameable_iff_version_le .v1_0 (by decide)]
    rfl
  refine (Gated.recognize fun _ => parts).congr ?_ fun recognized => ?_
  · rw [known]
    simp only [ne_eq, not_not, and_true]
    exact and_left_comm
  · have signed := Coded.hasSignedCode_of_version_le
      ((Coded.isNameable_iff_version_le .v1_0 (by decide) _).mp recognized.2.1)
    simp [signed, Word.fits_toInt]

theorem V1_2.Operand.ofCanonical_gated {operand : NeuralDevice.Operand}
    (bare : operand.location.pointer = none) (alive : operand.lifetime ≠ .pointer) :
    Gated (operand.version ≤ .v1_2) operand.type.HasSignedCode (V1_2.Operand.ofCanonical operand) := by
  have parts := (operand.type.toWire_gated .v1_2).bind fun type _ =>
    (OperandLifetime.toWire_gated .v1_2 alive).bind fun lifetime _ =>
      (DataLocation.toWire_gated UInt32 UInt32 bare).bind fun location _ =>
        (operand.extraParams.toWire_gated UInt32).bind fun extraParams _ =>
          Gated.of_pure (V1_2.Operand.mk type operand.dimensions 0 operand.scale operand.zeroPoint
            lifetime (some location) extraParams)
  refine parts.congr ?_ fun _ => ?_
  · rw [Operand.version_le_iff, Coded.isNameable_iff_version_le .v1_2 (by decide)]
    simp only [and_true, true_and, operand.extraParams.version_le]
    rfl
  · simp only [Word.fits_toInt, and_true, implies_true]

section Graph

variable {β γ : Type} {convert : NeuralDevice.Operand → Result β}
  {fits : NeuralDevice.Operand → Prop}
  {next : List β → List UInt32 → List Operation → List Memory → Result γ}

/-- The graph of a model whose operands a dialect converts, and what is made of it and the pools. -/
theorem graph_gated (dialect : Dialect) (older : dialect ≠ .aidl) (pools : List NeuralDevice.Memory)
    {subgraph : NeuralDevice.Subgraph}
    (operands : ∀ operand ∈ subgraph.operands,
      Gated (operand.version ≤ dialect.version) (fits operand) (convert operand))
    (present : ∀ operation ∈ subgraph.operations, ∀ index ∈ operation.inputs ++ operation.outputs,
      index.toNat < subgraph.operands.length)
    (rest : ∀ operands counts operations pools, Gated True True (next operands counts operations pools)) :
    Gated (subgraph.IsKnownTo dialect.version)
      ((∀ operand ∈ subgraph.operands, fits operand) ∧
        ∀ operation ∈ subgraph.operations, operation.type.HasSignedCode)
      (do
        let operands ← subgraph.operands.mapM convert
        let counts ← countConsumers operands.length subgraph.operations
        let operations ← subgraph.operations.mapM (NeuralDevice.Operation.toWire dialect)
        let pools ← pools.mapM NeuralDevice.Memory.toWire
        next operands counts operations pools) := by
  have counted : ∀ converted, subgraph.operands.mapM convert = .ok converted →
      ∃ counts, countConsumers converted.length subgraph.operations = .ok counts := by
    intro converted done
    rw [← (mapM_eq_ok_iff.mp done).length_eq]
    exact exists_countConsumers_iff.mpr fun operation performed index taken =>
      present operation performed index (List.mem_append_left _ taken)
  have operations := Gated.mapM fun operation (_ : operation ∈ subgraph.operations) =>
    operation.toWire_gated UInt32 dialect
  have shared := Gated.mapM fun memory (_ : memory ∈ pools) => memory.toWire_gated UInt64
  have whole := (Gated.mapM operands).bind fun converted done =>
    (Gated.of_eq_ok (counted converted done).choose_spec).bind fun counts _ =>
      operations.bind fun operations _ => shared.bind fun pools _ => rest converted counts operations pools
  refine whole.congr ?_ fun _ => ?_
  · simp only [Coded.isNameable_iff_version_le dialect older, implies_true, and_true, true_and]
    exact ⟨fun known => ⟨known.1, known.2⟩, fun known => ⟨known.operands, known.operations⟩⟩
  · simp only [Word.fits_toInt, implies_true, and_true, true_and]

end Graph

theorem V1_0.Model.ofCanonical_gated {model : NeuralDevice.Model} (valid : model.IsValid) :
    Gated (model.IsKnownTo .v1_0) (model.hasNoPointerData = true) (V1_0.Model.ofCanonical model) := by
  have main : model.main ∈ model.subgraphs := List.mem_cons_self
  have graph := fun noPointers : model.hasNoPointerData = true =>
    graph_gated .v1_0 (by decide) model.pools
      (fun operand member =>
        have bare := valid.bare_of_hasNoPointerData noPointers main member
        V1_0.Operand.ofCanonical_gated bare.1 bare.2)
      (valid.subgraphs model.main main).operations
      fun operands counts operations pools => Gated.of_pure (V1_0.Model.mk
        (operands.zipWith (fun operand count => { operand with consumers := count }) counts) operations
        model.main.inputIndexes model.main.outputIndexes model.operandValues pools)
  refine (Gated.refuse .pointerModel fun noPointers => Gated.recognize fun _ => Gated.recognize fun _ =>
    Gated.recognize fun _ => graph (by simpa using noPointers)).congr ?_ fun recognized => ?_
  · rw [Model.isKnownTo_iff_of_old (by decide)]
    have newer : ¬Version.v1_1 ≤ .v1_0 ∧ ¬Version.v1_2 ≤ .v1_0 := by decide
    simp only [Bool.not_eq_true', Bool.not_eq_false, List.isEmpty_iff, Bool.not_eq_true, newer.1, newer.2,
      or_false]
    rfl
  · have signed : ∀ operation ∈ model.main.operations, operation.type.HasSignedCode := by
      intro operation member
      exact Coded.hasSignedCode_of_version_le (recognized.2.2.2.operations operation member)
    simpa using fun _ => signed

theorem V1_2.Model.ofCanonical_gated {model : NeuralDevice.Model} (valid : model.IsValid) :
    Gated (model.IsKnownTo .v1_2) (model.hasNoPointerData = true ∧ model.HasSignedCodes)
      (V1_2.Model.ofCanonical model) := by
  have main : model.main ∈ model.subgraphs := List.mem_cons_self
  have declared := Gated.mapM fun entry (_ : entry ∈ model.vendors) => entry.toWire_gated UInt32
  have graph := fun noPointers : model.hasNoPointerData = true =>
    graph_gated .v1_2 (by decide) model.pools
      (fun operand member =>
        have bare := valid.bare_of_hasNoPointerData noPointers main member
        V1_2.Operand.ofCanonical_gated bare.1 bare.2)
      (valid.subgraphs model.main main).operations
      fun operands counts operations pools =>
        (declared.bind fun vendors _ => Gated.of_pure (V1_2.Model.mk
          (operands.zipWith (fun operand count => { operand with consumers := count }) counts) operations
          model.main.inputIndexes model.main.outputIndexes model.operandValues pools model.relaxFloat32
          vendors)).congr (by simp) fun _ => by simp [VendorEntry.fits_uint32]
  refine (Gated.refuse .pointerModel fun noPointers => Gated.recognize fun _ =>
    graph (by simpa using noPointers)).congr ?_ fun recognized => ?_
  · rw [Model.isKnownTo_iff_of_old (by decide)]
    have older : Version.v1_1 ≤ .v1_2 := by decide
    simp only [Bool.not_eq_true', Bool.not_eq_false, List.isEmpty_iff, older, Version.le_refl, or_true,
      true_and]
    rfl
  · have unreferenced : model.referenced = [] := by simpa using recognized.1
    rw [Model.HasSignedCodes, Model.forall_mem_subgraphs unreferenced]
    simp only [Bool.not_eq_true', Bool.not_eq_false]
    refine and_congr_right fun _ => ?_
    exact ⟨fun signed => ⟨signed.1, signed.2⟩, fun signed => ⟨signed.operands, signed.operations⟩⟩

private theorem poolToWire_gated (pool : MemoryPool) :
    Gated (∃ memory, pool = .memory memory) True (poolToWire pool) := by
  cases pool with
  | memory memory =>
    exact (memory.toWire_gated UInt64).congr (by simp) fun _ => by simp [Word.fits_toInt]
  | token token => exact .of_unknown nofun _

/-- A request without host memory can be sent unless it names memory by a token. -/
theorem requestToWire_gated {request : NeuralDevice.Request}
    (valid : ∀ argument ∈ request.inputs ++ request.outputs, argument.IsValid request.pools) :
    Gated (∀ pool ∈ request.pools, ∃ memory, pool = .memory memory) (request.hasNoPointerData = true)
      (requestToWire request) := by
  have each : request.hasNoPointerData = true → ∀ argument ∈ request.inputs ++ request.outputs,
      Gated True True (argument.toWire : Result Argument) := by
    intro noPointers argument member
    have bare := Request.hasNoPointerData_iff.mp noPointers argument member
    refine (Argument.toWire_gated _ _ bare ((valid argument member).lifetime_ne_pointer bare)).congr Iff.rfl ?_
    simp [Word.fits_toInt]
  have body := fun noPointers : request.hasNoPointerData = true =>
    have inputs := Gated.mapM fun input member => each noPointers input (List.mem_append_left _ member)
    have outputs := Gated.mapM fun output member => each noPointers output (List.mem_append_right _ member)
    (Gated.mapM fun pool (_ : pool ∈ request.pools) => poolToWire_gated pool).bind fun pools _ =>
      inputs.bind fun inputs _ => outputs.bind fun outputs _ =>
        Gated.of_pure (Wire.Request.mk inputs outputs pools)
  refine (Gated.refuse .pointerRequest fun noPointers => body (by simpa using noPointers)).congr ?_ ?_
  · simp
  · simp

end Wire.Hal

namespace Wire.Aidl

/-! The AIDL version. It has signed numbers and no types that are left to the maker of the driver. -/

theorem Operand.ofCanonical_gated {operand : NeuralDevice.Operand}
    (bare : operand.location.pointer = none) (alive : operand.lifetime ≠ .pointer) :
    Gated (operand.type.isOem = false) operand.FitsAidl (Operand.ofCanonical operand) := by
  have parts := (operand.type.toWire_gated .aidl).bind fun type _ =>
    (rewidthAll_gated (β := Int32) "operand dimension" operand.dimensions).bind fun dimensions _ =>
      (OperandLifetime.toWire_gated .aidl alive).bind fun lifetime _ =>
        (DataLocation.toWire_gated Int32 Int64 bare).bind fun location _ =>
          (operand.extraParams.toWire_gated Int32).bind fun extraParams _ =>
            Gated.of_pure (Operand.mk type dimensions operand.scale operand.zeroPoint lifetime
              (some location) extraParams)
  refine parts.congr ?_ fun _ => ?_
  · simp [Coded.isNameable_aidl_iff, Dialect.version, Version.le_newest]
  · simp only [Word.fits_int32_uint32, Word.fits_int64_uint32, and_true, true_and]
    constructor
    · intro fits
      rcases fits with ⟨type, dimensions, poolIndex, channelDim⟩
      exact ⟨type, dimensions, poolIndex, channelDim⟩
    · intro fits
      exact ⟨fits.type, fits.dimensions, fits.poolIndex, fits.channelDim⟩

theorem Operation.toWire_gated (operation : NeuralDevice.Operation) :
    Gated (operation.type.isOem = false) operation.FitsAidl
      (operation.toWire .aidl : Result Operation) := by
  refine (operation.toWire_gated Int32 .aidl).congr (Coded.isNameable_aidl_iff _) fun _ => ?_
  simp only [Word.fits_int32_uint32]
  exact ⟨fun fits => ⟨fits.1, fits.2⟩, fun fits => ⟨fits.type, fits.operands⟩⟩

theorem Subgraph.ofCanonical_gated {subgraph : NeuralDevice.Subgraph}
    (bare : ∀ operand ∈ subgraph.operands, operand.location.pointer = none ∧ operand.lifetime ≠ .pointer) :
    Gated (subgraph.HasTypes (fun type => type.isOem = false) fun type => type.isOem = false)
      subgraph.FitsAidl (Subgraph.ofCanonical subgraph) := by
  have operands := Gated.mapM fun operand member =>
    Operand.ofCanonical_gated (bare operand member).1 (bare operand member).2
  have operations := Gated.mapM fun operation (_ : operation ∈ subgraph.operations) =>
    Operation.toWire_gated operation
  have parts := operands.bind fun operands _ => operations.bind fun operations _ =>
    (rewidthAll_gated (β := Int32) "subgraph input index" subgraph.inputIndexes).bind fun inputs _ =>
      (rewidthAll_gated (β := Int32) "subgraph output index" subgraph.outputIndexes).bind fun outputs _ =>
        Gated.of_pure (Subgraph.mk operands operations inputs outputs)
  refine parts.congr ?_ fun _ => ?_
  · simp only [and_true]
    exact ⟨fun known => ⟨known.1, known.2⟩, fun known => ⟨known.operands, known.operations⟩⟩
  · simp only [Word.fits_int32_uint32, and_true]
    constructor
    · intro fits
      rcases fits with ⟨operands, operations, inputs, outputs⟩
      exact ⟨operands, operations, List.forall_mem_append.mpr ⟨inputs, outputs⟩⟩
    · intro fits
      exact ⟨fits.operands, fits.operations, List.forall_mem_append.mp fits.indexes⟩

theorem Model.ofCanonical_gated {model : NeuralDevice.Model} (valid : model.IsValid) :
    Gated model.HasNoOem (model.hasNoPointerData = true ∧ model.FitsAidl) (Model.ofCanonical model) := by
  have graph := fun (noPointers : model.hasNoPointerData = true) subgraph
      (listed : subgraph ∈ model.subgraphs) =>
    Subgraph.ofCanonical_gated fun operand member => valid.bare_of_hasNoPointerData noPointers listed member
  have shared := Gated.mapM fun pool (_ : pool ∈ model.pools) => pool.toWire_gated Int64
  have declared := Gated.mapM fun entry (_ : entry ∈ model.vendors) => entry.toWire_gated Int32
  have body := fun noPointers : model.hasNoPointerData = true =>
    (graph noPointers model.main List.mem_cons_self).bind fun main _ =>
      (Gated.mapM fun subgraph listed =>
          graph noPointers subgraph (List.mem_cons_of_mem _ listed)).bind fun referenced _ =>
        shared.bind fun pools _ => declared.bind fun vendors _ =>
          Gated.of_pure (Model.mk (some main) referenced model.operandValues pools model.relaxFloat32
            vendors)
  refine (Gated.refuse .pointerModel fun noPointers => body (by simpa using noPointers)).congr ?_ ?_
  · simp [Model.HasNoOem, Model.subgraphs]
  · intro _
    simp only [Bool.not_eq_true', Bool.not_eq_false, Word.fits_int64_uint64, VendorEntry.fits_int32,
      implies_true, and_true]
    refine and_congr_right fun _ => ?_
    constructor
    · intro fits
      rcases fits with ⟨main, referenced, pools⟩
      exact ⟨List.forall_mem_cons.mpr ⟨main, referenced⟩, pools⟩
    · intro fits
      have subgraphs := List.forall_mem_cons.mp fits.subgraphs
      exact ⟨subgraphs.1, subgraphs.2, fits.pools⟩

end Wire.Aidl

namespace Crossing

/-- Whether the conversion to a dialect gives a message for the value. -/
def Sends {γ : Type} (crossing : Crossing γ) (value : γ) : Prop :=
  ∃ message, crossing.ofCanonical value = .ok message

/-- Whether the conversion to a dialect refuses the value for no reason of versions. -/
def RefusesPlainly {γ : Type} (crossing : Crossing γ) (value : γ) : Prop :=
  ∀ error, crossing.ofCanonical value = .error error → PlainRefusal error

section Models

variable {value : Model} {version : Version}

/-- Versions 1.0 and 1.2 know what validation says they know. -/
theorem model_gated_of_hal (validated : validate value = .ok version) :
    Gated (version = .v1_0) (value.hasNoPointerData = true) ((model .v1_0).ofCanonical value) ∧
      Gated (version ≤ .v1_2) (value.hasNoPointerData = true ∧ value.HasSignedCodes)
        ((model .v1_2).ofCanonical value) := by
  obtain ⟨valid, least⟩ := Model.validate_eq_ok_iff.mp validated
  constructor
  · refine (Wire.Hal.V1_0.Model.ofCanonical_gated valid).congr ?_ fun _ => Iff.rfl
    rw [← least .v1_0, Version.le_oldest_iff]
  · exact (Wire.Hal.V1_2.Model.ofCanonical_gated valid).congr (least .v1_2).symm fun _ => Iff.rfl

private theorem model_refusesPlainly (validated : validate value = .ok version) (dialect : Dialect)
    (carried : version ≤ dialect.version) (named : dialect = .aidl → value.HasNoOem) :
    (model dialect).RefusesPlainly value := by
  cases dialect with
  | v1_0 => exact (model_gated_of_hal validated).1.refuses (Version.le_oldest_iff.mp carried)
  | v1_2 => exact (model_gated_of_hal validated).2.refuses carried
  | aidl =>
    have valid := (Model.validate_eq_ok_iff.mp validated).1
    exact (Wire.Aidl.Model.ofCanonical_gated valid).refuses (named rfl)

end Models

theorem version_lt_of_ne_aidl {dialect : Dialect} (older : dialect ≠ .aidl) : dialect.version < .v1_3 := by
  cases dialect with
  | v1_0 | v1_2 => decide
  | aidl => exact absurd rfl older

section Requests

variable {value : Request} {version : Version} {dialect : Dialect}

/-- Versions 1.0 and 1.2 have the same requests: those without tokens. -/
private theorem request_gated_of_hal (validated : validate value = .ok version) (older : dialect ≠ .aidl) :
    Gated (version ≤ dialect.version) (value.hasNoPointerData = true)
      ((request dialect).ofCanonical value) := by
  obtain ⟨-, inputs, outputs⟩ := validate_request_eq_ok_iff.mp validated
  have gated := (Wire.Hal.requestToWire_gated (List.forall_mem_append.mpr ⟨inputs, outputs⟩)).congr
    (Request.version_le_iff validated (version_lt_of_ne_aidl older)).symm fun _ => Iff.rfl
  cases dialect with
  | v1_0 => exact gated
  | v1_2 => exact gated
  | aidl => exact absurd rfl older

private theorem request_version_le_iff (validated : validate value = .ok version) (older : dialect ≠ .aidl) :
    version ≤ dialect.version ↔ version = .v1_0 := by
  rw [← Version.le_oldest_iff, Request.version_le_iff validated (version_lt_of_ne_aidl older),
    Request.version_le_iff validated (by decide)]

end Requests

/-- The version that validation finds is the oldest of 1.0 and 1.2 that can carry a value, and nothing that
passes is refused for a version later on. -/
theorem validation_is_the_gate :
    (∀ (value : Model) (version : Version), validate value = .ok version →
      ((model .v1_0).Sends value ↔ version = .v1_0 ∧ value.hasNoPointerData = true) ∧
      ((model .v1_2).Sends value ↔
        version ≤ .v1_2 ∧ value.hasNoPointerData = true ∧ value.HasSignedCodes) ∧
      ((model .aidl).Sends value ↔
        value.hasNoPointerData = true ∧ value.HasNoOem ∧ value.FitsAidl) ∧
      ∀ dialect, version ≤ dialect.version → (dialect = .aidl → value.HasNoOem) →
        (model dialect).RefusesPlainly value) ∧
    ∀ (value : Request) (version : Version), validate value = .ok version →
      ∀ dialect, dialect ≠ .aidl →
        ((request dialect).Sends value ↔ version = .v1_0 ∧ value.hasNoPointerData = true) ∧
        (version ≤ dialect.version → (request dialect).RefusesPlainly value) := by
  constructor
  · intro value version validated
    have older := model_gated_of_hal validated
    have aidl := Wire.Aidl.Model.ofCanonical_gated (Model.validate_eq_ok_iff.mp validated).1
    exact ⟨older.1.succeeds_iff, older.2.succeeds_iff, aidl.succeeds_iff.trans and_left_comm,
      model_refusesPlainly validated⟩
  · intro value version validated dialect older
    have gated := request_gated_of_hal validated older
    refine ⟨gated.succeeds_iff.trans ?_, gated.refuses⟩
    rw [request_version_le_iff validated older]

/-- A model of a vendor's operation on a vendor's type. -/
def vendorModel : Model where
  main :=
    { operands :=
        [⟨.vendor ⟨0x10007, by decide⟩, [], .zero, 0, .subgraphInput, .empty, .vendor [1, 2]⟩,
          ⟨.builtin .tensorFloat32, [1], .zero, 0, .subgraphOutput, .empty, .none⟩]
      operations := [⟨.vendor ⟨0x10008, by decide⟩, [0], [1]⟩]
      inputIndexes := [0]
      outputIndexes := [1] }
  referenced := []
  operandValues := []
  pools := []
  relaxFloat32 := false
  vendors := [⟨"vendor", 1⟩]

theorem vendorModel_is_sent_from_v1_2 :
    validate vendorModel = .ok .v1_2 ∧ ¬(model .v1_0).Sends vendorModel ∧
      (model .v1_2).Sends vendorModel ∧ validate halvesRequest = .ok .v1_0 ∧
      (request .v1_2).Sends halvesRequest := by
  have models := validation_is_the_gate.1 vendorModel .v1_2 rfl
  have requests := validation_is_the_gate.2 halvesRequest .v1_0 rfl .v1_2 (by decide)
  have signed : vendorModel.HasSignedCodes := (Model.forall_mem_subgraphs rfl).mpr
    ⟨by simp [vendorModel, Coded.HasSignedCode], by simp [vendorModel, Coded.HasSignedCode]⟩
  have notSent : ¬(model .v1_0).Sends vendorModel := by
    intro sent
    exact absurd (models.1.mp sent).1 (by decide)
  exact ⟨rfl, notSent, models.2.1.mpr ⟨by decide, rfl, signed⟩, rfl, requests.1.mpr ⟨rfl, rfl⟩⟩

end Crossing

end NeuralDevice
