import NeuralDevice.Proofs.Validation.Model

/-!
Scales, zero points and parameters that suit the type of an operand. The one scale of a tensor is tested for
being above zero, and so is a number; the scales of channels are tested for being at most zero, which no NaN is.
-/

namespace NeuralDevice

/-- A number above zero: it is one, and neither zero nor below. -/
structure Single.IsAboveZero (x : Single) : Prop where
  isNaN : x.isNaN = false
  isNegative : x.isNegative = false
  isZero : x.isZero = false

namespace Single

variable {x : Single}

theorem isZero_eq : x.isZero = (!x.isNaN && decide (x.rank = 0)) := by
  rw [isZero, eq, show zero.isNaN = false from rfl, show zero.rank = 0 from rfl, Bool.not_false, Bool.and_true]

private theorem rank_nonneg_of_not_isNegative (plain : x.isNegative = false) : 0 ≤ x.rank := by
  simp [rank, plain]

private theorem rank_nonpos_of_isNegative (negative : x.isNegative = true) : x.rank ≤ 0 := by
  simp [rank, negative]

theorem isAboveZero_iff : x.IsAboveZero ↔ x.isNaN = false ∧ 0 < x.rank := by
  constructor
  · intro above
    have nonzero := above.isZero
    rw [isZero_eq, above.isNaN, Bool.not_false, Bool.true_and, decide_eq_false_iff_not] at nonzero
    have nonnegative := rank_nonneg_of_not_isNegative above.isNegative
    exact ⟨above.isNaN, by omega⟩
  · intro positive
    obtain ⟨isNumber, positive⟩ := positive
    refine ⟨isNumber, ?_, ?_⟩
    · cases sign : x.isNegative with
      | false => rfl
      | true =>
        have nonpositive := rank_nonpos_of_isNegative sign
        omega
    · rw [isZero_eq, isNumber, Bool.not_false, Bool.true_and, decide_eq_false_iff_not]
      omega

private theorem isPositive_iff : x.isPositive = true ↔ x.IsAboveZero := by
  rw [isAboveZero_iff, isPositive, lt, show zero.isNaN = false from rfl, show zero.rank = 0 from rfl]
  simp

private theorem zero_le_iff : Single.zero.le x = true ↔ x.isZero = true ∨ x.IsAboveZero := by
  rw [isAboveZero_iff, isZero_eq, le, show zero.isNaN = false from rfl, show zero.rank = 0 from rfl]
  cases x.isNaN
  · simp
    omega
  · simp

private theorem not_le_zero_iff : x.le .zero = false ↔ x.IsAboveZero ∨ x.isNaN = true := by
  rw [isAboveZero_iff, le, show zero.isNaN = false from rfl, show zero.rank = 0 from rfl]
  cases x.isNaN <;> simp

end Single

namespace BuiltinOperand

/-- The least and the greatest zero point of a quantized type with one scale. -/
def zeroPoints? : BuiltinOperand → Option (Int × Int)
  | .tensorQuant8Asymm => some (0, 255)
  | .tensorQuant8AsymmSigned => some (-128, 127)
  | .tensorQuant16Asymm => some (0, 65535)
  | .tensorQuant8Symm | .tensorQuant16Symm => some (0, 0)
  | .float32 | .int32 | .uint32 | .tensorFloat32 | .tensorInt32 | .bool | .tensorFloat16 | .tensorBool8
  | .float16 | .tensorQuant8SymmPerChannel | .subgraph | .oem | .tensorOemByte => none

/-- Types whose operands have no scale of their own. Vendors decide about theirs, and sums of quantized products
have one. -/
def isUnscaled (type : BuiltinOperand) : Bool :=
  type.zeroPoints?.isNone && !decide (type ∈ [tensorInt32, oem, tensorOemByte])

end BuiltinOperand

namespace Operand

/-- The dimension of the channels is one of the operand's, and has a scale for each index if its length is known.
Each scale is above zero, or a NaN. -/
structure HasScaledChannels (operand : Operand) (params : ChannelQuantization) : Prop where
  rank : params.channelDim.toNat < operand.dimensions.length
  count : ∀ channels, operand.dimensions[params.channelDim.toNat]? = some channels →
    params.scales.length = channels.toNat ∨ channels = 0
  scales : ∀ scale ∈ params.scales, scale.IsAboveZero ∨ scale.isNaN = true

/-- Scale, zero point and parameters are such as the type has. -/
structure IsQuantized (operand : Operand) : Prop where
  channels_iff : (∃ params, operand.extraParams = .channelQuant params) ↔
    operand.type = .builtin .tensorQuant8SymmPerChannel
  channels : ∀ params, operand.extraParams = .channelQuant params → operand.HasScaledChannels params
  vendor : ∀ data, operand.extraParams = .vendor data → ∃ code, operand.type = .vendor code
  scaled : ∀ type, operand.type = .builtin type → ∀ low high, type.zeroPoints? = some (low, high) →
    operand.scale.IsAboveZero ∧ low ≤ operand.zeroPoint.toInt ∧ operand.zeroPoint.toInt ≤ high
  summed : operand.type = .builtin .tensorInt32 → operand.scale.isZero = true ∨ operand.scale.IsAboveZero
  unscaled : ∀ type, operand.type = .builtin type → type.isUnscaled = true →
    operand.scale.isZero = true ∧ operand.zeroPoint = 0

variable {operand : Operand}

private theorem hasZeroPointIn_iff {low high : Int} :
    operand.hasZeroPointIn low high = true ↔
      low ≤ operand.zeroPoint.toInt ∧ operand.zeroPoint.toInt ≤ high := by
  simp [hasZeroPointIn]

private theorem zeroPoint_eq_zero_iff :
    operand.zeroPoint = 0 ↔ 0 ≤ operand.zeroPoint.toInt ∧ operand.zeroPoint.toInt ≤ 0 := by
  rw [← Int32.toInt_inj, Int32.toInt_zero]
  omega

private theorem hasScaledChannels_iff {params : ChannelQuantization} :
    operand.HasScaledChannels params ↔ operand.HasValidChannels params := by
  unfold HasValidChannels
  simp only [Single.not_le_zero_iff]
  constructor
  · intro scaled
    have found := List.getElem?_eq_getElem scaled.rank
    exact ⟨_, found, fun known => (scaled.count _ found).resolve_right known, scaled.scales⟩
  · intro valid
    obtain ⟨channels, found, counted, scales⟩ := valid
    obtain ⟨inside, -⟩ := List.getElem?_eq_some_iff.mp found
    refine ⟨inside, fun other present => ?_, scales⟩
    obtain rfl := Option.some.inj (found.symm.trans present)
    by_cases known : channels = 0
    · exact .inr known
    · exact .inl (counted known)

/-- The parameters are those of the type exactly if channels are where they belong, and vendor data too. -/
private theorem hasValidExtraParams_iff :
    operand.HasValidExtraParams ↔
      ((∃ params, operand.extraParams = .channelQuant params) ↔
        operand.type = .builtin .tensorQuant8SymmPerChannel) ∧
      (∀ params, operand.extraParams = .channelQuant params → operand.HasScaledChannels params) ∧
      ∀ data, operand.extraParams = .vendor data → ∃ code, operand.type = .vendor code := by
  simp only [hasScaledChannels_iff]
  unfold HasValidExtraParams
  cases operand.extraParams with
  | none => simp
  | channelQuant params => simp
  | vendor data =>
    cases operand.type with
    | builtin type => simp [Coded.isVendor]
    | vendor code => simp [Coded.isVendor]

private theorem hasValidQuantization_iff :
    operand.hasValidQuantization = true ↔
      (∀ type, operand.type = .builtin type → ∀ low high, type.zeroPoints? = some (low, high) →
        operand.scale.IsAboveZero ∧ low ≤ operand.zeroPoint.toInt ∧ operand.zeroPoint.toInt ≤ high) ∧
      (operand.type = .builtin .tensorInt32 → operand.scale.isZero = true ∨ operand.scale.IsAboveZero) ∧
      ∀ type, operand.type = .builtin type → type.isUnscaled = true →
        operand.scale.isZero = true ∧ operand.zeroPoint = 0 := by
  unfold hasValidQuantization
  cases typed : operand.type with
  | vendor code => simp
  | builtin type =>
    simp only [Coded.builtin.injEq, forall_eq']
    cases type <;>
      simp [BuiltinOperand.zeroPoints?, BuiltinOperand.isUnscaled, Single.isPositive_iff, Single.zero_le_iff,
        hasZeroPointIn_iff, zeroPoint_eq_zero_iff]

private theorem isQuantized_iff :
    operand.IsQuantized ↔ operand.hasValidQuantization = true ∧ operand.HasValidExtraParams := by
  rw [hasValidQuantization_iff, hasValidExtraParams_iff]
  constructor
  · intro quantized
    exact ⟨⟨quantized.scaled, quantized.summed, quantized.unscaled⟩, quantized.channels_iff, quantized.channels,
      quantized.vendor⟩
  · intro both
    obtain ⟨⟨scaled, summed, unscaled⟩, channels_iff, channels, vendor⟩ := both
    exact ⟨channels_iff, channels, vendor, scaled, summed, unscaled⟩

end Operand

namespace Model

/-- Every operand of a valid model, in whatever subgraph it is, is quantized as its type is. -/
theorem operands_are_quantized {model : Model} {version : Version} (validated : validate model = .ok version) :
    ∀ subgraph ∈ model.subgraphs, ∀ operand ∈ subgraph.operands, operand.IsQuantized := by
  intro subgraph member operand present
  have valid := ((validate_eq_ok_iff.mp validated).1.subgraphs subgraph member).operands operand present
  exact Operand.isQuantized_iff.mpr ⟨valid.quantization, valid.extraParams⟩

/-- An operand with one scale, at the end of the range of its zero point, and one with a scale for each channel. -/
def quantized : Model where
  main :=
    ⟨[⟨.builtin .tensorQuant8Asymm, [2], .one, 255, .temporaryVariable, .empty, .none⟩,
      ⟨.builtin .tensorQuant8SymmPerChannel, [3, 2], .zero, 0, .temporaryVariable, .empty,
        .channelQuant ⟨[.one, .largest], 1⟩⟩], [], [], []⟩
  referenced := []
  operandValues := []
  pools := []
  relaxFloat32 := false
  vendors := []

theorem operands_with_scales_are_quantized :
    validate quantized = .ok .v1_2 ∧ ∀ operand ∈ quantized.main.operands, operand.IsQuantized := by
  have valid : validate quantized = .ok .v1_2 := rfl
  exact ⟨valid, operands_are_quantized valid quantized.main (.head _)⟩

def unknownScale : Single := ⟨0x7fc00000⟩

/-- One channel, with a scale that is no number. -/
def unscaledChannel : Operand :=
  ⟨.builtin .tensorQuant8SymmPerChannel, [1], .zero, 0, .temporaryVariable, .empty,
    .channelQuant ⟨[unknownScale], 0⟩⟩

def unscaled : Model := ⟨⟨[unscaledChannel], [], [], []⟩, [], [], [], false, []⟩

/-- No NaN is at most zero, so a valid model can have a channel whose scale is not above zero. -/
theorem channel_scales_without_value_are_valid :
    validate unscaled = .ok .v1_2 ∧ unscaledChannel ∈ unscaled.main.operands ∧
      unscaledChannel.extraParams = .channelQuant ⟨[unknownScale], 0⟩ ∧ unknownScale.isNaN = true ∧
      ¬unknownScale.IsAboveZero := by
  refine ⟨rfl, .head _, rfl, rfl, fun above => ?_⟩
  cases above.isNaN

end Model

end NeuralDevice
