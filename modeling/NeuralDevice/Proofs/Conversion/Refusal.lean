import NeuralDevice.Proofs.Conversion.Message
import NeuralDevice.Proofs.Validation.Operand

/-!
What conversions to messages refuse. A conversion succeeds exactly if the dialect knows what is converted and
its numbers fit the message; what the dialect knows is refused only for its host memory or its numbers.
-/

namespace NeuralDevice

open Result

/-- Refusals that have nothing to do with versions. -/
inductive PlainRefusal : Error → Prop
  | pointerModel : PlainRefusal ConversionFault.pointerModel.error
  | pointerRequest : PlainRefusal ConversionFault.pointerRequest.error
  | outOfRange (what : String) (value : Int) : PlainRefusal (ConversionFault.outOfRange what value).error

/-- A conversion of something that is known or not, and that fits or not. -/
structure Gated {α : Type} (known fits : Prop) (result : Result α) : Prop where
  succeeds_iff : (∃ value, result = .ok value) ↔ known ∧ fits
  refuses : known → ∀ error, result = .error error → PlainRefusal error

namespace Gated

variable {α β : Type} {known known' fits fits' : Prop} {result : Result α}

theorem congr (gated : Gated known fits result) (knows : known ↔ known')
    (holds : known → (fits ↔ fits')) : Gated known' fits' result where
  succeeds_iff := gated.succeeds_iff.trans ((and_congr_right holds).trans (and_congr_left' knows))
  refuses := fun recognized => gated.refuses (knows.mpr recognized)

theorem of_eq_ok {value : α} (done : result = .ok value) : Gated True True result where
  succeeds_iff := by simp [done]
  refuses := by simp [done]

theorem of_pure (value : α) : Gated True True (pure value : Result α) := of_eq_ok rfl

/-- What the dialect does not know may be refused for any reason. -/
theorem of_unknown (unknown : ¬known) (error : Error) : Gated known fits (throw error : Result α) where
  succeeds_iff := by simp [unknown, throw_ne_ok]
  refuses := fun recognized => absurd recognized unknown

theorem bind {first : Result α} {next : α → Result β} (head : Gated known fits first)
    (tail : ∀ middle, first = .ok middle → Gated known' fits' (next middle)) :
    Gated (known ∧ known') (fits ∧ fits') (first >>= next) where
  succeeds_iff := by
    simp only [bind_eq_ok_iff]
    constructor
    · intro done
      rcases done with ⟨value, middle, started, finished⟩
      have before := head.succeeds_iff.mp ⟨middle, started⟩
      have after := (tail middle started).succeeds_iff.mp ⟨value, finished⟩
      exact ⟨⟨before.1, after.1⟩, before.2, after.2⟩
    · intro possible
      rcases possible with ⟨⟨known, known'⟩, fits, fits'⟩
      obtain ⟨middle, started⟩ := head.succeeds_iff.mpr ⟨known, fits⟩
      obtain ⟨value, finished⟩ := (tail middle started).succeeds_iff.mpr ⟨known', fits'⟩
      exact ⟨value, middle, started, finished⟩
  refuses := by
    intro recognized error failed
    cases started : first with
    | error other =>
      rw [started] at failed
      cases failed
      exact head.refuses recognized.1 error started
    | ok middle =>
      rw [started] at failed
      exact (tail middle started).refuses recognized.2 error failed

/-- A list is refused for one of its members. -/
theorem mapM {step : α → Result β} {knows holds : α → Prop} {sources : List α}
    (each : ∀ source ∈ sources, Gated (knows source) (holds source) (step source)) :
    Gated (∀ source ∈ sources, knows source) (∀ source ∈ sources, holds source) (sources.mapM step) := by
  induction sources with
  | nil => exact (of_pure []).congr (by simp) (by simp)
  | cons source rest ih =>
    rw [List.forall_mem_cons] at each
    have list := each.1.bind fun value _ => (ih each.2).bind fun others _ => of_pure (value :: others)
    rw [List.mapM_cons]
    exact list.congr (by simp) (by simp)

section Checks

variable {bad : Prop} [Decidable bad] {error : Error}

/-- A check that has nothing to do with versions. -/
theorem refuse (plain : PlainRefusal error) (rest : ¬bad → Gated known fits result) :
    Gated known (¬bad ∧ fits) (if bad then throw error else result) := by
  by_cases found : bad
  · rw [if_pos found]
    constructor
    · simp [found, throw_ne_ok]
    · intro _ other failed
      exact Except.error.inj failed ▸ plain
  · rw [if_neg found]
    exact (rest found).congr Iff.rfl (by simp [found])

/-- A check for something that the dialect does not know. -/
theorem recognize (rest : ¬bad → Gated known fits result) :
    Gated (¬bad ∧ known) fits (if bad then throw error else result) := by
  by_cases found : bad
  · rw [if_pos found]
    exact of_unknown (by simp [found]) error
  · rw [if_neg found]
    exact (rest found).congr (by simp [found]) (by simp)

end Checks

end Gated

section Numbers

variable {α β : Type} [Word α] [Word β]

theorem rewidth_gated (what : String) (word : α) :
    Gated True (Word.Fits β (Word.toInt word)) (rewidth what word : Result β) where
  succeeds_iff := exists_narrow_iff.trans (and_iff_right trivial).symm
  refuses := by
    intro _ error failed
    unfold rewidth narrow at failed
    split at failed
    · cases failed
    · cases failed
      exact .outOfRange what _

theorem rewidthAll_gated (what : String) (words : List α) :
    Gated True (∀ word ∈ words, Word.Fits β (Word.toInt word)) (rewidthAll what words : Result (List β)) :=
  (Gated.mapM fun word _ => rewidth_gated what word).congr (by simp) (by simp)

end Numbers

/-- The codes from this one on are left to the makers of drivers. -/
def CodeTable.firstOem : UInt32 := 10000

namespace Coded

variable {β : Type} [DecidableEq β] [WireTable β]

/-- Whether the type is a vendor's whose code fits a signed number. -/
def HasSignedCode : Coded β → Prop
  | .builtin _ => True
  | .vendor code => code.code.toNat < 2 ^ 31

theorem not_hasSignedCode_iff {type : Coded β} :
    ¬type.HasSignedCode ↔ type.isVendor = true ∧ 2 ^ 31 ≤ type.code.toNat := by
  cases type with
  | builtin entry => exact iff_of_false (not_not_intro trivial) nofun
  | vendor code => exact Nat.not_lt.trans (and_iff_right rfl).symm

theorem hasSignedCode_of_version_le {type : Coded β} (old : type.version ≤ .v1_0) : type.HasSignedCode := by
  cases type with
  | builtin entry => trivial
  | vendor code => exact absurd old (show ¬Version.v1_2 ≤ Version.v1_0 by decide)

/-- Whether the type is left to the maker of the driver. -/
def isOem : Coded β → Bool
  | .builtin entry => CodeTable.firstOem ≤ CodeTable.code entry
  | .vendor _ => false

theorem toWire_gated (dialect : Dialect) (type : Coded β) :
    Gated (type.isNameable dialect = true) type.HasSignedCode (type.toWire dialect) := by
  cases type with
  | builtin entry =>
    simp only [toWire, isNameable]
    cases number? dialect entry with
    | none => exact .of_unknown (by simp) _
    | some number => exact (Gated.of_pure number).congr (by simp) fun _ => Iff.rfl
  | vendor code =>
    simp only [toWire, isNameable]
    by_cases escapes : dialect.hasVendors = true
    · simp only [escapes, if_true]
      exact (rewidth_gated _ _).congr (by simp) fun _ => Word.fits_int32_iff
    · simp only [escapes, Bool.false_eq_true, if_false]
      exact .of_unknown (by simp) _

end Coded

/-- Tables with numbers for what the versions know. Only the AIDL version leaves something out: the types that are
left to the maker of the driver. -/
class DatedTable (β : Type) [DecidableEq β] [WireTable β] : Prop where
  hal : ∀ (entry : β) (dialect : Dialect), dialect ≠ .aidl →
    ((Coded.number? dialect entry).isSome = true ↔ CodeTable.version entry ≤ dialect.version)
  aidl : ∀ entry : β, (Coded.number? .aidl entry).isSome = true ↔ ¬CodeTable.firstOem ≤ CodeTable.code entry

instance : DatedTable BuiltinOperand where
  hal entry dialect older := by
    cases dialect with
    | v1_0 | v1_2 => cases entry <;> decide
    | aidl => exact absurd rfl older
  aidl entry := by cases entry <;> decide

instance : DatedTable BuiltinOperation where
  hal entry dialect older := by
    cases dialect with
    | v1_0 | v1_2 => cases entry <;> decide
    | aidl => exact absurd rfl older
  aidl entry := by cases entry <;> decide +kernel

private theorem Dialect.hasVendors_iff (dialect : Dialect) : dialect.hasVendors = true ↔ .v1_2 ≤ dialect.version := by
  cases dialect <;> decide

namespace Coded

variable {β : Type} [DecidableEq β] [WireTable β] [DatedTable β]

/-- Before AIDL, a dialect names the types that its version knows. -/
theorem isNameable_iff_version_le (dialect : Dialect) (older : dialect ≠ .aidl) (type : Coded β) :
    type.isNameable dialect = true ↔ type.version ≤ dialect.version := by
  cases type with
  | builtin entry => exact DatedTable.hal entry dialect older
  | vendor code => exact dialect.hasVendors_iff

theorem isNameable_aidl_iff (type : Coded β) : type.isNameable .aidl = true ↔ type.isOem = false := by
  cases type with
  | builtin entry => simpa [isOem, isNameable] using DatedTable.aidl entry
  | vendor code => exact iff_of_true rfl rfl

end Coded

theorem OperandLifetime.toWire_gated (dialect : Dialect) {lifetime : OperandLifetime}
    (alive : lifetime ≠ .pointer) :
    Gated (lifetime.version ≤ dialect.version) True (WireEnum.toWire dialect lifetime) := by
  cases dialect <;> cases lifetime <;>
    first
    | exact absurd rfl alive
    | exact (Gated.of_eq_ok rfl).congr (by decide) (by simp)
    | exact .of_unknown (by decide) _

section Messages

variable (index extent width : Type) [Word index] [Word extent] [Word width]

theorem DataLocation.toWire_gated {location : DataLocation} (bare : location.pointer = none) :
    Gated True
      (Word.Fits index (Word.toInt location.poolIndex) ∧
        Word.Fits extent (Word.toInt location.offset) ∧ Word.Fits extent (Word.toInt location.length))
      (location.toWire : Result (Wire.Location index extent)) := by
  have pool := rewidth_gated (β := index) "DataLocation pool index" location.poolIndex
  have offset := rewidth_gated (β := extent) "DataLocation offset" location.offset
  have length := rewidth_gated (β := extent) "DataLocation length" location.length
  have numbers := pool.bind fun pool _ => offset.bind fun offset _ => length.bind fun length _ =>
    Gated.of_pure (Wire.Location.mk pool offset length)
  simp only [toWire, bare]
  exact numbers.congr (by simp) (by simp)

theorem ExtraParams.toWire_gated (params : ExtraParams) :
    Gated True
      (∀ quant, params = .channelQuant quant → Word.Fits index (Word.toInt quant.channelDim))
      (params.toWire : Result (Option (Wire.ExtraParams index))) := by
  cases params with
  | none => exact (Gated.of_pure _).congr (by simp) (by simp)
  | vendor data => exact (Gated.of_pure _).congr (by simp) (by simp)
  | channelQuant quant =>
    have number := (rewidth_gated (β := index) "channelDim" quant.channelDim).bind fun channelDim _ =>
      Gated.of_pure (some (Sum.inl ⟨quant.scales, channelDim⟩ : Wire.ExtraParams index))
    exact number.congr (by simp) (by simp)

theorem Operation.toWire_gated (dialect : Dialect) (operation : Operation) :
    Gated (operation.type.isNameable dialect = true)
      (operation.type.HasSignedCode ∧
        ∀ operand ∈ operation.inputs ++ operation.outputs, Word.Fits index (Word.toInt operand))
      (operation.toWire dialect : Result (Wire.Operation index)) := by
  have parts := (operation.type.toWire_gated dialect).bind fun type _ =>
    (rewidthAll_gated (β := index) "operation input" operation.inputs).bind fun inputs _ =>
      (rewidthAll_gated (β := index) "operation output" operation.outputs).bind fun outputs _ =>
        Gated.of_pure (Wire.Operation.mk type inputs outputs)
  refine parts.congr (by simp) fun _ => ?_
  simp only [List.forall_mem_append, and_true]

theorem Argument.toWire_gated {argument : Argument} (bare : argument.location.pointer = none)
    (alive : argument.lifetime ≠ .pointer) :
    Gated True
      ((Word.Fits index (Word.toInt argument.location.poolIndex) ∧
        Word.Fits extent (Word.toInt argument.location.offset) ∧
        Word.Fits extent (Word.toInt argument.location.length)) ∧
        ∀ dimension ∈ argument.dimensions, Word.Fits index (Word.toInt dimension))
      (argument.toWire : Result (Wire.Argument index extent)) := by
  obtain ⟨hasNoValue, given⟩ : ∃ hasNoValue, argument.lifetime.isWithoutValue = .ok hasNoValue := by
    cases found : argument.lifetime with
    | pool => exact ⟨_, rfl⟩
    | noValue => exact ⟨_, rfl⟩
    | pointer => exact absurd found alive
  have parts := (Gated.of_eq_ok given).bind fun hasNoValue _ =>
    (DataLocation.toWire_gated index extent bare).bind fun location _ =>
      (rewidthAll_gated (β := index) "argument dimension" argument.dimensions).bind fun dimensions _ =>
        Gated.of_pure (Wire.Argument.mk hasNoValue (some location) dimensions)
  exact parts.congr (by simp) (by simp)

theorem Memory.toWire_gated (memory : Memory) :
    Gated True (Word.Fits width (Word.toInt memory.size)) (memory.toWire : Result (Wire.Memory width)) := by
  have size := (rewidth_gated (β := width) "memory size" memory.size).bind fun size _ =>
    Gated.of_pure (Wire.Memory.mk memory.name size (some memory.handle.toWire))
  exact size.congr (by simp) (by simp)

theorem VendorEntry.toWire_gated (entry : VendorEntry) :
    Gated True (Word.Fits index (Word.toInt entry.vendor))
      (entry.toWire : Result (Wire.VendorEntry index)) := by
  have vendor := (rewidth_gated (β := index) "extension prefix" entry.vendor).bind fun vendor _ =>
    Gated.of_pure (Wire.VendorEntry.mk entry.name vendor)
  exact vendor.congr (by simp) (by simp)

end Messages

end NeuralDevice
