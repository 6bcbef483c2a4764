import NeuralDevice.Conversion.Codes
import NeuralDevice.Proofs.Result

/-!
Numbers and codes cross into a dialect and back unchanged. A word is accepted in another width exactly when
that width holds its value, and a type or enumeration value is accepted exactly when the dialect has a code
for it, so either direction undoes the other.
-/

namespace NeuralDevice

open Result

/-- A required field that was found is the one given. -/
theorem required_eq_ok_iff {α : Type} {field : Option α} {name : String} {value : α} :
    required field name = .ok value ↔ field = some value := by
  cases field <;> simp [required, pure_eq_ok_iff, throw_ne_ok]

section Word

variable {α β : Type} [Word α] [Word β]

theorem rewidth_eq_ok_iff {what : String} {source : α} {target : β} :
    rewidth what source = .ok target ↔ Word.toInt target = Word.toInt source :=
  narrow_eq_ok_iff

theorem rewidth_inverse (what : String) :
    Inverse (rewidth what : α → Result β) (rewidth what : β → Result α) := by
  intro source target
  rw [rewidth_eq_ok_iff, rewidth_eq_ok_iff, eq_comm]

theorem rewidthAll_inverse (what : String) :
    Inverse (rewidthAll what : List α → Result (List β)) (rewidthAll what : List β → Result (List α)) :=
  (rewidth_inverse what).mapM

theorem rewidthAll_self (what : String) (words : List α) :
    rewidthAll what words = (.ok words : Result (List α)) :=
  mapM_eq_ok_iff.mpr (List.forall₂_same.mpr fun word _ => rewidth_self what word)

/-- Whether a number fits an integer type. -/
def Word.Fits (α : Type) [Word α] (value : Int) : Prop := low α ≤ value ∧ value < high α

theorem Word.fits_toInt (word : α) : Word.Fits α (Word.toInt word) := Word.toInt_mem word

theorem exists_narrow_iff {what : String} {value : Int} :
    (∃ word : α, narrow what value = .ok word) ↔ Word.Fits α value := by
  simp only [narrow_eq_ok_iff]
  constructor
  · intro found
    rcases found with ⟨word, rfl⟩
    exact Word.fits_toInt word
  · intro fits
    exact ⟨Word.ofInt value, Word.toInt_ofInt value fits.1 fits.2⟩

end Word

theorem Word.fits_int32_iff {value : Nat} : Word.Fits Int32 value ↔ value < 2 ^ 31 := by
  have top : (high Int32 : Int) = (2 ^ 31 : Nat) := rfl
  have bottom : low Int32 ≤ value := Int.le_trans low_le_zero (Int.natCast_nonneg _)
  rw [Fits, top, Int.ofNat_lt, and_iff_right bottom]

theorem Word.fits_int64_iff {value : Nat} : Word.Fits Int64 value ↔ value < 2 ^ 63 := by
  have top : (high Int64 : Int) = (2 ^ 63 : Nat) := rfl
  have bottom : low Int64 ≤ value := Int.le_trans low_le_zero (Int.natCast_nonneg _)
  rw [Fits, top, Int.ofNat_lt, and_iff_right bottom]

/-- Tables whose numbers are the codes of the types, in every dialect. -/
class AgreedTable (β : Type) [DecidableEq β] [WireTable β] : Prop where
  agreed : ∀ dialect, ∀ row ∈ WireTable.numbers (β := β) dialect, row.2.toInt = (CodeTable.code row.1).toNat

instance : AgreedTable BuiltinOperand where
  agreed dialect := by cases dialect <;> decide

instance : AgreedTable BuiltinOperation where
  agreed dialect := by cases dialect <;> decide

theorem VendorCode.ofNumber?_eq_some_iff {number : Int32} {code : VendorCode} :
    ofNumber? number = some code ↔ number.toInt = code.code.toNat := by
  simp only [ofNumber?, Option.bind_eq_some_iff, Word.ofInt?_eq_some_iff]
  constructor
  · intro found
    obtain ⟨raw, same, read⟩ := found
    rw [code_of_ofCode? read]
    exact same.symm
  · intro same
    exact ⟨code.code, same.symm, code.ofCode?_code⟩

namespace Coded

variable {β : Type} [DecidableEq β] [WireTable β] {dialect : Dialect} {number : Int32} {entry : β}

private theorem mem_of_number? (named : number? dialect entry = some number) :
    (entry, number) ∈ WireTable.numbers dialect := by
  obtain ⟨⟨other, taken⟩, found, rfl⟩ := Option.map_eq_some_iff.mp named
  have same : other = entry := by simpa using List.find?_some found
  exact same ▸ List.mem_of_find?_eq_some found

private theorem mem_of_ofNumber? (read : ofNumber? dialect number = some entry) :
    (entry, number) ∈ WireTable.numbers dialect := by
  obtain ⟨⟨other, taken⟩, found, rfl⟩ := Option.map_eq_some_iff.mp read
  have same : taken = number := by simpa using List.find?_some found
  exact same ▸ List.mem_of_find?_eq_some found

/-- A number that the dialect has for no builtin type is a vendor's code, if it is received at all. -/
private theorem ofWire_eq_ok_iff_of_none (unlisted : ofNumber? (β := β) dialect number = none) {type : Coded β} :
    ofWire dialect number = .ok type ↔
      ∃ code, type = .vendor code ∧ dialect.hasVendors = true ∧ number.toInt = code.code.toNat := by
  have vendors : ∀ code, (if dialect.hasVendors then VendorCode.ofNumber? number else none) = some code ↔
      dialect.hasVendors = true ∧ number.toInt = code.code.toNat := by
    intro code
    cases dialect.hasVendors <;> simp [VendorCode.ofNumber?_eq_some_iff]
  simp only [← vendors, ofWire, unlisted]
  cases (if dialect.hasVendors then VendorCode.ofNumber? number else none) with
  | none => simp [throw_ne_ok]
  | some code => simp [pure_eq_ok_iff, @eq_comm _ type]

variable [AgreedTable β]

theorem toInt_of_mem_numbers (listed : (entry, number) ∈ WireTable.numbers dialect) :
    number.toInt = (CodeTable.code entry).toNat := AgreedTable.agreed dialect _ listed

/-- A builtin type is sent by its code, if the dialect has a number for it. -/
theorem number?_eq_some_iff :
    number? dialect entry = some number ↔
      (number? dialect entry).isSome = true ∧ number.toInt = (CodeTable.code entry).toNat := by
  constructor
  · intro named
    exact ⟨Option.isSome_of_eq_some named, toInt_of_mem_numbers (mem_of_number? named)⟩
  · intro parts
    obtain ⟨listed, value⟩ := parts
    obtain ⟨other, named⟩ := Option.isSome_iff_exists.mp listed
    have same : other = number :=
      Int32.toInt_inj.mp ((toInt_of_mem_numbers (mem_of_number? named)).trans value.symm)
    rw [named, same]

/-- The numbers of a dialect are read as what they are written for. -/
theorem ofNumber?_eq_some_iff : ofNumber? dialect number = some entry ↔ number? dialect entry = some number := by
  constructor
  · intro read
    have listed := mem_of_ofNumber? read
    refine number?_eq_some_iff.mpr ⟨?_, toInt_of_mem_numbers listed⟩
    rw [number?, Option.isSome_map, List.find?_isSome]
    exact ⟨_, listed, decide_eq_true rfl⟩
  · intro written
    have listed := mem_of_number? written
    cases read : ofNumber? (β := β) dialect number with
    | none => exact absurd (decide_eq_true rfl) (List.find?_eq_none.mp (Option.map_eq_none_iff.mp read) _ listed)
    | some other =>
      have value := (toInt_of_mem_numbers (mem_of_ofNumber? read)).symm.trans (toInt_of_mem_numbers listed)
      have same : CodeTable.code other = CodeTable.code entry := UInt32.toNat_inj.mp (Int.natCast_inj.mp value)
      have found := builtin?_code other
      rw [same, builtin?_code] at found
      exact found.symm

private theorem toInt_ne_of_ofNumber? (read : ofNumber? dialect number = some entry) (code : VendorCode) :
    number.toInt ≠ code.code.toNat := by
  intro value
  have small := (toInt_of_mem_numbers (mem_of_ofNumber? read)).symm.trans value
  have same : CodeTable.code entry = code.code := UInt32.toNat_inj.mp (Int.natCast_inj.mp small)
  have missed := builtin?_vendor (β := β) code
  rw [← same, builtin?_code] at missed
  cases missed

/-- A type is sent as its own code, if the dialect names it and the code fits. -/
theorem toWire_eq_ok_iff {type : Coded β} :
    type.toWire dialect = .ok number ↔ type.isNameable dialect = true ∧ number.toInt = type.code.toNat := by
  cases type with
  | builtin entry =>
    refine Iff.trans ?_ number?_eq_some_iff
    simp only [toWire]
    cases number? dialect entry <;> simp [pure_eq_ok_iff, throw_ne_ok]
  | vendor code => exact demand_eq_ok_iff.trans (and_congr_right fun _ => rewidth_eq_ok_iff)

/-- A number is received as the type that has it as its code, if the dialect names the type. -/
theorem ofWire_eq_ok_iff {type : Coded β} :
    ofWire dialect number = .ok type ↔ type.isNameable dialect = true ∧ number.toInt = type.code.toNat := by
  cases read : ofNumber? (β := β) dialect number with
  | some other =>
    have received : ofWire dialect number = (.ok (.builtin other) : Result (Coded β)) := by
      simp only [ofWire, read]
      rfl
    rw [received, Except.ok.injEq]
    cases type with
    | builtin entry =>
      refine Iff.trans ?_ (ofNumber?_eq_some_iff.trans number?_eq_some_iff)
      rw [read, Coded.builtin.injEq, Option.some.injEq]
    | vendor code => exact iff_of_false nofun fun parts => toInt_ne_of_ofNumber? read code parts.2
  | none =>
    rw [ofWire_eq_ok_iff_of_none read]
    cases type with
    | builtin entry =>
      refine iff_of_false nofun fun parts => ?_
      have named := ofNumber?_eq_some_iff.mpr (number?_eq_some_iff.mpr parts)
      rw [read] at named
      cases named
    | vendor code => simp [isNameable, Coded.code]

theorem wire_inverse (dialect : Dialect) :
    Inverse (toWire (β := β) dialect) (ofWire (β := β) dialect) := by
  intro type raw
  rw [toWire_eq_ok_iff, ofWire_eq_ok_iff]

end Coded

namespace WireEnum

variable {α : Type} [WireEnum α]

/-- Where no code stands for two values, codes are received as what they were sent for. -/
theorem wire_inverse (dialect : Dialect) (listed : ∀ value : α, value ∈ Named.all)
    (distinct : ∀ (first second : α) (code : Int32),
      code? dialect first = some code → code? dialect second = some code → first = second) :
    Inverse (toWire (α := α) dialect) (ofWire (α := α) dialect) := by
  intro value code
  have sent : toWire dialect value = .ok code ↔ code? dialect value = some code := by
    unfold toWire
    cases code? dialect value <;> simp [pure_eq_ok_iff, throw_ne_ok]
  have received : ofWire dialect code = .ok value ↔ ofCode? dialect code = some value := by
    unfold ofWire
    cases ofCode? (α := α) dialect code <;> simp [pure_eq_ok_iff, throw_ne_ok]
  rw [sent, received]
  constructor
  · intro named
    cases found : ofCode? (α := α) dialect code with
    | none =>
      have missed := List.find?_eq_none.mp found value (listed value)
      simp [named] at missed
    | some other =>
      have matched := List.find?_some found
      rw [distinct other value code (by simpa using matched) named]
  · intro found
    simpa using List.find?_some found

end WireEnum

theorem OperandLifetime.wire_inverse (dialect : Dialect) :
    Inverse (WireEnum.toWire (α := OperandLifetime) dialect)
      (WireEnum.ofWire (α := OperandLifetime) dialect) := by
  apply WireEnum.wire_inverse
  · intro value
    cases value <;> decide
  · intro first second code
    cases dialect <;> cases first <;> cases second <;> simp [WireEnum.code?] <;> grind

end NeuralDevice
