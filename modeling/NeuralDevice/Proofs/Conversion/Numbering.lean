import Mathlib.Order.Defs.Unbundled
import NeuralDevice.Proofs.Conversion.Refusal
import NeuralDevice.Proofs.Performance

/-!
One numbering for all dialects. A type has the same number wherever it can be named, numbers of vendors' types are
apart from all others, and a number that does not fit a message is refused.
-/

namespace NeuralDevice

open Result

/-- The codes of every dialect are the numbers of the types. -/
structure NumbersTypes (β : Type) [DecidableEq β] [WireTable β] : Prop where
  /-- A type is found by its number and by no other. -/
  found : ∀ (code : UInt32) (type : Coded β), Coded.ofCode? code = some type ↔ type.code = code
  received : ∀ dialect raw (type : Coded β), Coded.ofWire dialect raw = .ok type →
    raw.toInt = type.code.toNat ∧ type.toWire dialect = .ok raw
  sent : ∀ dialect (type : Coded β) raw, type.toWire dialect = .ok raw →
    raw.toInt = type.code.toNat ∧ Coded.ofWire dialect raw = .ok type
  agreed : ∀ first second raw (type other : Coded β), Coded.ofWire first raw = .ok type →
    Coded.ofWire second raw = .ok other → type = other
  apart : ∀ (entry : β) (vendor : VendorCode), CodeTable.code entry ≠ vendor.code
  /-- Before AIDL a dialect names what its version knows, and the AIDL version all but what is left to the maker of
  the driver. -/
  builtins : ∀ dialect (entry : β), (∃ raw, (Coded.builtin entry).toWire dialect = .ok raw) ↔
    if dialect = .aidl then ¬CodeTable.firstOem ≤ CodeTable.code entry else CodeTable.version entry ≤ dialect.version
  vendors : ∀ dialect (vendor : VendorCode), (∃ raw, (Coded.vendor vendor : Coded β).toWire dialect = .ok raw) ↔
    dialect ≠ .v1_0 ∧ vendor.code.toNat < 2 ^ 31
  negative : ∀ dialect raw, raw.toInt < 0 → ∃ error, (Coded.ofWire dialect raw : Result (Coded β)) = .error error
  foreign : ∀ raw, 2 ^ 16 ≤ raw.toInt → ∃ error, (Coded.ofWire .v1_0 raw : Result (Coded β)) = .error error
  ordered : IsStrictTotalOrder (Coded β) (· < ·)

namespace Coded

section Order

variable {β : Type} [CodeTable β]

private theorem ofCode?_eq_some_iff {code : UInt32} {type : Coded β} : ofCode? code = some type ↔ type.code = code := by
  constructor
  · exact code_of_ofCode?
  · rintro rfl
    exact ofCode?_code type

private theorem code_ne_code {entry : β} {vendor : VendorCode} : CodeTable.code entry ≠ vendor.code := by
  intro same
  have one : (Coded.builtin entry).code = (Coded.vendor vendor : Coded β).code := same
  cases code_injective one

/-- The numbers order the types, and no two types have one number. -/
private theorem isStrictTotalOrder : IsStrictTotalOrder (Coded β) (· < ·) where
  irrefl _ below := Nat.lt_irrefl _ (lt_iff.mp below)
  trans _ _ _ before after := lt_iff.mpr (Nat.lt_trans (lt_iff.mp before) (lt_iff.mp after))
  trichotomous _ _ := eq_of_not_lt

end Order

section Dialects

variable {β : Type} [DecidableEq β] [WireTable β]

theorem vendor_nameable_iff {dialect : Dialect} {vendor : VendorCode} :
    (Coded.vendor vendor : Coded β).isNameable dialect = true ↔ dialect ≠ .v1_0 := by
  cases dialect <;> simp [isNameable, Dialect.hasVendors]

private theorem exists_toWire_builtin_iff [DatedTable β] {dialect : Dialect} {entry : β} :
    (∃ raw, (Coded.builtin entry).toWire dialect = .ok raw) ↔
      if dialect = .aidl then ¬CodeTable.firstOem ≤ CodeTable.code entry
      else CodeTable.version entry ≤ dialect.version := by
  have fits : (Coded.builtin entry).HasSignedCode := trivial
  rw [(toWire_gated dialect (.builtin entry)).succeeds_iff, and_iff_left fits]
  split
  · rename_i newest
    rw [newest]
    exact DatedTable.aidl entry
  · rename_i older
    exact DatedTable.hal entry dialect older

variable [AgreedTable β]

theorem toInt_eq_of_ofWire {dialect : Dialect} {raw : Int32} {type : Coded β}
    (received : ofWire dialect raw = .ok type) : raw.toInt = type.code.toNat := (ofWire_eq_ok_iff.mp received).2

/-- Dialects that receive one code receive one type. -/
private theorem eq_of_ofWire {first second : Dialect} {raw : Int32} {type other : Coded β}
    (here : ofWire first raw = .ok type) (there : ofWire second raw = .ok other) : type = other := by
  have same : (type.code.toNat : Int) = other.code.toNat := by
    rw [← toInt_eq_of_ofWire here, toInt_eq_of_ofWire there]
  exact code_injective (UInt32.toNat_inj.mp (Int.natCast_inj.mp same))

private theorem exists_error_of_negative (dialect : Dialect) {raw : Int32} (negative : raw.toInt < 0) :
    ∃ error, (ofWire dialect raw : Result (Coded β)) = .error error := by
  rw [exists_error_iff]
  intro received
  obtain ⟨type, received⟩ := received
  have value := toInt_eq_of_ofWire received
  omega

private theorem exists_error_of_foreign {raw : Int32} (foreign : 2 ^ 16 ≤ raw.toInt) :
    ∃ error, (ofWire .v1_0 raw : Result (Coded β)) = .error error := by
  rw [exists_error_iff]
  intro received
  obtain ⟨type, received⟩ := received
  obtain ⟨nameable, value⟩ := ofWire_eq_ok_iff.mp received
  cases type with
  | builtin entry =>
    have small := CodeTable.code_lt entry
    rw [value] at foreign
    exact absurd (Int.ofNat_le.mp foreign) (Nat.not_le.mpr small)
  | vendor vendor => exact vendor_nameable_iff.mp nameable rfl

theorem numbersTypes [DatedTable β] : NumbersTypes β where
  found _ _ := ofCode?_eq_some_iff
  received dialect raw type received := ⟨toInt_eq_of_ofWire received, (wire_inverse dialect type raw).mpr received⟩
  sent dialect type raw sent := ⟨(toWire_eq_ok_iff.mp sent).2, (wire_inverse dialect type raw).mp sent⟩
  agreed _ _ _ _ _ := eq_of_ofWire
  apart _ _ := code_ne_code
  builtins _ _ := exists_toWire_builtin_iff
  vendors dialect vendor := by
    rw [(toWire_gated dialect (.vendor vendor)).succeeds_iff, vendor_nameable_iff]
    rfl
  negative dialect _ := exists_error_of_negative dialect
  foreign _ := exists_error_of_foreign
  ordered := isStrictTotalOrder

end Dialects

end Coded

/-- Operands and operations have one numbering each. -/
theorem codes_are_numbers : NumbersTypes BuiltinOperand ∧ NumbersTypes BuiltinOperation :=
  ⟨Coded.numbersTypes, Coded.numbersTypes⟩

end NeuralDevice
