import NeuralDevice.Version

/-!
Numbered types. A code of 16 bits names one of the builtin types of a table; any other code is a
vendor's, with the vendor in the high half and the vendor's own number in the low half.
-/

namespace NeuralDevice

/-- A code with a nonzero high half. -/
structure VendorCode where
  code : UInt32
  vendor_ne_zero : code >>> 16 ≠ 0
  deriving DecidableEq, Repr

namespace VendorCode

def ofCode? (code : UInt32) : Option VendorCode :=
  if foreign : code >>> 16 ≠ 0 then some ⟨code, foreign⟩ else none

/-- The code of the vendor's type `member`; vendor zero is reserved for the builtin types. -/
def ofParts? (vendor member : UInt16) : Option VendorCode :=
  ofCode? (vendor.toUInt32 <<< 16 ||| member.toUInt32)

def vendor (code : VendorCode) : UInt16 := (code.code >>> 16).toUInt16

/-- The vendor's own number of the type. -/
def member (code : VendorCode) : UInt16 := code.code.toUInt16

def text (code : VendorCode) : String := s!"{code.vendor}:{code.member}"

theorem ofCode?_code (code : VendorCode) : ofCode? code.code = some code := by
  simp [ofCode?, code.vendor_ne_zero]

theorem code_of_ofCode? {raw : UInt32} {code : VendorCode} (found : ofCode? raw = some code) :
    code.code = raw := by
  unfold ofCode? at found
  split at found <;> cases found
  rfl

end VendorCode

/-- A finite table of builtin types. A type is found again from its code, and all codes are small. -/
class CodeTable (β : Type) where
  all : List β
  code : β → UInt32
  name : β → String
  version : β → Version
  find_code : ∀ entry : β, all.find? (fun candidate => code candidate == code entry) = some entry
  code_lt : ∀ entry : β, (code entry).toNat < UInt16.size

/-- A builtin type of a table or a vendor's type. -/
inductive Coded (β : Type) where
  | builtin (entry : β)
  | vendor (code : VendorCode)
  deriving DecidableEq, Repr

namespace Coded

variable {β : Type} [CodeTable β]

/-- The number shared by every interface version. -/
def code : Coded β → UInt32
  | .builtin entry => CodeTable.code entry
  | .vendor code => code.code

def builtin? (code : UInt32) : Option β :=
  (CodeTable.all (β := β)).find? (fun entry => CodeTable.code entry == code)

def ofCode? (code : UInt32) : Option (Coded β) :=
  match builtin? (β := β) code with
  | some entry => some (.builtin entry)
  | none => (VendorCode.ofCode? code).map .vendor

def isVendor : Coded β → Bool
  | .builtin _ => false
  | .vendor _ => true

/-- The name in messages; all vendor types share one. -/
def name : Coded β → String
  | .builtin entry => CodeTable.name entry
  | .vendor _ => "EXTENSION"

/-- The oldest version that knows the type; vendor types came with 1.2. -/
def version : Coded β → Version
  | .builtin entry => CodeTable.version entry
  | .vendor _ => .v1_2

theorem builtin?_code (entry : β) : builtin? (CodeTable.code entry) = some entry :=
  CodeTable.find_code entry

theorem code_of_builtin? {code : UInt32} {entry : β} (found : builtin? code = some entry) :
    CodeTable.code entry = code := by
  have matched := List.find?_some found
  simpa using matched

/-- A vendor's code is no builtin type's. -/
theorem builtin?_vendor (code : VendorCode) : builtin? (β := β) code.code = none := by
  cases found : builtin? (β := β) code.code with
  | none => rfl
  | some entry =>
    have small : (CodeTable.code entry).toNat < 65536 := CodeTable.code_lt entry
    rw [code_of_builtin? found] at small
    refine absurd ?_ code.vendor_ne_zero
    apply UInt32.toNat_inj.mp
    rw [UInt32.toNat_shiftRight]
    simp only [UInt32.reduceToNat, Nat.reduceMod, Nat.shiftRight_eq_div_pow]
    omega

theorem ofCode?_code (type : Coded β) : ofCode? type.code = some type := by
  cases type with
  | builtin entry => simp [ofCode?, code, builtin?_code]
  | vendor code => simp [ofCode?, Coded.code, builtin?_vendor, VendorCode.ofCode?_code]

theorem code_of_ofCode? {raw : UInt32} {type : Coded β} (found : ofCode? raw = some type) :
    type.code = raw := by
  unfold ofCode? at found
  split at found
  · rename_i entry known
    cases found
    exact code_of_builtin? known
  · obtain ⟨code, read, rfl⟩ := Option.map_eq_some_iff.mp found
    exact VendorCode.code_of_ofCode? read

instance : LT (Coded β) := ⟨fun first second => first.code < second.code⟩

instance (first second : Coded β) : Decidable (first < second) :=
  inferInstanceAs (Decidable (first.code < second.code))

end Coded

end NeuralDevice
