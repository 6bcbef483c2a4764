/-!
Fixed-width integers seen through their values. Narrowing a value into a word either keeps the value
or fails; it never wraps.
-/

namespace NeuralDevice

/-- An integer type of fixed width: the values from `low` up to but not including `high`. -/
class Word (α : Type) where
  toInt : α → Int
  ofInt : Int → α
  low : Int
  high : Int
  low_le_zero : low ≤ 0 := by decide
  zero_lt_high : 0 < high := by decide
  toInt_mem : ∀ word : α, low ≤ toInt word ∧ toInt word < high
  ofInt_toInt : ∀ word : α, ofInt (toInt word) = word
  toInt_ofInt : ∀ value : Int, low ≤ value → value < high → toInt (ofInt value) = value

namespace Word

def zero (α : Type) [Word α] : α := ofInt 0

@[simp] theorem toInt_zero [Word α] : toInt (zero α) = 0 :=
  toInt_ofInt 0 low_le_zero zero_lt_high

def ofInt? (α : Type) [Word α] (value : Int) : Option α :=
  if low α ≤ value ∧ value < high α then some (ofInt value) else none

theorem ofInt?_eq_some_iff [Word α] {value : Int} {word : α} :
    ofInt? α value = some word ↔ toInt word = value := by
  unfold ofInt?
  constructor
  · intro found
    split at found
    · rename_i fits
      cases found
      exact toInt_ofInt value fits.1 fits.2
    · cases found
  · intro same
    subst same
    rw [if_pos (toInt_mem word), ofInt_toInt]

end Word

instance : Word UInt16 where
  toInt word := word.toNat
  ofInt value := UInt16.ofNat value.toNat
  low := 0
  high := 0x10000
  toInt_mem word := by have := word.toNat_lt; omega
  ofInt_toInt word := by simp
  toInt_ofInt value low high := by
    rw [UInt16.toNat_ofNat']
    omega

instance : Word UInt32 where
  toInt word := word.toNat
  ofInt value := UInt32.ofNat value.toNat
  low := 0
  high := 0x100000000
  toInt_mem word := by have := word.toNat_lt; omega
  ofInt_toInt word := by simp
  toInt_ofInt value low high := by
    rw [UInt32.toNat_ofNat']
    omega

instance : Word UInt64 where
  toInt word := word.toNat
  ofInt value := UInt64.ofNat value.toNat
  low := 0
  high := 0x10000000000000000
  toInt_mem word := by have := word.toNat_lt; omega
  ofInt_toInt word := by simp
  toInt_ofInt value low high := by
    rw [UInt64.toNat_ofNat']
    omega

instance : Word Int32 where
  toInt word := word.toInt
  ofInt value := Int32.ofInt value
  low := -0x80000000
  high := 0x80000000
  toInt_mem word := ⟨word.le_toInt, word.toInt_lt⟩
  ofInt_toInt word := by simp
  toInt_ofInt value low high := Int32.toInt_ofInt_of_le low high

instance : Word Int64 where
  toInt word := word.toInt
  ofInt value := Int64.ofInt value
  low := -0x8000000000000000
  high := 0x8000000000000000
  toInt_mem word := ⟨word.le_toInt, word.toInt_lt⟩
  ofInt_toInt word := by simp
  toInt_ofInt value low high := Int64.toInt_ofInt_of_le low high

end NeuralDevice
