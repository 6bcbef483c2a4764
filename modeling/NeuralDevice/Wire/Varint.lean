/-!
Variable-length numbers: seven bits in each byte, low bits first, the high bit set on every byte but the
last. A number of 64 bits takes at most ten bytes, and `read` gives back what `write` wrote.
-/

namespace NeuralDevice.Wire.Varint

/-- The bytes of a number, at most `places` of them. -/
def writeWithin : Nat → Nat → List UInt8
  | 0, _ => []
  | places + 1, value =>
    if value < 128 then [UInt8.ofNat value]
    else UInt8.ofNat (value % 128 + 128) :: writeWithin places (value / 128)

/-- A number and the bytes after it. The last of all places holds one bit. -/
def readWithin : Nat → List UInt8 → Option (Nat × List UInt8)
  | 0, _ => none
  | _ + 1, [] => none
  | places + 1, byte :: rest =>
    if byte.toNat < 128 then
      if places = 0 ∧ 2 ≤ byte.toNat then none else some (byte.toNat, rest)
    else
      match readWithin places rest with
      | some (high, rest) => some (byte.toNat - 128 + 128 * high, rest)
      | none => none

def write (value : UInt64) : List UInt8 := writeWithin 10 value.toNat

def read (data : List UInt8) : Option (UInt64 × List UInt8) :=
  (readWithin 10 data).map fun (value, rest) => (UInt64.ofNat value, rest)

theorem length_readWithin {places value : Nat} {data rest : List UInt8}
    (found : readWithin places data = some (value, rest)) : rest.length < data.length := by
  induction places generalizing data value with
  | zero => simp [readWithin] at found
  | succ places ih =>
    cases data with
    | nil => simp [readWithin] at found
    | cons byte tail =>
      simp only [readWithin] at found
      split at found
      · split at found
        · cases found
        · cases found
          simp
      · split at found
        · rename_i high after more
          cases found
          have shorter := ih more
          simp only [List.length_cons]
          omega
        · cases found

theorem length_read {data rest : List UInt8} {value : UInt64}
    (found : read data = some (value, rest)) : rest.length < data.length := by
  unfold read at found
  obtain ⟨⟨number, after⟩, within, same⟩ := Option.map_eq_some_iff.mp found
  cases same
  exact length_readWithin within

/-- The numbers that `places` bytes and a last one of a single bit can hold lie below this. -/
def bound : Nat → Nat
  | 0 => 2
  | places + 1 => 128 * bound places

/-- A number that fits is read back. -/
theorem readWithin_writeWithin (places value : Nat) (rest : List UInt8) (fits : value < bound places) :
    readWithin (places + 1) (writeWithin (places + 1) value ++ rest) = some (value, rest) := by
  induction places generalizing value with
  | zero =>
    simp only [bound] at fits
    have small : value < 128 := by omega
    simp only [writeWithin, if_pos small, List.cons_append, List.nil_append, readWithin]
    rw [UInt8.toNat_ofNat', Nat.mod_eq_of_lt (by omega), if_pos small, if_neg (by omega)]
  | succ places ih =>
    unfold writeWithin
    split
    · rename_i small
      simp only [List.cons_append, List.nil_append, readWithin]
      rw [UInt8.toNat_ofNat', Nat.mod_eq_of_lt (by omega), if_pos small, if_neg (by omega)]
    · rename_i large
      simp only [List.cons_append]
      rw [readWithin, UInt8.toNat_ofNat', Nat.mod_eq_of_lt (by omega), if_neg (by omega)]
      have smaller : value / 128 < bound places := by
        simp only [bound] at fits
        omega
      rw [ih (value / 128) smaller]
      simp only
      congr 2
      omega

theorem read_write (value : UInt64) (rest : List UInt8) :
    read (write value ++ rest) = some (value, rest) := by
  unfold read write
  rw [readWithin_writeWithin 9 value.toNat rest value.toNat_lt]
  simp

end NeuralDevice.Wire.Varint
