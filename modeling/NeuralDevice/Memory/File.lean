/-!
Files as growable byte arrays. Reading back after `overwrite` gives the written bytes inside the written
range and the earlier bytes outside it; the gap left by growing a file holds zeros.
-/

namespace NeuralDevice

/-- A file: its size and the byte at each position. Positions past the end hold zero. -/
structure File where
  size : Nat
  byte : Nat → UInt8
  byte_of_size_le : ∀ position, size ≤ position → byte position = 0

namespace File

def zeros (size : Nat) : File where
  size := size
  byte _ := 0
  byte_of_size_le _ _ := rfl

instance : Inhabited File := ⟨zeros 0⟩

/-- The bytes from `offset` on, `length` of them. -/
def slice (file : File) (offset length : Nat) : List UInt8 :=
  (List.range length).map fun index => file.byte (offset + index)

def toBytes (file : File) : List UInt8 := file.slice 0 file.size

/-- The bytes of a range, if it ends inside the file. An empty range is read without a look at the file. -/
def read? (file : File) (offset length : Nat) : Option (List UInt8) :=
  if length = 0 ∨ offset + length ≤ file.size then some (file.slice offset length) else none

/-- The size after writing `length` bytes at `offset`. -/
def grownSize (file : File) (offset length : Nat) : Nat :=
  if length = 0 then file.size else max file.size (offset + length)

/-- The file with `data` written at `offset`. -/
def overwrite (file : File) (offset : Nat) (data : List UInt8) : File :=
  let written := data.toArray
  { size := file.grownSize offset written.size
    byte := fun position =>
      if inside : offset ≤ position ∧ position - offset < written.size then
        written[position - offset]
      else file.byte position
    byte_of_size_le := by
      intro position past
      unfold grownSize at past
      split at past
      · rename_i empty
        rw [dif_neg (by omega)]
        exact file.byte_of_size_le position past
      · rw [dif_neg (by omega)]
        exact file.byte_of_size_le position (by omega) }

def ofBytes (data : List UInt8) : File := (zeros 0).overwrite 0 data

@[simp] theorem length_slice (file : File) (offset length : Nat) :
    (file.slice offset length).length = length := by
  simp [slice]

theorem getElem_slice (file : File) (offset length index : Nat)
    (inside : index < (file.slice offset length).length) :
    (file.slice offset length)[index] = file.byte (offset + index) := by
  simp [slice]

theorem size_overwrite (file : File) (offset : Nat) (data : List UInt8) :
    (file.overwrite offset data).size = file.grownSize offset data.length := by
  simp [overwrite]

theorem byte_overwrite_inside (file : File) (offset : Nat) (data : List UInt8) (index : Nat)
    (inside : index < data.length) :
    (file.overwrite offset data).byte (offset + index) = data[index] := by
  simp [overwrite, inside]

theorem byte_overwrite_outside (file : File) (offset : Nat) (data : List UInt8) (position : Nat)
    (outside : position < offset ∨ offset + data.length ≤ position) :
    (file.overwrite offset data).byte position = file.byte position := by
  simp only [overwrite, List.size_toArray]
  rw [dif_neg (by omega)]

theorem slice_overwrite (file : File) (offset : Nat) (data : List UInt8) :
    (file.overwrite offset data).slice offset data.length = data := by
  apply List.ext_getElem
  · simp
  · intro index _ inside
    rw [getElem_slice, byte_overwrite_inside]

end File

end NeuralDevice
