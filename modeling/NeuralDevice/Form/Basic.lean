import NeuralDevice.Code.Setting
import NeuralDevice.Json.Basic
import NeuralDevice.Numeric.Single
import NeuralDevice.Numeric.Word

/-!
Forms of values in JSON documents, for tools that inspect or exchange them. Reading never fails: what is
missing or malformed counts as zero. Numbers of 64 bits are written as strings, bytes and the bits of
floating-point numbers in hexadecimal.
-/

namespace NeuralDevice

/-- How values of a type are read from documents, written, and compared. Floating-point numbers are compared
as numbers, so that a NaN differs from itself. -/
structure Form (α : Type) where
  read : Json → α
  write : α → Json
  same : α → α → Bool

/-- Types with a form. -/
class HasForm (α : Type) where
  form : Form α

export HasForm (form)

namespace Form

/-- The form of a type whose values are equal only when identical. -/
def exact [DecidableEq α] (read : Json → α) (write : α → Json) : Form α :=
  ⟨read, write, fun first second => first = second⟩

/-- The form of a type made from the values of another. -/
def convert (form : Form α) (make : α → β) (parts : β → α) : Form β :=
  ⟨fun document => make (form.read document), fun value => form.write (parts value),
    fun first second => form.same (parts first) (parts second)⟩

def word (α : Type) [Word α] [DecidableEq α] : Form α :=
  exact (fun document => Word.ofInt document.toInt) (fun word => .int (Word.toInt word))

/-- Numbers too wide for many readers of documents are written as strings. -/
def wideWord (α : Type) [Word α] [DecidableEq α] : Form α :=
  exact (fun document => Word.ofInt document.toInt) (fun word => .str (toString (Word.toInt word)))

/-- The value of a hexadecimal digit; other characters count as zero. -/
def digitValue (c : Char) : Nat :=
  if '0' ≤ c ∧ c ≤ '9' then c.toNat - '0'.toNat
  else if 'a' ≤ c ∧ c ≤ 'f' then c.toNat - 'a'.toNat + 10
  else 0

def readBytes : List Char → List UInt8
  | high :: low :: rest => UInt8.ofNat (digitValue high * 16 + digitValue low) :: readBytes rest
  | _ => []

def writeBytes (data : List UInt8) : String :=
  String.ofList (data.flatMap fun byte =>
    [Nat.digitChar (byte.toNat / 16), Nat.digitChar (byte.toNat % 16)])

/-- Big-endian hexadecimal digits of the bits. -/
def writeSingle (x : Single) : String :=
  writeBytes [(x.bits >>> 24).toUInt8, (x.bits >>> 16).toUInt8, (x.bits >>> 8).toUInt8, x.bits.toUInt8]

def readSingle (digits : List Char) : Single :=
  ⟨digits.foldl (fun bits c => bits * 16 + UInt32.ofNat (digitValue c)) 0⟩

/-- An enumeration by name; a missing name is the first one's. -/
def named (α : Type) [Named α] [Inhabited α] [DecidableEq α] : Form α :=
  exact
    (fun document =>
      (Named.ofName? α document.toText).getD ((Named.all (α := α)).headD default))
    (fun value => .str (Named.name value))

def list (form : Form α) : Form (List α) where
  read document := document.toList.map form.read
  write values := .list (values.map form.write)
  same first second :=
    first.length == second.length && (first.zip second).all fun (one, other) => form.same one other

/-- `null` stands for no value. -/
def optional (form : Form α) : Form (Option α) where
  read document := if document.isNull then none else some (form.read document)
  write
    | some value => form.write value
    | none => .null
  same
    | some first, some second => form.same first second
    | none, none => true
    | some _, none | none, some _ => false

end Form

instance : HasForm Bool := ⟨.exact Json.toBool Json.bool⟩

instance : HasForm String := ⟨.exact Json.toText Json.str⟩

instance : HasForm UInt16 := ⟨.word UInt16⟩

instance : HasForm UInt32 := ⟨.word UInt32⟩

instance : HasForm Int32 := ⟨.word Int32⟩

instance : HasForm UInt64 := ⟨.wideWord UInt64⟩

instance : HasForm Int64 := ⟨.wideWord Int64⟩

instance : HasForm (List UInt8) :=
  ⟨.exact (fun document => Form.readBytes document.toText.toList) (fun data => .str (Form.writeBytes data))⟩

instance : HasForm Single where
  form :=
    ⟨fun document => Form.readSingle document.toText.toList, fun x => .str (Form.writeSingle x), Single.eq⟩

instance [Named α] [Inhabited α] [DecidableEq α] : HasForm α := ⟨.named α⟩

instance [HasForm α] : HasForm (List α) := ⟨(form : Form α).list⟩

instance [HasForm α] : HasForm (Option α) := ⟨(form : Form α).optional⟩

/-- Some members of an object and the values they hold. -/
structure Members (α : Type) where
  read : Json → α
  write : α → List (String × Json)
  same : α → α → Bool

def member [HasForm α] (key : String) : Members α where
  read document := form.read (document.get key)
  write value := [(key, form.write value)]
  same := form.same

namespace Members

def both (first : Members α) (second : Members β) : Members (α × β) where
  read document := (first.read document, second.read document)
  write := fun (one, other) => first.write one ++ second.write other
  same := fun (one, other) (one', other') => first.same one one' && second.same other other'

/-- An object with these members. -/
def form (members : Members α) (make : α → β) (parts : β → α) : Form β where
  read document := make (members.read document)
  write value := .ofMembers (members.write (parts value))
  same first second := members.same (parts first) (parts second)

end Members

def Json.as (α : Type) [HasForm α] (document : Json) : α := form.read document

def Json.at (α : Type) [HasForm α] (document : Json) (key : String) : α := form.read (document.get key)

def toJson [HasForm α] (value : α) : Json := form.write value

/-- The text of a value's document tells apart what is written differently. -/
def writtenAlike (form : Form α) (first second : α) : Bool :=
  (form.write first).write == (form.write second).write

end NeuralDevice
