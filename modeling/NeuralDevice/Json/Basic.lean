/-!
JSON documents. Whole numbers keep their value; of other numbers only the fact that they are there is kept,
since no document here has one.
-/

namespace NeuralDevice

/-- A JSON value. Objects keep their members in order, repeated keys included. -/
inductive Json where
  | null
  | bool (value : Bool)
  | int (value : Int)
  /-- A number with a fraction or an exponent, or a zero with a sign. -/
  | real
  /-- A string; `none` when an escape in it stands for half a character. -/
  | text (content : Option String)
  | list (items : List Json)
  | object (members : List (Option String × Json))
  deriving Inhabited

namespace Json

def str (content : String) : Json := .text (some content)

def nat (value : Nat) : Json := .int value

def ofMembers (members : List (String × Json)) : Json :=
  .object (members.map fun (key, value) => (some key, value))

/-- The first member with the given key; `null` when there is none. -/
def get (document : Json) (key : String) : Json :=
  match document with
  | .object members => ((members.find? fun entry => entry.1 == some key).map (·.2)).getD .null
  | .null | .bool _ | .int _ | .real | .text _ | .list _ => .null

def isNull : Json → Bool
  | .null => true
  | .bool _ | .int _ | .real | .text _ | .list _ | .object _ => false

/-- Whether a member is there and not null. -/
def has (document : Json) (key : String) : Bool := !(document.get key).isNull

def toBool : Json → Bool
  | .bool value => value
  | .null | .int _ | .real | .text _ | .list _ | .object _ => false

/-- The value of a whole number, which may also be written as a string. -/
def toInt : Json → Int
  | .int value => value
  | .text (some content) => content.toInt?.getD 0
  | .null | .bool _ | .real | .text none | .list _ | .object _ => 0

def toText : Json → String
  | .text (some content) => content
  | .null | .bool _ | .int _ | .real | .text none | .list _ | .object _ => ""

def toList : Json → List Json
  | .list items => items
  | .null | .bool _ | .int _ | .real | .text _ | .object _ => []

/-- A character of a string as it is written between quotes. -/
def escape (c : Char) : List Char :=
  if c = '"' then ['\\', '"']
  else if c = '\\' then ['\\', '\\']
  else if c.toNat < 0x20 then
    let digits := Nat.toDigits 16 c.toNat
    ['\\', 'u'] ++ List.replicate (4 - digits.length) '0' ++ digits
  else [c]

def quote (content : String) : String :=
  String.ofList ('"' :: content.toList.flatMap escape ++ ['"'])

mutual

/-- The text of a document, without blanks. -/
def write : Json → String
  | .null => "null"
  | .bool value => if value then "true" else "false"
  | .int value => toString value
  | .real => "0.0"
  | .text content => quote (content.getD "")
  | .list items => "[" ++ ",".intercalate (writeItems items) ++ "]"
  | .object members => "\x7b" ++ ",".intercalate (writeMembers members) ++ "\x7d"

def writeItems : List Json → List String
  | [] => []
  | item :: rest => item.write :: writeItems rest

/-- The texts of the members, each with its key. -/
def writeMembers : List (Option String × Json) → List String
  | [] => []
  | (key, value) :: rest => (quote (key.getD "") ++ ":" ++ value.write) :: writeMembers rest

end

end Json

end NeuralDevice
