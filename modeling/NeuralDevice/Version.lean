/-! Versions of the device interface, and the dialects in which messages are exchanged. -/

namespace NeuralDevice

/-- Interface versions, oldest first. -/
inductive Version where
  | v1_0
  | v1_1
  | v1_2
  | v1_3
  | aidl
  deriving DecidableEq, Repr, Inhabited

namespace Version

def all : List Version := [.v1_0, .v1_1, .v1_2, .v1_3, .aidl]

/-- Age order: a larger rank is a newer version. -/
def rank : Version → Nat
  | .v1_0 => 0
  | .v1_1 => 1
  | .v1_2 => 2
  | .v1_3 => 3
  | .aidl => 4

def name : Version → String
  | .v1_0 => "HAL 1.0"
  | .v1_1 => "HAL 1.1"
  | .v1_2 => "HAL 1.2"
  | .v1_3 => "HAL 1.3"
  | .aidl => "AIDL"

instance : LE Version := ⟨fun older newer => older.rank ≤ newer.rank⟩

instance : LT Version := ⟨fun older newer => older.rank < newer.rank⟩

instance (older newer : Version) : Decidable (older ≤ newer) :=
  inferInstanceAs (Decidable (older.rank ≤ newer.rank))

instance (older newer : Version) : Decidable (older < newer) :=
  inferInstanceAs (Decidable (older.rank < newer.rank))

instance : Max Version := ⟨fun first second => if first ≤ second then second else first⟩

end Version

/-- A set of wire messages. Each belongs to one interface version. -/
inductive Dialect where
  | v1_0
  | v1_2
  | aidl
  deriving DecidableEq, Repr, Inhabited

def Dialect.version : Dialect → Version
  | .v1_0 => .v1_0
  | .v1_2 => .v1_2
  | .aidl => .aidl

end NeuralDevice
