import NeuralDevice.Numeric.Decimal

/-!
Single-precision numbers as bit patterns. Values pass through unchanged, so every pattern (NaN and both
zeros included) is kept apart; comparison follows the numbers the patterns stand for.
-/

namespace NeuralDevice

/-- A binary32 number given by its bits. -/
structure Single where
  bits : UInt32
  deriving DecidableEq, Repr, Inhabited

namespace Single

def zero : Single := ⟨0⟩

def one : Single := ⟨0x3f800000⟩

def largest : Single := ⟨0x7f7fffff⟩

def signUnit : Nat := 0x80000000

/-- The value of the lowest exponent bit. -/
def exponentUnit : Nat := 0x800000

def magnitude (x : Single) : Nat := x.bits.toNat % signUnit

def isNegative (x : Single) : Bool := decide (signUnit ≤ x.bits.toNat)

def isNaN (x : Single) : Bool := decide (0x7f800000 < x.magnitude)

/-- The place of a number in the order of all numbers; both zeros have place zero. -/
def rank (x : Single) : Int := if x.isNegative then -(x.magnitude : Int) else x.magnitude

/-- Numeric order; nothing is below or above a NaN. -/
def lt (x y : Single) : Bool := !x.isNaN && !y.isNaN && decide (x.rank < y.rank)

def le (x y : Single) : Bool := !x.isNaN && !y.isNaN && decide (x.rank ≤ y.rank)

/-- Numeric equality: a NaN equals nothing and the two zeros are equal. -/
def eq (x y : Single) : Bool := !x.isNaN && !y.isNaN && decide (x.rank = y.rank)

/-- Strictly greater than zero, which no NaN is. -/
def isPositive (x : Single) : Bool := zero.lt x

def isZero (x : Single) : Bool := x.eq zero

/-- Decimals kept while a number is written; every finite number is told apart by fewer. -/
def places : Nat := 60

/-- The interval of the reals nearest to the magnitude of a finite nonzero number, in units of
`10 ^ -places`. Below a power of two the neighbour is half as far. -/
def interval (x : Single) : Decimal.Interval :=
  let exponent := x.magnitude / exponentUnit
  let fraction := x.magnitude % exponentUnit
  let unit := Nat.pow 10 places
  if exponent = 0 then
    let scale := Nat.pow 2 150
    ⟨2 * fraction * unit, scale, unit, unit, true⟩
  else
    -- mantissa · 2 ^ (exponent - 150), with two more bits for the half-way points
    let factor := Nat.pow 2 exponent * unit
    let mantissa := exponentUnit + fraction
    let below := if fraction = 0 then factor else 2 * factor
    ⟨4 * mantissa * factor, Nat.pow 2 152, below, 2 * factor, mantissa % 2 = 0⟩

/-- The largest power of ten tried: above every finite magnitude in units of `10 ^ -places`. -/
def topPower : Nat := places + 40

/-- The fewest digits that read back as the number, always positional. -/
def text (x : Single) : String :=
  if x.isNaN then "NaN" else
  let sign := if x.isNegative then "-" else ""
  if x.magnitude = 0x7f800000 then sign ++ "inf" else
  if x.magnitude = 0 then sign ++ "0" else
  sign ++ Decimal.text places ((x.interval.coarsest topPower).getD 0)

end Single

end NeuralDevice
