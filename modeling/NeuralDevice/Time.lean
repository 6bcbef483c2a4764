import NeuralDevice.Numeric.Decimal

/-! Spans of time and points in time, both counted in nanoseconds. -/

namespace NeuralDevice

structure Duration where
  nanoseconds : Nat
  deriving DecidableEq, Repr, Inhabited

namespace Duration

def zero : Duration := ⟨0⟩

def perSecond : Nat := 1000000000

def ofNanoseconds (nanoseconds : Nat) : Duration := ⟨nanoseconds⟩

def ofMicroseconds (microseconds : Nat) : Duration := ⟨microseconds * 1000⟩

/-- Whole seconds and the nanoseconds beyond them. -/
def ofSeconds (seconds beyond : Nat) : Duration := ⟨seconds * perSecond + beyond⟩

def microseconds (duration : Duration) : Nat := duration.nanoseconds / 1000

def seconds (duration : Duration) : Nat := duration.nanoseconds / perSecond

/-- Nanoseconds beyond the whole seconds. -/
def beyondSeconds (duration : Duration) : Nat := duration.nanoseconds % perSecond

/-- Written in the largest of seconds, milliseconds, microseconds and nanoseconds that is reached. -/
def text (duration : Duration) : String :=
  let count := duration.nanoseconds
  if perSecond ≤ count then Decimal.text 9 count ++ "s"
  else if 1000000 ≤ count then Decimal.text 6 count ++ "ms"
  else if 1000 ≤ count then Decimal.text 3 count ++ "µs"
  else toString count ++ "ns"

end Duration

/-- A point in time, counted from the epoch. -/
structure TimePoint where
  sinceEpoch : Int
  deriving DecidableEq, Repr, Inhabited

/-- The time from `now` to `deadline`; a passed deadline leaves none. -/
def TimePoint.timeUntil (deadline now : TimePoint) : Duration :=
  ⟨(deadline.sinceEpoch - now.sinceEpoch).toNat⟩

end NeuralDevice
