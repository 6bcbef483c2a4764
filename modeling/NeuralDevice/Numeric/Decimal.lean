/-!
Decimal texts of exact quantities. `text` writes a count of units of `10 ^ -places` without trailing
zeros; `coarsest` finds the coarsest decimal inside an interval around a rational value.
-/

namespace NeuralDevice.Decimal

/-- The decimal digits of `value`, filled up with zeros on the left to at least `width`. -/
def padded (width value : Nat) : String :=
  let digits := Nat.toDigits 10 value
  String.ofList (List.replicate (width - digits.length) '0' ++ digits)

/-- The digits after the point, without trailing zeros. -/
def fraction (places units : Nat) : String :=
  let digits := (padded places units).toList.reverse.dropWhile (· == '0')
  String.ofList digits.reverse

/-- `units` counted in `10 ^ -places`, with no more decimals than needed and no point without any. -/
def text (places units : Nat) : String :=
  let whole := toString (units / Nat.pow 10 places)
  let rest := units % Nat.pow 10 places
  if rest = 0 then whole else whole ++ "." ++ fraction places rest

/-- A positive rational `value / scale` with the half-widths of the interval that stands for it. -/
structure Interval where
  value : Nat
  scale : Nat
  below : Nat
  above : Nat
  /-- Whether the ends belong to the interval. -/
  closed : Bool
  deriving DecidableEq, Repr

namespace Interval

/-- Whether the whole number `point` lies in the interval. -/
def contains (interval : Interval) (point : Nat) : Bool :=
  let low := interval.value - interval.below
  let high := interval.value + interval.above
  let at_ := point * interval.scale
  if interval.closed then low ≤ at_ && at_ ≤ high else low < at_ && at_ < high

/-- The nearer of the two multiples of `step` around the value that lie in the interval; a tie goes up. -/
def multiple? (interval : Interval) (step : Nat) : Option Nat :=
  let lower := interval.value / (interval.scale * step) * step
  let upper := lower + step
  let nearLower := 2 * interval.value < (lower + upper) * interval.scale
  match interval.contains lower, interval.contains upper with
  | true, true => some (if nearLower then lower else upper)
  | true, false => some lower
  | false, true => some upper
  | false, false => none

/-- The multiple of the largest power of ten, at most `10 ^ power`, that lies in the interval. -/
def coarsest (interval : Interval) : Nat → Option Nat
  | 0 => interval.multiple? 1
  | power + 1 =>
    match interval.multiple? (Nat.pow 10 (power + 1)) with
    | some point => some point
    | none => coarsest interval power

end Interval

end NeuralDevice.Decimal
