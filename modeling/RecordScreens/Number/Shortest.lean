import RecordScreens.Number.Binary64

/-!
# Shortest decimals

The decimal with the fewest digits that still rounds back to a given number. On
each decimal grid only the two neighbours of the number have to be tried: if any
point of the grid rounds back, so does one of these.
-/

namespace RecordScreens

/-- A decimal `digits * 10 ^ exponent`. -/
structure Decimal where
  digits : Nat
  exponent : Int
  deriving DecidableEq, Repr

namespace Decimal

/-- One digit that was rounded up to ten is the digit one of the next place. -/
def carry (d : Decimal) : Decimal := if d.digits = 10 then ⟨1, d.exponent + 1⟩ else d

/-- How many digits a positive number has; zero has none. -/
def digitCount (n : Nat) : Nat := if n = 0 then 0 else (Nat.toDigits 10 n).length

end Decimal

namespace Binary64

/-! ## The interval that rounds to a number -/

/-- The ends of the interval of values that round to a magnitude, in quarter units. -/
structure RoundingInterval where
  low : Nat
  high : Nat
  closed : Bool

/-- Below a power of two the neighbours lie twice as close. -/
def roundingInterval (units : Nat) : RoundingInterval :=
  let place := Nat.pow 2 (placeExponent units)
  let significand := units / place
  let below := if significand = Nat.pow 2 52 ∧ 1 < place then place else 2 * place
  { low := 4 * units - below, high := 4 * units + 2 * place, closed := significand % 2 = 0 }

/-- A decimal grid through which a magnitude is looked at: `units = numerator / denominator` steps. -/
structure DecimalGrid where
  exponent : Int
  scale : Nat
  step : Nat

/-- The grid whose step is `10 ^ exponent`; `scale` quarter units make `step` quarter steps. -/
def decimalGrid (exponent : Int) : DecimalGrid :=
  match exponent with
  | .ofNat e => { exponent, scale := 1, step := 4 * unitsOfOne * Nat.pow 10 e }
  | .negSucc e => { exponent, scale := Nat.pow 10 (e + 1), step := 4 * unitsOfOne }

/-- Whether a point of the grid lies in the interval. -/
def DecimalGrid.hits (grid : DecimalGrid) (interval : RoundingInterval) (point : Nat) : Bool :=
  if interval.closed then
    interval.low * grid.scale ≤ point * grid.step && point * grid.step ≤ interval.high * grid.scale
  else
    interval.low * grid.scale < point * grid.step && point * grid.step < interval.high * grid.scale

/-- The neighbour of the magnitude on the grid that rounds back: of two the nearer, of equally near the even. -/
def DecimalGrid.neighbour? (grid : DecimalGrid) (units : Nat) : Option Nat :=
  let interval := roundingInterval units
  let target := 4 * units * grid.scale
  let below := target / grid.step
  let nearer := nearest target grid.step
  if grid.hits interval nearer then some nearer
  else if grid.hits interval below then some below
  else if grid.hits interval (below + 1) then some (below + 1)
  else none

/-! ## Digits -/

/-- The decimal exponent of the first digit of a positive magnitude. -/
def leadingExponent (units : Nat) : Int :=
  if unitsOfOne ≤ units then (Decimal.digitCount (units / unitsOfOne) : Int) - 1
  else -(Decimal.digitCount ((unitsOfOne + units - 1) / units - 1) : Int)

/-- Tries grids with more and more digits, ending at the exact one of 17 digits. -/
def shortestFrom (units : Nat) (leading : Int) (count : Nat) : Nat → Decimal
  | 0 =>
    let grid := decimalGrid (leading - 16)
    ⟨nearest (4 * units * grid.scale) grid.step, grid.exponent⟩
  | fuel + 1 =>
    let grid := decimalGrid (leading + 1 - (count : Int))
    match grid.neighbour? units with
    | some digits => ⟨digits, grid.exponent⟩
    | none => shortestFrom units leading (count + 1) fuel

/-- The shortest decimal of the magnitude of a number, without trailing zeros. -/
def shortest (x : Binary64) : Decimal :=
  if x.units = 0 then ⟨0, 0⟩ else (shortestFrom x.units (leadingExponent x.units) 1 16).carry

end Binary64

end RecordScreens
