/-!
# Finite binary64 numbers

Every finite binary64 number is a whole multiple of `2 ^ -1074`, so a number is
kept as a sign and that multiple. Rounding, products, quotients and comparison are
then exact arithmetic on natural numbers.
-/

namespace RecordScreens

/-! ## Magnitudes -/

namespace Binary64

/-- One, counted in units of `2 ^ -1074`. -/
def unitsOfOne : Nat := Nat.pow 2 1074

/-- The first magnitude beyond every finite number, `2 ^ 1024`. -/
def overflow : Nat := Nat.pow 2 2098

/-- The exponent of the last place that a magnitude of 53 significant bits can hold. -/
def placeExponent (units : Nat) : Nat := units.log2 - 52

/-- A magnitude that fits in 53 significant bits and is not too large. -/
def Representable (units : Nat) : Prop :=
  units < overflow ∧ ∃ significand exponent, significand ≤ Nat.pow 2 53 ∧ units = significand * Nat.pow 2 exponent

/-- The whole number nearest to `numerator / denominator`; a tie goes to the even neighbour. -/
def nearest (numerator denominator : Nat) : Nat :=
  let quotient := numerator / denominator
  let rest := numerator % denominator
  if denominator < 2 * rest ∨ (denominator = 2 * rest ∧ quotient % 2 = 1) then quotient + 1 else quotient

/-- `numerator / denominator` units, rounded to 53 significant bits. -/
def roundUnits (numerator denominator : Nat) : Nat :=
  let exponent := placeExponent (numerator / denominator)
  nearest numerator (denominator * Nat.pow 2 exponent) * Nat.pow 2 exponent

theorem nearest_le (numerator denominator : Nat) :
    nearest numerator denominator ≤ numerator / denominator + 1 := by
  simp only [nearest]
  split <;> omega

theorem quotient_lt (units : Nat) : units / Nat.pow 2 (placeExponent units) < Nat.pow 2 53 := by
  rw [Nat.pow_eq, Nat.pow_eq]
  rw [Nat.div_lt_iff_lt_mul (Nat.two_pow_pos _), ← Nat.pow_add]
  refine Nat.lt_of_lt_of_le Nat.lt_log2_self (Nat.pow_le_pow_right (by decide) ?_)
  simp only [placeExponent]
  omega

theorem roundUnits_representable {numerator denominator : Nat}
    (h : roundUnits numerator denominator < overflow) :
    Representable (roundUnits numerator denominator) := by
  refine ⟨h, _, _, ?_, rfl⟩
  refine Nat.le_trans (nearest_le _ _) ?_
  rw [← Nat.div_div_eq_div_mul]
  exact quotient_lt _

end Binary64

/-! ## Numbers -/

/-- A finite binary64 number: a sign and a magnitude in units of `2 ^ -1074`. -/
structure Binary64 where
  negative : Bool
  units : Nat
  representable : Binary64.Representable units
  deriving DecidableEq

namespace Binary64

/-- The number nearest to `numerator / denominator` units, if it is finite. -/
def ofUnits? (negative : Bool) (numerator denominator : Nat) : Option Binary64 :=
  if h : roundUnits numerator denominator < overflow then
    some ⟨negative, roundUnits numerator denominator, roundUnits_representable h⟩
  else none

theorem zero_representable : Representable 0 := ⟨by decide +kernel, 0, 0, by decide, rfl⟩

/-- Zero with a sign. -/
def zero (negative : Bool) : Binary64 := ⟨negative, 0, zero_representable⟩

instance : Inhabited Binary64 := ⟨zero false⟩

/-- The number nearest to a natural number. -/
def ofNat? (negative : Bool) (n : Nat) : Option Binary64 :=
  ofUnits? negative (n * unitsOfOne) 1

/-- The product, rounded. -/
def mul? (x y : Binary64) : Option Binary64 :=
  ofUnits? (x.negative != y.negative) (x.units * y.units) unitsOfOne

/-- The quotient, rounded; there is none by zero. -/
def div? (x y : Binary64) : Option Binary64 :=
  if y.units = 0 then none
  else ofUnits? (x.negative != y.negative) (x.units * unitsOfOne) y.units

/-- The number nearest to `10 ^ exponent`. -/
def powerOfTen? (exponent : Nat) : Option Binary64 := ofNat? false (Nat.pow 10 exponent)

/-- The number nearest to `significand * 10 ^ exponent`. -/
def ofDecimal? (negative : Bool) (significand : Nat) (exponent : Int) : Option Binary64 :=
  match exponent with
  | .ofNat e => ofUnits? negative (significand * Nat.pow 10 e * unitsOfOne) 1
  | .negSucc e => ofUnits? negative (significand * unitsOfOne) (Nat.pow 10 (e + 1))

/-! ## Value and order -/

/-- The value as a signed number of units. Both zeros have value zero. -/
def value (x : Binary64) : Int := if x.negative then -(x.units : Int) else x.units

/-- Numeric order, in which the two zeros are equal. -/
def compare (x y : Binary64) : Ordering := Ord.compare x.value y.value

/-- Numeric equality, in which the two zeros are equal. -/
def same (x y : Binary64) : Bool := x.value == y.value

/-! ## Machine numbers -/

/-- The machine number of the same value. -/
def toFloat (x : Binary64) : Float :=
  let exponent := placeExponent x.units
  let magnitude := Float.scaleB (Float.ofNat (x.units / Nat.pow 2 exponent)) ((exponent : Int) - 1074)
  if x.negative then -magnitude else magnitude

/-- The exact value of a machine number, if it is finite. -/
def ofFloat? (x : Float) : Option Binary64 :=
  let bits := x.toBits.toNat
  let negative := bits / Nat.pow 2 63 = 1
  let field := bits / Nat.pow 2 52 % Nat.pow 2 11
  let fraction := bits % Nat.pow 2 52
  if field = 2047 then none
  else if field = 0 then ofUnits? negative fraction 1
  else ofUnits? negative ((Nat.pow 2 52 + fraction) * Nat.pow 2 (field - 1)) 1

end Binary64

end RecordScreens
