import RecordScreens.Json.Basic

/-!
# Number literals

Numbers as they stand in a text, and the numbers that they are. A literal beyond
binary64 is none.
-/

namespace RecordScreens.Json

/-! ## Numbers -/

/-- A number literal: its sign, the digits before and after the point, and the exponent. -/
structure Literal where
  negative : Bool
  whole : List Nat
  fraction : List Nat
  exponent : Option Int
  /-- Whether the literal has neither a point nor an exponent. -/
  isWhole : Bool

namespace Literal

/-- Significands stay below this bound; the digits after that only count for the exponent. -/
def significandBound : Nat := Nat.pow 2 64

/-- Takes digits while the significand stays in bounds, and returns those left over. -/
def takeDigits : Nat → List Nat → Nat × List Nat
  | n, [] => (n, [])
  | n, d :: rest => if 10 * n + d < significandBound then takeDigits (10 * n + d) rest else (n, d :: rest)

/-- The largest exponent of a power of ten that is a finite number. -/
def greatestPower : Nat := 308

/-- Divides by `10 ^ places`, by the greatest power again and again while more is left. -/
def divideByPower? (x : Binary64) (places : Nat) : Option Binary64 :=
  if places ≤ greatestPower then do x.div? (← Binary64.powerOfTen? places)
  else if x.units = 0 then some x
  else do divideByPower? (← x.div? (← Binary64.powerOfTen? greatestPower)) (places - greatestPower)
termination_by places
decreasing_by simp only [greatestPower] at *; omega

/-- A significand times a power of ten: each is rounded to binary64, and so is the result. -/
def scale? (negative : Bool) (significand : Nat) (exponent : Int) : Option Binary64 := do
  let magnitude ← Binary64.ofNat? negative significand
  match exponent with
  | .ofNat e =>
    if significand = 0 then return magnitude
    else if greatestPower < e then none
    else magnitude.mul? (← Binary64.powerOfTen? e)
  | .negSucc e => divideByPower? magnitude (e + 1)

/-- The number of a literal, unless it lies beyond binary64. -/
def number? (l : Literal) : Option Number :=
  let (significand, wholeLeft) := takeDigits 0 l.whole
  if l.isWhole ∧ wholeLeft = [] ∧ ¬ l.negative then some (.whole significand)
  else if l.isWhole ∧ wholeLeft = [] ∧ 0 < significand ∧ significand ≤ Nat.pow 2 63 then
    some (.whole (-(significand : Int)))
  else
    let (significand, fractionLeft) := takeDigits significand l.fraction
    let places : Int := (wholeLeft.length + fractionLeft.length : Nat) - (l.fraction.length : Nat)
    (scale? l.negative significand (places + l.exponent.getD 0)).map .binary64

end Literal

/-- The digits at the start of a text, and the rest of it. -/
def spanDigits (cs : List Char) : List Nat × List Char :=
  ((cs.takeWhile Char.isDigit).map fun c => c.toNat - '0'.toNat, cs.dropWhile Char.isDigit)

/-- The natural number with the given digits. -/
def ofDigits (digits : List Nat) : Nat := digits.foldl (fun n d => 10 * n + d) 0

/-- The part of a literal after its whole digits: a point with digits, and an exponent. -/
def literalTail? (negative : Bool) (whole : List Nat) (cs : List Char) : Option (Literal × List Char) := do
  let (fraction, hasPoint, cs) ← match cs with
    | '.' :: rest =>
      let (digits, rest) := spanDigits rest
      if digits = [] then none else some (digits, true, rest)
    | _ => some ([], false, cs)
  let exponentOf (sign : Int) (cs : List Char) : Option (Literal × List Char) :=
    let (digits, rest) := spanDigits cs
    if digits = [] then none
    else some (⟨negative, whole, fraction, some (sign * ofDigits digits), false⟩, rest)
  match cs with
  | 'e' :: '+' :: rest | 'E' :: '+' :: rest => exponentOf 1 rest
  | 'e' :: '-' :: rest | 'E' :: '-' :: rest => exponentOf (-1) rest
  | 'e' :: rest | 'E' :: rest => exponentOf 1 rest
  | _ => some (⟨negative, whole, fraction, none, !hasPoint⟩, cs)

/-- A number without its sign; a zero is not followed by another digit. -/
def literal? (negative : Bool) (cs : List Char) : Option (Literal × List Char) :=
  match spanDigits cs with
  | ([], _) => none
  | (0 :: _ :: _, _) => none
  | (whole, rest) => literalTail? negative whole rest

end RecordScreens.Json
