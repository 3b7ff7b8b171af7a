import RecordScreens.Number.Binary64
import RecordScreens.Toml.Basic

/-!
# Numbers and dates in TOML

Integers of 64 bits in four bases, binary64 numbers, and dates with times. Underscores
may stand between digits.
-/

namespace RecordScreens.Toml

/-! ## Digits -/

/-- The value of a digit, if it is one in this base. -/
def digit? (base : Nat) (c : Char) : Option Nat :=
  let value :=
    if '0' ≤ c ∧ c ≤ '9' then c.toNat - '0'.toNat
    else if 'a' ≤ c ∧ c ≤ 'f' then c.toNat - 'a'.toNat + 10
    else if 'A' ≤ c ∧ c ≤ 'F' then c.toNat - 'A'.toNat + 10
    else base
  if value < base then some value else none

/-- The digits that go on a number; an underscore stands between two of them. -/
def moreDigits? (base : Nat) : List Char → Option (List Nat × List Char)
  | '_' :: c :: rest => do
    let d ← digit? base c
    let (more, rest) ← moreDigits? base rest
    return (d :: more, rest)
  | ['_'] => none
  | c :: rest =>
    match digit? base c with
    | some d => do
      let (more, rest) ← moreDigits? base rest
      return (d :: more, rest)
    | none => some ([], c :: rest)
  | [] => some ([], [])

/-- One digit or more. -/
def digits? (base : Nat) : Reader (List Nat)
  | c :: rest => do
    let d ← digit? base c
    let (more, rest) ← moreDigits? base rest
    return (d :: more, rest)
  | [] => none

/-- Decimal digits that do not start with a zero, or a zero alone. -/
def wholeDigits? : Reader (List Nat)
  | '0' :: rest => some ([0], rest)
  | cs => digits? 10 cs

/-- The natural number with the given digits. -/
def ofDigits (base : Nat) (digits : List Nat) : Nat := digits.foldl (fun n d => base * n + d) 0

/-- A sign: whether it is minus. -/
def sign : List Char → Bool × List Char
  | '+' :: rest => (false, rest)
  | '-' :: rest => (true, rest)
  | cs => (false, cs)

/-! ## Integers -/

/-- An integer that fits in 64 bits with a sign. -/
def integerOf? (n : Int) : Option Toml :=
  if -(Int.pow 2 63) ≤ n ∧ n < Int.pow 2 63 then some (.integer n) else none

/-- An integer in a base other than ten. -/
def basedInteger? (base : Nat) : Reader Toml := fun cs => do
  let (digits, rest) ← digits? base cs
  return (← integerOf? (ofDigits base digits), rest)

/-! ## Binary64 numbers -/

/-- Decimal exponents beyond this are out of the range of binary64 whatever the digits. -/
def exponentBound : Int := 400

/-- The nearest number. Too small a number is minus infinity; too large a number is none. -/
def floatOf? (negative : Bool) (digits : List Nat) (exponent : Int) : Option Float :=
  let significand := ofDigits 10 digits
  let size : Int := (Nat.toDigits 10 significand).length + exponent
  let zero := (Binary64.zero negative).toFloat
  if significand = 0 ∨ size < -exponentBound then some zero
  else
    let finite := if exponentBound < size then none else Binary64.ofDecimal? negative significand exponent
    match finite with
    | some x => some x.toFloat
    | none => if negative then some (-1.0 / 0.0) else none

/-- The digits after a point. -/
def fraction? : Reader (List Nat)
  | '.' :: rest => digits? 10 rest
  | cs => some ([], cs)

/-- An exponent, if there is one. -/
def exponent? : Reader (Option Int)
  | 'e' :: rest | 'E' :: rest => do
    let (negative, rest) := sign rest
    let (digits, rest) ← digits? 10 rest
    let n : Int := ofDigits 10 digits
    return (some (if negative then -n else n), rest)
  | cs => some (none, cs)

/-- A decimal number: an integer, or with a point or an exponent a binary64 number. -/
def decimal? : Reader Toml := fun cs => do
  let (negative, cs) := sign cs
  let (whole, cs) ← wholeDigits? cs
  let (fraction, cs) ← fraction? cs
  let (exponent, cs) ← exponent? cs
  if fraction = [] ∧ exponent.isNone then
    let n : Int := ofDigits 10 whole
    return (← integerOf? (if negative then -n else n), cs)
  else
    let x ← floatOf? negative (whole ++ fraction) (exponent.getD 0 - fraction.length)
    return (.float x, cs)

/-- Infinity or no number, by name. -/
def namedFloat? : Reader Toml := fun cs =>
  let (negative, cs) := sign cs
  match cs with
  | 'i' :: 'n' :: 'f' :: rest => some (.float (if negative then -1.0 / 0.0 else 1.0 / 0.0), rest)
  | 'n' :: 'a' :: 'n' :: rest => some (.float (0.0 / 0.0), rest)
  | _ => none

/-- A number of any kind. -/
def number? : Reader Toml
  | '0' :: 'x' :: rest => basedInteger? 16 rest
  | '0' :: 'o' :: rest => basedInteger? 8 rest
  | '0' :: 'b' :: rest => basedInteger? 2 rest
  | cs => orElse namedFloat? decimal? cs

/-! ## Dates and times -/

/-- A number of exactly `count` decimal digits. -/
def fixed? (count : Nat) : Reader Nat := fun cs => do
  let digits ← (cs.take count).mapM (digit? 10)
  if digits.length = count then return (ofDigits 10 digits, cs.drop count) else none

/-- Two digits with a value within bounds. -/
def twoDigits? (least greatest : Nat) : Reader Nat := fun cs => do
  let (n, rest) ← fixed? 2 cs
  if least ≤ n ∧ n ≤ greatest then return (n, rest) else none

/-- A text after one given character. -/
def after? (c : Char) : List Char → Option (List Char)
  | d :: rest => if d = c then some rest else none
  | [] => none

/-- How many days a month has. -/
def daysOfMonth (year month : Nat) : Nat :=
  if month = 2 then if year % 4 = 0 ∧ (year % 100 ≠ 0 ∨ year % 400 = 0) then 29 else 28
  else if month = 4 ∨ month = 6 ∨ month = 9 ∨ month = 11 then 30
  else 31

/-- A text after a date. -/
def date? (cs : List Char) : Option (List Char) := do
  let (year, cs) ← fixed? 4 cs
  let (month, cs) ← twoDigits? 1 12 (← after? '-' cs)
  let (_, cs) ← twoDigits? 1 (daysOfMonth year month) (← after? '-' cs)
  return cs

/-- A text after the fraction of a second. -/
def secondFraction? (cs : List Char) : Option (List Char) :=
  match cs with
  | '.' :: c :: rest => if c.isDigit then some (rest.dropWhile Char.isDigit) else none
  | ['.'] => none
  | cs => some cs

/-- A text after a time of day; a minute may have a leap second. -/
def time? (cs : List Char) : Option (List Char) := do
  let (_, cs) ← twoDigits? 0 23 cs
  let (_, cs) ← twoDigits? 0 59 (← after? ':' cs)
  let (_, cs) ← twoDigits? 0 60 (← after? ':' cs)
  secondFraction? cs

/-- A text after the offset of a time, if it has one. -/
def offset? (cs : List Char) : Option (List Char) :=
  match cs with
  | 'Z' :: rest | 'z' :: rest => some rest
  | '+' :: rest | '-' :: rest => do
    let (_, rest) ← twoDigits? 0 23 rest
    let (_, rest) ← twoDigits? 0 59 (← after? ':' rest)
    return rest
  | cs => some cs

/-- A text after the time that follows a date, if one does. -/
def timeAfterDate? (cs : List Char) : Option (List Char) :=
  match cs with
  | 'T' :: rest | 't' :: rest | ' ' :: rest =>
    match time? rest with
    | some rest => offset? rest
    | none => some cs
  | cs => some cs

/-- A date with or without a time, or a time alone. -/
def datetime? : Reader Toml := fun cs => do
  let rest ← match date? cs with
    | some rest => timeAfterDate? rest
    | none => time? cs
  return (.datetime (String.ofList (cs.take (cs.length - rest.length))), rest)

end RecordScreens.Toml
