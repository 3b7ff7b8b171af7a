import RecordScreens.Json.Basic
import RecordScreens.Number.Shortest

/-!
# JSON text

The compact text of a value. Numbers are written with the fewest digits that read
back, and of the characters of a string only quotes, backslashes and controls are
escaped.
-/

namespace RecordScreens

/-! ## Number layout -/

/-- How a decimal is laid out. -/
structure NumberLayout where
  /-- The least exponent of the first digit that is written without an exponent. -/
  leastPlain : Int
  /-- The greatest such exponent. -/
  greatestPlain : Int

namespace NumberLayout

/-- Digits with a point after the first `whole` of them, and at least one digit after it. -/
def pointed (digits : String) (whole : Nat) : String :=
  let after := String.ofList (digits.toList.drop whole)
  String.ofList (digits.toList.take whole) ++ "." ++ (if after = "" then "0" else after)

/-- `n` zeros. -/
def zeros (n : Nat) : String := String.ofList (List.replicate n '0')

/-- An exponent with its sign, in no more digits than it needs. -/
def exponentText (exponent : Int) : String :=
  (if exponent < 0 then "e-" else "e+") ++ toString exponent.natAbs

/-- The text of a decimal that is not negative. -/
def text (layout : NumberLayout) (d : Decimal) : String :=
  let digits := toString d.digits
  let leading : Int := digits.length - 1 + d.exponent
  if leading < layout.leastPlain ∨ layout.greatestPlain < leading then
    (if digits.length = 1 then digits else pointed digits 1) ++ exponentText leading
  else if leading < 0 then
    "0." ++ zeros (leading.natAbs - 1) ++ digits
  else
    pointed (digits ++ zeros d.exponent.toNat) (leading.toNat + 1)

end NumberLayout

namespace Json

/-- Numbers from `0.00001` to below `1e+16` are written plainly. -/
def numberLayout : NumberLayout := { leastPlain := -5, greatestPlain := 15 }

/-- The text of a binary64 number; the sign of a zero is kept. -/
def binary64Text (x : Binary64) : String :=
  (if x.negative then "-" else "") ++ numberLayout.text x.shortest

/-- The text of a number. -/
def Number.text : Number → String
  | .whole n => toString n
  | .binary64 x => binary64Text x

/-! ## Strings -/

/-- A character as it stands in a string. -/
def escapedChar (c : Char) : List Char :=
  if c = '"' then ['\\', '"']
  else if c = '\\' then ['\\', '\\']
  else if 0x20 ≤ c.toNat then [c]
  else if c.toNat = 0x08 then ['\\', 'b']
  else if c.toNat = 0x0C then ['\\', 'f']
  else if c = '\n' then ['\\', 'n']
  else if c = '\r' then ['\\', 'r']
  else if c = '\t' then ['\\', 't']
  else ['\\', 'u', '0', '0', Nat.digitChar (c.toNat / 16), Nat.digitChar (c.toNat % 16)]

/-- A string with its quotes. -/
def stringText (s : String) : String := "\"" ++ String.ofList (s.toList.flatMap escapedChar) ++ "\""

/-! ## Values -/

mutual

/-- The text of a value without any blanks. -/
def text : Json → String
  | .null => "null"
  | .bool true => "true"
  | .bool false => "false"
  | .number n => n.text
  | .string s => stringText s
  | .array items => "[" ++ String.intercalate "," (itemTexts items) ++ "]"
  | .object members => "\x7b" ++ String.intercalate "," (memberTexts members) ++ "\x7d"

def itemTexts : List Json → List String
  | [] => []
  | v :: rest => text v :: itemTexts rest

def memberTexts : List (String × Json) → List String
  | [] => []
  | (key, v) :: rest => (stringText key ++ ":" ++ text v) :: memberTexts rest

end

end Json

end RecordScreens
