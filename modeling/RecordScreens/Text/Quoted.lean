import RecordScreens.Text.Lowercase
import RecordScreens.Text.UnprintedData

/-!
# Quoted texts

The form in which a diagnostic shows a text: between quotes, with every character
that would not be seen written by name or number.
-/

namespace RecordScreens.Text

/-- Whether a character is shown by number. -/
def isUnprinted (c : Char) : Bool :=
  c.toNat < 0x20 || c.toNat = 0x7F || inRanges unprintedRanges c.toNat

/-- One character of a quoted text. -/
def quotedChar (c : Char) : String :=
  if c = '"' then "\\\""
  else if c = '\\' then "\\\\"
  else if c = '\n' then "\\n"
  else if c = '\r' then "\\r"
  else if c = '\t' then "\\t"
  else if c.toNat = 0 then "\\0"
  else if isUnprinted c then
    "\\u\x7b" ++ String.ofList (Nat.toDigits 16 c.toNat) ++ "\x7d"
  else String.singleton c

/-- A text in quotes. -/
def quoted (s : String) : String := "\"" ++ String.join (s.toList.map quotedChar) ++ "\""

/-! ## Records and lists -/

/-- A record with its named fields on one line. -/
def fieldsText (name : String) (fields : List (String × String)) : String :=
  name ++ " \x7b " ++ String.intercalate ", " (fields.map fun field => field.1 ++ ": " ++ field.2) ++ " \x7d"

/-- A record that shows only some of its fields. -/
def openFieldsText (name : String) (fields : List (String × String)) : String :=
  name ++ " \x7b " ++ String.join (fields.map fun field => field.1 ++ ": " ++ field.2 ++ ", ") ++ ".. \x7d"

/-- A list on one line. -/
def listText (items : List String) : String := "[" ++ String.intercalate ", " items ++ "]"

/-- A truth value by name. -/
def boolText (b : Bool) : String := if b then "true" else "false"

end RecordScreens.Text
