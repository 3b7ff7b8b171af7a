import RecordScreens.Json.Printer

/-!
# Display of values

The text that a reader sees for a value. No value is shown as nothing, and nested
arrays are shown as one list.
-/

namespace RecordScreens

/-- What stands for a value that is missing or empty. -/
def placeholder : String := "—"

mutual

/-- The text of a value. -/
def Json.display : Json → String
  | .null => placeholder
  | .bool true => "Yes"
  | .bool false => "No"
  | .number n => n.text
  | .string s => if s = "" then placeholder else s
  | .array [] => placeholder
  | .array (v :: rest) => String.intercalate ", " (Json.display v :: Json.displayItems rest)
  | .object members => Json.text (.object members)

def Json.displayItems : List Json → List String
  | [] => []
  | v :: rest => Json.display v :: Json.displayItems rest

end

end RecordScreens
