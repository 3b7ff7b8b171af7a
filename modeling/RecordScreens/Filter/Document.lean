import RecordScreens.Filter.Values

/-!
# Filter values in documents

A value is a text, a flag, or several texts.
-/

namespace RecordScreens

def FilterValue.ofDocument? : Decoder FilterValue
  | .string s => some (.text s)
  | .bool on => some (.flag on)
  | .array items => some (.many (items.filterMap Json.asString?))
  | _ => none

/-- Values by filter key. -/
def FilterValues.ofDocument? : Decoder FilterValues := .dict FilterValue.ofDocument?

end RecordScreens
