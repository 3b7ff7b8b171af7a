import RecordScreens.Json.Basic
import RecordScreens.Settings

/-!
# Reports of settings

Settings as JSON. A distance that is no finite number is written as a text.
-/

namespace RecordScreens

/-- The exact value of a distance. -/
def Settings.reportDistance (x : Float32) : Json :=
  match Binary64.ofFloat? x.toFloat with
  | some n => .number (.binary64 n)
  | none => .string (if x.isNaN then "NaN" else if x < 0 then "-inf" else "inf")

def Settings.report (s : Settings) : Json :=
  Json.ofMembers
    [("timeoutMs", .ofNat s.timeoutMillis), ("pageSize", .ofNat s.pageSize),
     ("debounceMs", .ofNat s.debounceMillis), ("activationDistance", Settings.reportDistance s.activationDistance),
     ("isDefault", .bool s.isDefault)]

end RecordScreens
