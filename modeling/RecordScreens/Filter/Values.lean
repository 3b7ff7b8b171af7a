import RecordScreens.Filter.Spec
import RecordScreens.Text.Blank

/-!
# Filter values

What a user entered for the filters of a list, and the query parameters that it makes.
A value narrows the list only if it fits the kind of its filter and says something.
-/

namespace RecordScreens

/-- What was entered for one filter. -/
inductive FilterValue where
  | text (s : String)
  | flag (on : Bool)
  | many (values : List String)
  deriving DecidableEq, Repr

/-- What was entered, by filter key. -/
abbrev FilterValues := Dict FilterValue

/-- The parameter that a value makes for a filter of this kind, if it narrows the list. -/
def FilterKind.param? (kind : FilterKind) (value : FilterValue) : Option Json :=
  match kind, value with
  | .search, .text s => if Text.trim s = "" then none else some (.string (Text.trim s))
  | .select, .text s => if s = "" ∨ s = allOption then none else some (.string s)
  | .toggle, .flag on => if on then some (.bool true) else none
  | .multiSelect, .many values =>
    let chosen := values.filter (· ≠ allOption)
    if chosen = [] then none else some (Json.strings chosen)
  | _, _ => none

namespace FilterSpec

/-- The parameter that the entered values make for a filter. -/
def param? (f : FilterSpec) (values : FilterValues) : Option Json :=
  (Dict.get? values f.key).bind f.kind.param?

/-- The query parameters that the entered values make. -/
def buildParams (filters : List FilterSpec) (values : FilterValues) : Json.Object :=
  filters.foldl (fun params f =>
    match f.param? values with
    | some v => Dict.insert params f.key v
    | none => params) []

/-- Whether some value narrows the list. -/
def anyActive (filters : List FilterSpec) (values : FilterValues) : Bool :=
  !(buildParams filters values).isEmpty

end FilterSpec

end RecordScreens
