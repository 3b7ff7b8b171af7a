import RecordScreens.Failure.Config
import RecordScreens.Json.Decoder

/-!
# Filters

The filters that a list offers: free text, one of several options, a switch, or any
number of options.
-/

namespace RecordScreens

/-- The option that stands for no filter at all. -/
def allOption : String := "all"

/-! ## Kinds -/

/-- What is entered for a filter. -/
inductive FilterKind where
  | search
  | select
  | toggle
  | multiSelect
  deriving DecidableEq, Repr

namespace FilterKind

def name : FilterKind → String
  | search => "search"
  | select => "select"
  | toggle => "toggle"
  | multiSelect => "multiSelect"

/-- Whether a filter of this kind offers a choice. -/
def needsOptions : FilterKind → Bool
  | select | multiSelect => true
  | search | toggle => false

def encode (k : FilterKind) : Json := .string k.name

def decode : Decoder FilterKind :=
  Decoder.named ([search, select, toggle, multiSelect].map fun k => (k.name, k))

end FilterKind

/-! ## Options -/

/-- One choice of a filter. -/
structure FilterOption where
  value : String
  label : String
  deriving DecidableEq, Repr

namespace FilterOption

def encode (o : FilterOption) : Json :=
  Json.ofMembers [("value", .string o.value), ("label", .string o.label)]

def decode : Decoder FilterOption := fun v => do
  let fs ← Decoder.fields ["value", "label"] v
  return { value := ← fs.required "value" .string, label := ← fs.required "label" .string }

end FilterOption

/-! ## Filters -/

/-- A filter above a list. Its key is that of the query parameter. -/
structure FilterSpec where
  key : String
  kind : FilterKind
  label : String
  placeholder : Option String := none
  options : List FilterOption := []
  deriving DecidableEq, Repr

namespace FilterSpec

/-- Whether a value is one of the choices. -/
def hasOption (f : FilterSpec) (value : String) : Bool := f.options.any (·.value == value)

/-- A filter has a key, and choices if its kind needs them. -/
def validate (f : FilterSpec) : Except ConfigError Unit :=
  if f.key = "" then .error (.missingField "FilterSpec" "key")
  else if f.kind.needsOptions ∧ f.options = [] then .error (.missingOptions f.key f.kind.name)
  else .ok ()

def encode (f : FilterSpec) : Json :=
  Json.ofMembers <|
    [("key", .string f.key), ("type", f.kind.encode), ("label", .string f.label)]
    ++ Json.optional "placeholder" (f.placeholder.map .string)
    ++ Json.optional "options" (if f.options = [] then none else some (.array (f.options.map (·.encode))))

def decode : Decoder FilterSpec := fun v => do
  let fs ← Decoder.fields ["key", "type", "label", "placeholder", "options"] v
  return {
    key := ← fs.required "key" .string
    kind := ← fs.required "type" FilterKind.decode
    label := ← fs.required "label" .string
    placeholder := ← fs.optional "placeholder" .string
    options := ← fs.withDefault "options" (.list FilterOption.decode) [] }

/-- Every filter is valid, and no two share a key. -/
def checkAll (filters : List FilterSpec) : Except ConfigError Unit := do
  filters.forM validate
  ensureUnique "filter" (filters.map (·.key))

end FilterSpec

end RecordScreens
