import RecordScreens.Json.Decoder

/-!
# Sections

The parts of a screen of which one is shown at a time.
-/

namespace RecordScreens

/-- A section of a screen. -/
structure SectionSpec where
  id : String
  label : String
  icon : Option String := none
  /-- Whether a count stands beside the label. -/
  showCount : Bool := false
  /-- What draws the section; also the related query that it shows. -/
  component : String := id
  deriving DecidableEq, Repr

namespace SectionSpec

def encode (s : SectionSpec) : Json :=
  Json.ofMembers <|
    [("id", .string s.id), ("label", .string s.label)]
    ++ Json.optional "icon" (s.icon.map .string)
    ++ [("showCount", .bool s.showCount), ("component", .string s.component)]

/-- The fields of a section in order. -/
def fieldNames : List String := ["id", "label", "icon", "showCount", "component"]

def decode : Decoder SectionSpec := fun v => do
  let fs ← Decoder.fields fieldNames v
  return {
    id := ← fs.required "id" .string
    label := ← fs.required "label" .string
    icon := ← fs.optional "icon" .string
    showCount := ← fs.withDefault "showCount" .bool false
    component := ← fs.required "component" .string }

/-- The section with an id. -/
def find? (sections : List SectionSpec) (id : String) : Option SectionSpec := sections.find? (·.id == id)

/-- Whether a section with this id is declared. -/
def declares (sections : List SectionSpec) (id : String) : Bool := sections.any (·.id == id)

end SectionSpec

end RecordScreens
