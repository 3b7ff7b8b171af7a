import RecordScreens.Json.Decoder
import RecordScreens.Record.Display

/-!
# Stats cards

Cards that show one number each out of the result of a stats query.
-/

namespace RecordScreens

/-- How the number of a card is written. -/
inductive StatFormat where
  | number
  | percent
  | currency
  deriving DecidableEq, Repr

namespace StatFormat

def name : StatFormat → String
  | number => "number"
  | percent => "percent"
  | currency => "currency"

def encode (f : StatFormat) : Json := .string f.name

def decode : Decoder StatFormat :=
  Decoder.named ([number, percent, currency].map fun f => (f.name, f))

/-- The text of a value in this format. -/
def apply (f : StatFormat) (text : String) : String :=
  match f with
  | number => text
  | percent => text ++ "%"
  | currency => "$" ++ text

end StatFormat

/-- A card for one key of the stats. -/
structure StatsCard where
  key : String
  label : String
  color : Option String := none
  icon : Option String := none
  format : StatFormat := .number
  deriving DecidableEq, Repr

namespace StatsCard

/-- The text of a card, given all the stats. A missing number has no unit. -/
def display (c : StatsCard) (stats : Json) : String :=
  match stats.get? c.key with
  | none | some .null => placeholder
  | some v => c.format.apply v.display

def encode (c : StatsCard) : Json :=
  Json.ofMembers <|
    [("key", .string c.key), ("label", .string c.label)]
    ++ Json.optional "color" (c.color.map .string)
    ++ Json.optional "icon" (c.icon.map .string)
    ++ [("format", c.format.encode)]

/-- The fields of a card in order. -/
def fieldNames : List String := ["key", "label", "color", "icon", "format"]

def decode : Decoder StatsCard := fun v => do
  let fs ← Decoder.fields fieldNames v
  return {
    key := ← fs.required "key" .string
    label := ← fs.required "label" .string
    color := ← fs.optional "color" .string
    icon := ← fs.optional "icon" .string
    format := ← fs.withDefault "format" StatFormat.decode .number }

end StatsCard

end RecordScreens
