import RecordScreens.Board.Basic
import RecordScreens.Json.Decoder
import RecordScreens.Record.Dynamic

/-!
# Boards in documents

Column mappings, places and boards as they are written by hand.
-/

namespace RecordScreens

/-- A draft with one more column. -/
def MappingDraft.addOfDocument? (d : MappingDraft) : Decoder MappingDraft := fun v => do
  let fs ← Decoder.fields ["id", "title", "statuses", "color"] v
  let d := d.column (← fs.required "id" .string) (← fs.required "title" .string)
    (← fs.required "statuses" (.list .string))
  match ← fs.optional "color" .string with
  | some color => return d.color color
  | none => return d

/-- A draft; a color that stands before all columns colors none of them. -/
def MappingDraft.ofDocument? : Decoder MappingDraft := fun v => do
  let fs ← Decoder.fields ["columns", "fallback", "hidden", "earlyColor"] v
  let d : MappingDraft :=
    { fallback := ← fs.optional "fallback" .string, hidden := ← fs.withDefault "hidden" (.list .string) [] }
  let d := match ← fs.optional "earlyColor" .string with
    | some color => d.color color
    | none => d
  (← fs.withDefault "columns" (.list .json) []).foldlM MappingDraft.addOfDocument? d

/-- The binary32 number nearest to the binary64 number that is written. -/
def Decoder.binary32 : Decoder Float32
  | .number n => some n.toBinary64.toFloat.toFloat32
  | _ => none

/-- A place; what is not given is zero. -/
def Point.ofDocument? : Decoder Point := fun v => do
  let fs ← Decoder.fields ["x", "y"] v
  return { x := ← fs.withDefault "x" .binary32 0, y := ← fs.withDefault "y" .binary32 0 }

/-- A board with its records, if its columns are sound. The distance of the settings goes before one of
its own. -/
def Board.ofDocument? : Decoder (Except ConfigError (Board JsonRecord)) := fun v => do
  let fs ← Decoder.fields ["commitKey", "records", "invalidates", "activationDistance", "settingsDistance"] v
  let draft ← MappingDraft.ofDocument? v
  let commitKey ← fs.required "commitKey" .string
  let records ← fs.withDefault "records" (.list JsonRecord.ofJson?) []
  let invalidates ← fs.withDefault "invalidates" (.list .string) []
  let distance ← fs.withDefault "activationDistance" .binary32 defaultActivationDistance
  let activationDistance ← fs.withDefault "settingsDistance" .binary32 distance
  return draft.build.map fun mapping => { mapping, commitKey, invalidates, activationDistance, records }

end RecordScreens
