import RecordScreens.Json.Decoder

/-!
# Dialog requests

What is sent to the owner of a channel to have a dialog opened.
-/

namespace RecordScreens

/-- Asks for a dialog about an entity. -/
structure DialogRequest where
  dialogId : String
  entityId : String
  extra : Option Json.Object := none
  deriving DecidableEq

namespace DialogRequest

def encode (d : DialogRequest) : Json :=
  Json.ofMembers <|
    [("dialogId", .string d.dialogId), ("entityId", .string d.entityId)]
    ++ Json.optional "extra" (d.extra.map .object)

def decode : Decoder DialogRequest := fun v => do
  let fs ← Decoder.fields ["dialogId", "entityId", "extra"] v
  return {
    dialogId := ← fs.required "dialogId" .string
    entityId := ← fs.required "entityId" .string
    extra := ← fs.optional "extra" .object }

end DialogRequest

end RecordScreens
