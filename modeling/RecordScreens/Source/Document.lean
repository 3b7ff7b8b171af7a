import RecordScreens.Json.Decoder
import RecordScreens.Source.Scripted

/-!
# Sources in documents

Collections, routes and prepared answers as they are written by hand.
-/

namespace RecordScreens

def Route.ofDocument? : Decoder Route := fun v => do
  let (kind, content) ← Decoder.tagged "type" v
  let fs ← Decoder.fields ["collection", "searchFields", "field", "value", "message"] content
  let collection := fs.required "collection" .string
  if kind = "list" then return .list (← collection) (← fs.withDefault "searchFields" (.list .string) [])
  else if kind = "get" then return .get (← collection)
  else if kind = "where" then return .matching (← collection) (← fs.required "field" .string)
  else if kind = "value" then return .value (← fs.required "value" .json)
  else if kind = "status" then return .setStatus (← collection)
  else if kind = "fail" then return .fail (← fs.required "message" .string)
  else none

def ScriptedAnswer.ofDocument? : Decoder ScriptedAnswer := fun v => do
  let fs ← Decoder.fields ["delayMs", "value", "error"] v
  let value ← fs.withDefault "value" (fun v => some (some (Except.ok v))) none
  let error ← fs.withDefault "error" (fun v => v.asString?.map fun m => some (Except.error m)) none
  return { delay := ← fs.optional "delayMs" .nat64, result := error.or value }

def Scripted.ofDocument? : Decoder Scripted := fun v => do
  let fs ← Decoder.fields ["collections", "routes", "script"] v
  let store : Store := {
    collections := ← fs.withDefault "collections" (.dict (.list .json)) []
    routes := ← fs.withDefault "routes" (.dict Route.ofDocument?) [] }
  return { store, script := ← fs.withDefault "script" (.dict (.list ScriptedAnswer.ofDocument?)) [] }

end RecordScreens
