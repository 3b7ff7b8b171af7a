import RecordScreens.Dialog.Request

/-!
# Effects of actions

What the click of an action does for one record: go to a path, run a mutation, or ask
for a dialog.
-/

namespace RecordScreens

/-- What clicking an action does. -/
inductive ActionEffect where
  /-- Go to a path. -/
  | navigate (path : String)
  /-- Run a mutation, then fetch again what depends on the given query keys. -/
  | mutate (key : String) (params : Json) (invalidates : List String)
  /-- Publish a dialog request on a channel. -/
  | openDialog (channel : String) (request : DialogRequest)
  deriving DecidableEq

namespace ActionEffect

def encode : ActionEffect → Json
  | navigate path => Json.ofMembers [("type", .string "navigate"), ("path", .string path)]
  | mutate key params invalidates =>
    Json.ofMembers
      [("type", .string "mutate"), ("key", .string key), ("params", params),
       ("invalidates", .strings invalidates)]
  | openDialog channel request =>
    Json.ofMembers
      [("type", .string "openDialog"), ("namespace", .string channel), ("request", request.encode)]

def decode : Decoder ActionEffect := fun v => do
  let (kind, content) ← Decoder.tagged "type" v
  if kind = "navigate" then
    let fs ← Decoder.fields ["path"] content
    return .navigate (← fs.required "path" .string)
  else if kind = "mutate" then
    let fs ← Decoder.fields ["key", "params", "invalidates"] content
    return .mutate (← fs.required "key" .string) (← fs.required "params" .json)
      (← fs.withDefault "invalidates" (.list .string) [])
  else if kind = "openDialog" then
    let fs ← Decoder.fields ["namespace", "request"] content
    return .openDialog (← fs.required "namespace" .string) (← fs.required "request" DialogRequest.decode)
  else none

end ActionEffect

end RecordScreens
