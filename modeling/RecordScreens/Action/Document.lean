import RecordScreens.Action.Menu

/-!
# Actions in documents

Actions and menus as they are written by hand. In place of a handler stands what it
answers.
-/

namespace RecordScreens

variable {R : Type} [Record R]

/-- A handler that answers what is written: an effect, a path, an error, or a panic. -/
def handlerOfDocument? : Decoder (R → Except Panic (Except ActionError ActionEffect)) := fun v => do
  let fs ← Decoder.fields ["effect", "navigate", "error", "mutationError", "panic"] v
  match ← fs.optional "effect" ActionEffect.decode with
  | some effect => return fun _ => .ok (.ok effect)
  | none =>
  match ← fs.optional "navigate" .string with
  | some template => return fun r => .ok (.ok (.navigate (expandPath template r)))
  | none =>
  match ← fs.optional "error" .string with
  | some message => return fun _ => .ok (.error (.handler message))
  | none =>
  match ← fs.optional "mutationError" .json with
  | some e =>
    let key ← (e.get? "key").bind Json.asString?
    let message ← (e.get? "message").bind Json.asString?
    return fun _ => .ok (.error (.mutation (.source key message)))
  | none =>
    let payload ← fs.optional "panic" .string
    return fun _ => .error ⟨payload⟩

def ActionTarget.ofDocument? : Decoder (ActionTarget R) := fun v => do
  let (kind, content) ← Decoder.tagged "type" v
  if kind = "navigate" then
    let fs ← Decoder.fields ["template"] content
    return .navigate (← fs.required "template" .string)
  else if kind = "mutate" then
    let fs ← Decoder.fields ["key"] content
    return .mutate (← fs.required "key" .string) [] []
  else if kind = "openDialog" then
    let fs ← Decoder.fields ["namespace", "dialogId"] content
    return .openDialog (← fs.required "namespace" .string) (← fs.required "dialogId" .string)
  else if kind = "custom" then
    let fs ← Decoder.fields ["handler"] content
    return .custom (← fs.required "handler" handlerOfDocument?)
  else none

/-- Whether two values that may be missing are the same. -/
def sameIfAny : Option Json → Option Json → Bool
  | some x, some y => x.same y
  | none, none => true
  | _, _ => false

/-- Offers an action by status, by the value of a field, or gives up. -/
def ActionSpec.restrict? (a : ActionSpec R) (v : Json) : Option (ActionSpec R) :=
  match v.get? "statuses", v.get? "panic" with
  | some statuses, _ => (Decoder.list .string statuses).map a.visibleForStatuses
  | none, some message => some { a with visible := some fun _ => .error ⟨message.asString?⟩ }
  | none, none => do
    let key ← (v.get? "field").bind Json.asString?
    let negated := ((v.get? "not").bind Json.asBool?).getD false
    let holds (r : R) : Bool := sameIfAny (Record.field r key) (v.get? "equals") != negated
    return { a with visible := some fun r => .ok (holds r) }

def ActionSpec.ofDocument? : Decoder (ActionSpec R) := fun v => do
  let fs ← Decoder.fields ["id", "label", "icon", "variant", "target", "params", "invalidates", "visible"] v
  let a : ActionSpec R := {
    id := ← fs.required "id" .string
    label := ← fs.required "label" .string
    icon := ← fs.optional "icon" .string
    variant := ← fs.withDefault "variant" ActionVariant.decode .default
    target := ← fs.required "target" ActionTarget.ofDocument? }
  let params ← fs.withDefault "params" .object []
  let invalidates ← fs.withDefault "invalidates" (.list .string) []
  let a := (params.foldl (fun a p => a.withParam p.1 p.2) a).invalidating invalidates
  match ← fs.optional "visible" .json with
  | some visible => a.restrict? visible
  | none => return a

def MenuEntry.ofDocument? : Decoder (MenuEntry (ActionSpec R))
  | .string name => if name = "separator" then some .separator else none
  | v => (ActionSpec.ofDocument? v).map .action

/-! ## Overviews -/

/-- All of a target but its handler. -/
def ActionTarget.overview : ActionTarget R → Json
  | .navigate template => Json.ofMembers [("type", .string "navigate"), ("template", .string template)]
  | .mutate key params invalidates =>
    Json.ofMembers
      [("type", .string "mutate"), ("key", .string key), ("params", .object params),
       ("invalidates", .strings invalidates)]
  | .openDialog channel dialogId =>
    Json.ofMembers
      [("type", .string "openDialog"), ("namespace", .string channel), ("dialogId", .string dialogId)]
  | .custom _ => Json.ofMembers [("type", .string "custom")]

/-- All of an action but its code. -/
def ActionSpec.overview (a : ActionSpec R) : Json :=
  Json.ofMembers
    [("id", .string a.id), ("label", .string a.label), ("icon", .orNull (a.icon.map .string)),
     ("variant", a.variant.encode), ("target", a.target.overview)]

def MenuEntry.overview : MenuEntry (ActionSpec R) → Json
  | .action a => a.overview
  | .separator => .string "separator"

end RecordScreens
