import RecordScreens.Action.Effect
import RecordScreens.Action.Template
import RecordScreens.Failure.Action
import RecordScreens.Text.Quoted

/-!
# Actions

Buttons for a record. An action says what it does as data, or leaves that to a handler
of the host, and it may be hidden for some records. Code of the host may give up.
-/

namespace RecordScreens

/-! ## Variants -/

/-- How the button of an action looks. -/
inductive ActionVariant where
  | default
  | outline
  | destructive
  | ghost
  deriving DecidableEq, Repr

namespace ActionVariant

def name : ActionVariant → String
  | default => "default"
  | outline => "outline"
  | destructive => "destructive"
  | ghost => "ghost"

/-- The name of a variant as a diagnostic shows it. -/
def diagnostic : ActionVariant → String
  | default => "Default"
  | outline => "Outline"
  | destructive => "Destructive"
  | ghost => "Ghost"

def encode (v : ActionVariant) : Json := .string v.name

def decode : Decoder ActionVariant :=
  Decoder.named ([default, outline, destructive, ghost].map fun v => (v.name, v))

end ActionVariant

/-! ## Actions -/

/-- What an action does, before it is known for which record. -/
inductive ActionTarget (R : Type) where
  /-- Go to the path that a template makes. -/
  | navigate (template : String)
  /-- Run a mutation with the id of the record added to the parameters. -/
  | mutate (key : String) (params : Json.Object) (invalidates : List String)
  /-- Ask for a dialog about the record. -/
  | openDialog (channel dialogId : String)
  /-- Let the host compute the effect. -/
  | custom (handler : R → Except Panic (Except ActionError ActionEffect))

/-- An action that can be offered for a record. -/
structure ActionSpec (R : Type) where
  id : String
  label : String
  icon : Option String := none
  variant : ActionVariant := .default
  target : ActionTarget R
  /-- Whether the action is offered for a record; without it, always. -/
  visible : Option (R → Except Panic Bool) := none

namespace ActionSpec

variable {R : Type}

/-- One more parameter for a mutation; other actions have none. -/
def withParam (a : ActionSpec R) (name : String) (value : Json) : ActionSpec R :=
  match a.target with
  | .mutate key params invalidates => { a with target := .mutate key (Dict.insert params name value) invalidates }
  | _ => a

/-- More query keys to fetch again after a mutation; other actions have none. -/
def invalidating (a : ActionSpec R) (keys : List String) : ActionSpec R :=
  match a.target with
  | .mutate key params invalidates => { a with target := .mutate key params (invalidates ++ keys) }
  | _ => a

/-- Offered for records in one of the given statuses. -/
def visibleForStatuses [Record R] (a : ActionSpec R) (statuses : List String) : ActionSpec R :=
  { a with visible := some fun r => .ok ((Record.status r).any fun s => statuses.contains s) }

/-- Whether the action is offered for a record. -/
def isVisible (a : ActionSpec R) (r : R) : Except Panic Bool :=
  match a.visible with
  | some visible => visible r
  | none => .ok true

/-- What the action does for a record. -/
def resolve [Record R] (a : ActionSpec R) (r : R) : Except Panic (Except ActionError ActionEffect) :=
  match a.target with
  | .navigate template => .ok (.ok (.navigate (expandPath template r)))
  | .mutate key params invalidates =>
    .ok (.ok (.mutate key (.object (Dict.insert params "id" (.string (Record.id r)))) invalidates))
  | .openDialog channel dialogId => .ok (.ok (.openDialog channel { dialogId, entityId := Record.id r }))
  | .custom handler => handler r

end ActionSpec

/-! ## Diagnostics -/

/-- The form in which a diagnostic shows a target. -/
def ActionTarget.diagnostic {R : Type} : ActionTarget R → String
  | .navigate template => Text.fieldsText "Navigate" [("template", Text.quoted template)]
  | .mutate key _ invalidates =>
    Text.fieldsText "Mutate"
      [("key", Text.quoted key), ("invalidates", Text.listText (invalidates.map Text.quoted))]
  | .openDialog channel dialogId =>
    Text.fieldsText "OpenDialog" [("namespace", Text.quoted channel), ("dialog_id", Text.quoted dialogId)]
  | .custom _ => "Custom"

/-- The form in which a diagnostic shows an action. -/
def ActionSpec.diagnostic {R : Type} (a : ActionSpec R) : String :=
  Text.fieldsText "ActionSpec"
    [("id", Text.quoted a.id), ("label", Text.quoted a.label), ("variant", a.variant.diagnostic),
     ("target", a.target.diagnostic), ("has_is_visible", Text.boolText a.visible.isSome)]

end RecordScreens
