import RecordScreens.Json.Decoder

/-!
# Journeys

The stages of the life of an entity, each judged by the status alone. Stages may
overlap, and then more than one can be active.
-/

namespace RecordScreens

/-- A stage and the statuses in which it is in progress or done. -/
structure JourneyStep where
  id : String
  label : String
  icon : Option String := none
  activeStatuses : List String := []
  completedStatuses : List String := []
  deriving DecidableEq, Repr

/-- How far a stage is. -/
inductive StepState where
  | completed
  | active
  | pending
  deriving DecidableEq, Repr

def StepState.name : StepState → String
  | completed => "completed"
  | active => "active"
  | pending => "pending"

namespace JourneyStep

def isCompletedBy (s : JourneyStep) (status : String) : Bool := s.completedStatuses.contains status

def isActiveFor (s : JourneyStep) (status : String) : Bool := s.activeStatuses.contains status

/-- Statuses in which a stage is both in progress and done. -/
def overlappingStatuses (s : JourneyStep) : List String := s.activeStatuses.filter s.isCompletedBy

/-- How far a stage is in a status: done comes before in progress. -/
def state (s : JourneyStep) (status : String) : StepState :=
  if s.isCompletedBy status then .completed
  else if s.isActiveFor status then .active
  else .pending

def encode (s : JourneyStep) : Json :=
  Json.ofMembers <|
    [("id", .string s.id), ("label", .string s.label)]
    ++ Json.optional "icon" (s.icon.map .string)
    ++ [("activeStatuses", .strings s.activeStatuses), ("completedStatuses", .strings s.completedStatuses)]

def decode : Decoder JourneyStep := fun v => do
  let fs ← Decoder.fields ["id", "label", "icon", "activeStatuses", "completedStatuses"] v
  return {
    id := ← fs.required "id" .string
    label := ← fs.required "label" .string
    icon := ← fs.optional "icon" .string
    activeStatuses := ← fs.withDefault "activeStatuses" (.list .string) []
    completedStatuses := ← fs.withDefault "completedStatuses" (.list .string) [] }

end JourneyStep

/-- A stage as it is drawn. -/
structure JourneyItem where
  id : String
  label : String
  state : StepState
  deriving DecidableEq, Repr

def JourneyItem.encode (i : JourneyItem) : Json :=
  Json.ofMembers [("id", .string i.id), ("label", .string i.label), ("state", .string i.state.name)]

/-- Every stage with how far it is in a status. -/
def journey (steps : List JourneyStep) (status : String) : List JourneyItem :=
  steps.map fun step => ⟨step.id, step.label, step.state status⟩

/-- How many stages are done in a status. -/
def journeyProgress (steps : List JourneyStep) (status : String) : Nat :=
  steps.countP fun step => step.state status = .completed

end RecordScreens
