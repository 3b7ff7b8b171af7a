import RecordScreens.Action.Dispatch
import RecordScreens.Failure.Report
import RecordScreens.Section.Navigator

/-!
# Reports of actions and dialogs

What clicks did and what hosts show, as JSON.
-/

namespace RecordScreens

def Delivery.report : Delivery → Json
  | .delivered n => .ofNat n
  | .dropped => .string "dropped"

def ActionOutcome.report : ActionOutcome → Json
  | .navigated path => Json.ofMembers [("navigated", .string path)]
  | .mutated key result => Json.ofMembers [("mutated", .string key), ("result", result)]
  | .dialogRequested channel delivery =>
    Json.ofMembers [("dialogRequested", .string channel), ("delivery", delivery.report)]
  | .hidden => .string "hidden"
  | .failed e => Json.ofMembers [("failed", e.report)]

def ActionFailure.report (f : ActionFailure) : Json :=
  .array [.string f.actionId, .string f.entityId, f.error.report]

/-- The failures that were not read yet, after a note of how many were lost. -/
def FailureFeed.report (feed : FailureFeed) : Json :=
  let lost := if feed.lost = 0 then [] else [Json.ofMembers [("lagged", .ofNat feed.lost)]]
  .array (lost ++ feed.unread.map (·.report))

/-- What a host shows, and which of some dialogs that is. -/
def DialogBus.reportHost (bus : DialogBus) (host : Nat) (channel : String) (dialogIds : List String) : Json :=
  Json.ofMembers
    [("namespace", .string channel), ("current", .orNull ((bus.current host).map (·.encode))),
     ("isOpen", .array (dialogIds.map fun id => .bool (bus.isOpen host id)))]

/-- The section that is shown, and whether it was chosen just now. -/
def SectionNavigator.report (n : SectionNavigator) (chosen : Option Bool) : Json :=
  Json.ofMembers
    [("set", .orNull (chosen.map .bool)), ("current", .string n.current),
     ("section", .orNull (n.currentSection.map (·.encode))), ("count", .ofNat n.sections.length)]

end RecordScreens
