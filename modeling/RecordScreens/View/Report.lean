import RecordScreens.Detail.Screen
import RecordScreens.Listing.Screen
import RecordScreens.Query.Report

/-!
# Reports of screens

What screens show, as JSON.
-/

namespace RecordScreens

variable {S R : Type} [Record R]

/-- What the user entered on a list screen, and the texts that come of it. -/
def ListScreen.reportInputs (s : ListScreen R) (e : Engine S) : Json :=
  let empty := (s.emptyState e).map fun (title, description) => Json.strings [title, description]
  Json.ofMembers
    [("title", .string s.config.title), ("page", .ofNat s.page), ("active", .bool s.hasActiveFilters),
     ("params", s.params.encode), ("empty", .orNull empty),
     ("error", .orNull ((s.state e).error?.map (·.report)))]

/-- What is known of the page of a list screen. -/
def ListScreen.reportState (s : ListScreen R) (e : Engine S) : Json :=
  (s.state e).report fun page => Page.encode { page with items := page.items.map Record.encode }

/-- All that a detail screen shows. -/
def DetailScreen.report (s : DetailScreen R) (e : Engine S) : Except Panic Json := do
  let quick ← s.quickActions e
  let menu ← s.menu e
  let journey := (s.journey e).map fun (steps, done) => Json.array [.array (steps.map (·.encode)), .ofNat done]
  let sections := s.config.sections.map fun x =>
    Json.array [.string x.id, .orNull ((s.sectionCount e x.id).map .ofNat)]
  return Json.ofMembers
    [("entityId", .string s.entityId), ("entityType", .string s.config.entityType),
     ("record", (s.record e).report Record.encode), ("header", .orNull ((s.header e).map (·.encode))),
     ("journey", .orNull journey), ("current", .string s.sections.current), ("sections", .array sections),
     ("unknownSection", .null), ("quickActions", .array (quick.map (·.encode))),
     ("menu", .array (menu.map MenuView.encodeEntry)), ("related", (s.relatedResult e).report)]

end RecordScreens
