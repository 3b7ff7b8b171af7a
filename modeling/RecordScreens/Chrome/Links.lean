import RecordScreens.Json.Decoder

/-!
# Names, links and empty states

What stands around the data of a screen.
-/

namespace RecordScreens

/-! ## Names -/

/-- What one record and several records are called. -/
structure EntityName where
  singular : String
  plural : String
  deriving DecidableEq, Repr

namespace EntityName

def encode (n : EntityName) : Json :=
  Json.ofMembers [("singular", .string n.singular), ("plural", .string n.plural)]

def decode : Decoder EntityName := fun v => do
  let fs ← Decoder.fields ["singular", "plural"] v
  return { singular := ← fs.required "singular" .string, plural := ← fs.required "plural" .string }

end EntityName

/-! ## Links -/

/-- A button that leads somewhere. -/
structure LinkAction where
  label : String
  icon : Option String := none
  href : String
  deriving DecidableEq, Repr

namespace LinkAction

def encode (l : LinkAction) : Json :=
  Json.ofMembers <|
    [("label", .string l.label)]
    ++ Json.optional "icon" (l.icon.map .string)
    ++ [("href", .string l.href)]

def decode : Decoder LinkAction := fun v => do
  let fs ← Decoder.fields ["label", "icon", "href"] v
  return {
    label := ← fs.required "label" .string
    icon := ← fs.optional "icon" .string
    href := ← fs.required "href" .string }

end LinkAction

/-- One step of the trail that leads to a screen. -/
structure Breadcrumb where
  label : String
  href : String
  deriving DecidableEq, Repr

namespace Breadcrumb

def encode (b : Breadcrumb) : Json := Json.ofMembers [("label", .string b.label), ("href", .string b.href)]

def decode : Decoder Breadcrumb := fun v => do
  let fs ← Decoder.fields ["label", "href"] v
  return { label := ← fs.required "label" .string, href := ← fs.required "href" .string }

end Breadcrumb

/-! ## Empty states -/

/-- What a list shows when its page has no rows. -/
structure EmptyState where
  title : String
  /-- Shown while filters narrow the list. -/
  filteredDescription : String := "Try adjusting your search or filters"
  /-- Shown while no filter does. -/
  unfilteredDescription : String := ""
  action : Option LinkAction := none
  deriving DecidableEq, Repr

namespace EmptyState

def description (e : EmptyState) (filtered : Bool) : String :=
  if filtered then e.filteredDescription else e.unfilteredDescription

def encode (e : EmptyState) : Json :=
  Json.ofMembers <|
    [("title", .string e.title),
     ("filteredDescription", .string e.filteredDescription),
     ("unfilteredDescription", .string e.unfilteredDescription)]
    ++ Json.optional "action" (e.action.map (·.encode))

def decode : Decoder EmptyState := fun v => do
  let fs ← Decoder.fields ["title", "filteredDescription", "unfilteredDescription", "action"] v
  return {
    title := ← fs.required "title" .string
    filteredDescription := ← fs.required "filteredDescription" .string
    unfilteredDescription := ← fs.required "unfilteredDescription" .string
    action := ← fs.optional "action" LinkAction.decode }

end EmptyState

end RecordScreens
