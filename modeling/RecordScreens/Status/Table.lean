import RecordScreens.Filter.Spec

/-!
# Status tables

How statuses are shown. A table lists its statuses in the order in which they were
first added. A status that it does not know is shown as it is, in a neutral color.
-/

namespace RecordScreens

/-- The color of a status that no table knows. -/
def neutralColor : String := "neutral"

/-- How one status is shown. -/
structure StatusConfig where
  label : String
  color : String
  icon : Option String := none
  deriving DecidableEq, Repr

namespace StatusConfig

def encode (c : StatusConfig) : Json :=
  Json.ofMembers <|
    [("label", .string c.label), ("color", .string c.color)]
    ++ Json.optional "icon" (c.icon.map .string)

def decode : Decoder StatusConfig := fun v => do
  let fs ← Decoder.fields ["label", "color", "icon"] v
  return {
    label := ← fs.required "label" .string
    color := ← fs.required "color" .string
    icon := ← fs.optional "icon" .string }

end StatusConfig

/-- A status together with the way it is shown. -/
structure ResolvedStatus where
  value : String
  label : String
  color : String
  icon : Option String
  /-- Whether the table knew the status. -/
  known : Bool
  deriving DecidableEq, Repr

def ResolvedStatus.encode (s : ResolvedStatus) : Json :=
  Json.ofMembers <|
    [("value", .string s.value), ("label", .string s.label), ("color", .string s.color)]
    ++ Json.optional "icon" (s.icon.map .string)
    ++ [("known", .bool s.known)]

/-- Statuses and how they are shown, in the order in which they were first added. -/
structure StatusTable where
  entries : List (String × StatusConfig) := []
  deriving DecidableEq, Repr

namespace StatusTable

/-- Replaces the entry of a status, or adds one at the end. -/
def insertEntry (status : String) (config : StatusConfig) :
    List (String × StatusConfig) → List (String × StatusConfig)
  | [] => [(status, config)]
  | (s, c) :: rest => if s = status then (s, config) :: rest else (s, c) :: insertEntry status config rest

/-- The table with an entry added or replaced. -/
def insert (t : StatusTable) (status : String) (config : StatusConfig) : StatusTable :=
  ⟨insertEntry status config t.entries⟩

/-- The table with all the entries added in turn. -/
def ofList (entries : List (String × StatusConfig)) : StatusTable :=
  entries.foldl (fun t entry => t.insert entry.1 entry.2) {}

/-- How a status is shown, if the table knows it. -/
def get? (t : StatusTable) (status : String) : Option StatusConfig :=
  (t.entries.find? (·.1 == status)).map (·.2)

/-- How a status is shown. -/
def resolve (t : StatusTable) (status : String) : ResolvedStatus :=
  match t.get? status with
  | some c => { value := status, label := c.label, color := c.color, icon := c.icon, known := true }
  | none => { value := status, label := status, color := neutralColor, icon := none, known := false }

/-- The statuses in order. -/
def statuses (t : StatusTable) : List String := t.entries.map (·.1)

/-- The options of a filter by status: first the one for all of them. -/
def filterOptions (t : StatusTable) (allLabel : String) : List FilterOption :=
  ⟨allOption, allLabel⟩ :: t.entries.map fun entry => ⟨entry.1, entry.2.label⟩

def size (t : StatusTable) : Nat := t.entries.length

def isEmpty (t : StatusTable) : Bool := t.entries.isEmpty

end StatusTable

end RecordScreens
