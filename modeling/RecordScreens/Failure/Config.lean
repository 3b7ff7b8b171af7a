/-!
# Configuration errors

What can be wrong with a configuration, and the message for each fault.
-/

namespace RecordScreens

/-- Why a configuration was refused. -/
inductive ConfigError where
  /-- A field that a configuration cannot do without was not set. -/
  | missingField (config field : String)
  /-- A filter that offers a choice has nothing to choose from. -/
  | missingOptions (key kind : String)
  /-- Two entries of one kind share an id. -/
  | duplicateId (kind id : String)
  /-- The section to start on is not declared. -/
  | unknownDefaultSection (id : String)
  /-- A key that does not name a field of the record. -/
  | unknownField (kind key : String)
  /-- A board column that is not declared. -/
  | unknownColumn (id : String)
  /-- The document could not be read. -/
  | unreadable
  /-- The document is not well formed. -/
  | malformed
  deriving DecidableEq, Repr

/-- The name of the kind of a configuration error. -/
def ConfigError.kind : ConfigError → String
  | .missingField .. => "MissingField"
  | .missingOptions .. => "MissingOptions"
  | .duplicateId .. => "DuplicateId"
  | .unknownDefaultSection .. => "UnknownDefaultSection"
  | .unknownField .. => "UnknownField"
  | .unknownColumn .. => "UnknownColumn"
  | .unreadable => "Io"
  | .malformed => "Parse"

/-- The message of a configuration error. -/
def ConfigError.message : ConfigError → String
  | .missingField config field => config ++ ": missing required field '" ++ field ++ "'"
  | .missingOptions key kind => "Filter '" ++ key ++ "' of type " ++ kind ++ " requires at least one option"
  | .duplicateId kind id => "Duplicate " ++ kind ++ " id '" ++ id ++ "'"
  | .unknownDefaultSection id => "Default section '" ++ id ++ "' is not declared"
  | .unknownField kind key => kind ++ " '" ++ key ++ "' does not address a field of the record"
  | .unknownColumn id => "Board column '" ++ id ++ "' is not declared"
  | .unreadable => "IO error"
  | .malformed => "Parse error"

/-- A part that has to be there. -/
def ConfigError.require {α : Type} (config field : String) (value : Option α) : Except ConfigError α :=
  match value with
  | some a => .ok a
  | none => .error (.missingField config field)

/-- A condition that has to hold. -/
def ConfigError.ensure (fault : ConfigError) (holds : Bool) : Except ConfigError Unit :=
  if holds then .ok () else .error fault

/-- Refuses the first id that appears a second time. -/
def ensureUnique (kind : String) (ids : List String) : Except ConfigError Unit :=
  go [] ids
where
  go (seen : List String) : List String → Except ConfigError Unit
    | [] => .ok ()
    | id :: rest => if id ∈ seen then .error (.duplicateId kind id) else go (id :: seen) rest

end RecordScreens
