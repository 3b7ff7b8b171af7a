import RecordScreens.Json.Decoder
import RecordScreens.Record.Basic
import RecordScreens.Text.Blank

/-!
# Candidates

People who are considered for a job, as the recruiting screens see them.
-/

namespace RecordScreens

/-- Someone considered for a job. -/
structure Candidate where
  id : String
  firstName : String
  lastName : String
  email : Option String := none
  title : Option String := none
  location : Option String := none
  status : String
  experienceYears : Option Nat := none
  hourlyRate : Option Nat := none
  source : Option String := none
  isOnHotlist : Bool := false
  deriving DecidableEq, Repr

namespace Candidate

/-- The names of the fields in order. -/
def fieldNames : List String :=
  ["id", "first_name", "last_name", "email", "title", "location", "status", "experience_years", "hourly_rate",
   "source", "is_on_hotlist"]

/-- First and last name, as far as they are there. -/
def fullName (c : Candidate) : String := Text.trim (c.firstName ++ " " ++ c.lastName)

/-- The fields with their values, in order. -/
def fieldValues (c : Candidate) : List (String × Json) :=
  [("id", .string c.id), ("first_name", .string c.firstName), ("last_name", .string c.lastName),
   ("email", .orNull (c.email.map .string)), ("title", .orNull (c.title.map .string)),
   ("location", .orNull (c.location.map .string)), ("status", .string c.status),
   ("experience_years", .orNull (c.experienceYears.map .ofNat)),
   ("hourly_rate", .orNull (c.hourlyRate.map .ofNat)), ("source", .orNull (c.source.map .string)),
   ("is_on_hotlist", .bool c.isOnHotlist)]

def encode (c : Candidate) : Json := Json.ofMembers c.fieldValues

def decode : Decoder Candidate := fun v => do
  let fs ← Decoder.fields fieldNames v
  return {
    id := ← fs.required "id" .string
    firstName := ← fs.required "first_name" .string
    lastName := ← fs.required "last_name" .string
    email := ← fs.optional "email" .string
    title := ← fs.optional "title" .string
    location := ← fs.optional "location" .string
    status := ← fs.required "status" .string
    experienceYears := ← fs.optional "experience_years" .nat32
    hourlyRate := ← fs.optional "hourly_rate" .nat32
    source := ← fs.optional "source" .string
    isOnHotlist := ← fs.withDefault "is_on_hotlist" .bool false }

instance : BoardRecord Candidate where
  id := id
  status c := some c.status
  field c key := Dict.get? c.fieldValues key
  declared := some fieldNames
  decode := decode
  encode := encode
  setStatus c status := { c with status }

end Candidate

end RecordScreens
