import RecordScreens.Candidate.Screens
import RecordScreens.Json.Parser
import RecordScreens.Record.Display
import RecordScreens.Source.Store
import RecordScreens.Text.Lowercase

/-!
# Candidate data

A store of candidates with what the recruiting screens ask it for, and a few candidates
to look at where there are no others.
-/

namespace RecordScreens.Candidate

/-! ## Documents -/

/-- What is wrong with a document of candidates. -/
inductive DatasetFault where
  /-- It is no array of values. -/
  | malformed
  /-- The value at this place is no candidate. -/
  | notACandidate (index : Nat)
  deriving DecidableEq, Repr

/-- Checks that values are candidates, from a place on. -/
def checkFrom (index : Nat) : List Json → Except DatasetFault Unit
  | [] => .ok ()
  | v :: rest => if (decode v).isSome then checkFrom (index + 1) rest else .error (.notACandidate index)

/-- The values of a document, all of which have to be candidates. -/
def valuesOfText (text : String) : Except DatasetFault (List Json) :=
  match (Json.parse? text).bind Json.asArray? with
  | none => .error .malformed
  | some values => (checkFrom 0 values).map fun _ => values

/-! ## Store -/

/-- The status of a value, if it is a text. -/
def statusOf? (v : Json) : Option String := (v.get? "status").bind Json.asString?

/-- How many values have a status. -/
def countOf (status : String) (values : List Json) : Nat := values.countP fun v => statusOf? v == some status

/-- How many candidates there are, how many are active, and what percentage was placed. -/
def stats (values : List Json) : Json :=
  Json.ofMembers
    [("total", .ofNat values.length), ("active", .ofNat (countOf "active" values)),
     ("placementRate", .ofNat (countOf "placed" values * 100 / values.length))]

/-- Whether a candidate was submitted to a job. -/
def isSubmitted (v : Json) : Bool := statusOf? v == some "interviewing" || statusOf? v == some "placed"

/-- The submission with a number. -/
def submission (v : Json) (number : Nat) : Json :=
  Json.ofMembers
    [("id", .string ("s" ++ toString number)), ("candidate_id", .orNull (v.get? "id")),
     ("job", .string (Json.orNull (v.get? "title")).display)]

/-- One submission for each candidate who was submitted. -/
def submissions (values : List Json) : List Json :=
  (values.filter isSubmitted).zipIdx.map fun (v, i) => submission v (i + 1)

/-- A store of candidates. Its stats and submissions are those of the beginning. -/
def store (values : List Json) : Store where
  collections := .ofList [("candidates", values), ("submissions", submissions values)]
  routes := .ofList
    [(listQuery, .list "candidates" ["first_name", "last_name", "email", "title"]),
     (getQuery, .get "candidates"),
     (submissionsQuery, .matching "submissions" "candidate_id"),
     (statsQuery, .value (stats values)),
     (statusMutation, .setStatus "candidates")]

/-! ## Samples -/

/-- A sample with an address made of the names. -/
def sample (id firstName lastName title location status : String) (years rate : Nat) (source : String)
    (hot : Bool) : Candidate :=
  { id, firstName, lastName
    email := some (Text.lowercase firstName ++ "." ++ Text.lowercase lastName ++ "@example.com")
    title := some title
    location := some location
    status
    experienceYears := some years
    hourlyRate := some rate
    source := some source
    isOnHotlist := hot }

def samples : List Candidate :=
  [sample "c01" "Ada" "Lovelace" "Staff Engineer" "London" "active" 12 140 "referral" true,
   sample "c02" "Grace" "Hopper" "Compiler Engineer" "Arlington" "interviewing" 20 160 "linkedin" false,
   sample "c03" "Alan" "Turing" "Research Scientist" "Manchester" "screening" 8 120 "job_board" false,
   sample "c04" "Katherine" "Johnson" "Data Analyst" "Hampton" "placed" 15 110 "referral" false,
   sample "c05" "Edsger" "Dijkstra" "Backend Engineer" "Austin" "bench" 18 130 "linkedin" true,
   sample "c06" "Barbara" "Liskov" "Architect" "Boston" "active" 22 175 "linkedin" false,
   sample "c07" "Ken" "Thompson" "Systems Engineer" "Berkeley" "inactive" 25 150 "job_board" false,
   sample "c08" "Margaret" "Hamilton" "Engineering Manager" "Cambridge" "active" 16 165 "referral" false,
   sample "c09" "Dennis" "Ritchie" "Platform Engineer" "Murray Hill" "interviewing" 19 145 "job_board" false,
   sample "c10" "Frances" "Allen" "Performance Engineer" "Peru" "active" 14 135 "linkedin" true]

end RecordScreens.Candidate
