import RecordScreens.Failure.Action
import RecordScreens.Failure.Config
import RecordScreens.Json.Basic

/-!
# Reports of errors

Errors as JSON: the kind of the error and its message. A message whose wording is not
fixed is left out.
-/

namespace RecordScreens

def ConfigError.report (e : ConfigError) : Json :=
  let message := match e with
    | .unreadable | .malformed => none
    | e => some (.string e.message)
  Json.ofMembers (("error", .string e.kind) :: Json.optional "message" message)

def QueryError.report (e : QueryError) : Json :=
  let message := match e with
    | .decode _ .unfitting => none
    | e => some (.string e.message)
  Json.ofMembers ([("error", .string e.kind), ("key", .string e.key)] ++ Json.optional "message" message)

def ActionError.report : ActionError → Json
  | .mutation cause => Json.ofMembers [("error", .string "Mutation"), ("cause", cause.report)]
  | e => Json.ofMembers [("error", .string e.kind), ("message", .string e.message)]

def Panic.report (p : Panic) : Json :=
  Json.ofMembers [("error", .string "panic"), ("message", .orNull (p.payload.map .string))]

/-- The answer to a call. -/
def QueryError.reportResult : Except QueryError Json → Json
  | .ok v => Json.ofMembers [("ok", v)]
  | .error e => e.report

end RecordScreens
