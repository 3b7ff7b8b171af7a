import RecordScreens.CommandLine.Arguments
import RecordScreens.Failure.Action

/-!
# Outcomes

What a run of the program printed, and how it failed if it did.
-/

namespace RecordScreens

/-- Why a run failed, with what caused that. -/
structure RunFault where
  message : String
  causes : List String := []
  deriving DecidableEq, Repr

/-- What a run printed, and how it failed or was cut off. -/
structure RunOutcome where
  output : String := ""
  fault : Option RunFault := none
  /-- What cut the run off, or why it never ends. -/
  crash : Option Halt := none
  deriving DecidableEq, Repr

namespace RunFault

/-- A text behind what stands before its first line; what stands before each further line has the same width. -/
def setIn (before : String) (s : String) : String :=
  let margin := List.replicate before.length ' '
  before ++ String.ofList (s.toList.flatMap fun c => if c = '\n' then c :: margin else [c])

/-- What stands before a cause that has a number: the number to the right of five places. -/
def numbered (i : Nat) : String := String.ofList ((toString i).toList.leftpad 5 ' ') ++ ": "

/-- The causes, numbered if there are several. -/
def causeTexts : List String → List String
  | [] => []
  | [cause] => [setIn "    " cause]
  | causes => causes.zipIdx.map fun (cause, i) => setIn (numbered i) cause

/-- A fault as it is shown to the user. -/
def text (f : RunFault) : String :=
  let causes := if f.causes = [] then [] else ["", "Caused by:"] ++ causeTexts f.causes
  String.intercalate "\n" (("vista error: " ++ f.message) :: causes)

end RunFault

namespace RunOutcome

/-- Lines, each with its end. -/
def printed (lines : List String) : RunOutcome := { output := String.join (lines.map (· ++ "\n")) }

/-- A fault before anything was printed. -/
def failed (message : String) (causes : List String := []) : RunOutcome := { fault := some { message, causes } }

/-- Cut off after these lines were printed. -/
def crashed (h : Halt) (lines : List String := []) : RunOutcome := { printed lines with crash := some h }

/-- The exit code. -/
def code (o : RunOutcome) : Nat := if o.crash.isSome then 101 else if o.fault.isSome then 1 else 0

end RunOutcome

/-! ## Stops -/

/-- How the program is used. -/
def usage : String :=
  "Usage: vista [--settings PATH] [--data PATH] (list | show ID | action ACTION ID | board)"

/-- What is printed instead of running a command. -/
def Stop.text : Stop → String
  | .version => "vista 0.1.0"
  | .help | .invalid => usage

/-- The exit code when no command is run. -/
def Stop.code : Stop → Nat
  | .version | .help => 0
  | .invalid => 2

end RecordScreens
