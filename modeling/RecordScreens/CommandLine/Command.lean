import RecordScreens.CommandLine.Arguments

/-!
# Commands

What can be asked for on the command line, and how it is written there. The options for
files stand before or after the name of the command; after it, they go first.
-/

namespace RecordScreens

/-! ## Commands -/

/-- How the list is narrowed, sorted and turned. -/
structure ListOptions where
  status : Option String := none
  search : Option String := none
  hot : Bool := false
  sort : Option String := none
  descending : Bool := false
  page : Nat := 0
  deriving DecidableEq, Repr

/-- A card and the column that it is moved to. -/
structure CardMove where
  recordId : String
  column : String
  deriving DecidableEq, Repr

inductive Command where
  /-- One page of the list. -/
  | list (options : ListOptions)
  /-- One candidate, with a section to open. -/
  | detail (id : String) (openSection : Option String)
  /-- The click of an action for a candidate. -/
  | action (actionId id : String)
  /-- The board, after a card was moved. -/
  | board (move : Option CardMove)
  deriving DecidableEq, Repr

/-- A command with the files that it is about. -/
structure Invocation where
  /-- The path of the settings. -/
  settings : Option String
  /-- The path of the candidates. -/
  data : Option String
  command : Command
  deriving DecidableEq, Repr

/-! ## Arguments -/

/-- The options that every command has. -/
def fileOptions : List (String × OptionKind) := [("settings", .path), ("data", .path)]

/-- The arguments before the name of a command. -/
def leadingSpec : ArgumentSpec := { options := fileOptions, leads := true }

/-- The commands by name with their arguments. -/
def commandSpecs : List (String × ArgumentSpec) :=
  [("list",
    { options := fileOptions ++
        [("status", .text), ("search", .text), ("hot", .flag), ("sort", .text), ("desc", .flag), ("page", .count)] }),
   ("show", { options := fileOptions ++ [("section", .text)], operands := 1 }),
   ("action", { options := fileOptions, operands := 2 }),
   ("board", { options := fileOptions ++ [("move", .text), ("to", .text)] })]

namespace Command

def listOfArguments (given : Arguments) : ListOptions where
  status := given.value? "status"
  search := given.value? "search"
  hot := given.has "hot"
  sort := given.value? "sort"
  descending := given.has "desc"
  page := ((given.value? "page").bind count?).getD 0

/-- The move that is asked for, if there is a column for the card. -/
def moveOfArguments? (given : Arguments) : Option (Option CardMove) :=
  match given.value? "move", given.value? "to" with
  | none, _ => some none
  | some recordId, some column => some (some { recordId, column })
  | some _, none => none

/-- The command that arguments say. -/
def ofArguments? (name : String) (given : Arguments) : Option Command :=
  match name, given.operands with
  | "list", [] => some (.list (listOfArguments given))
  | "show", [id] => some (.detail id (given.value? "section"))
  | "action", [actionId, id] => some (.action actionId id)
  | "board", [] => (moveOfArguments? given).map .board
  | _, _ => none

end Command

namespace Invocation

/-- Why asking for help with these names is no command: help is there for one command at most. -/
def stopOfHelp : List String → Stop
  | [] => .help
  | [name] => if name = "help" ∨ (commandSpecs.lookup name).isSome then .help else .invalid
  | _ => .invalid

/-- Reads the arguments of a command, after the leading ones. -/
def ofCommand (leading : Arguments) (name : String) (rest : List String) : Except Stop Invocation :=
  match commandSpecs.lookup name with
  | none => .error (if name = "help" then stopOfHelp rest else .invalid)
  | some spec => do
    let (given, _) ← Arguments.sortOut spec {} rest
    match Command.ofArguments? name given with
    | none => .error .invalid
    | some command =>
      let file (name : String) := (given.value? name).or (leading.value? name)
      return { settings := file "settings", data := file "data", command }

/-- Reads the arguments of the program. -/
def ofArguments (args : List String) : Except Stop Invocation := do
  match ← Arguments.sortOut leadingSpec {} args with
  | (_, []) => .error .invalid
  | (leading, name :: rest) => ofCommand leading name rest

end Invocation

end RecordScreens
