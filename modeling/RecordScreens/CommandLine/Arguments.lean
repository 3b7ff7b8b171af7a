/-!
# Arguments

The arguments of a command sorted into options and operands. An option is given once,
a long option may carry its value after an equals sign, and after two dashes everything
is an operand.
-/

namespace RecordScreens

/-! ## Shapes -/

/-- What an argument looks like. -/
inductive ArgumentShape where
  /-- Two dashes: only operands follow. -/
  | escape
  /-- Two dashes with a name, and what stands after an equals sign. -/
  | long (name : String) (attached : Option String)
  /-- One dash with letters. -/
  | letters (cs : List Char)
  | operand
  deriving DecidableEq, Repr

/-- The shape of an argument. A single dash is an operand. -/
def ArgumentShape.ofArgument (arg : String) : ArgumentShape :=
  match arg.toList with
  | ['-', '-'] => .escape
  | '-' :: '-' :: cs =>
    match cs.dropWhile (· ≠ '=') with
    | [] => .long (String.ofList cs) none
    | _ :: value => .long (String.ofList (cs.takeWhile (· ≠ '='))) (some (String.ofList value))
  | '-' :: c :: cs => .letters (c :: cs)
  | _ => .operand

/-! ## Options -/

/-- What an option takes as its value. -/
inductive OptionKind where
  /-- Nothing: it is given or not. -/
  | flag
  | text
  /-- A path, which is not empty. -/
  | path
  /-- A whole number of 64 bits. -/
  | count
  deriving DecidableEq, Repr

/-- A decimal number of 64 bits, perhaps after a plus sign. -/
def count? (s : String) : Option Nat :=
  let digits := match s.toList with
    | '+' :: cs => cs
    | cs => cs
  if digits ≠ [] ∧ digits.all Char.isDigit then
    some (digits.foldl (fun n d => 10 * n + (d.toNat - '0'.toNat)) 0) |>.filter (· < Nat.pow 2 64)
  else none

/-- Whether an option can have a value. -/
def OptionKind.accepts (kind : OptionKind) (value : String) : Bool :=
  match kind with
  | flag => false
  | text => true
  | path => value ≠ ""
  | count => (count? value).isSome

/-- Why arguments start no command. -/
inductive Stop where
  /-- They ask for the version. -/
  | version
  /-- They ask for help. -/
  | help
  | invalid
  deriving DecidableEq, Repr

/-- What arguments may be given. -/
structure ArgumentSpec where
  options : List (String × OptionKind)
  /-- How many operands there are. -/
  operands : Nat := 0
  /-- Whether the first operand is the name of a command, with which other arguments begin. -/
  leads : Bool := false

/-- Arguments that were given. -/
structure Arguments where
  flags : List String := []
  values : List (String × String) := []
  operands : List String := []
  deriving DecidableEq, Repr

namespace Arguments

/-- Whether an option was given. -/
def has (given : Arguments) (name : String) : Bool :=
  given.flags.contains name || given.values.any (·.1 == name)

/-- The value of an option. -/
def value? (given : Arguments) (name : String) : Option String := given.values.lookup name

def addFlag (name : String) (given : Arguments) : Except Stop Arguments :=
  if given.has name then .error .invalid else .ok { given with flags := given.flags ++ [name] }

def addValue (kind : OptionKind) (name value : String) (given : Arguments) : Except Stop Arguments :=
  if given.has name || !kind.accepts value then .error .invalid
  else .ok { given with values := given.values ++ [(name, value)] }

/-- Adds operands, if there is room for them. -/
def addOperands (spec : ArgumentSpec) (operands : List String) (given : Arguments) : Except Stop Arguments :=
  if given.operands.length + operands.length ≤ spec.operands then
    .ok { given with operands := given.operands ++ operands }
  else .error .invalid

/-- What the letters after one dash ask for: the first one decides. -/
def stopOfLetters (spec : ArgumentSpec) : List Char → Stop
  | 'h' :: _ => .help
  | 'V' :: _ => if spec.leads then .version else .invalid
  | _ => .invalid

/-- What a name that is no option asks for. -/
def stopOfName (spec : ArgumentSpec) (name : String) (attached : Option String) : Stop :=
  if attached.isSome then .invalid
  else if name = "help" then .help
  else if name = "version" ∧ spec.leads then .version
  else .invalid

/-- Sorts out arguments: what was given, and from the name of a command on what was not looked at. -/
def sortOut (spec : ArgumentSpec) (given : Arguments) : List String → Except Stop (Arguments × List String)
  | [] => .ok (given, [])
  | arg :: rest =>
    match ArgumentShape.ofArgument arg with
    | .escape => do return (← given.addOperands spec rest, [])
    | .letters cs => .error (stopOfLetters spec cs)
    | .operand =>
      if spec.leads then .ok (given, arg :: rest)
      else do sortOut spec (← given.addOperands spec [arg]) rest
    | .long name attached =>
      match spec.options.lookup name, attached with
      | none, _ => .error (stopOfName spec name attached)
      | some .flag, none => do sortOut spec (← given.addFlag name) rest
      | some kind, some value => do sortOut spec (← given.addValue kind name value) rest
      | some kind, none =>
        match rest with
        | [] => .error .invalid
        | value :: rest =>
          if ArgumentShape.ofArgument value = .operand then do sortOut spec (← given.addValue kind name value) rest
          else .error .invalid

end Arguments

end RecordScreens
