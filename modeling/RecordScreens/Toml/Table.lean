import RecordScreens.Toml.Basic

/-!
# Tables in the making

A document adds to its tables line by line. What may be added to a table depends on how
the table came about: by its own header, on the way to another table, or by a dotted key.
-/

namespace RecordScreens.Toml

/-- How a table came about. -/
inductive Origin where
  /-- By its own header or braces. -/
  | declared
  /-- On the way to a table with a header. -/
  | implied
  /-- By a dotted key. -/
  | dotted
  deriving DecidableEq, Repr

/-- What a key of a table in the making leads to. -/
inductive Node where
  | value (v : Toml)
  | table (origin : Origin) (entries : List (String × Node))
  /-- An array of tables, of which the last one is still open. -/
  | tables (closed : List Node) (last : List (String × Node))
  deriving Inhabited

namespace Node

/-- The entries of a table in the making. -/
abbrev Entries := List (String × Node)

/-- What a key leads to. -/
def find? : Entries → String → Option Node
  | [], _ => none
  | (k, node) :: rest, key => if k = key then some node else find? rest key

/-- Lets a key lead to something. -/
def put : Entries → String → Node → Entries
  | [], key, node => [(key, node)]
  | (k, old) :: rest, key, node => if k = key then (key, node) :: rest else (k, old) :: put rest key node

/-- Changes the table at the end of a path. Missing tables are made on the way; of an array of
tables the last is taken. A dotted path does not lead through declared tables. -/
def descend (dotted : Bool) (change : Origin → Entries → Option Entries) :
    List String → Origin → Entries → Option Entries
  | [], origin, entries => change origin entries
  | key :: path, _, entries =>
    match find? entries key with
    | none => do
      let origin := if dotted then .dotted else .implied
      return put entries key (.table origin (← descend dotted change path origin []))
    | some (.value _) => none
    | some (.tables closed last) => do
      return put entries key (.tables closed (← descend dotted change path .declared last))
    | some (.table origin inner) => do
      if dotted ∧ origin = .declared then none
      return put entries key (.table origin (← descend dotted change path origin inner))

/-- Adds a value under a key that is not taken. A dotted key adds only to tables made by dotted keys. -/
def assign (path : List String) (key : String) (v : Toml) (entries : Entries) : Option Entries :=
  descend true (fun origin entries =>
    if decide (origin = .dotted) == path.isEmpty then none
    else if (find? entries key).isSome then none
    else some (put entries key (.value v))) path .declared entries

/-- Adds a table by its header; a table that was only implied is declared by it. -/
def declareTable (key : String) (entries : Entries) : Option Entries :=
  match find? entries key with
  | none => some (put entries key (.table .declared []))
  | some (.table .implied inner) => some (put entries key (.table .declared inner))
  | some _ => none

/-- Adds a table to an array of tables by its header. -/
def declareItem (key : String) (entries : Entries) : Option Entries :=
  match find? entries key with
  | none => some (put entries key (.tables [] []))
  | some (.tables closed last) => some (put entries key (.tables (closed ++ [.table .declared last]) []))
  | some _ => none

mutual

/-- The value of a finished node. -/
def finish : Node → Toml
  | .value v => v
  | .table _ entries => .table (finishEntries entries)
  | .tables closed last => .array (finishItems closed ++ [.table (finishEntries last)])

def finishItems : List Node → List Toml
  | [] => []
  | node :: rest => finish node :: finishItems rest

def finishEntries : List (String × Node) → List (String × Toml)
  | [] => []
  | (key, node) :: rest => (key, finish node) :: finishEntries rest

end

end Node

end RecordScreens.Toml
