import RecordScreens.Toml.Number
import RecordScreens.Toml.Table
import RecordScreens.Toml.Text

/-!
# Reading TOML

A reader of whole documents: the lines first, and then the tables that they make.
-/

namespace RecordScreens.Toml

/-! ## Values -/

/-- A text from its next value on, past blanks, comments and line breaks. -/
def skipSpace : Nat → List Char → List Char
  | 0, cs => cs
  | fuel + 1, cs =>
    let cs := skipBlanks cs
    match newline? (skipComment cs) with
    | some rest => skipSpace fuel rest
    | none => cs

/-- A string, a truth value, a number or a date. -/
def scalar? : Reader Toml := fun cs =>
  match cs with
  | 't' :: 'r' :: 'u' :: 'e' :: rest => some (.boolean true, rest)
  | 'f' :: 'a' :: 'l' :: 's' :: 'e' :: rest => some (.boolean false, rest)
  | '"' :: _ | '\'' :: _ => (string? cs).map fun (s, rest) => (.string s, rest)
  | cs => orElse datetime? number? cs

mutual

/-- A value, nested at most `depth` deep. -/
def value? : Nat → Nat → Reader Toml
  | 0, _, _ => none
  | fuel + 1, depth, cs =>
    match cs with
    | '[' :: rest => do
      if depth = 0 then none
      let (items, rest) ← items? fuel (depth - 1) rest
      return (.array items, rest)
    | '\x7b' :: rest => do
      if depth = 0 then none
      match skipBlanks rest with
      | '\x7d' :: rest => return (.table [], rest)
      | rest =>
        let (entries, rest) ← pairs? fuel (depth - 1) [] rest
        return (.table (Node.finishEntries entries), rest)
    | cs => scalar? cs

/-- The items of an array up to its bracket; a comma may stand after the last. -/
def items? : Nat → Nat → Reader (List Toml)
  | 0, _, _ => none
  | fuel + 1, depth, cs =>
    match skipSpace (cs.length + 1) cs with
    | ']' :: rest => some ([], rest)
    | cs => do
      let (v, rest) ← value? fuel depth cs
      match skipSpace (rest.length + 1) rest with
      | ',' :: rest =>
        let (more, rest) ← items? fuel depth rest
        return (v :: more, rest)
      | ']' :: rest => return ([v], rest)
      | _ => none

/-- One or more pairs of an inline table up to its brace. -/
def pairs? : Nat → Nat → Node.Entries → Reader Node.Entries
  | 0, _, _, _ => none
  | fuel + 1, depth, entries, cs => do
    let ((path, key), rest) ← key? cs
    let (v, rest) ← value? fuel depth (skipBlanks (← after? '=' rest))
    let entries ← Node.assign path key v entries
    match skipBlanks rest with
    | ',' :: rest => pairs? fuel depth entries rest
    | '\x7d' :: rest => return (entries, rest)
    | _ => none

end

/-! ## Lines -/

/-- What one line adds to a document. -/
inductive Line where
  | table (path : List String) (key : String)
  | item (path : List String) (key : String)
  | assign (path : List String) (key : String) (v : Toml)

/-- A line with a header or a value, and what follows it. -/
def line? : Reader Line := fun cs => do
  match cs with
  | '[' :: '[' :: rest =>
    let ((path, key), rest) ← key? rest
    let rest ← lineEnd? (← after? ']' (← after? ']' rest))
    return (.item path key, rest)
  | '[' :: rest =>
    let ((path, key), rest) ← key? rest
    let rest ← lineEnd? (← after? ']' rest)
    return (.table path key, rest)
  | cs =>
    let ((path, key), rest) ← key? cs
    let (v, rest) ← value? (2 * rest.length + 2) (depthLimit - 1) (skipBlanks (← after? '=' rest))
    return (.assign path key v, ← lineEnd? rest)

/-- All lines that add something. -/
def lines : Nat → List Char → Option (List Line)
  | 0, _ => none
  | fuel + 1, cs =>
    match skipSpace (cs.length + 1) cs with
    | [] => some []
    | cs =>
      if skipComment cs = [] then some []
      else do
        let (line, rest) ← line? cs
        return line :: (← lines fuel rest)

/-! ## Documents -/

/-- The path of the table that lines add to, and all tables so far. -/
structure Draft where
  current : List String := []
  entries : Node.Entries := []

/-- Adds a line to a document. -/
def Draft.add (d : Draft) : Line → Option Draft
  | .table path key => do
    let entries ← Node.descend false (fun _ => Node.declareTable key) path .declared d.entries
    return { current := path ++ [key], entries }
  | .item path key => do
    let entries ← Node.descend false (fun _ => Node.declareItem key) path .declared d.entries
    return { current := path ++ [key], entries }
  | .assign path key v => do
    let entries ← Node.descend false (fun _ => Node.assign path key v) d.current .declared d.entries
    return { d with entries }

/-- The table that a document says; a byte order mark at its start does not count. -/
def parse? (text : String) : Option (List (String × Toml)) := do
  let cs := match text.toList with
    | c :: rest => if c.toNat = 0xFEFF then rest else c :: rest
    | [] => []
  let draft ← (← lines (cs.length + 1) cs).foldlM Draft.add {}
  return Node.finishEntries draft.entries

end RecordScreens.Toml
