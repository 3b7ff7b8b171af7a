import RecordScreens.Toml.Basic

/-!
# Strings and keys in TOML

Strings with and without escapes, on one line or several, and the dotted names of values.
-/

namespace RecordScreens.Toml

/-- A character that may stand in a string as it is. -/
def isStringChar (c : Char) : Bool := isLineChar c && c ≠ '"' && c ≠ '\\'

/-- The value of a hexadecimal digit. -/
def hexValue? (c : Char) : Option Nat :=
  if '0' ≤ c ∧ c ≤ '9' then some (c.toNat - '0'.toNat)
  else if 'a' ≤ c ∧ c ≤ 'f' then some (c.toNat - 'a'.toNat + 10)
  else if 'A' ≤ c ∧ c ≤ 'F' then some (c.toNat - 'A'.toNat + 10)
  else none

/-- The character whose number is written in `count` hexadecimal digits. -/
def numbered? (count : Nat) : Reader Char := fun cs => do
  let digits ← (cs.take count).mapM hexValue?
  let n := digits.foldl (fun n d => 16 * n + d) 0
  if digits.length = count ∧ n.isValidChar then return (Char.ofNat n, cs.drop count) else none

/-- The character of an escape, after the backslash. -/
def escape? : Reader Char
  | 'b' :: rest => some (Char.ofNat 0x08, rest)
  | 't' :: rest => some ('\t', rest)
  | 'n' :: rest => some ('\n', rest)
  | 'f' :: rest => some (Char.ofNat 0x0C, rest)
  | 'r' :: rest => some ('\r', rest)
  | '"' :: rest => some ('"', rest)
  | '\\' :: rest => some ('\\', rest)
  | 'u' :: rest => numbered? 4 rest
  | 'U' :: rest => numbered? 8 rest
  | _ => none

/-! ## Strings on one line -/

/-- The characters of a string with escapes, up to its quote. -/
def basicChars? : Nat → Reader (List Char)
  | 0, _ => none
  | fuel + 1, cs =>
    match cs with
    | '"' :: rest => some ([], rest)
    | '\\' :: rest => do
      let (c, rest) ← escape? rest
      let (more, rest) ← basicChars? fuel rest
      return (c :: more, rest)
    | c :: rest => do
      if ¬ isStringChar c then none
      let (more, rest) ← basicChars? fuel rest
      return (c :: more, rest)
    | [] => none

/-- The characters of a string without escapes, up to its quote. -/
def literalChars? : Reader (List Char)
  | '\'' :: rest => some ([], rest)
  | c :: rest => do
    if ¬ isLineChar c then none
    let (more, rest) ← literalChars? rest
    return (c :: more, rest)
  | [] => none

/-! ## Strings on several lines -/

/-- How many of the characters at the start are the given quote. -/
def quoteRun (quote : Char) (cs : List Char) : Nat := (cs.takeWhile (· = quote)).length

/-- A text after blanks and line breaks. -/
def skipLines : Nat → List Char → List Char
  | 0, cs => cs
  | fuel + 1, cs =>
    let cs := skipBlanks cs
    match newline? cs with
    | some rest => skipLines fuel rest
    | none => cs

/-- The text after a backslash that ends a line: the blanks and lines that follow do not count. -/
def joinedLine? (cs : List Char) : Option (List Char) :=
  (newline? (skipBlanks cs)).map fun rest => skipLines (rest.length + 1) rest

/-- The characters of a string on several lines. Three quotes end it; up to two more belong to it. -/
def linesChars? (quote : Char) (escapes : Bool) : Nat → Reader (List Char)
  | 0, _ => none
  | fuel + 1, cs =>
    let quotes := quoteRun quote cs
    if 3 ≤ quotes then
      some (List.replicate (min (quotes - 3) 2) quote, cs.drop (min quotes 5))
    else match newline? cs with
    | some rest => do
      let (more, rest) ← linesChars? quote escapes fuel rest
      return ('\n' :: more, rest)
    | none =>
      match cs with
      | [] => none
      | c :: rest => do
        if c = '\\' ∧ escapes then
          match joinedLine? rest with
          | some rest => linesChars? quote escapes fuel rest
          | none =>
            let (c, rest) ← escape? rest
            let (more, rest) ← linesChars? quote escapes fuel rest
            return (c :: more, rest)
        else
          if ¬ isLineChar c then none
          let (more, rest) ← linesChars? quote escapes fuel rest
          return (c :: more, rest)

/-- A string on several lines after its quotes; a line break that comes first does not count. -/
def lines? (quote : Char) (escapes : Bool) : Reader (List Char) := fun cs =>
  linesChars? quote escapes (cs.length + 1) ((newline? cs).getD cs)

/-! ## Strings -/

/-- A string on one line. -/
def lineString? : Reader String
  | '"' :: rest => (basicChars? (rest.length + 1) rest).map fun (chars, rest) => (String.ofList chars, rest)
  | '\'' :: rest => (literalChars? rest).map fun (chars, rest) => (String.ofList chars, rest)
  | _ => none

/-- A string of any kind. -/
def string? : Reader String
  | '"' :: '"' :: '"' :: rest => (lines? '"' true rest).map fun (chars, rest) => (String.ofList chars, rest)
  | '\'' :: '\'' :: '\'' :: rest =>
    (lines? '\'' false rest).map fun (chars, rest) => (String.ofList chars, rest)
  | cs => lineString? cs

/-! ## Keys -/

/-- A character of a key without quotes. -/
def isBareChar (c : Char) : Bool := c.isAlphanum || c = '-' || c = '_'

/-- One part of a key. -/
def simpleKey? : Reader String := fun cs =>
  match lineString? cs with
  | some found => some found
  | none =>
    match cs.takeWhile isBareChar with
    | [] => none
    | chars => some (String.ofList chars, cs.dropWhile isBareChar)

/-- The parts of a key, with points between them. -/
def keyParts? : Nat → Reader (List String)
  | 0, _ => none
  | fuel + 1, cs => do
    let (part, rest) ← simpleKey? (skipBlanks cs)
    match skipBlanks rest with
    | '.' :: rest =>
      let (more, rest) ← keyParts? fuel rest
      return (part :: more, rest)
    | rest => return ([part], rest)

/-- A key: the names that lead to its table, and its own. -/
def key? : Reader (List String × String) := fun cs => do
  let (parts, rest) ← keyParts? (cs.length + 1) cs
  if depthLimit ≤ parts.length then none
  else return ((parts.dropLast, parts.getLastD ""), rest)

end RecordScreens.Toml
