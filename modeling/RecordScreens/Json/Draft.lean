import RecordScreens.Json.Literal

/-!
# Drafts

A text of JSON, divided into values by its grammar alone. Whether the numbers are in
range, the escapes are characters and the nesting is bounded is left open, since none
of this is asked of a value that nobody looks at.
-/

namespace RecordScreens.Json

/-! ## Strings -/

/-- A part of a string: a character, or an escape with the number of a UTF-16 unit. -/
inductive Glyph where
  | char (c : Char)
  | unit (n : Nat)

namespace Glyph

/-- The characters of a string. The numbers of surrogates stand only in pairs. -/
def chars? : List Glyph → Option (List Char)
  | [] => some []
  | .char c :: rest => (chars? rest).map (c :: ·)
  | .unit high :: .unit low :: rest =>
    if high < 0xD800 ∨ 0xDFFF < high then (chars? (.unit low :: rest)).map (Char.ofNat high :: ·)
    else if 0xDC00 ≤ high ∨ low < 0xDC00 ∨ 0xDFFF < low then none
    else (chars? rest).map (Char.ofNat (0x10000 + (high - 0xD800) * 0x400 + (low - 0xDC00)) :: ·)
  | .unit n :: rest =>
    if n < 0xD800 ∨ 0xDFFF < n then (chars? rest).map (Char.ofNat n :: ·) else none

/-- The text of a string. -/
def text? (glyphs : List Glyph) : Option String := (chars? glyphs).map String.ofList

end Glyph

/-- The value of a hexadecimal digit. -/
def hexDigit? (c : Char) : Option Nat :=
  if '0' ≤ c ∧ c ≤ '9' then some (c.toNat - '0'.toNat)
  else if 'a' ≤ c ∧ c ≤ 'f' then some (c.toNat - 'a'.toNat + 10)
  else if 'A' ≤ c ∧ c ≤ 'F' then some (c.toNat - 'A'.toNat + 10)
  else none

/-- Four hexadecimal digits. -/
def codeUnit? : List Char → Option (Nat × List Char)
  | a :: b :: c :: d :: rest => do
    return (((← hexDigit? a) * 16 + (← hexDigit? b)) * 256 + (← hexDigit? c) * 16 + (← hexDigit? d), rest)
  | _ => none

/-- The character of an escape by letter. -/
def namedChar? : Char → Option Char
  | '"' => some '"'
  | '\\' => some '\\'
  | '/' => some '/'
  | 'b' => some (Char.ofNat 0x08)
  | 'f' => some (Char.ofNat 0x0C)
  | 'n' => some '\n'
  | 'r' => some '\r'
  | 't' => some '\t'
  | _ => none

/-- The parts of a string up to its closing quote. -/
def glyphs? : Nat → List Char → Option (List Glyph × List Char)
  | 0, _ => none
  | fuel + 1, cs =>
    match cs with
    | '"' :: rest => some ([], rest)
    | '\\' :: 'u' :: rest => do
      let (n, rest) ← codeUnit? rest
      let (more, rest) ← glyphs? fuel rest
      return (.unit n :: more, rest)
    | '\\' :: letter :: rest => do
      let c ← namedChar? letter
      let (more, rest) ← glyphs? fuel rest
      return (.char c :: more, rest)
    | c :: rest => do
      if c.toNat < 0x20 ∨ c = '\\' then none
      let (more, rest) ← glyphs? fuel rest
      return (.char c :: more, rest)
    | [] => none

/-- A string after its opening quote. -/
def string? (cs : List Char) : Option (List Glyph × List Char) := glyphs? (cs.length + 1) cs

/-! ## Values -/

/-- A value as it stands in a text. -/
inductive Draft where
  | null
  | bool (b : Bool)
  | number (l : Literal)
  | string (glyphs : List Glyph)
  | array (items : List Draft)
  | object (members : List (List Glyph × Draft))

/-- The four blanks that may stand between the parts of a text. -/
def isSpace (c : Char) : Bool := c = ' ' || c = '\t' || c = '\n' || c = '\r'

/-- A text from its first part on. -/
def skipSpace (cs : List Char) : List Char := cs.dropWhile isSpace

namespace Draft

/-- A number at the start of a text. -/
def number? (negative : Bool) (cs : List Char) : Option (Draft × List Char) :=
  (literal? negative cs).map fun (l, rest) => (.number l, rest)

mutual

/-- A value at the start of a text. -/
def value? : Nat → List Char → Option (Draft × List Char)
  | 0, _ => none
  | fuel + 1, cs =>
    match skipSpace cs with
    | 'n' :: 'u' :: 'l' :: 'l' :: rest => some (.null, rest)
    | 't' :: 'r' :: 'u' :: 'e' :: rest => some (.bool true, rest)
    | 'f' :: 'a' :: 'l' :: 's' :: 'e' :: rest => some (.bool false, rest)
    | '"' :: rest => do
      let (glyphs, rest) ← string? rest
      return (.string glyphs, rest)
    | '[' :: rest =>
      match skipSpace rest with
      | ']' :: rest => some (.array [], rest)
      | rest => do
        let (items, rest) ← items? fuel rest
        return (.array items, rest)
    | '\x7b' :: rest =>
      match skipSpace rest with
      | '\x7d' :: rest => some (.object [], rest)
      | rest => do
        let (members, rest) ← members? fuel rest
        return (.object members, rest)
    | '-' :: rest => number? true rest
    | rest => number? false rest

/-- One or more items up to the closing bracket. -/
def items? : Nat → List Char → Option (List Draft × List Char)
  | 0, _ => none
  | fuel + 1, cs => do
    let (v, rest) ← value? fuel cs
    match skipSpace rest with
    | ',' :: rest =>
      let (more, rest) ← items? fuel rest
      return (v :: more, rest)
    | ']' :: rest => return ([v], rest)
    | _ => none

/-- One or more members up to the closing brace. -/
def members? : Nat → List Char → Option (List (List Glyph × Draft) × List Char)
  | 0, _ => none
  | fuel + 1, cs => do
    match skipSpace cs with
    | '"' :: rest =>
      let (key, rest) ← string? rest
      match skipSpace rest with
      | ':' :: rest =>
        let (v, rest) ← value? fuel rest
        match skipSpace rest with
        | ',' :: rest =>
          let (more, rest) ← members? fuel rest
          return ((key, v) :: more, rest)
        | '\x7d' :: rest => return ([(key, v)], rest)
        | _ => none
      | _ => none
    | _ => none

end

/-- The value of a text that holds one value. -/
def ofText? (text : String) : Option Draft :=
  let cs := text.toList
  match value? (2 * cs.length + 2) cs with
  | some (draft, rest) => if skipSpace rest = [] then some draft else none
  | none => none

end Draft

end RecordScreens.Json
