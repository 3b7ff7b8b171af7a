import RecordScreens.Json.Draft

/-!
# Reading JSON

A strict reader of JSON text. Values nest at most 127 deep, numbers beyond binary64
are refused, and an object keeps its members as they stand in the text until it is
put in order. A shape says which members are read at all; of the others only the
grammar is checked.
-/

namespace RecordScreens.Json

/-! ## Shapes -/

/-- What is read of a value: all of it, the named fields of a record, or all items of a list. -/
inductive Shape where
  | any
  | record (fields : List (String × Shape))
  | list (item : Shape)

namespace Shape

/-- A record of which each field is read whole. -/
def ofNames (names : List String) : Shape := .record (names.map fun name => (name, .any))

/-- What is read of a member, if it is read. -/
def member? : Shape → String → Option Shape
  | .record fields, key => Dict.get? fields key
  | _, _ => some .any

/-- What is read of the first item of an array. A record may be an array of its fields in order. -/
def head : Shape → Shape
  | .list item => item
  | .record ((_, field) :: _) => field
  | _ => .any

/-- What is read of the items after the first. -/
def tail : Shape → Shape
  | .record fields => .record fields.tail
  | s => s

end Shape

/-! ## Values -/

namespace Draft

mutual

/-- What a shape reads of a draft, nested at most `depth` deep. -/
def json? : Nat → Shape → Draft → Option Json
  | _, _, .null => some .null
  | _, _, .bool b => some (.bool b)
  | _, _, .number l => l.number?.map .number
  | _, _, .string glyphs => (Glyph.text? glyphs).map .string
  | depth, s, .array items => if depth = 0 then none else (jsonItems? (depth - 1) s items).map .array
  | depth, s, .object members => if depth = 0 then none else (jsonMembers? (depth - 1) s members).map .object

def jsonItems? : Nat → Shape → List Draft → Option (List Json)
  | _, _, [] => some []
  | depth, s, v :: rest => do return (← json? depth s.head v) :: (← jsonItems? depth s.tail rest)

def jsonMembers? : Nat → Shape → List (List Glyph × Draft) → Option (List (String × Json))
  | _, _, [] => some []
  | depth, s, (glyphs, v) :: rest => do
    let key ← Glyph.text? glyphs
    match s.member? key with
    | none => jsonMembers? depth s rest
    | some member => return (key, ← json? depth member v) :: (← jsonMembers? depth s rest)

end

end Draft

/-- How deep the values of a text may nest. -/
def depthLimit : Nat := 127

/-- Reads what a shape asks of a text that holds one value; the members of objects stay as written. -/
def parseAsWritten? (s : Shape) (text : String) : Option Json :=
  (Draft.ofText? text).bind (Draft.json? depthLimit s)

/-! ## Order -/

mutual

/-- The value with the members of its objects in order, the last of each key. -/
def ordered : Json → Json
  | .array items => .array (orderedItems items)
  | .object members => .object (orderedMembers [] members)
  | v => v

def orderedItems : List Json → List Json
  | [] => []
  | v :: rest => ordered v :: orderedItems rest

def orderedMembers (before : Object) : List (String × Json) → Object
  | [] => before
  | (key, v) :: rest => orderedMembers (Dict.insert before key (ordered v)) rest

end

/-- Reads a text that holds one value. -/
def parse? (text : String) : Option Json := (parseAsWritten? .any text).map ordered

end RecordScreens.Json
