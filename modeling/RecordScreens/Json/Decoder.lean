import RecordScreens.Json.Basic

/-!
# Decoding JSON

Readers from values to the types of the domain. A record is written as an object; it
may also be written as an array of its fields in order. Members that a record does not
have are ignored, and a member that stands twice is refused.
-/

namespace RecordScreens

/-- Reads a value as one of `α`, if it is one. -/
abbrev Decoder (α : Type) := Json → Option α

namespace Decoder

variable {α : Type}

/-! ## Plain values -/

def json : Decoder Json := some

def string : Decoder String := Json.asString?

def bool : Decoder Bool := Json.asBool?

/-- A whole number from zero to below the bound. -/
def natBelow (bound : Nat) : Decoder Nat := fun v => (Json.asNat? v).filter (· < bound)

/-- A whole number of 64 bits without sign. -/
def nat64 : Decoder Nat := natBelow (Nat.pow 2 64)

/-- A whole number of 32 bits without sign. -/
def nat32 : Decoder Nat := natBelow (Nat.pow 2 32)

def object : Decoder Json.Object := Json.asObject?

/-- A value, or null for none. -/
def option (d : Decoder α) : Decoder (Option α)
  | .null => some none
  | v => (d v).map some

/-- An array of values. -/
def list (d : Decoder α) : Decoder (List α)
  | .array items => items.mapM d
  | _ => none

/-- An object of values. -/
def dict (d : Decoder α) : Decoder (Dict α)
  | .object members => members.mapM fun member => (d member.2).map fun v => (member.1, v)
  | _ => none

/-- One of a list of names; also as the only member of an object, with null as its value. -/
def named (names : List (String × α)) : Decoder α
  | .string name => Dict.get? names name
  | .object [(name, .null)] => Dict.get? names name
  | _ => none

/-! ## Records -/

/-- The fields of a record that were given. -/
abbrev Fields := List (String × Json)

/-- The given fields of a record whose fields have these names, in this order. -/
def fields (names : List String) : Decoder Fields
  | .object members =>
    let known := members.filter fun member => names.contains member.1
    if (known.map (·.1)).Nodup then some known else none
  | .array items => if items.length ≤ names.length then some (names.zip items) else none
  | _ => none

namespace Fields

/-- A field that has to be given. -/
def required (fs : Fields) (name : String) (d : Decoder α) : Option α :=
  (Dict.get? fs name).bind d

/-- A field with a value for when it is not given. -/
def withDefault (fs : Fields) (name : String) (d : Decoder α) (default : α) : Option α :=
  match Dict.get? fs name with
  | some v => d v
  | none => some default

/-- A field that may be left out or be null. -/
def optional (fs : Fields) (name : String) (d : Decoder α) : Option (Option α) :=
  fs.withDefault name (option d) none

/-- A text that may be left out; what is no text counts as left out. -/
def text? (fs : Fields) (name : String) : Option String :=
  (Dict.get? fs name).bind string

end Fields

/-- A tag and what it tags: a member of the object, or the first item of the array. -/
def tagged (tag : String) : Decoder (String × Json)
  | .object members =>
    match members.filter (·.1 = tag) with
    | [(_, .string name)] => some (name, .object (members.filter (·.1 ≠ tag)))
    | _ => none
  | .array (.string name :: items) => some (name, .array items)
  | _ => none

end Decoder

end RecordScreens
