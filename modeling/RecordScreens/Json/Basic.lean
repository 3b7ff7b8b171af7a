import RecordScreens.Dict
import RecordScreens.Number.Binary64

/-!
# JSON values

Values in which whole numbers and binary64 numbers are kept apart, and in which the
members of an object are a dictionary: listed by key, each key once.
-/

namespace RecordScreens

/-- A whole number, or a binary64 number. The two are never the same number. -/
inductive Json.Number where
  | whole (n : Int)
  | binary64 (x : Binary64)
  deriving DecidableEq

inductive Json where
  | null
  | bool (b : Bool)
  | number (n : Json.Number)
  | string (s : String)
  | array (items : List Json)
  | object (members : List (String × Json))
  deriving Inhabited

namespace Json

/-- The members of an object. -/
abbrev Object := Dict Json

/-! ## Numbers -/

namespace Number

/-- The nearest binary64 number. -/
def toBinary64 : Number → Binary64
  | .whole n => (Binary64.ofNat? (n < 0) n.natAbs).getD (Binary64.zero false)
  | .binary64 x => x

/-- Equality of numbers of one kind by value. -/
def same : Number → Number → Bool
  | .whole m, .whole n => m == n
  | .binary64 x, .binary64 y => x.same y
  | _, _ => false

/-- Numeric order of the nearest binary64 numbers. -/
def compare (m n : Number) : Ordering := m.toBinary64.compare n.toBinary64

end Number

/-- A natural number as a value. -/
def ofNat (n : Nat) : Json := .number (.whole n)

/-! ## Equality -/

mutual

/-- Whether two values are built alike. -/
def decEq : (x y : Json) → Decidable (x = y)
  | .null, .null => isTrue rfl
  | .bool a, .bool b => decidable_of_iff (a = b) (by simp)
  | .number a, .number b => decidable_of_iff (a = b) (by simp)
  | .string a, .string b => decidable_of_iff (a = b) (by simp)
  | .array xs, .array ys => letI := decEqItems xs ys; decidable_of_iff (xs = ys) (by simp)
  | .object xs, .object ys => letI := decEqMembers xs ys; decidable_of_iff (xs = ys) (by simp)
  | .null, .bool _ | .null, .number _ | .null, .string _ | .null, .array _ | .null, .object _
  | .bool _, .null | .bool _, .number _ | .bool _, .string _ | .bool _, .array _ | .bool _, .object _
  | .number _, .null | .number _, .bool _ | .number _, .string _ | .number _, .array _
  | .number _, .object _
  | .string _, .null | .string _, .bool _ | .string _, .number _ | .string _, .array _
  | .string _, .object _
  | .array _, .null | .array _, .bool _ | .array _, .number _ | .array _, .string _
  | .array _, .object _
  | .object _, .null | .object _, .bool _ | .object _, .number _ | .object _, .string _
  | .object _, .array _ => isFalse nofun

def decEqItems : (xs ys : List Json) → Decidable (xs = ys)
  | [], [] => isTrue rfl
  | [], _ :: _ | _ :: _, [] => isFalse nofun
  | x :: xs, y :: ys =>
    letI := decEq x y
    letI := decEqItems xs ys
    decidable_of_iff (x = y ∧ xs = ys) (by simp)

def decEqMembers : (xs ys : List (String × Json)) → Decidable (xs = ys)
  | [], [] => isTrue rfl
  | [], _ :: _ | _ :: _, [] => isFalse nofun
  | (k, x) :: xs, (l, y) :: ys =>
    letI := decEq x y
    letI := decEqMembers xs ys
    decidable_of_iff (k = l ∧ x = y ∧ xs = ys) (by simp [and_assoc])

end

instance : DecidableEq Json := decEq

mutual

/-- Equality of values, in which binary64 numbers are equal by value. -/
def same : Json → Json → Bool
  | .null, .null => true
  | .bool a, .bool b => a == b
  | .number a, .number b => a.same b
  | .string a, .string b => a == b
  | .array xs, .array ys => sameItems xs ys
  | .object xs, .object ys => sameMembers xs ys
  | _, _ => false

def sameItems : List Json → List Json → Bool
  | [], [] => true
  | x :: xs, y :: ys => same x y && sameItems xs ys
  | _, _ => false

def sameMembers : List (String × Json) → List (String × Json) → Bool
  | [], [] => true
  | (k, x) :: xs, (l, y) :: ys => k == l && same x y && sameMembers xs ys
  | _, _ => false

end

/-! ## Parts of a value -/

/-- The member of an object; no other value has members. -/
def get? (v : Json) (key : String) : Option Json :=
  match v with
  | .object members => Dict.get? members key
  | _ => none

def asString? : Json → Option String
  | .string s => some s
  | _ => none

def asBool? : Json → Option Bool
  | .bool b => some b
  | _ => none

def asArray? : Json → Option (List Json)
  | .array items => some items
  | _ => none

def asObject? : Json → Option Object
  | .object members => some members
  | _ => none

/-- A whole number that is not negative. -/
def asNat? : Json → Option Nat
  | .number (.whole n) => if 0 ≤ n then some n.toNat else none
  | _ => none

/-- An object with the given members. -/
def ofMembers (members : List (String × Json)) : Json := .object (Dict.ofList members)

/-- The value of an optional member that is left out when there is none. -/
def optional (key : String) (value : Option Json) : List (String × Json) :=
  match value with
  | some v => [(key, v)]
  | none => []

/-- A value that may be absent, written as null. -/
def orNull (value : Option Json) : Json := value.getD .null

/-- A list of texts as a value. -/
def strings (items : List String) : Json := .array (items.map .string)

end Json

end RecordScreens
