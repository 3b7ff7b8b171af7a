import RecordScreens.Json.Decoder

/-!
# List parameters

What a list query asks for: filters, an order, and a stretch of the result.
-/

namespace RecordScreens

inductive SortOrder where
  | asc
  | desc
  deriving DecidableEq, Repr

namespace SortOrder

def name : SortOrder → String
  | asc => "asc"
  | desc => "desc"

def encode (o : SortOrder) : Json := .string o.name

def decode : Decoder SortOrder := Decoder.named ([asc, desc].map fun o => (o.name, o))

end SortOrder

/-- The parameters of a list query. -/
structure ListParams where
  filters : Json.Object := []
  sortBy : Option String := none
  sortOrder : SortOrder := .desc
  limit : Option Nat := none
  offset : Nat := 0
  deriving DecidableEq

namespace ListParams

/-- The parameters as they are stored. -/
def encode (p : ListParams) : Json :=
  Json.ofMembers <|
    [("filters", .object p.filters)]
    ++ Json.optional "sortBy" (p.sortBy.map .string)
    ++ [("sortOrder", p.sortOrder.encode)]
    ++ Json.optional "limit" (p.limit.map .ofNat)
    ++ [("offset", .ofNat p.offset)]

def decode : Decoder ListParams := fun v => do
  let fs ← Decoder.fields ["filters", "sortBy", "sortOrder", "limit", "offset"] v
  return {
    filters := ← fs.withDefault "filters" .object []
    sortBy := ← fs.optional "sortBy" .string
    sortOrder := ← fs.withDefault "sortOrder" SortOrder.decode .desc
    limit := ← fs.optional "limit" .nat64
    offset := ← fs.withDefault "offset" .nat64 0 }

/-- The parameters as they are sent to a source, built up member by member. -/
def toQuery (p : ListParams) : Json :=
  let query : Json.Object := [("filters", .object p.filters)]
  let query := match p.sortBy with
    | some key => Dict.insert query "sortBy" (.string key)
    | none => query
  let query := Dict.insert query "sortOrder" (match p.sortOrder with | .asc => .string "asc" | .desc => .string "desc")
  let query := match p.limit with
    | some limit => Dict.insert query "limit" (.ofNat limit)
    | none => query
  .object (Dict.insert query "offset" (.ofNat p.offset))

/-- The parameters with one more filter. -/
def withFilter (p : ListParams) (key : String) (value : Json) : ListParams :=
  { p with filters := Dict.insert p.filters key value }

/-- The parameters in an order. -/
def sort (p : ListParams) (key : String) (order : SortOrder) : ListParams :=
  { p with sortBy := some key, sortOrder := order }

/-- The parameters for a stretch of the result. -/
def page (p : ListParams) (limit offset : Nat) : ListParams := { p with limit := some limit, offset }

/-- Equality of parameters, with filter values equal by value. -/
def same (p q : ListParams) : Bool :=
  Json.sameMembers p.filters q.filters && p.sortBy == q.sortBy && p.sortOrder == q.sortOrder
    && p.limit == q.limit && p.offset == q.offset

end ListParams

end RecordScreens
