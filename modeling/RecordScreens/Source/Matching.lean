import RecordScreens.Json.Printer
import RecordScreens.Listing.Page
import RecordScreens.Listing.Params
import RecordScreens.Text.Lowercase

/-!
# Matching, order and pages

What a list query finds among values: those that match its filters, in its order, and of
these one page.
-/

namespace RecordScreens.Source

/-- The filter that is looked for in several fields. -/
def searchKey : String := "search"

/-! ## Matching -/

/-- Equality in which a text also stands for the number or truth value that is written so. -/
def valueMatches (actual expected : Json) : Bool :=
  actual.same expected ||
    match actual, expected with
    | .number n, .string s => n.text == s
    | .bool b, .string s => (Json.bool b).text == s
    | _, _ => false

/-- Whether a text occurs in another. -/
def occursIn (part : List Char) : List Char → Bool
  | [] => part.isEmpty
  | c :: rest => part.isPrefixOf (c :: rest) || occursIn part rest

/-- The text in which a search looks for its term; nothing to look in for a missing value. -/
def searchText? : Option Json → Option String
  | none | some .null => none
  | some (.string s) => some s
  | some v => some v.text

/-- Whether a term occurs in one of the fields, in whatever case. What is no text finds everything. -/
def searchMatches (fields : List String) (record term : Json) : Bool :=
  match term with
  | .string term =>
    fields.any fun field =>
      (searchText? (record.get? field)).any fun text =>
        occursIn (Text.lowercase term).toList (Text.lowercase text).toList
  | _ => true

/-- Whether a value meets one filter. An array as filter asks for one of its items. -/
def filterMatches (fields : List String) (record : Json) (key : String) (expected : Json) : Bool :=
  if key = searchKey then searchMatches fields record expected
  else
    let actual := Json.orNull (record.get? key)
    match expected with
    | .array anyOf => anyOf.any (valueMatches actual)
    | v => valueMatches actual v

/-- Whether a value meets all filters. -/
def matchesAll (fields : List String) (filters : Json.Object) (record : Json) : Bool :=
  filters.all fun filter => filterMatches fields record filter.1 filter.2

/-! ## Order -/

/-- Whether a field is missing, or as good as missing. -/
def isMissing : Option Json → Bool
  | none | some .null => true
  | some _ => false

/-- The order of two fields: by value within a kind, by text across kinds, missing ones last. -/
def compareFields (a b : Option Json) : Ordering :=
  match a, b with
  | some (.number m), some (.number n) => m.compare n
  | some (.string s), some (.string t) => compare s t
  | some (.bool p), some (.bool q) => compare p q
  | a, b =>
    match isMissing a, isMissing b with
    | true, true => .eq
    | true, false => .gt
    | false, true => .lt
    | false, false => compare (Json.orNull a).text (Json.orNull b).text

/-- The values by a field; equal ones stay in order. -/
def sortByField (key : String) (records : List Json) : List Json :=
  records.mergeSort fun a b => compareFields (a.get? key) (b.get? key) != .gt

/-! ## Pages -/

/-- The values that a list query finds, in its order. -/
def found (fields : List String) (p : ListParams) (records : List Json) : List Json :=
  let matching := records.filter (matchesAll fields p.filters)
  match p.sortBy with
  | none => matching
  | some key =>
    let sorted := sortByField key matching
    match p.sortOrder with
    | .asc => sorted
    | .desc => sorted.reverse

/-- A stretch of a list. -/
def stretch {α : Type} (offset : Nat) (limit : Option Nat) (items : List α) : List α :=
  let rest := items.drop offset
  match limit with
  | some limit => rest.take limit
  | none => rest

/-- The answer to a list query: one page, and how many values it is taken from. -/
def page (fields : List String) (p : ListParams) (records : List Json) : Json :=
  let all := found fields p records
  Json.ofMembers
    [("items", .array (stretch p.offset p.limit all)), ("total", .ofNat all.length)]

end RecordScreens.Source
