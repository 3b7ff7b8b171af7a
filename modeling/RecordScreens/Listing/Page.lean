import RecordScreens.Json.Basic

/-!
# Pages

One page out of a longer list of records.
-/

namespace RecordScreens

/-- Some of the matching records, in order. -/
structure Page (α : Type) where
  items : List α
  /-- How many records match on all pages together. -/
  total : Nat
  /-- How many of them come before this page. -/
  offset : Nat
  deriving DecidableEq

namespace Page

variable {α β : Type}

/-- Whether records come after this page. -/
def hasMore (p : Page α) : Bool := p.offset + p.items.length < p.total

def size (p : Page α) : Nat := p.items.length

def isEmpty (p : Page α) : Bool := p.items.isEmpty

/-- How many pages of this size the matching records fill; none of size zero. -/
def pageCount (p : Page α) (pageSize : Nat) : Nat :=
  if pageSize = 0 then 0 else (p.total + pageSize - 1) / pageSize

/-- The page with every item changed that can be. -/
def filterMap (f : α → Option β) (p : Page α) : Page β := { p with items := p.items.filterMap f }

def encode (p : Page Json) : Json :=
  Json.ofMembers
    [("items", .array p.items), ("total", .ofNat p.total), ("offset", .ofNat p.offset),
     ("hasMore", .bool p.hasMore)]

end Page

end RecordScreens
