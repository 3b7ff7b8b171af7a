import Mathlib.Data.List.Infix
import Mathlib.Data.List.Nodup
import RecordScreens.Proofs.Filter.Params
import RecordScreens.Proofs.Listing.Pages

/-!
# What filters mean

The values entered for the filters of a list are made into parameters, and the store
reads the parameters without knowing the filters. Between the two, each value that says
something asks of a record what its kind of filter stands for, and all others ask
nothing.
-/

namespace RecordScreens

/-! ## What is asked of a record -/

/-- A value is this text, or a number or truth value that is written so. -/
def Json.ReadsAs (s : String) : Json → Prop
  | .string t => t = s
  | .number n => n.text = s
  | .bool b => (if b then "true" else "false") = s
  | _ => False

instance (s : String) (v : Json) : Decidable (v.ReadsAs s) :=
  match v with
  | .string t => inferInstanceAs (Decidable (t = s))
  | .number n => inferInstanceAs (Decidable (n.text = s))
  | .bool b => inferInstanceAs (Decidable ((if b then "true" else "false") = s))
  | .null | .array _ | .object _ => isFalse id

/-- The text of a value as a search sees it: a text without its quotes. -/
def Json.plainText : Json → String
  | .string s => s
  | v => v.text

/-- A record has a field that is neither missing nor null and in which a text occurs, in whatever case. -/
def Mentions (fields : List String) (part : String) (record : Json) : Prop :=
  ∃ field ∈ fields, ∃ v ∈ record.get? field, v ≠ .null ∧
    (Text.lowercase part).toList <:+: (Text.lowercase v.plainText).toList

instance (fields : List String) (part : String) (record : Json) : Decidable (Mentions fields part record) :=
  inferInstanceAs (Decidable (∃ field ∈ fields, ∃ v ∈ record.get? field, v ≠ .null ∧
    (Text.lowercase part).toList <:+: (Text.lowercase v.plainText).toList))

/-- What a value for a filter asks of a record. A blank text, the option for all, a switch that is off, an empty choice
and a value of another kind ask nothing. -/
def FilterKind.Admits (fields : List String) (key : String) (record : Json) : FilterKind → FilterValue → Prop
  | .search, .text s => Text.trim s ≠ "" → Mentions fields (Text.trim s) record
  | .select, .text s => s ≠ "" → s ≠ allOption → ∃ v ∈ record.get? key, v.ReadsAs s
  | .toggle, .flag on => on = true → record.get? key = some (.bool true)
  | .multiSelect, .many values =>
    (∃ s ∈ values, s ≠ allOption) → ∃ s ∈ values, s ≠ allOption ∧ ∃ v ∈ record.get? key, v.ReadsAs s
  | _, _ => True

instance (fields : List String) (key : String) (record : Json) (kind : FilterKind) (value : FilterValue) :
    Decidable (kind.Admits fields key record value) :=
  match kind, value with
  | .search, .text s => inferInstanceAs (Decidable (Text.trim s ≠ "" → Mentions fields (Text.trim s) record))
  | .select, .text s =>
    inferInstanceAs (Decidable (s ≠ "" → s ≠ allOption → ∃ v ∈ record.get? key, v.ReadsAs s))
  | .toggle, .flag on => inferInstanceAs (Decidable (on = true → record.get? key = some (.bool true)))
  | .multiSelect, .many values => inferInstanceAs (Decidable ((∃ s ∈ values, s ≠ allOption) →
      ∃ s ∈ values, s ≠ allOption ∧ ∃ v ∈ record.get? key, v.ReadsAs s))
  | .search, .flag _ | .search, .many _ | .select, .flag _ | .select, .many _
  | .toggle, .text _ | .toggle, .many _ | .multiSelect, .text _ | .multiSelect, .flag _ => isTrue trivial

/-- What the entered values ask of a record through one filter. -/
def FilterSpec.Admits (fields : List String) (values : FilterValues) (record : Json) (f : FilterSpec) : Prop :=
  ∀ value ∈ Dict.get? values f.key, f.kind.Admits fields f.key record value

instance (fields : List String) (values : FilterValues) (record : Json) (f : FilterSpec) :
    Decidable (f.Admits fields values record) :=
  inferInstanceAs (Decidable (∀ value ∈ Dict.get? values f.key, f.kind.Admits fields f.key record value))

namespace Source

variable {fields : List String} {record : Json} {key s : String}

theorem occursIn_iff {part cs : List Char} : occursIn part cs = true ↔ part <:+: cs := by
  induction cs with
  | nil => simp [occursIn]
  | cons c rest ih => simp [occursIn, ih, List.infix_cons_iff]

theorem valueMatches_string {actual : Json} : valueMatches actual (.string s) = true ↔ actual.ReadsAs s := by
  cases actual with
  | bool b => cases b <;> simp [valueMatches, Json.same, Json.ReadsAs, Json.text]
  | _ => simp [valueMatches, Json.same, Json.ReadsAs]

theorem valueMatches_orNull {actual : Option Json} :
    valueMatches (Json.orNull actual) (.string s) = true ↔ ∃ v ∈ actual, v.ReadsAs s := by
  cases actual <;> simp [valueMatches_string, Json.orNull, Json.ReadsAs]

theorem searchMatches_string : searchMatches fields record (.string s) = true ↔ Mentions fields s record := by
  have hfield (v : Option Json) :
      (searchText? v).any (fun text => occursIn (Text.lowercase s).toList (Text.lowercase text).toList) = true ↔
        ∃ w ∈ v, w ≠ .null ∧ (Text.lowercase s).toList <:+: (Text.lowercase w.plainText).toList := by
    rcases v with _ | (_ | _ | _ | _ | _ | _) <;> simp [searchText?, Json.plainText, occursIn_iff]
  simp [searchMatches, Mentions, hfield]

section

variable (hkey : key ≠ searchKey)

include hkey

theorem filterMatches_string :
    filterMatches fields record key (.string s) = true ↔ ∃ v ∈ record.get? key, v.ReadsAs s := by
  simp [filterMatches, hkey, valueMatches_orNull]

theorem filterMatches_true :
    filterMatches fields record key (.bool true) = true ↔ record.get? key = some (.bool true) := by
  cases hv : record.get? key with
  | none => simp [filterMatches, hkey, hv, Json.orNull, valueMatches, Json.same]
  | some v => cases v <;> simp [filterMatches, hkey, hv, Json.orNull, valueMatches, Json.same]

theorem filterMatches_strings {values : List String} :
    filterMatches fields record key (Json.strings values) = true ↔
      ∃ s ∈ values, ∃ v ∈ record.get? key, v.ReadsAs s := by
  simp [filterMatches, hkey, Json.strings, valueMatches_orNull]

end

/-- A parameter asks of a record what the value asks that it was made of. -/
theorem all_filterMatches_iff {kind : FilterKind} (hkey : key = searchKey ↔ kind = .search) (value : FilterValue) :
    (kind.param? value).all (filterMatches fields record key) = true ↔ kind.Admits fields key record value := by
  cases kind with
  | search =>
    have hsearch (v : Json) : filterMatches fields record key v = searchMatches fields record v := if_pos (hkey.mpr rfl)
    cases value with
    | text s =>
      by_cases hs : Text.trim s = "" <;>
        simp [FilterKind.param?, FilterKind.Admits, hs, hsearch, searchMatches_string]
    | _ => simp [FilterKind.param?, FilterKind.Admits]
  | select =>
    have hne : key ≠ searchKey := by simp [hkey]
    cases value with
    | text s =>
      by_cases hs : s = "" ∨ s = allOption
      · obtain rfl | rfl := hs <;> simp [FilterKind.param?, FilterKind.Admits]
      · simp [FilterKind.param?, FilterKind.Admits, not_or.mp hs, filterMatches_string hne]
    | _ => simp [FilterKind.param?, FilterKind.Admits]
  | toggle =>
    have hne : key ≠ searchKey := by simp [hkey]
    cases value with
    | flag on => cases on <;> simp [FilterKind.param?, FilterKind.Admits, filterMatches_true hne]
    | _ => simp [FilterKind.param?, FilterKind.Admits]
  | multiSelect =>
    have hne : key ≠ searchKey := by simp [hkey]
    cases value with
    | many values =>
      by_cases hs : ∃ s ∈ values, s ≠ allOption
      · have hchosen : values.filter (· ≠ allOption) ≠ [] := by simpa using hs
        simp only [FilterKind.param?, FilterKind.Admits, if_neg hchosen, Option.all_some, filterMatches_strings hne,
          List.mem_filter, hs, forall_const, decide_eq_true_eq, and_assoc]
      · have hnone : values.filter (· ≠ allOption) = [] := by simpa using hs
        simp only [FilterKind.param?, FilterKind.Admits, if_pos hnone, Option.all_none, hs, false_imp_iff]
    | _ => simp [FilterKind.param?, FilterKind.Admits]

end Source

/-! ## All filters together -/

namespace FilterSpec

variable {filters : List FilterSpec} {values : FilterValues}

/-- The parameters of the filters find the records that every filter admits. -/
theorem matchesAll_buildParams (hkeys : (filters.map (·.key)).Nodup)
    (hsearch : ∀ f ∈ filters, f.key = Source.searchKey ↔ f.kind = .search) (fields : List String)
    (record : Json) :
    Source.matchesAll fields (buildParams filters values) record = true ↔
      ∀ f ∈ filters, f.Admits fields values record := by
  rw [Source.matchesAll, all_buildParams hkeys, List.all_eq_true]
  refine forall₂_congr fun f hf => ?_
  cases hvalue : Dict.get? values f.key with
  | none => simp [param?, Admits, hvalue]
  | some value =>
    simpa [param?, Admits, hvalue] using Source.all_filterMatches_iff (hsearch f hf) value

/-- Asked with the parameters that the entered values make, the store lists the records that every filter admits, in
their order. -/
theorem lists_admitted {s : Store} {key collection : String} {fields : List String}
    (hroute : Dict.get? s.routes key = some (.list collection fields))
    (hkeys : (filters.map (·.key)).Nodup)
    (hsearch : ∀ f ∈ filters, f.key = Source.searchKey ↔ f.kind = .search) (values : FilterValues) :
    let asked : ListParams := { filters := buildParams filters values }
    let admitted := (s.records collection).filter fun r => decide (∀ f ∈ filters, f.Admits fields values r)
    (Store.call key asked.toQuery s).1 =
      .ok (Json.ofMembers [("items", .array admitted), ("total", .ofNat admitted.length)]) := by
  intro asked admitted
  have hfound : Source.found fields asked (s.records collection) = admitted := by
    refine List.filter_congr fun r _ => ?_
    rw [Bool.eq_iff_iff, decide_eq_true_iff]
    exact matchesAll_buildParams hkeys hsearch fields r
  have hasked : ListParams.decode asked.toQuery = some asked :=
    ListParams.decode_toQuery ⟨by simp [asked], Nat.two_pow_pos 64⟩
  rw [Store.call_list hroute hasked, Source.page, hfound]
  rfl

/-- Four tickets. Two are urgent ones of the core team that tell of a login; one has its level as a number, one as a
text. -/
def tickets : Store where
  collections := [("tickets", [("core", .ofNat 2, .string "Login fails"), ("core", .string "2", .string "Slow login"),
    ("web", .ofNat 2, .string "Login page"), ("core", .ofNat 2, .null)].map fun (team, level, title) =>
    .object [("level", level), ("team", .string team), ("title", title), ("urgent", .bool true)])]
  routes := [("tickets", .list "tickets" ["title"])]

/-- All four filters at once, and a value that is for none of them. -/
theorem lists_admitted_tickets :
    let values : FilterValues := [("level", .text "2"), ("owner", .text "Ann"), ("search", .text " LOGIN"),
      ("team", .many ["all", "core"]), ("urgent", .flag true)]
    let asked : ListParams := { filters := buildParams ticketFilters values }
    Dict.get? tickets.routes "tickets" = some (.list "tickets" ["title"]) ∧ (ticketFilters.map (·.key)).Nodup ∧
      (∀ f ∈ ticketFilters, f.key = Source.searchKey ↔ f.kind = .search) ∧
      (Store.call "tickets" asked.toQuery tickets).1 = .ok (Json.ofMembers
        [("items", .array ((tickets.records "tickets").take 2)), ("total", .ofNat 2)]) := by
  intro values asked
  have hroute : Dict.get? tickets.routes "tickets" = some (.list "tickets" ["title"]) := rfl
  have hadmitted : ((tickets.records "tickets").filter fun r =>
      decide (∀ f ∈ ticketFilters, f.Admits ["title"] values r)) = (tickets.records "tickets").take 2 := by
    decide +kernel
  refine ⟨hroute, by decide, by decide, ?_⟩
  rw [lists_admitted hroute (by decide) (by decide) values, hadmitted]
  rfl

end FilterSpec

end RecordScreens
