import RecordScreens.Listing.Params
import RecordScreens.Proofs.Json.Fields

/-!
# Parameters on their way to the source

List parameters are sent in the form in which they are stored, and they are read back as long as their numbers are
machine words.
-/

namespace RecordScreens

theorem SortOrder.decode_name (o : SortOrder) : decode (.string o.name) = some o := by
  cases o <;> rfl

namespace ListParams

/-- Whether the numbers of the parameters are machine words of 64 bits. -/
structure InWords (p : ListParams) : Prop where
  limit : ∀ n, p.limit = some n → n < Nat.pow 2 64
  offset : p.offset < Nat.pow 2 64

theorem inWords_default : InWords {} := ⟨nofun, Nat.two_pow_pos 64⟩

/-- Building the parameters up member by member gives the form in which they are stored. -/
theorem toQuery_eq_encode (p : ListParams) : p.toQuery = p.encode := by
  obtain ⟨filters, sortBy, sortOrder, limit, offset⟩ := p
  cases sortBy <;> cases limit <;> cases sortOrder <;>
    simp [toQuery, encode, Json.ofMembers, Dict.ofList, Dict.insert, Json.optional, SortOrder.encode, SortOrder.name]

open Decoder Decoder.Fields in
/-- Parameters are read from the form in which they are stored just if their numbers are machine words. -/
theorem decode_encode_eq_some {p p' : ListParams} : decode p.encode = some p' ↔ p.InWords ∧ p' = p := by
  let slots : Dict (Option Json) :=
    [("filters", some (.object p.filters)), ("sortBy", p.sortBy.map .string),
     ("sortOrder", some (.string p.sortOrder.name)), ("limit", p.limit.map .ofNat), ("offset", some (.ofNat p.offset))]
  have hencode : p.encode = .ofMembers (Json.given slots) := by simp [encode, slots, SortOrder.encode]
  obtain ⟨fs, hfields, hget⟩ := fields_given slots ["filters", "sortBy", "sortOrder", "limit", "offset"] rfl (by decide)
  have hlimit (limit : Option Nat) :
      fs.optional "limit" nat64 = some limit ↔ (∀ n, p.limit = some n → n < Nat.pow 2 64) ∧ limit = p.limit :=
    optional_nat64_eq_some (hget "limit" rfl)
  have hoffset (offset : Nat) :
      fs.withDefault "offset" nat64 0 = some offset ↔ p.offset < Nat.pow 2 64 ∧ offset = p.offset :=
    (withDefault_of_get? (hget "offset" rfl)).trans nat64_ofNat_eq_some
  unfold decode
  simp only [hencode, hfields, Option.bind_eq_bind, Option.bind_some, Option.pure_def,
    withDefault_some (hget "filters" rfl) (object_object p.filters), optional_string_of_map (hget "sortBy" rfl),
    withDefault_some (hget "sortOrder" rfl) (SortOrder.decode_name p.sortOrder), Option.bind_eq_some_iff, hlimit,
    hoffset, Option.some.injEq]
  constructor
  · rintro ⟨_, ⟨hlimit, rfl⟩, _, ⟨hoffset, rfl⟩, rfl⟩
    exact ⟨⟨hlimit, hoffset⟩, rfl⟩
  · rintro ⟨hwords, rfl⟩
    exact ⟨_, ⟨hwords.limit, rfl⟩, _, ⟨hwords.offset, rfl⟩, rfl⟩

theorem decode_toQuery_eq_some {p p' : ListParams} : decode p.toQuery = some p' ↔ p.InWords ∧ p' = p :=
  p.toQuery_eq_encode ▸ decode_encode_eq_some

/-- Parameters whose numbers are machine words are read as they were sent. -/
theorem decode_toQuery {p : ListParams} (hwords : p.InWords) : decode p.toQuery = some p :=
  decode_toQuery_eq_some.mpr ⟨hwords, rfl⟩

end ListParams

end RecordScreens
