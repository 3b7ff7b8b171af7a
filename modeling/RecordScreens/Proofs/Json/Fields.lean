import RecordScreens.Json.Decoder
import RecordScreens.Proofs.Dict

/-!
# Reading what was written

A record is written as the object of those of its slots that hold a value. Every slot is found again by its name, and a
field is read back from its slot if its value is read back.
-/

namespace RecordScreens

/-! ## Slots -/

namespace Json

/-- The members of an object with these slots: those that hold a value. -/
def given (slots : Dict (Option Json)) : List (String × Json) := slots.filterMap fun slot => slot.2.map (slot.1, ·)

@[simp] theorem given_nil : given [] = [] := rfl

@[simp] theorem given_cons (name : String) (v? : Option Json) (slots : Dict (Option Json)) :
    given ((name, v?) :: slots) = optional name v? ++ given slots := by
  cases v? <;> rfl

@[simp] theorem optional_some (name : String) (v : Json) : optional name (some v) = [(name, v)] := rfl

theorem mem_given {slots : Dict (Option Json)} {name : String} {v : Json} :
    (name, v) ∈ given slots ↔ (name, some v) ∈ slots := by
  constructor
  · intro h
    obtain ⟨⟨name', v?⟩, hmem, hv⟩ := List.mem_filterMap.mp h
    obtain ⟨v', rfl, hentry⟩ := Option.map_eq_some_iff.mp hv
    cases hentry
    exact hmem
  · intro h
    exact List.mem_filterMap.mpr ⟨_, h, rfl⟩

/-- Each slot gives at most one member, under its own name. -/
theorem names_given (slots : Dict (Option Json)) : ((given slots).map (·.1)).Sublist (Dict.keys slots) := by
  induction slots with
  | nil => exact .slnil
  | cons slot rest ih =>
    obtain ⟨name, v?⟩ := slot
    cases v? with
    | none => exact ih.cons _
    | some v => exact ih.cons_cons _

/-- A slot without a value gives no member. -/
theorem get?_given {slots : Dict (Option Json)} (hnodup : (Dict.keys slots).Nodup) (name : String) :
    Dict.get? (given slots) name = (Dict.get? slots name).join := by
  have hgiven : ((given slots).map (·.1)).Nodup := (names_given slots).nodup hnodup
  ext v
  rw [Dict.get?_eq_some_iff hgiven, mem_given, ← Dict.get?_eq_some_iff hnodup, Option.join_eq_some_iff]

end Json

/-! ## Values -/

namespace Decoder

variable {α : Type} {d : Decoder α} {write : α → Json}

theorem natBelow_ofNat_eq_some {bound n m : Nat} : natBelow bound (.ofNat n) = some m ↔ n < bound ∧ m = n := by
  have hread : natBelow bound (.ofNat n) = (some n).filter (· < bound) := by simp [natBelow, Json.ofNat, Json.asNat?]
  rw [hread, Option.filter_eq_some_iff, decide_eq_true_iff, Option.some.injEq]
  constructor
  · rintro ⟨rfl, hn⟩
    exact ⟨hn, rfl⟩
  · rintro ⟨hn, rfl⟩
    exact ⟨rfl, hn⟩

theorem natBelow_ofNat {bound n : Nat} (h : n < bound) : natBelow bound (.ofNat n) = some n :=
  natBelow_ofNat_eq_some.mpr ⟨h, rfl⟩

theorem nat64_ofNat_eq_some {n m : Nat} : nat64 (.ofNat n) = some m ↔ n < Nat.pow 2 64 ∧ m = n :=
  natBelow_ofNat_eq_some

theorem option_of_ne_null {v : Json} (hv : v ≠ .null) : option d v = (d v).map some := by
  cases v <;> simp_all [option]

theorem option_of_some {v : Json} {a : α} (hv : v ≠ .null) (h : d v = some a) : option d v = some (some a) := by
  rw [option_of_ne_null hv, h]
  rfl

theorem of_option_some {v : Json} {a : α} (h : option d v = some (some a)) : d v = some a := by
  cases v with
  | null => simp [option] at h
  | _ => simpa [option] using h

theorem object_object (members : Json.Object) : object (.object members) = some members := rfl

theorem list_map (h : ∀ a, d (write a) = some a) (items : List α) : list d (.array (items.map write)) = some items := by
  show (items.map write).mapM d = some items
  induction items with
  | nil => rfl
  | cons a rest ih => simp [h a, ih]

theorem list_strings (items : List String) : list string (.strings items) = some items := by
  have hread (s : String) : string (.string s) = some s := rfl
  exact list_map hread items

theorem dict_mapValues (h : ∀ a, d (write a) = some a) (entries : Dict α) :
    dict d (.object (Dict.mapValues write entries)) = some entries := by
  show (entries.map fun entry => (entry.1, write entry.2)).mapM (fun member => (d member.2).map (member.1, ·)) = _
  induction entries with
  | nil => rfl
  | cons entry rest ih => simp [h entry.2, ih]

/-! ## Records -/

/-- The fields of an object that was read are found as its members. -/
theorem get?_fields {names : List String} {members : Json.Object} {fs : Fields}
    (h : fields names (.object members) = some fs) {name : String} (hname : name ∈ names) :
    Dict.get? fs name = Dict.get? members name := by
  unfold fields at h
  simp only [Option.ite_none_right_eq_some, Option.some.injEq] at h
  obtain ⟨-, rfl⟩ := h
  exact Dict.get?_filter (by simpa using hname) members

/-- In an object in order, no member stands twice. -/
theorem fields_object {members : Json.Object} (hsorted : Dict.Sorted members) (names : List String) :
    ∃ fs, fields names (.object members) = some fs :=
  ⟨_, if_pos (Dict.nodup_keys (hsorted.sublist (List.filter_sublist.map _)))⟩

/-- The members of an object that was written under different names are found by their names. -/
theorem fields_ofMembers {entries : List (String × Json)} (hnodup : (entries.map (·.1)).Nodup) (names : List String) :
    ∃ fs, fields names (.ofMembers entries) = some fs ∧
      ∀ name ∈ names, Dict.get? fs name = Dict.get? entries name := by
  obtain ⟨fs, hfields⟩ := fields_object (Dict.sorted_ofList entries) names
  exact ⟨fs, hfields, fun name hname => (get?_fields hfields hname).trans (Dict.get?_ofList hnodup name)⟩

/-- The slots of a record are found by their names, also those that were left out. -/
theorem fields_given (slots : Dict (Option Json)) (names : List String) (hnames : Dict.keys slots = names)
    (hnodup : names.Nodup) :
    ∃ fs, fields names (.ofMembers (Json.given slots)) = some fs ∧
      ∀ name {v?}, Dict.get? slots name = some v? → Dict.get? fs name = v? := by
  obtain rfl := hnames
  have hgiven : ((Json.given slots).map (·.1)).Nodup := (Json.names_given slots).nodup hnodup
  obtain ⟨fs, hfields, hget⟩ := fields_ofMembers hgiven (Dict.keys slots)
  refine ⟨fs, hfields, ?_⟩
  intro name v? hslot
  rw [hget name (Dict.mem_keys_of_get? hslot), Json.get?_given hnodup, hslot]
  rfl

/-- A tag comes off what was tagged. -/
theorem tagged_given (tag kind : String) (slots : Dict (Option Json)) (names : List String)
    (hnames : Dict.keys slots = names) (hnodup : (tag :: names).Nodup) :
    tagged tag (.ofMembers ((tag, .string kind) :: Json.given slots)) = some (kind, .ofMembers (Json.given slots)) := by
  obtain rfl := hnames
  have hentries : (((tag, Json.string kind) :: Json.given slots).map (·.1)).Nodup :=
    ((Json.names_given slots).cons_cons tag).nodup hnodup
  obtain ⟨hnew, hgiven⟩ := List.nodup_cons.mp hentries
  let members := Dict.ofList ((tag, Json.string kind) :: Json.given slots)
  have hperm : members.Perm ((tag, .string kind) :: Json.given slots) := Dict.ofList_perm hentries
  have hne : ∀ entry ∈ Json.given slots, entry.1 ≠ tag := by
    rintro entry hmem rfl
    exact hnew (List.mem_map.mpr ⟨entry, hmem, rfl⟩)
  have htag : members.filter (·.1 = tag) = [(tag, .string kind)] := by
    have hnone : (Json.given slots).filter (·.1 = tag) = [] := List.filter_eq_nil_iff.mpr (by simpa using hne)
    exact List.perm_singleton.mp (by simpa [hnone] using hperm.filter (·.1 = tag))
  have hrest : members.filter (·.1 ≠ tag) = Dict.ofList (Json.given slots) := by
    have hall : (Json.given slots).filter (·.1 ≠ tag) = Json.given slots := List.filter_eq_self.mpr (by simpa using hne)
    have hkept : (members.filter (·.1 ≠ tag)).Perm (Json.given slots) := by
      have hfilter := hperm.filter (·.1 ≠ tag)
      rwa [List.filter_cons_of_neg (by simp), hall] at hfilter
    exact Dict.eq_of_perm (hkept.trans (Dict.ofList_perm hgiven).symm)
      (Dict.sorted_erase (Dict.sorted_ofList _) tag) (Dict.sorted_ofList (Json.given slots))
  have hobject : Json.ofMembers ((tag, .string kind) :: Json.given slots) = .object members := rfl
  have hwhole : Json.ofMembers (Json.given slots) = .object (Dict.ofList (Json.given slots)) := rfl
  rw [hobject, hwhole, ← hrest]
  simp only [tagged, htag]

/-! ## Fields -/

namespace Fields

variable {fs : Fields} {name : String} {a : α} {a? : Option α} {v : Json}

theorem required_some (h : Dict.get? fs name = some v) (hd : d v = some a) : fs.required name d = some a := by
  simp [required, h, hd]

theorem withDefault_some {default : α} (h : Dict.get? fs name = some v) (hd : d v = some a) :
    fs.withDefault name d default = some a := by
  simp [withDefault, h, hd]

theorem withDefault_of_get? {default b : α} (h : Dict.get? fs name = some v) :
    fs.withDefault name d default = some b ↔ d v = some b := by
  simp [withDefault, h]

/-- A field that is left out where it has its default. -/
theorem withDefault_unless {default : α} [Decidable (a = default)]
    (h : Dict.get? fs name = if a = default then none else some v) (hd : d v = some a) :
    fs.withDefault name d default = some a := by
  unfold withDefault
  rw [h]
  split
  · rename_i v' hv
    split at hv
    · cases hv
    · cases hv
      exact hd
  · rename_i hnone
    split at hnone
    · simp_all
    · cases hnone

/-- A field that is left out where it has no value. -/
theorem optional_map (h : Dict.get? fs name = a?.map write) (hd : ∀ a, a? = some a → d (write a) = some a)
    (hnull : ∀ a, write a ≠ .null) : fs.optional name d = some a? := by
  unfold optional withDefault
  rw [h]
  cases a? with
  | none => rfl
  | some a => exact option_of_some (hnull a) (hd a rfl)

/-- A field that is null where it has no value. -/
theorem optional_orNull (h : Dict.get? fs name = some (.orNull (a?.map write)))
    (hd : ∀ a, a? = some a → d (write a) = some a) (hnull : ∀ a, write a ≠ .null) : fs.optional name d = some a? := by
  unfold optional withDefault
  rw [h]
  cases a? with
  | none => rfl
  | some a => exact option_of_some (hnull a) (hd a rfl)

/-! ### The same field of two records -/

section

variable {fs' : Fields}

theorem required_congr (h : Dict.get? fs' name = Dict.get? fs name) : fs'.required name d = fs.required name d := by
  unfold required
  rw [h]

theorem withDefault_congr {default : α} (h : Dict.get? fs' name = Dict.get? fs name) :
    fs'.withDefault name d default = fs.withDefault name d default := by
  unfold withDefault
  rw [h]

theorem optional_congr (h : Dict.get? fs' name = Dict.get? fs name) : fs'.optional name d = fs.optional name d :=
  withDefault_congr h

end

/-! ### Texts, switches and numbers -/

theorem required_string {s : String} (h : Dict.get? fs name = some (.string s)) :
    fs.required name .string = some s := required_some h rfl

theorem withDefault_bool {b default : Bool} (h : Dict.get? fs name = some (.bool b)) :
    fs.withDefault name .bool default = some b := withDefault_some h rfl

theorem optional_string {s? : Option String} (h : Dict.get? fs name = some (.orNull (s?.map .string))) :
    fs.optional name .string = some s? := optional_orNull h (fun _ _ => rfl) nofun

/-- A text that is left out where there is none. -/
theorem optional_string_of_map {s? : Option String} (h : Dict.get? fs name = s?.map .string) :
    fs.optional name .string = some s? := optional_map h (fun _ _ => rfl) nofun

theorem optional_nat32 {n? : Option Nat} (h : Dict.get? fs name = some (.orNull (n?.map .ofNat)))
    (hbound : ∀ n, n? = some n → n < Nat.pow 2 32) : fs.optional name .nat32 = some n? :=
  optional_orNull h (fun n hn => natBelow_ofNat (hbound n hn)) nofun

/-- A number that is left out where there is none is read just if it is a machine word. -/
theorem optional_nat64_eq_some {n? m? : Option Nat} (h : Dict.get? fs name = n?.map .ofNat) :
    fs.optional name .nat64 = some m? ↔ (∀ n, n? = some n → n < Nat.pow 2 64) ∧ m? = n? := by
  unfold optional withDefault
  rw [h]
  cases n? with
  | none => simp [eq_comm]
  | some n =>
    simp only [Option.map_some, option_of_ne_null (Json.noConfusion : Json.ofNat n ≠ .null), Option.map_eq_some_iff,
      nat64_ofNat_eq_some, Option.some.injEq, forall_eq']
    constructor
    · rintro ⟨_, ⟨hn, rfl⟩, rfl⟩
      exact ⟨hn, rfl⟩
    · rintro ⟨hn, rfl⟩
      exact ⟨n, ⟨hn, rfl⟩, rfl⟩

theorem lt_of_optional_nat32 {n : Nat} (h : fs.optional name .nat32 = some (some n)) : n < Nat.pow 2 32 := by
  unfold optional withDefault at h
  split at h
  · exact of_decide_eq_true (Option.filter_eq_some_iff.mp (of_option_some h)).2
  · cases h

end Fields

end Decoder

end RecordScreens
