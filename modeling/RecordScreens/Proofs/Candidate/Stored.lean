import Mathlib.Control.Monad.Basic
import RecordScreens.Candidate.Dataset
import RecordScreens.Proofs.Record.Reading
import RecordScreens.Proofs.Source.Writes

/-!
# Stored candidates

A document of candidates is accepted if every value of it is read as a candidate. This stays so for each value that is
stored: no call of the store puts anything but a status into a record, and a record that was read is read with another
text as its status.
-/

namespace RecordScreens

namespace Candidate

open Decoder Decoder.Fields

/-! ## Records -/

/-- A value that is read as a candidate, with its members in order if it has any. -/
structure Stored (v : Json) : Prop where
  read : ∃ c, decode v = some c
  sorted : ∀ members, v = .object members → Dict.Sorted members

/-- Only the status of a candidate is read from the status of the record. -/
theorem decode_of_status {v v' : Json} {fs fs' : Fields} {c : Candidate} {s : String} (h : decode v = some c)
    (hv : fields fieldNames v = some fs) (hv' : fields fieldNames v' = some fs')
    (hsame : ∀ name ∈ fieldNames, name ≠ "status" → Dict.get? fs' name = Dict.get? fs name)
    (hstatus : Dict.get? fs' "status" = some (.string s)) : decode v' = some { c with status := s } := by
  simp only [decode, hv, Option.bind_eq_bind, Option.bind_some, Option.bind_eq_some_iff, Option.pure_def,
    Option.some.injEq] at h
  obtain ⟨_, hid, _, hfirst, _, hlast, _, hemail, _, htitle, _, hlocation, _, -, _, hyears, _, hrate, _, hsource, _,
    hhot, rfl⟩ := h
  have hread (name : String) (hname : name ∈ fieldNames ∧ name ≠ "status") :
      Dict.get? fs' name = Dict.get? fs name := hsame name hname.1 hname.2
  unfold decode
  simp only [hv', Option.bind_eq_bind, Option.bind_some, Option.pure_def,
    required_congr (hread "id" (by decide)), hid, required_congr (hread "first_name" (by decide)), hfirst,
    required_congr (hread "last_name" (by decide)), hlast, optional_congr (hread "email" (by decide)), hemail,
    optional_congr (hread "title" (by decide)), htitle, optional_congr (hread "location" (by decide)), hlocation,
    required_string hstatus, optional_congr (hread "experience_years" (by decide)), hyears,
    optional_congr (hread "hourly_rate" (by decide)), hrate, optional_congr (hread "source" (by decide)), hsource,
    withDefault_congr (hread "is_on_hotlist" (by decide)), hhot]

/-- A record stays one with another text as its status. -/
theorem Stored.withStatus {v : Json} (h : Stored v) (s : String) : Stored (Store.withStatus (.string s) v) := by
  cases v with
  | object members =>
    obtain ⟨⟨c, hc⟩, hsorted⟩ := h
    have hsorted' : Dict.Sorted (Dict.insert members "status" (.string s)) := Dict.sorted_insert (hsorted _ rfl) _ _
    obtain ⟨fs, hfields⟩ := fields_object (hsorted _ rfl) fieldNames
    obtain ⟨fs', hfields'⟩ := fields_object hsorted' fieldNames
    have hsame (name : String) (hname : name ∈ fieldNames) (hne : name ≠ "status") :
        Dict.get? fs' name = Dict.get? fs name := by
      rw [get?_fields hfields' hname, get?_fields hfields hname, Dict.get?_insert_of_ne _ _ hne.symm]
    have hstatus : Dict.get? fs' "status" = some (.string s) := by
      rw [get?_fields hfields' (by decide), Dict.get?_insert_self]
    refine ⟨⟨_, decode_of_status hc hfields hfields' hsame hstatus⟩, ?_⟩
    rintro _ ⟨⟩
    exact hsorted'
  | _ => exact h

/-- The id of a record that is an object is the id of the candidate. -/
theorem idOf?_of_decode {members : Json.Object} {c : Candidate} (h : decode (.object members) = some c) :
    Store.idOf? (.object members) = some c.id := by
  simp only [decode, Option.bind_eq_bind, Option.bind_eq_some_iff, Option.pure_def, Option.some.injEq] at h
  obtain ⟨fs, hfields, id, hid, _, -, _, -, _, -, _, -, _, -, _, -, _, -, _, -, _, -, _, -, rfl⟩ := h
  unfold Fields.required at hid
  rw [get?_fields hfields (by decide)] at hid
  exact hid

/-! ## Documents -/

theorem decode_of_checkFrom {values : List Json} {index : Nat} (h : checkFrom index values = .ok ()) :
    ∀ v ∈ values, ∃ c, decode v = some c := by
  induction values generalizing index with
  | nil => nofun
  | cons v rest ih =>
    unfold checkFrom at h
    split at h
    · rename_i hread
      exact List.forall_mem_cons.mpr ⟨Option.isSome_iff_exists.mp hread, ih h⟩
    · cases h

end Candidate

/-! ## Values that were read -/

namespace Json

theorem sorted_orderedMembers {before : Object} (h : Dict.Sorted before) (members : List (String × Json)) :
    Dict.Sorted (orderedMembers before members) := by
  induction members generalizing before with
  | nil =>
    unfold orderedMembers
    exact h
  | cons member rest ih =>
    unfold orderedMembers
    exact ih (Dict.sorted_insert h _ _)

theorem mem_orderedItems {items : List Json} {v : Json} (h : v ∈ orderedItems items) : ∃ w, v = ordered w := by
  induction items with
  | nil =>
    unfold orderedItems at h
    cases h
  | cons w rest ih =>
    unfold orderedItems at h
    rcases List.mem_cons.mp h with rfl | h
    · exact ⟨w, rfl⟩
    · exact ih h

theorem sorted_of_ordered {v : Json} {members : Object} (h : ordered v = .object members) : Dict.Sorted members := by
  cases v with
  | object written =>
    unfold ordered at h
    cases h
    have hempty : Dict.Sorted ([] : Object) := List.Pairwise.nil
    exact sorted_orderedMembers hempty written
  | _ =>
    unfold ordered at h
    cases h

/-- The items of a text are in order. -/
theorem sorted_of_parse? {text : String} {items : List Json} (h : (parse? text).bind asArray? = some items)
    {members : Object} (hmem : .object members ∈ items) : Dict.Sorted members := by
  obtain ⟨v, hv, hitems⟩ := Option.bind_eq_some_iff.mp h
  obtain ⟨written, -, rfl⟩ := Option.map_eq_some_iff.mp hv
  cases written with
  | array drafts =>
    unfold ordered at hitems
    cases hitems
    obtain ⟨w, hw⟩ := mem_orderedItems hmem
    exact sorted_of_ordered hw.symm
  | _ =>
    unfold ordered at hitems
    cases hitems

end Json

namespace Candidate

theorem stored_of_text {text : String} {values : List Json} (h : valuesOfText text = .ok values) :
    ∀ v ∈ values, Stored v := by
  unfold valuesOfText at h
  split at h
  · cases h
  · rename_i items hitems
    cases hcheck : checkFrom 0 items with
    | error fault =>
      rw [hcheck] at h
      cases h
    | ok u =>
      rw [hcheck] at h
      cases h
      intro v hv
      refine ⟨decode_of_checkFrom hcheck v hv, ?_⟩
      rintro members rfl
      exact Json.sorted_of_parse? hitems hv

/-- A document of two candidates, of whom the second one is written as an array. -/
def pairText : String :=
  "[\x7b\"id\":\"a\",\"first_name\":\"Ada\",\"last_name\":\"Lovelace\",\"status\":\"active\"\x7d," ++
    "[\"b\",\"Grace\",\"Hopper\",null,null,null,\"bench\"]]"

/-- The records of the two candidates. -/
def pair : List Json :=
  [.object [("first_name", .string "Ada"), ("id", .string "a"), ("last_name", .string "Lovelace"),
    ("status", .string "active")],
   .array [.string "b", .string "Grace", .string "Hopper", .null, .null, .null, .string "bench"]]

theorem valuesOfText_pairText : valuesOfText pairText = .ok pair := by decide +kernel

/-- What is written of a candidate can be stored. -/
theorem stored_encode {c : Candidate} (h : c.InRange) : Stored c.encode := by
  refine ⟨⟨c, decode_encode h⟩, fun members hmembers => ?_⟩
  have hsame : Dict.ofList c.fieldValues = members := Json.object.inj hmembers
  exact hsame ▸ Dict.sorted_ofList _

theorem inRange_samples : ∀ c ∈ samples, c.InRange := by
  let inRange (c : Candidate) : Bool := c.experienceYears.all (· < Nat.pow 2 32) && c.hourlyRate.all (· < Nat.pow 2 32)
  have hall : samples.all inRange = true := by decide +kernel
  intro c hc
  obtain ⟨hyears, hrate⟩ := Bool.and_eq_true_iff.mp (List.all_eq_true.mp hall c hc)
  refine ⟨?_, ?_⟩
  · intro n hn
    simpa [hn] using hyears
  · intro n hn
    simpa [hn] using hrate

end Candidate

/-! ## Stores -/

namespace Store

/-- What holds of all values of a collection and is left in place by a change holds after it. -/
theorem forall_updateFirst {P : Json → Prop} {change : Json → Json} {records : List Json}
    (hchange : ∀ r, P r → P (change r)) (h : ∀ r ∈ records, P r) (id : String) :
    ∀ r ∈ updateFirst id change records, P r := by
  induction records with
  | nil => exact h
  | cons first rest ih =>
    obtain ⟨hfirst, hrest⟩ := List.forall_mem_cons.mp h
    unfold updateFirst
    split
    · exact List.forall_mem_cons.mpr ⟨hchange first hfirst, hrest⟩
    · exact List.forall_mem_cons.mpr ⟨hfirst, ih hrest⟩

end Store

namespace Candidate

/-- The fields in which candidates are searched. -/
def searchFields : List String := ["first_name", "last_name", "email", "title"]

/-- A store that lists candidates, all of which are read. -/
structure Readable (s : Store) : Prop where
  route : Dict.get? s.routes listQuery = some (.list "candidates" searchFields)
  stored : ∀ v ∈ s.records "candidates", Stored v

/-- Parameters in which a status, if there is one, is a text. -/
def TextStatus (params : Json) : Prop := ∀ status, params.get? "status" = some status → ∃ text, status = .string text

/-- What a store of candidates does for each key. -/
theorem routes_store (values : List Json) :
    Dict.get? (store values).routes listQuery = some (.list "candidates" searchFields) ∧
      Dict.get? (store values).routes getQuery = some (.get "candidates") ∧
      Dict.get? (store values).routes statusMutation = some (.setStatus "candidates") := by
  simp [store, Dict.ofList, Dict.get?_insert, listQuery, getQuery, submissionsQuery, statsQuery, statusMutation,
    searchFields]

theorem onlyReads_statsQuery (values : List Json) : (store values).OnlyReads statsQuery := by
  intro collection h
  simp [store, Dict.ofList, Dict.get?_insert, listQuery, getQuery, submissionsQuery, statsQuery, statusMutation] at h

@[simp] theorem records_store (values : List Json) : (store values).records "candidates" = values := by
  simp [store, Store.records, Dict.ofList, Dict.get?_insert]

/-- The candidates stay where they are while nobody sets a status. -/
theorem records_of_same {values : List Json} {s : Store} (h : (store values).Same s) :
    s.records "candidates" = values := by
  rw [Store.records, h.collections]
  exact records_store values

theorem readable_store {values : List Json} (h : ∀ v ∈ values, Stored v) : Readable (store values) where
  route := (routes_store values).1
  stored := by simpa using h

theorem Readable.onlyReads {s : Store} (h : Readable s) : s.OnlyReads listQuery := by
  intro collection hset
  cases h.route.symm.trans hset

theorem Readable.of_same {s t : Store} (h : Readable s) (hsame : s.Same t) : Readable t where
  route := hsame.routes ▸ h.route
  stored := by simpa only [Store.records, hsame.collections] using h.stored

/-- The candidates stay readable, whether the call succeeds or fails. -/
theorem Readable.call {s : Store} (h : Readable s) (key : String) {params : Json} (hparams : TextStatus params) :
    Readable (Store.call key params s).2 where
  route := h.route
  stored := by
    unfold Store.records
    rcases Store.call_cases key params s with hsame | ⟨collection, id, status, r, -, -, hstatus, -, -, hchanged⟩
    · rw [hsame]
      exact h.stored
    · obtain ⟨text, rfl⟩ := hparams status hstatus
      rw [hchanged]
      by_cases hcollection : collection = "candidates"
      · subst hcollection
        rw [Dict.get?_insert_self]
        exact Store.forall_updateFirst (fun r hr => hr.withStatus text) h.stored id
      · rw [Dict.get?_insert_of_ne _ _ hcollection]
        exact h.stored

end Candidate

end RecordScreens
