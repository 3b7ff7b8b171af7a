import RecordScreens.Dashboard
import RecordScreens.Proofs.Dict
import RecordScreens.Proofs.Drafts

/-!
# Accepted dashboards

A dashboard is accepted if and only if it is well-formed, and otherwise its error is one for the
first requirement that it does not meet. One that was read from a text is well-formed, and the
section that it shows first is one of its sections, if it has any.
-/

namespace RecordScreens

namespace Dashboard

/-! ## Requirements -/

/-- A dashboard that refers to nothing that is not there. -/
structure WellFormed (d : Dashboard) : Prop where
  id_ne_empty : d.id ≠ ""
  title_ne_empty : d.title ≠ ""
  sections_nodup : (d.sections.map (·.id)).Nodup
  declares_default : ∀ id, d.defaultSection = some id → id ∈ d.sections.map (·.id)
  /-- Among the named queries, if these are the data, are the one of the stats and those of the sections. -/
  knows_references : ∀ queries, d.data = .aggregate queries → ∀ key ∈ d.references, key ∈ Dict.keys queries

/-- What is required of the names of queries that a dashboard refers to. -/
def referenceRequirements (d : Dashboard) : List Requirement :=
  match d.data with
  | .list _ => []
  | .aggregate queries => [.each d.references (· ∈ Dict.keys queries) (.unknownField "aggregate key")]

/-- What is required of a dashboard, in the order in which it is told. -/
def requirements (d : Dashboard) : List Requirement :=
  [.single (d.id ≠ "") (.missingField configName "id"),
   .single (d.title ≠ "") (.missingField configName "title"),
   .distinct "section" (d.sections.map (·.id)),
   .each d.defaultSection.toList (· ∈ d.sections.map (·.id)) .unknownDefaultSection]
  ++ d.referenceRequirements

theorem wellFormed_iff {d : Dashboard} : d.WellFormed ↔ ∀ r ∈ d.requirements, r.met := by
  have hreferences : (∀ r ∈ d.referenceRequirements, r.met) ↔
      ∀ queries, d.data = .aggregate queries → ∀ key ∈ d.references, key ∈ Dict.keys queries := by
    unfold referenceRequirements
    cases d.data with
    | list key => exact ⟨fun _ => nofun, fun _ => nofun⟩
    | aggregate queries =>
      rw [List.forall_mem_singleton]
      refine ⟨?_, fun h => h queries rfl⟩
      rintro h _ ⟨⟩
      exact h
  have hdefault : (∀ id ∈ d.defaultSection.toList, id ∈ d.sections.map (·.id)) ↔
      ∀ id, d.defaultSection = some id → id ∈ d.sections.map (·.id) := by
    simp only [Option.mem_toList]
  unfold requirements
  rw [List.forall_mem_append, hreferences]
  simp only [List.forall_mem_cons, List.not_mem_nil, false_implies, implies_true, and_true]
  constructor
  · rintro ⟨hid, htitle, hsections, hsection, hkeys⟩
    exact ⟨⟨hid, htitle, hsections, hdefault.mpr hsection⟩, hkeys⟩
  · rintro ⟨⟨hid, htitle, hsections, hsection⟩, hkeys⟩
    exact ⟨hid, htitle, hsections, hdefault.mp hsection, hkeys⟩

/-! ## Validation -/

/-- The check of the names of queries that a dashboard refers to. -/
def checkReferences (d : Dashboard) : Except ConfigError Unit :=
  match d.data with
  | .list _ => .ok ()
  | .aggregate queries => d.references.forM fun key =>
    ConfigError.ensure (.unknownField "aggregate key" key) (Dict.contains queries key)

theorem checks_references (d : Dashboard) : Checks d.referenceRequirements d.checkReferences := by
  unfold referenceRequirements checkReferences
  cases d.data with
  | list key => exact checks_nil
  | aggregate queries => exact checks_forM fun key => Dict.contains_iff

/-- The check of the section that a dashboard is to show first. -/
def checkDefault (d : Dashboard) : Except ConfigError Unit :=
  d.defaultSection.toList.forM fun id =>
    ConfigError.ensure (.unknownDefaultSection id) (SectionSpec.declares d.sections id)

theorem checks_default (d : Dashboard) :
    Checks [.each d.defaultSection.toList (· ∈ d.sections.map (·.id)) .unknownDefaultSection] d.checkDefault :=
  checks_forM fun _ => SectionSpec.declares_iff

theorem validate_eq (d : Dashboard) :
    d.validate =
      (ConfigError.ensure (.missingField configName "id") (d.id ≠ "")).bind fun _ =>
      (ConfigError.ensure (.missingField configName "title") (d.title ≠ "")).bind fun _ =>
      (ensureUnique "section" (d.sections.map (·.id))).bind fun _ =>
      d.checkDefault.bind fun _ => d.checkReferences := by
  unfold validate checkDefault
  cases d.defaultSection with
  | none => rfl
  | some id =>
    rw [Option.toList_some, forM_singleton]
    rfl

/-- The validation makes the checks for the requirements one after the other. -/
theorem checks_validate (d : Dashboard) : Checks d.requirements d.validate := by
  have hid := checks_ensure (p := d.id ≠ "") decide_eq_true_iff (.missingField configName "id")
  have htitle := checks_ensure (p := d.title ≠ "") decide_eq_true_iff (.missingField configName "title")
  have hsections := checks_ensureUnique "section" (d.sections.map (·.id))
  rw [validate_eq]
  exact hid.bind (htitle.bind (hsections.bind ((checks_default d).bind (checks_references d))))

/-! ## Reading -/

/-- The dashboard that is written in a text, whether it is well-formed or not. -/
def written? (text : String) : Option Dashboard := (Json.parseAsWritten? (.record fieldShapes) text).bind decode

/-- The order in which members are written makes no difference to what a dashboard refers to. -/
theorem wellFormed_ordered {d : Dashboard} (h : d.WellFormed) : { d with data := d.data.ordered }.WellFormed := by
  refine ⟨h.id_ne_empty, h.title_ne_empty, h.sections_nodup, h.declares_default, ?_⟩
  intro queries hqueries key hkey
  cases hdata : d.data with
  | list listKey =>
    simp only [hdata, DataSpec.ordered] at hqueries
    cases hqueries
  | aggregate given =>
    simp only [hdata, DataSpec.ordered, DataSpec.ofQueries] at hqueries
    cases hqueries
    have hgiven : key ∈ Dict.keys given := h.knows_references given hdata key hkey
    rw [Dict.mem_keys_ofList, List.map_map]
    exact hgiven

/-- A text is read first, and then what it says is validated. -/
theorem ofText_eq (text : String) :
    ofText text = match written? text with
      | none => .error .malformed
      | some d => d.validate.map fun _ => { d with data := d.data.ordered } := by
  unfold ofText written?
  cases (Json.parseAsWritten? (.record fieldShapes) text).bind decode with
  | none => rfl
  | some d => rfl

/-! ## The first section -/

/-- There is a first section if there are sections, and it is one of them. -/
theorem WellFormed.initialSection {d : Dashboard} (h : d.WellFormed) :
    (d.initialSection = none ↔ d.sections = []) ∧ ∀ id, d.initialSection = some id → id ∈ d.sections.map (·.id) := by
  unfold Dashboard.initialSection
  cases hdefault : d.defaultSection with
  | some id =>
    have hid := h.declares_default id hdefault
    refine ⟨⟨nofun, fun hnil => ?_⟩, ?_⟩
    · rw [hnil] at hid
      cases hid
    · rintro _ ⟨⟩
      exact hid
  | none =>
    refine ⟨by simp, fun id hid => ?_⟩
    obtain ⟨spec, hspec, rfl⟩ := Option.map_eq_some_iff.mp hid
    exact List.mem_map_of_mem (List.mem_of_head? hspec)

/-! ## The law -/

/-- The validation accepts a dashboard if and only if it is well-formed, and else its error is one for the first
requirement that is not met. So a text is accepted if and only if what it says is a well-formed dashboard, and what
comes out of it is validated. There is a section that a valid dashboard shows first if and only if it has sections, and
that is one of them. -/
theorem accepted_iff_wellFormed :
    (∀ d : Dashboard,
      (d.validate = .ok () ↔ d.WellFormed) ∧ (∀ e, d.validate = .error e ↔ FirstUnmet d.requirements e) ∧
        (d.validate = .ok () → (d.initialSection = none ↔ d.sections = []) ∧
          ∀ id, d.initialSection = some id → id ∈ d.sections.map (·.id))) ∧
    ∀ text : String,
      (∀ d, ofText text = .ok d → d.validate = .ok ()) ∧
      ((∃ d, ofText text = .ok d) ↔ ∃ d, written? text = some d ∧ d.WellFormed) ∧
      ∀ e, ofText text = .error e ↔ (written? text = none ∧ e = .malformed) ∨
        ∃ d, written? text = some d ∧ FirstUnmet d.requirements e := by
  have hvalid (d : Dashboard) : d.validate = .ok () ↔ d.WellFormed := by
    rw [(checks_validate d).ok_iff, wellFormed_iff]
  refine ⟨fun d => ⟨hvalid d, (checks_validate d).error_iff, fun h => ((hvalid d).mp h).initialSection⟩, fun text => ?_⟩
  rw [ofText_eq]
  cases hwritten : written? text with
  | none => simp [eq_comm]
  | some d =>
    simp only [reduceCtorEq, false_and, false_or, Option.some.injEq, exists_eq_left', ← (checks_validate d).error_iff,
      ← hvalid d]
    cases hcheck : d.validate with
    | ok u =>
      refine ⟨?_, ?_, ?_⟩
      · rintro _ ⟨⟩
        exact (hvalid _).mpr (wellFormed_ordered ((hvalid d).mp hcheck))
      · simp [Except.map]
      · simp [Except.map]
    | error fault => simp [Except.map]

/-- A dashboard with one query and one section that shows it. -/
def deals : Dashboard where
  id := "deals"
  title := "Deals"
  data := .aggregate [("all", ⟨"deals", []⟩)]
  sections := [{ id := "open", label := "Open", component := "all" }]

/-- The dashboard as it is written. -/
def dealsText : String :=
  "\x7b\"id\":\"deals\",\"title\":\"Deals\",\"dataSource\":\x7b\"kind\":\"aggregate\"," ++
    "\"queries\":\x7b\"all\":\x7b\"queryKey\":\"deals\"\x7d\x7d\x7d," ++
    "\"sections\":[\x7b\"id\":\"open\",\"label\":\"Open\",\"component\":\"all\"\x7d]\x7d"

/-- The dashboard with another section of the same name, for which there is no query. -/
def crowdedDeals : Dashboard :=
  { deals with sections := deals.sections ++ [{ id := "open", label := "Won", component := "won" }] }

/-- The dashboard that is written is accepted, and it shows one of its sections first. With another section that breaks
two requirements it is refused for the one that comes first. -/
theorem accepted_iff_wellFormed_deals :
    (deals.validate = .ok () ∧ deals.WellFormed ∧ "open" ∈ deals.sections.map (·.id)) ∧
      (∃ d, written? dealsText = some d ∧ d.WellFormed) ∧
      FirstUnmet crowdedDeals.requirements (.duplicateId "section" "open") := by
  obtain ⟨hdashboards, htexts⟩ := accepted_iff_wellFormed
  obtain ⟨hvalidated, haccepted, -⟩ := htexts dealsText
  have hread : ofText dealsText = .ok deals := by decide +kernel
  have hvalid : deals.validate = .ok () := hvalidated deals hread
  obtain ⟨hwellFormed, -, hfirst⟩ := hdashboards deals
  obtain ⟨-, hdeclared⟩ := hfirst hvalid
  have hcrowded : crowdedDeals.validate = .error (.duplicateId "section" "open") := by decide +kernel
  refine ⟨⟨hvalid, hwellFormed.mp hvalid, hdeclared "open" rfl⟩, haccepted.mp ⟨deals, hread⟩, ?_⟩
  exact ((hdashboards crowdedDeals).2.1 _).mp hcrowded

end Dashboard

end RecordScreens
