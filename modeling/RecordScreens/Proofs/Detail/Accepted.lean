import RecordScreens.Candidate.Basic
import RecordScreens.Detail.Screen
import RecordScreens.Proofs.Dict
import RecordScreens.Proofs.Drafts
import RecordScreens.Record.Dynamic
import RecordScreens.Source.Scripted

/-!
# Accepted details

The draft of a detail screen grows setting by setting. A configuration comes out of it if and only
if it is well-formed, and otherwise its error is one for the first requirement that it does not
meet. Nothing that was added gets lost, and the screen starts on a section that is declared.
-/

namespace RecordScreens

/-! ## Sections -/

namespace SectionNavigator

variable {sections : List SectionSpec} {id : String}

/-- A navigator that is to start on a declared section does so. -/
theorem current_start (h : id ∈ sections.map (·.id)) : (start sections id).current = id :=
  if_pos (SectionSpec.declares_iff.mpr h)

/-- What a navigator shows at first is the section that it is to start on. -/
theorem currentSection_start (h : id ∈ sections.map (·.id)) :
    ∃ spec ∈ sections, (start sections id).currentSection = some spec ∧ spec.id = id := by
  obtain ⟨declared, hdeclared, hid⟩ := List.mem_map.mp h
  have hfound : (sections.find? (·.id == id)).isSome := List.find?_isSome.mpr ⟨declared, hdeclared, by simp [hid]⟩
  obtain ⟨spec, hspec⟩ := Option.isSome_iff_exists.mp hfound
  refine ⟨spec, List.mem_of_find?_eq_some hspec, ?_, by simpa using List.find?_some hspec⟩
  rw [currentSection, current_start h]
  exact hspec

end SectionNavigator

namespace DetailDraft

variable {R : Type}

/-! ## Settings -/

/-- What can be said of a detail screen in the making. -/
inductive Setting (R : Type) where
  | baseRoute (route : String)
  | channel (channel : String)
  | entityQuery (key : String)
  | title (title : R → String)
  | titleField (key : String)
  | statusTable (table : StatusTable)
  | breadcrumb (crumb : Breadcrumb)
  | subtitleField (field : ColumnSpec R)
  | metric (metric : MetricSpec R)
  | section (spec : SectionSpec)
  | defaultSection (id : String)
  | journeyStep (step : JourneyStep)
  | quickAction (action : ActionSpec R)
  | menuAction (action : ActionSpec R)
  | menuSeparator
  | related (name : String) (query : QueryDescriptor)

namespace Setting

def baseRoute? : Setting R → Option String
  | .baseRoute route => some route
  | _ => none

def entityQuery? : Setting R → Option String
  | .entityQuery key => some key
  | _ => none

def title? [Record R] : Setting R → Option (R → String)
  | .title text => some text
  | .titleField key => some (fieldTitle key)
  | _ => none

def breadcrumb? : Setting R → Option Breadcrumb
  | .breadcrumb crumb => some crumb
  | _ => none

def subtitleField? : Setting R → Option (ColumnSpec R)
  | .subtitleField field => some field
  | _ => none

def metric? : Setting R → Option (MetricSpec R)
  | .metric spec => some spec
  | _ => none

def section? : Setting R → Option SectionSpec
  | .section spec => some spec
  | _ => none

def defaultSection? : Setting R → Option String
  | .defaultSection id => some id
  | _ => none

def journeyStep? : Setting R → Option JourneyStep
  | .journeyStep step => some step
  | _ => none

def quickAction? : Setting R → Option (ActionSpec R)
  | .quickAction action => some action
  | _ => none

def menuEntry? : Setting R → Option (MenuEntry (ActionSpec R))
  | .menuAction action => some (.action action)
  | .menuSeparator => some .separator
  | _ => none

def related? : Setting R → Option (String × QueryDescriptor)
  | .related name query => some (name, query)
  | _ => none

end Setting

variable [Record R]

/-- The draft with one more setting. -/
def put (d : DetailDraft R) : Setting R → DetailDraft R
  | .baseRoute route => { d with baseRoute := some route }
  | .channel channel => { d with channel := some channel }
  | .entityQuery key => { d with entityQuery := some key }
  | .title title => { d with title := some title }
  | .titleField key => { d with title := some (fieldTitle key) }
  | .statusTable statusTable => { d with statusTable }
  | .breadcrumb crumb => { d with breadcrumbs := d.breadcrumbs ++ [crumb] }
  | .subtitleField field => { d with subtitleFields := d.subtitleFields ++ [field] }
  | .metric metric => { d with metrics := d.metrics ++ [metric] }
  | .section spec => { d with sections := d.sections ++ [spec] }
  | .defaultSection id => { d with defaultSection := some id }
  | .journeyStep step => { d with journey := d.journey ++ [step] }
  | .quickAction action => { d with quickActions := d.quickActions ++ [action] }
  | .menuAction action => { d with menu := d.menu ++ [.action action] }
  | .menuSeparator => { d with menu := d.menu ++ [.separator] }
  | .related name query => { d with related := d.related ++ [(name, query)] }

/-- The draft that some settings make. -/
def ofSettings (entityType : String) (settings : List (Setting R)) : DetailDraft R :=
  settings.foldl put { entityType }

/-- What a draft holds: what can be set is the last that was set, and what can be added is all that was added. -/
structure Holds (d : DetailDraft R) (entityType : String) (settings : List (Setting R)) : Prop where
  entityType : d.entityType = entityType
  baseRoute : d.baseRoute = (settings.filterMap Setting.baseRoute?).getLast?
  entityQuery : d.entityQuery = (settings.filterMap Setting.entityQuery?).getLast?
  title : d.title = (settings.filterMap Setting.title?).getLast?
  breadcrumbs : d.breadcrumbs = settings.filterMap Setting.breadcrumb?
  subtitleFields : d.subtitleFields = settings.filterMap Setting.subtitleField?
  metrics : d.metrics = settings.filterMap Setting.metric?
  sections : d.sections = settings.filterMap Setting.section?
  defaultSection : d.defaultSection = (settings.filterMap Setting.defaultSection?).getLast?
  journey : d.journey = settings.filterMap Setting.journeyStep?
  quickActions : d.quickActions = settings.filterMap Setting.quickAction?
  menu : d.menu = settings.filterMap Setting.menuEntry?
  related : d.related = settings.filterMap Setting.related?

theorem holds_ofSettings (entityType : String) (settings : List (Setting R)) :
    (ofSettings entityType settings).Holds entityType settings where
  entityType := foldl_kept (fun _ t => by cases t <;> rfl) _ settings
  baseRoute := (foldl_last (fun _ t => by cases t <;> rfl) _ settings).trans Option.or_none
  entityQuery := (foldl_last (fun _ t => by cases t <;> rfl) _ settings).trans Option.or_none
  title := (foldl_last (fun _ t => by cases t <;> rfl) _ settings).trans Option.or_none
  breadcrumbs := foldl_added (fun d t => by cases t <;> simp [put, Setting.breadcrumb?]) _ settings
  subtitleFields := foldl_added (fun d t => by cases t <;> simp [put, Setting.subtitleField?]) _ settings
  metrics := foldl_added (fun d t => by cases t <;> simp [put, Setting.metric?]) _ settings
  sections := foldl_added (fun d t => by cases t <;> simp [put, Setting.section?]) _ settings
  defaultSection := (foldl_last (fun _ t => by cases t <;> rfl) _ settings).trans Option.or_none
  journey := foldl_added (fun d t => by cases t <;> simp [put, Setting.journeyStep?]) _ settings
  quickActions := foldl_added (fun d t => by cases t <;> simp [put, Setting.quickAction?]) _ settings
  menu := foldl_added (fun d t => by cases t <;> simp [put, Setting.menuEntry?]) _ settings
  related := foldl_added (fun d t => by cases t <;> simp [put, Setting.related?]) _ settings

/-! ## Requirements -/

/-- The actions of a draft: the quick ones and those of the menu. -/
def actions (d : DetailDraft R) : List (ActionSpec R) := d.quickActions ++ MenuEntry.actions d.menu

/-- A draft that nothing is missing from, in which no name stands twice and every reference leads somewhere. -/
structure WellFormed (d : DetailDraft R) : Prop where
  entityType_ne_empty : d.entityType ≠ ""
  has_baseRoute : ∃ route, d.baseRoute = some route
  has_entityQuery : ∃ key, d.entityQuery = some key
  has_title : ∃ title, d.title = some title
  sections_ne_nil : d.sections ≠ []
  sectionIds_nodup : (d.sections.map (·.id)).Nodup
  stepIds_nodup : (d.journey.map (·.id)).Nodup
  relatedNames_nodup : (d.related.map (·.1)).Nodup
  actionIds_nodup : (d.actions.map (·.id)).Nodup
  subtitleKeys_nodup : (d.subtitleFields.map (·.key)).Nodup
  subtitles_addressed : ∀ c ∈ d.subtitleFields, c.Addressed
  declares_default : ∀ id, d.defaultSection = some id → id ∈ d.sections.map (·.id)

/-- What is required of the section to start on. -/
def defaultRequirements (d : DetailDraft R) : List Requirement :=
  [.each d.defaultSection.toList (· ∈ d.sections.map (·.id)) .unknownDefaultSection]

/-- What is required of a draft, in the order in which it is told. -/
def requirements (d : DetailDraft R) : List Requirement :=
  [.single (d.entityType ≠ "") (.missingField configName "entity_type"),
   .single (∃ route, d.baseRoute = some route) (.missingField configName "base_route"),
   .single (∃ key, d.entityQuery = some key) (.missingField configName "entity_query"),
   .single (∃ title, d.title = some title) (.missingField configName "title"),
   .single (d.sections ≠ []) (.missingField configName "sections"),
   .distinct "section" (d.sections.map (·.id)),
   .distinct "journey step" (d.journey.map (·.id)),
   .distinct "related query" (d.related.map (·.1)),
   .distinct "action" (d.actions.map (·.id))]
  ++ ColumnSpec.requirements d.subtitleFields
  ++ d.defaultRequirements

theorem wellFormed_iff {d : DetailDraft R} : d.WellFormed ↔ ∀ r ∈ d.requirements, r.met := by
  have hdefault : (∀ id ∈ d.defaultSection.toList, id ∈ d.sections.map (·.id)) ↔
      ∀ id, d.defaultSection = some id → id ∈ d.sections.map (·.id) := by
    simp only [Option.mem_toList]
  unfold requirements ColumnSpec.requirements defaultRequirements
  simp only [List.forall_mem_append, List.forall_mem_cons, List.not_mem_nil, false_implies, implies_true, and_true]
  constructor
  · rintro ⟨hentity, hroute, hquery, htitle, hnil, hsections, hsteps, hrelated, hactions, hkeys, hfields, hdeclared⟩
    exact ⟨⟨⟨hentity, hroute, hquery, htitle, hnil, hsections, hsteps, hrelated, hactions⟩, hkeys, hfields⟩,
      hdefault.mpr hdeclared⟩
  · rintro ⟨⟨⟨hentity, hroute, hquery, htitle, hnil, hsections, hsteps, hrelated, hactions⟩, hkeys, hfields⟩, hdeclared⟩
    exact ⟨hentity, hroute, hquery, htitle, hnil, hsections, hsteps, hrelated, hactions, hkeys, hfields,
      hdefault.mp hdeclared⟩

/-! ## Building -/

/-- The configuration of a draft that passed all checks. -/
def finish (d : DetailDraft R) (baseRoute entityQuery : String) (title : R → String) (first : SectionSpec) :
    DetailConfig R :=
  { d with
    baseRoute, entityQuery, title
    channel := d.channel.getD d.entityType
    defaultSection := d.defaultSection.getD first.id
    related := .ofQueries d.related }

/-- The check of the section to start on. -/
def checkDefault (d : DetailDraft R) : Except ConfigError Unit :=
  d.defaultSection.toList.forM fun id =>
    ConfigError.ensure (.unknownDefaultSection id) (SectionSpec.declares d.sections id)

omit [Record R] in
theorem checks_default (d : DetailDraft R) : Checks d.defaultRequirements d.checkDefault :=
  checks_forM fun _ => SectionSpec.declares_iff

omit [Record R] in
theorem initialSection_eq (d : DetailDraft R) (first : SectionSpec) :
    initialSection first d.sections d.defaultSection =
      d.checkDefault.bind fun _ => .ok (d.defaultSection.getD first.id) := by
  unfold checkDefault
  cases d.defaultSection with
  | none => rfl
  | some id =>
    rw [Option.toList_some, forM_singleton, initialSection, ConfigError.ensure]
    split <;> rfl

theorem build_eq (d : DetailDraft R) :
    d.build =
      (ConfigError.ensure (.missingField configName "entity_type") (d.entityType ≠ "")).bind fun _ =>
      (ConfigError.require configName "base_route" d.baseRoute).bind fun baseRoute =>
      (ConfigError.require configName "entity_query" d.entityQuery).bind fun entityQuery =>
      (ConfigError.require configName "title" d.title).bind fun title =>
      (ConfigError.require configName "sections" d.sections.head?).bind fun first =>
      (ensureUnique "section" (d.sections.map (·.id))).bind fun _ =>
      (ensureUnique "journey step" (d.journey.map (·.id))).bind fun _ =>
      (ensureUnique "related query" (d.related.map (·.1))).bind fun _ =>
      (ensureUnique "action" (d.actions.map (·.id))).bind fun _ =>
      (ColumnSpec.checkAll d.subtitleFields).bind fun _ =>
      d.checkDefault.bind fun _ => .ok (d.finish baseRoute entityQuery title first) := by
  unfold build
  simp only [initialSection_eq]
  cases d.checkDefault <;> rfl

omit [Record R] in
theorem builds_sections (d : DetailDraft R) :
    Builds [.single (d.sections ≠ []) (.missingField configName "sections")]
      (ConfigError.require configName "sections" d.sections.head?) := by
  have hhead : (∃ first, d.sections.head? = some first) = (d.sections ≠ []) := by
    cases d.sections <;> simp
  exact hhead ▸ builds_require configName "sections" d.sections.head?

/-- The requirements are checked one after the other. -/
theorem builds_build (d : DetailDraft R) : Builds d.requirements d.build := by
  have hentity := checks_ensure (p := d.entityType ≠ "") decide_eq_true_iff (.missingField configName "entity_type")
  have hsections := checks_ensureUnique "section" (d.sections.map (·.id))
  have hsteps := checks_ensureUnique "journey step" (d.journey.map (·.id))
  have hrelated := checks_ensureUnique "related query" (d.related.map (·.1))
  have hactions := checks_ensureUnique "action" (d.actions.map (·.id))
  rw [build_eq]
  refine hentity.bind_builds ((builds_require ..).bind fun baseRoute _ => (builds_require ..).bind fun entityQuery _ =>
    (builds_require ..).bind fun title _ => d.builds_sections.bind fun first _ => ?_)
  refine hsections.bind_builds (hsteps.bind_builds (hrelated.bind_builds (hactions.bind_builds ?_)))
  exact (ColumnSpec.checks_columns d.subtitleFields).bind_builds (d.checks_default.bind_builds (builds_ok _))

/-- A configuration that was built is what its draft holds. -/
theorem eq_finish_of_build {d : DetailDraft R} {c : DetailConfig R} (h : d.build = .ok c) :
    ∃ baseRoute entityQuery title first, d.baseRoute = some baseRoute ∧ d.entityQuery = some entityQuery ∧
      d.title = some title ∧ d.sections.head? = some first ∧ c = d.finish baseRoute entityQuery title first := by
  rw [build_eq] at h
  obtain ⟨_, -, h⟩ := bind_eq_ok.mp h
  obtain ⟨baseRoute, hroute, h⟩ := bind_eq_ok.mp h
  obtain ⟨entityQuery, hquery, h⟩ := bind_eq_ok.mp h
  obtain ⟨title, htitle, h⟩ := bind_eq_ok.mp h
  obtain ⟨first, hfirst, h⟩ := bind_eq_ok.mp h
  obtain ⟨_, -, h⟩ := bind_eq_ok.mp h
  obtain ⟨_, -, h⟩ := bind_eq_ok.mp h
  obtain ⟨_, -, h⟩ := bind_eq_ok.mp h
  obtain ⟨_, -, h⟩ := bind_eq_ok.mp h
  obtain ⟨_, -, h⟩ := bind_eq_ok.mp h
  obtain ⟨_, -, h⟩ := bind_eq_ok.mp h
  cases h
  exact ⟨baseRoute, entityQuery, title, first, ConfigError.require_eq_ok.mp hroute, ConfigError.require_eq_ok.mp hquery,
    ConfigError.require_eq_ok.mp htitle, ConfigError.require_eq_ok.mp hfirst, rfl⟩

theorem wellFormed_of_build {d : DetailDraft R} {c : DetailConfig R} (h : d.build = .ok c) : d.WellFormed :=
  wellFormed_iff.mpr ((builds_build d).ok_iff.mp ⟨c, h⟩)

omit [Record R] in
/-- The section to start on is the one that was asked for, and the first one if none was; it is declared either way. -/
theorem mem_initial {d : DetailDraft R} {first : SectionSpec} (hfirst : d.sections.head? = some first)
    (hdeclares : ∀ id, d.defaultSection = some id → id ∈ d.sections.map (·.id)) :
    d.defaultSection.getD first.id ∈ d.sections.map (·.id) := by
  cases hdefault : d.defaultSection with
  | some id => exact hdeclares id hdefault
  | none => exact List.mem_map_of_mem (List.mem_of_head? hfirst)

/-! ## The law -/

/-- Whatever is said of a detail screen, and in whatever order, there is a configuration of it if and only if its draft
is well-formed, and else the error is one for the first requirement that is not met. The configuration holds all that
was added, in order, and each name of a related query stands for the query that was added under it. The screen starts on
the section that was asked for, or on the first one; either way it is a declared one. -/
theorem built_without_loss (entityType : String) (settings : List (Setting R)) :
    let d := ofSettings entityType settings
    d.Holds entityType settings ∧
    ((∃ c, d.build = .ok c) ↔ d.WellFormed) ∧
    (∀ e, d.build = .error e ↔ FirstUnmet d.requirements e) ∧
    ∀ c, d.build = .ok c →
      (c.entityType = entityType ∧ d.baseRoute = some c.baseRoute ∧ d.entityQuery = some c.entityQuery ∧
        d.title = some c.title) ∧
      (c.sections = settings.filterMap Setting.section? ∧ c.journey = settings.filterMap Setting.journeyStep? ∧
        c.quickActions = settings.filterMap Setting.quickAction? ∧ c.menu = settings.filterMap Setting.menuEntry? ∧
        c.subtitleFields = settings.filterMap Setting.subtitleField? ∧ c.metrics = settings.filterMap Setting.metric? ∧
        c.breadcrumbs = settings.filterMap Setting.breadcrumb?) ∧
      (∃ queries, c.related = .aggregate queries ∧ queries.Perm (settings.filterMap Setting.related?) ∧
        ∀ name query, Dict.get? queries name = some query ↔ Setting.related name query ∈ settings) ∧
      (∃ first, c.sections.head? = some first ∧ c.defaultSection = d.defaultSection.getD first.id) ∧
      (∃ spec ∈ c.sections, spec.id = c.defaultSection ∧
        ∀ {S : Type} (entityId : String) (e : Engine S),
          let navigator := (DetailScreen.start c entityId e).1.sections
          navigator.current = c.defaultSection ∧ navigator.currentSection = some spec) := by
  intro d
  have hholds : d.Holds entityType settings := holds_ofSettings entityType settings
  refine ⟨hholds, (builds_build d).ok_iff.trans wellFormed_iff.symm, (builds_build d).error_iff, ?_⟩
  intro c hc
  have hd : d.WellFormed := wellFormed_of_build hc
  obtain ⟨baseRoute, entityQuery, title, first, hroute, hquery, htitle, hfirst, rfl⟩ := eq_finish_of_build hc
  have hdeclared : d.defaultSection.getD first.id ∈ d.sections.map (·.id) := mem_initial hfirst hd.declares_default
  obtain ⟨spec, hspec, hcurrent, hid⟩ := SectionNavigator.currentSection_start hdeclared
  have hadded (name : String) (query : QueryDescriptor) :
      (name, query) ∈ d.related ↔ Setting.related name query ∈ settings := by
    rw [hholds.related, List.mem_filterMap]
    constructor
    · rintro ⟨t, ht, hsome⟩
      cases t <;> cases hsome
      exact ht
    · exact fun h => ⟨_, h, rfl⟩
  refine ⟨⟨hholds.entityType, hroute, hquery, htitle⟩, ⟨hholds.sections, hholds.journey, hholds.quickActions,
    hholds.menu, hholds.subtitleFields, hholds.metrics, hholds.breadcrumbs⟩, ?_, ⟨first, hfirst, rfl⟩, ?_⟩
  · refine ⟨Dict.ofList d.related, rfl, hholds.related ▸ Dict.ofList_perm hd.relatedNames_nodup, ?_⟩
    intro name query
    rw [Dict.get?_ofList hd.relatedNames_nodup, Dict.get?_eq_some_iff hd.relatedNames_nodup, hadded]
  · exact ⟨spec, hspec, hid, fun _ _ => ⟨SectionNavigator.current_start hdeclared, hcurrent⟩⟩

/-- What is said of the screen of a person. -/
def personSettings : List (Setting R) :=
  [.section { id := "notes", label := "Notes" }, .baseRoute "/people", .titleField "last_name",
   .related "tasks" ⟨"tasks.list", []⟩, .section { id := "files", label := "Files" }, .entityQuery "people.get",
   .related "files" ⟨"files.list", []⟩, .menuAction { id := "call", label := "Call", target := .navigate "/call" },
   .defaultSection "files"]

/-- The screen of a person starts on the files, and knows the query for each name. With an action that is also in the
menu it is refused for that, and not for a default section that is not there either. -/
theorem built_without_loss_person :
    (∃ c : DetailConfig Candidate, (ofSettings "person" personSettings).build = .ok c ∧
      (DetailScreen.start c "p1" ({ binder := { source := {} } } : Engine Scripted)).1.sections.current = "files" ∧
      Dict.get? c.related.queries "tasks" = some ⟨"tasks.list", []⟩) ∧
    FirstUnmet (ofSettings "person" (personSettings (R := JsonRecord) ++
      [.quickAction { id := "call", label := "Call", target := .navigate "/call" }, .defaultSection "log"])).requirements
      (.duplicateId "action" "call") := by
  obtain ⟨-, -, -, hbuilt⟩ := built_without_loss "person" (personSettings (R := Candidate))
  obtain ⟨-, -, hrefused, -⟩ := built_without_loss "person" (personSettings (R := JsonRecord) ++
    [.quickAction { id := "call", label := "Call", target := .navigate "/call" }, .defaultSection "log"])
  refine ⟨?_, (hrefused _).mp rfl⟩
  obtain ⟨-, -, ⟨queries, hrelated, -, hnames⟩, ⟨first, -, hdefault⟩, ⟨spec, -, -, hscreens⟩⟩ := hbuilt _ rfl
  refine ⟨_, rfl, (hscreens "p1" _).1.trans hdefault, ?_⟩
  rw [hrelated]
  exact (hnames "tasks" ⟨"tasks.list", []⟩).mpr (by simp [personSettings])

end DetailDraft

end RecordScreens
