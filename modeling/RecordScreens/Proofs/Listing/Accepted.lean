import RecordScreens.Candidate.Basic
import RecordScreens.Listing.Config
import RecordScreens.Proofs.Drafts
import RecordScreens.Record.Dynamic

/-!
# Accepted lists

The draft of a list grows setting by setting. A configuration comes out of it if and only if it is
well-formed, and otherwise its error is one for the first requirement that it does not meet. The
configuration holds all that was added, in the order in which it was added.
-/

namespace RecordScreens

/-! ## Filters -/

namespace FilterSpec

/-- A filter with a key, and with choices if it is for choosing. -/
structure WellFormed (f : FilterSpec) : Prop where
  key_ne_empty : f.key ≠ ""
  offers : f.kind = .select ∨ f.kind = .multiSelect → f.options ≠ []

/-- The error for a filter that is not well-formed: that of the key comes before that of the options. -/
def fault (f : FilterSpec) : ConfigError :=
  if f.key = "" then .missingField "FilterSpec" "key" else .missingOptions f.key f.kind.name

/-- What is required of filters. -/
def requirements (filters : List FilterSpec) : List Requirement :=
  [.each filters WellFormed fault, .distinct "filter" (filters.map (·.key))]

theorem validate_eq (f : FilterSpec) :
    f.validate = ConfigError.ensure f.fault (f.key ≠ "" && (!f.kind.needsOptions || f.options ≠ [])) := by
  unfold validate fault
  by_cases hkey : f.key = ""
  · simp [hkey, ConfigError.ensure]
  · cases f.kind <;> cases f.options <;> simp [hkey, ConfigError.ensure, FilterKind.needsOptions]

theorem wellFormed_iff (f : FilterSpec) :
    (f.key ≠ "" && (!f.kind.needsOptions || f.options ≠ [])) = true ↔ f.WellFormed := by
  have hoffers : (!f.kind.needsOptions || f.options ≠ []) = true ↔
      (f.kind = .select ∨ f.kind = .multiSelect → f.options ≠ []) := by
    cases f.kind <;> simp [FilterKind.needsOptions]
  rw [Bool.and_eq_true, hoffers, decide_eq_true_iff]
  exact ⟨fun h => ⟨h.1, h.2⟩, fun h => ⟨h.key_ne_empty, h.offers⟩⟩

theorem checks_filters (filters : List FilterSpec) : Checks (requirements filters) (checkAll filters) := by
  have hvalid : Checks [.each filters WellFormed fault] (filters.forM validate) := by
    rw [funext validate_eq]
    exact checks_forM wellFormed_iff
  exact hvalid.bind (checks_ensureUnique "filter" (filters.map (·.key)))

end FilterSpec

namespace ListDraft

variable {R : Type}

/-! ## Settings -/

/-- What can be said of a list in the making. -/
inductive Setting (R : Type) where
  | entityName (singular plural : String)
  | baseRoute (route : String)
  | title (title : String)
  | description (description : String)
  | icon (icon : String)
  | primaryAction (action : LinkAction)
  | statsCard (card : StatsCard)
  | statsQuery (key : String)
  | filter (filter : FilterSpec)
  | column (column : ColumnSpec R)
  | statusTable (table : StatusTable)
  | listQuery (key : String)
  | pageSize (size : Nat)
  | defaultSort (key : String) (order : SortOrder)
  | emptyState (state : EmptyState)
  | quickAction (action : ActionSpec R)

namespace Setting

def baseRoute? : Setting R → Option String
  | .baseRoute route => some route
  | _ => none

def title? : Setting R → Option String
  | .title text => some text
  | _ => none

def listQuery? : Setting R → Option String
  | .listQuery key => some key
  | _ => none

def pageSize? : Setting R → Option Nat
  | .pageSize size => some size
  | _ => none

def defaultSort? : Setting R → Option (String × SortOrder)
  | .defaultSort key order => some (key, order)
  | _ => none

def statsCard? : Setting R → Option StatsCard
  | .statsCard card => some card
  | _ => none

def filter? : Setting R → Option FilterSpec
  | .filter spec => some spec
  | _ => none

def column? : Setting R → Option (ColumnSpec R)
  | .column spec => some spec
  | _ => none

def quickAction? : Setting R → Option (ActionSpec R)
  | .quickAction action => some action
  | _ => none

end Setting

/-- The draft with one more setting. -/
def put (d : ListDraft R) : Setting R → ListDraft R
  | .entityName singular plural => { d with entityName := some { singular, plural } }
  | .baseRoute route => { d with baseRoute := some route }
  | .title title => { d with title := some title }
  | .description description => { d with description := some description }
  | .icon icon => { d with icon := some icon }
  | .primaryAction action => { d with primaryAction := some action }
  | .statsCard card => { d with statsCards := d.statsCards ++ [card] }
  | .statsQuery key => { d with statsQuery := some key }
  | .filter filter => { d with filters := d.filters ++ [filter] }
  | .column column => { d with columns := d.columns ++ [column] }
  | .statusTable statusTable => { d with statusTable }
  | .listQuery key => { d with listQuery := some key }
  | .pageSize pageSize => { d with pageSize }
  | .defaultSort key order => { d with defaultSort := some (key, order) }
  | .emptyState state => { d with emptyState := some state }
  | .quickAction action => { d with quickActions := d.quickActions ++ [action] }

/-- The draft that some settings make. -/
def ofSettings (entityType : String) (settings : List (Setting R)) : ListDraft R :=
  settings.foldl put { entityType }

/-- What a draft holds: what can be set is the last that was set, and what can be added is all that was added. -/
structure Holds (d : ListDraft R) (entityType : String) (settings : List (Setting R)) : Prop where
  entityType : d.entityType = entityType
  title : d.title = (settings.filterMap Setting.title?).getLast?
  baseRoute : d.baseRoute = (settings.filterMap Setting.baseRoute?).getLast?
  listQuery : d.listQuery = (settings.filterMap Setting.listQuery?).getLast?
  pageSize : d.pageSize = (settings.filterMap Setting.pageSize?).getLast?.getD defaultPageSize
  defaultSort : d.defaultSort = (settings.filterMap Setting.defaultSort?).getLast?
  statsCards : d.statsCards = settings.filterMap Setting.statsCard?
  filters : d.filters = settings.filterMap Setting.filter?
  columns : d.columns = settings.filterMap Setting.column?
  quickActions : d.quickActions = settings.filterMap Setting.quickAction?

theorem holds_ofSettings (entityType : String) (settings : List (Setting R)) :
    (ofSettings entityType settings).Holds entityType settings where
  entityType := foldl_kept (fun _ t => by cases t <;> rfl) _ settings
  title := (foldl_last (fun _ t => by cases t <;> rfl) _ settings).trans Option.or_none
  baseRoute := (foldl_last (fun _ t => by cases t <;> rfl) _ settings).trans Option.or_none
  listQuery := (foldl_last (fun _ t => by cases t <;> rfl) _ settings).trans Option.or_none
  pageSize := by
    let held (d : ListDraft R) : Option Nat := some d.pageSize
    have hlast : held (ofSettings entityType settings) =
        (settings.filterMap Setting.pageSize?).getLast?.or (held { entityType }) :=
      foldl_last (fun _ t => by cases t <;> rfl) _ settings
    rw [← Option.some_inj]
    refine hlast.trans ?_
    cases (settings.filterMap Setting.pageSize?).getLast? <;> rfl
  defaultSort := (foldl_last (fun _ t => by cases t <;> rfl) _ settings).trans Option.or_none
  statsCards := foldl_added (fun d t => by cases t <;> simp [put, Setting.statsCard?]) _ settings
  filters := foldl_added (fun d t => by cases t <;> simp [put, Setting.filter?]) _ settings
  columns := foldl_added (fun d t => by cases t <;> simp [put, Setting.column?]) _ settings
  quickActions := foldl_added (fun d t => by cases t <;> simp [put, Setting.quickAction?]) _ settings

/-! ## Requirements -/

/-- A draft that nothing is missing from, in which no name stands twice and every reference leads somewhere. -/
structure WellFormed [Record R] (d : ListDraft R) : Prop where
  entityType_ne_empty : d.entityType ≠ ""
  has_title : ∃ title, d.title = some title
  has_baseRoute : ∃ route, d.baseRoute = some route
  has_listQuery : ∃ key, d.listQuery = some key
  columns_ne_nil : d.columns ≠ []
  pageSize_ne_zero : d.pageSize ≠ 0
  filters_wellFormed : ∀ f ∈ d.filters, f.WellFormed
  filterKeys_nodup : (d.filters.map (·.key)).Nodup
  columnKeys_nodup : (d.columns.map (·.key)).Nodup
  columns_addressed : ∀ c ∈ d.columns, c.Addressed
  actionIds_nodup : (d.quickActions.map (·.id)).Nodup
  sorts : ∀ key order, d.defaultSort = some (key, order) → ∃ c ∈ d.columns, c.key = key ∧ c.sortable = true

/-- What is required of an order to start with. -/
def sortRequirements (d : ListDraft R) : List Requirement :=
  [.each d.defaultSort.toList (fun sort => ∃ c ∈ d.columns, c.key = sort.1 ∧ c.sortable = true)
    fun sort => .unknownField "sort key" sort.1]

/-- What is required of a draft, in the order in which it is told. -/
def requirements [Record R] (d : ListDraft R) : List Requirement :=
  [.single (d.entityType ≠ "") (.missingField configName "entity_type"),
   .single (∃ title, d.title = some title) (.missingField configName "title"),
   .single (∃ route, d.baseRoute = some route) (.missingField configName "base_route"),
   .single (∃ key, d.listQuery = some key) (.missingField configName "list_query"),
   .single (d.columns ≠ []) (.missingField configName "columns"),
   .single (d.pageSize ≠ 0) (.missingField configName "page_size")]
  ++ FilterSpec.requirements d.filters
  ++ ColumnSpec.requirements d.columns
  ++ [.distinct "action" (d.quickActions.map (·.id))]
  ++ d.sortRequirements

theorem wellFormed_iff [Record R] {d : ListDraft R} : d.WellFormed ↔ ∀ r ∈ d.requirements, r.met := by
  have hsort : (∀ sort ∈ d.defaultSort.toList, ∃ c ∈ d.columns, c.key = sort.1 ∧ c.sortable = true) ↔
      ∀ key order, d.defaultSort = some (key, order) → ∃ c ∈ d.columns, c.key = key ∧ c.sortable = true := by
    simp only [Option.mem_toList, Prod.forall]
  unfold requirements FilterSpec.requirements ColumnSpec.requirements sortRequirements
  simp only [List.forall_mem_append, List.forall_mem_cons, List.not_mem_nil, false_implies, implies_true, and_true]
  constructor
  · rintro ⟨hentity, htitle, hroute, hquery, hcolumns, hsize, hfilters, hfilterKeys, hkeys, hfields, hactions, hsorts⟩
    exact ⟨⟨⟨⟨⟨hentity, htitle, hroute, hquery, hcolumns, hsize⟩, hfilters, hfilterKeys⟩, hkeys, hfields⟩, hactions⟩,
      hsort.mpr hsorts⟩
  · rintro ⟨⟨⟨⟨⟨hentity, htitle, hroute, hquery, hcolumns, hsize⟩, hfilters, hfilterKeys⟩, hkeys, hfields⟩, hactions⟩,
      hsorts⟩
    exact ⟨hentity, htitle, hroute, hquery, hcolumns, hsize, hfilters, hfilterKeys, hkeys, hfields, hactions,
      hsort.mp hsorts⟩

/-! ## Building -/

/-- The configuration of a draft that passed all checks. -/
def finish (d : ListDraft R) (title baseRoute listQuery : String) : ListConfig R :=
  let entityName := d.entityName.getD { singular := d.entityType, plural := title }
  { d with
    entityName, title, baseRoute, listQuery
    emptyState := d.emptyState.getD { title := "No " ++ Text.lowercase entityName.plural ++ " found" } }

/-- The check of the order to start with. -/
def checkSort (d : ListDraft R) : Except ConfigError Unit :=
  d.defaultSort.toList.forM fun sort =>
    ConfigError.ensure (.unknownField "sort key" sort.1) (ColumnSpec.sortableBy d.columns sort.1)

theorem checks_sort (d : ListDraft R) : Checks d.sortRequirements d.checkSort :=
  checks_forM fun sort => by simp [ColumnSpec.sortableBy]

variable [Record R]

theorem build_eq (d : ListDraft R) :
    d.build =
      (ConfigError.ensure (.missingField configName "entity_type") (d.entityType ≠ "")).bind fun _ =>
      (ConfigError.require configName "title" d.title).bind fun title =>
      (ConfigError.require configName "base_route" d.baseRoute).bind fun baseRoute =>
      (ConfigError.require configName "list_query" d.listQuery).bind fun listQuery =>
      (ConfigError.ensure (.missingField configName "columns") (!d.columns.isEmpty)).bind fun _ =>
      (ConfigError.ensure (.missingField configName "page_size") (d.pageSize ≠ 0)).bind fun _ =>
      (FilterSpec.checkAll d.filters).bind fun _ =>
      (ColumnSpec.checkAll d.columns).bind fun _ =>
      (ensureUnique "action" (d.quickActions.map (·.id))).bind fun _ =>
      d.checkSort.bind fun _ => .ok (d.finish title baseRoute listQuery) := by
  unfold build checkSort finish
  cases d.defaultSort with
  | none => rfl
  | some sort =>
    rw [Option.toList_some, forM_singleton]
    rfl

/-- The requirements are checked one after the other. -/
theorem builds_build (d : ListDraft R) : Builds d.requirements d.build := by
  have hentity := checks_ensure (p := d.entityType ≠ "") decide_eq_true_iff (.missingField configName "entity_type")
  have hempty : (!d.columns.isEmpty) = true ↔ d.columns ≠ [] := by simp
  have hcolumns := checks_ensure hempty (.missingField configName "columns")
  have hsize := checks_ensure (p := d.pageSize ≠ 0) decide_eq_true_iff (.missingField configName "page_size")
  have hactions := checks_ensureUnique "action" (d.quickActions.map (·.id))
  rw [build_eq]
  refine hentity.bind_builds ((builds_require ..).bind fun title _ => (builds_require ..).bind fun baseRoute _ =>
    (builds_require ..).bind fun listQuery _ => hcolumns.bind_builds (hsize.bind_builds ?_))
  refine (FilterSpec.checks_filters d.filters).bind_builds ((ColumnSpec.checks_columns d.columns).bind_builds ?_)
  exact hactions.bind_builds ((checks_sort d).bind_builds (builds_ok _))

/-- A configuration that was built is what its draft holds. -/
theorem eq_finish_of_build {d : ListDraft R} {c : ListConfig R} (h : d.build = .ok c) :
    ∃ title baseRoute listQuery, d.title = some title ∧ d.baseRoute = some baseRoute ∧
      d.listQuery = some listQuery ∧ c = d.finish title baseRoute listQuery := by
  rw [build_eq] at h
  obtain ⟨_, -, h⟩ := bind_eq_ok.mp h
  obtain ⟨title, htitle, h⟩ := bind_eq_ok.mp h
  obtain ⟨baseRoute, hroute, h⟩ := bind_eq_ok.mp h
  obtain ⟨listQuery, hquery, h⟩ := bind_eq_ok.mp h
  obtain ⟨_, -, h⟩ := bind_eq_ok.mp h
  obtain ⟨_, -, h⟩ := bind_eq_ok.mp h
  obtain ⟨_, -, h⟩ := bind_eq_ok.mp h
  obtain ⟨_, -, h⟩ := bind_eq_ok.mp h
  obtain ⟨_, -, h⟩ := bind_eq_ok.mp h
  obtain ⟨_, -, h⟩ := bind_eq_ok.mp h
  cases h
  exact ⟨title, baseRoute, listQuery, ConfigError.require_eq_ok.mp htitle, ConfigError.require_eq_ok.mp hroute,
    ConfigError.require_eq_ok.mp hquery, rfl⟩

theorem wellFormed_of_build {d : ListDraft R} {c : ListConfig R} (h : d.build = .ok c) : d.WellFormed :=
  wellFormed_iff.mpr ((builds_build d).ok_iff.mp ⟨c, h⟩)

/-! ## The law -/

/-- Whatever is said of a list, and in whatever order, there is a configuration of it if and only if its draft is
well-formed, and else the error is one for the first requirement that is not met. The configuration holds all columns,
filters, cards and actions in the order in which they were added. -/
theorem built_iff_wellFormed (entityType : String) (settings : List (Setting R)) :
    let d := ofSettings entityType settings
    d.Holds entityType settings ∧
    ((∃ c, d.build = .ok c) ↔ d.WellFormed) ∧
    (∀ e, d.build = .error e ↔ FirstUnmet d.requirements e) ∧
    ∀ c, d.build = .ok c →
      c.columns = settings.filterMap Setting.column? ∧ c.filters = settings.filterMap Setting.filter? ∧
      c.statsCards = settings.filterMap Setting.statsCard? ∧
      c.quickActions = settings.filterMap Setting.quickAction? ∧
      c.entityType = entityType ∧ d.title = some c.title ∧ d.baseRoute = some c.baseRoute ∧
      d.listQuery = some c.listQuery ∧ c.pageSize = d.pageSize ∧ c.defaultSort = d.defaultSort := by
  intro d
  have hholds : d.Holds entityType settings := holds_ofSettings entityType settings
  refine ⟨hholds, (builds_build d).ok_iff.trans wellFormed_iff.symm, (builds_build d).error_iff, ?_⟩
  intro c hc
  obtain ⟨title, baseRoute, listQuery, htitle, hroute, hquery, rfl⟩ := eq_finish_of_build hc
  exact ⟨hholds.columns, hholds.filters, hholds.statsCards, hholds.quickActions, hholds.entityType, htitle, hroute,
    hquery, rfl, rfl⟩

/-- What is said of a list of people, by name and by employer. -/
def peopleSettings : List (Setting R) :=
  [.title "People", .column { key := "last_name", label := "Name", sortable := true }, .baseRoute "/people",
   .listQuery "people.list", .column { key := "employer", label := "Employer" }, .defaultSort "last_name" .asc]

/-- A list of people by employer can be built for records of any form, but not for candidates, who have no employer.
If there is also a filter without a choice, then that is told first. -/
theorem built_iff_wellFormed_people :
    (∃ c : ListConfig JsonRecord, (ofSettings "person" peopleSettings).build = .ok c ∧
      c.columns.map (·.key) = ["last_name", "employer"]) ∧
    FirstUnmet (ofSettings "person" (peopleSettings (R := Candidate))).requirements
      (.unknownField "column" "employer") ∧
    FirstUnmet (ofSettings "person" (.filter ⟨"state", .select, "State", none, []⟩ ::
      peopleSettings (R := Candidate))).requirements (.missingOptions "state" "select") := by
  obtain ⟨-, -, -, hbuilt⟩ := built_iff_wellFormed "person" (peopleSettings (R := JsonRecord))
  obtain ⟨-, -, hcandidates, -⟩ := built_iff_wellFormed "person" (peopleSettings (R := Candidate))
  obtain ⟨-, -, hfiltered, -⟩ := built_iff_wellFormed "person"
    (.filter ⟨"state", .select, "State", none, []⟩ :: peopleSettings (R := Candidate))
  refine ⟨?_, (hcandidates _).mp rfl, (hfiltered _).mp rfl⟩
  obtain ⟨hcolumns, -⟩ := hbuilt _ rfl
  exact ⟨_, rfl, congrArg (List.map (·.key)) hcolumns⟩

end ListDraft

end RecordScreens
