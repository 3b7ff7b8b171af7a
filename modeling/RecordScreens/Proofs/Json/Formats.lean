import RecordScreens.Action.Effect
import RecordScreens.Dashboard
import RecordScreens.Proofs.Record.Reading
import RecordScreens.Status.Table

/-!
# Formats that lose nothing

The parts of configurations and what goes over channels are read back as they were written. So what can be read at all
has a normal form, which is the same value and is written as it is.
-/

namespace RecordScreens

open Decoder Decoder.Fields

/-! ## Normal forms -/

section

variable {α : Type} {encode : α → Json} {decode : Decoder α} {InRange : α → Prop}

/-- What a value is written as once it was read. -/
def normalForm? (encode : α → Json) (decode : Decoder α) (v : Json) : Option Json := (decode v).map encode

/-- A format that loses nothing of what is in range, and in which nothing else is read. -/
structure RoundTrips (encode : α → Json) (decode : Decoder α) (InRange : α → Prop) : Prop where
  decode_encode : ∀ {x}, InRange x → decode (encode x) = some x
  inRange_of_decode : ∀ {v x}, decode v = some x → InRange x
  /-- The normal form is read as the same value, and it is its own normal form. -/
  normal : ∀ {v}, (decode v).isSome →
    ∃ w, normalForm? encode decode v = some w ∧ decode w = decode v ∧ normalForm? encode decode w = some w

/-- A normal form is what was written last, so it is enough that everything in range is read back. -/
theorem RoundTrips.of_decode_encode (hencode : ∀ {x}, InRange x → decode (encode x) = some x)
    (hdecode : ∀ {v x}, decode v = some x → InRange x) : RoundTrips encode decode InRange where
  decode_encode := hencode
  inRange_of_decode := hdecode
  normal {v} hread := by
    obtain ⟨x, hx⟩ := Option.isSome_iff_exists.mp hread
    have hback : decode (encode x) = some x := hencode (hdecode hx)
    refine ⟨encode x, ?_, ?_, ?_⟩
    · simp [normalForm?, hx]
    · rw [hback, hx]
    · simp [normalForm?, hback]

theorem RoundTrips.of_total (h : ∀ x, decode (encode x) = some x) : RoundTrips encode decode fun _ => True :=
  .of_decode_encode (fun _ => h _) fun _ => trivial

end

/-! ## Filters -/

theorem FilterKind.decode_encode (k : FilterKind) : decode k.encode = some k := by
  cases k <;> rfl

theorem FilterOption.decode_encode (o : FilterOption) : decode o.encode = some o := by
  let slots : Dict (Option Json) := [("value", some (.string o.value)), ("label", some (.string o.label))]
  have hencode : o.encode = .ofMembers (Json.given slots) := by simp [encode, slots]
  obtain ⟨fs, hfields, hget⟩ := fields_given slots ["value", "label"] rfl (by decide)
  unfold decode
  simp only [hencode, hfields, Option.bind_eq_bind, Option.bind_some, Option.pure_def,
    required_string (hget "value" rfl), required_string (hget "label" rfl)]

theorem FilterSpec.decode_encode (f : FilterSpec) : decode f.encode = some f := by
  let slots : Dict (Option Json) :=
    [("key", some (.string f.key)), ("type", some f.kind.encode), ("label", some (.string f.label)),
     ("placeholder", f.placeholder.map .string),
     ("options", if f.options = [] then none else some (.array (f.options.map (·.encode))))]
  have hencode : f.encode = .ofMembers (Json.given slots) := by simp [encode, slots]
  obtain ⟨fs, hfields, hget⟩ :=
    fields_given slots ["key", "type", "label", "placeholder", "options"] rfl (by decide)
  unfold decode
  simp only [hencode, hfields, Option.bind_eq_bind, Option.bind_some, Option.pure_def,
    required_string (hget "key" rfl), required_some (hget "type" rfl) (FilterKind.decode_encode f.kind),
    required_string (hget "label" rfl), optional_string_of_map (hget "placeholder" rfl),
    withDefault_unless (hget "options" rfl) (list_map FilterOption.decode_encode f.options)]

/-! ## Sections, journeys and stats -/

theorem SectionSpec.decode_encode (s : SectionSpec) : decode s.encode = some s := by
  let slots : Dict (Option Json) :=
    [("id", some (.string s.id)), ("label", some (.string s.label)), ("icon", s.icon.map .string),
     ("showCount", some (.bool s.showCount)), ("component", some (.string s.component))]
  have hencode : s.encode = .ofMembers (Json.given slots) := by simp [encode, slots]
  obtain ⟨fs, hfields, hget⟩ := fields_given slots fieldNames rfl (by decide)
  unfold decode
  simp only [hencode, hfields, Option.bind_eq_bind, Option.bind_some, Option.pure_def, required_string (hget "id" rfl),
    required_string (hget "label" rfl), optional_string_of_map (hget "icon" rfl),
    withDefault_bool (hget "showCount" rfl), required_string (hget "component" rfl)]

theorem JourneyStep.decode_encode (s : JourneyStep) : decode s.encode = some s := by
  let slots : Dict (Option Json) :=
    [("id", some (.string s.id)), ("label", some (.string s.label)), ("icon", s.icon.map .string),
     ("activeStatuses", some (.strings s.activeStatuses)), ("completedStatuses", some (.strings s.completedStatuses))]
  have hencode : s.encode = .ofMembers (Json.given slots) := by simp [encode, slots]
  obtain ⟨fs, hfields, hget⟩ :=
    fields_given slots ["id", "label", "icon", "activeStatuses", "completedStatuses"] rfl (by decide)
  unfold decode
  simp only [hencode, hfields, Option.bind_eq_bind, Option.bind_some, Option.pure_def, required_string (hget "id" rfl),
    required_string (hget "label" rfl), optional_string_of_map (hget "icon" rfl),
    withDefault_some (hget "activeStatuses" rfl) (list_strings s.activeStatuses),
    withDefault_some (hget "completedStatuses" rfl) (list_strings s.completedStatuses)]

theorem StatFormat.decode_encode (f : StatFormat) : decode f.encode = some f := by
  cases f <;> rfl

theorem StatsCard.decode_encode (c : StatsCard) : decode c.encode = some c := by
  let slots : Dict (Option Json) :=
    [("key", some (.string c.key)), ("label", some (.string c.label)), ("color", c.color.map .string),
     ("icon", c.icon.map .string), ("format", some c.format.encode)]
  have hencode : c.encode = .ofMembers (Json.given slots) := by simp [encode, slots]
  obtain ⟨fs, hfields, hget⟩ := fields_given slots fieldNames rfl (by decide)
  unfold decode
  simp only [hencode, hfields, Option.bind_eq_bind, Option.bind_some, Option.pure_def,
    required_string (hget "key" rfl), required_string (hget "label" rfl), optional_string_of_map (hget "color" rfl),
    optional_string_of_map (hget "icon" rfl), withDefault_some (hget "format" rfl) (StatFormat.decode_encode c.format)]

/-! ## Names, links and statuses -/

theorem EntityName.decode_encode (n : EntityName) : decode n.encode = some n := by
  let slots : Dict (Option Json) := [("singular", some (.string n.singular)), ("plural", some (.string n.plural))]
  have hencode : n.encode = .ofMembers (Json.given slots) := by simp [encode, slots]
  obtain ⟨fs, hfields, hget⟩ := fields_given slots ["singular", "plural"] rfl (by decide)
  unfold decode
  simp only [hencode, hfields, Option.bind_eq_bind, Option.bind_some, Option.pure_def,
    required_string (hget "singular" rfl), required_string (hget "plural" rfl)]

theorem LinkAction.decode_encode (l : LinkAction) : decode l.encode = some l := by
  let slots : Dict (Option Json) :=
    [("label", some (.string l.label)), ("icon", l.icon.map .string), ("href", some (.string l.href))]
  have hencode : l.encode = .ofMembers (Json.given slots) := by simp [encode, slots]
  obtain ⟨fs, hfields, hget⟩ := fields_given slots ["label", "icon", "href"] rfl (by decide)
  unfold decode
  simp only [hencode, hfields, Option.bind_eq_bind, Option.bind_some, Option.pure_def,
    required_string (hget "label" rfl), optional_string_of_map (hget "icon" rfl), required_string (hget "href" rfl)]

theorem Breadcrumb.decode_encode (b : Breadcrumb) : decode b.encode = some b := by
  let slots : Dict (Option Json) := [("label", some (.string b.label)), ("href", some (.string b.href))]
  have hencode : b.encode = .ofMembers (Json.given slots) := by simp [encode, slots]
  obtain ⟨fs, hfields, hget⟩ := fields_given slots ["label", "href"] rfl (by decide)
  unfold decode
  simp only [hencode, hfields, Option.bind_eq_bind, Option.bind_some, Option.pure_def,
    required_string (hget "label" rfl), required_string (hget "href" rfl)]

/-- A record is never written as null. -/
theorem Json.ofMembers_ne_null (members : List (String × Json)) : ofMembers members ≠ .null := nofun

theorem EmptyState.decode_encode (e : EmptyState) : decode e.encode = some e := by
  let slots : Dict (Option Json) :=
    [("title", some (.string e.title)), ("filteredDescription", some (.string e.filteredDescription)),
     ("unfilteredDescription", some (.string e.unfilteredDescription)), ("action", e.action.map (·.encode))]
  have hencode : e.encode = .ofMembers (Json.given slots) := by simp [encode, slots]
  obtain ⟨fs, hfields, hget⟩ :=
    fields_given slots ["title", "filteredDescription", "unfilteredDescription", "action"] rfl (by decide)
  unfold decode
  simp only [hencode, hfields, Option.bind_eq_bind, Option.bind_some, Option.pure_def,
    required_string (hget "title" rfl), required_string (hget "filteredDescription" rfl),
    required_string (hget "unfilteredDescription" rfl),
    optional_map (hget "action" rfl) (fun l _ => LinkAction.decode_encode l) (fun _ => Json.ofMembers_ne_null _)]

theorem StatusConfig.decode_encode (c : StatusConfig) : decode c.encode = some c := by
  let slots : Dict (Option Json) :=
    [("label", some (.string c.label)), ("color", some (.string c.color)), ("icon", c.icon.map .string)]
  have hencode : c.encode = .ofMembers (Json.given slots) := by simp [encode, slots]
  obtain ⟨fs, hfields, hget⟩ := fields_given slots ["label", "color", "icon"] rfl (by decide)
  unfold decode
  simp only [hencode, hfields, Option.bind_eq_bind, Option.bind_some, Option.pure_def,
    required_string (hget "label" rfl), required_string (hget "color" rfl), optional_string_of_map (hget "icon" rfl)]

/-! ## Sources of data -/

theorem QueryDescriptor.decode_encode (q : QueryDescriptor) : decode q.encode = some q := by
  let slots : Dict (Option Json) :=
    [("queryKey", some (.string q.queryKey)), ("params", if q.params = [] then none else some (.object q.params))]
  have hencode : q.encode = .ofMembers (Json.given slots) := by simp [encode, slots]
  obtain ⟨fs, hfields, hget⟩ := fields_given slots ["queryKey", "params"] rfl (by decide)
  unfold decode
  simp only [hencode, hfields, Option.bind_eq_bind, Option.bind_some, Option.pure_def,
    required_string (hget "queryKey" rfl), withDefault_unless (hget "params" rfl) (object_object q.params)]

theorem DataSpec.decode_encode (d : DataSpec) : decode d.encode = some d := by
  cases d with
  | list queryKey =>
    let slots : Dict (Option Json) := [("queryKey", some (.string queryKey))]
    have hencode : (list queryKey).encode = .ofMembers (("kind", .string "list") :: Json.given slots) := rfl
    have htagged := tagged_given "kind" "list" slots ["queryKey"] rfl (by decide)
    obtain ⟨fs, hfields, hget⟩ := fields_given slots ["queryKey"] rfl (by decide)
    unfold decode
    simp only [hencode, htagged, hfields, Option.bind_eq_bind, Option.bind_some, Option.pure_def, if_true,
      required_string (hget "queryKey" rfl)]
  | aggregate queries =>
    let slots : Dict (Option Json) := [("queries", some (.object (Dict.mapValues (·.encode) queries)))]
    have hencode : (aggregate queries).encode = .ofMembers (("kind", .string "aggregate") :: Json.given slots) := rfl
    have htagged := tagged_given "kind" "aggregate" slots ["queries"] rfl (by decide)
    obtain ⟨fs, hfields, hget⟩ := fields_given slots ["queries"] rfl (by decide)
    unfold decode
    simp only [hencode, htagged, hfields, Option.bind_eq_bind, Option.bind_some, Option.pure_def, if_true,
      required_some (hget "queries" rfl) (dict_mapValues QueryDescriptor.decode_encode queries)]
    rfl

/-! ## Dashboards -/

theorem Dashboard.decode_encode (d : Dashboard) : decode d.encode = some d := by
  let slots : Dict (Option Json) :=
    [("id", some (.string d.id)), ("title", some (.string d.title)), ("description", d.description.map .string),
     ("dataSource", some d.data.encode), ("statsKey", d.statsKey.map .string),
     ("statsCards", some (.array (d.statsCards.map (·.encode)))),
     ("sections", some (.array (d.sections.map (·.encode)))), ("defaultSection", d.defaultSection.map .string)]
  have hencode : d.encode = .ofMembers (Json.given slots) := by simp [encode, slots]
  obtain ⟨fs, hfields, hget⟩ := fields_given slots (fieldShapes.map (·.1)) rfl (by decide)
  unfold decode
  simp only [hencode, hfields, Option.bind_eq_bind, Option.bind_some, Option.pure_def, required_string (hget "id" rfl),
    required_string (hget "title" rfl), optional_string_of_map (hget "description" rfl),
    required_some (hget "dataSource" rfl) (DataSpec.decode_encode d.data),
    optional_string_of_map (hget "statsKey" rfl),
    withDefault_some (hget "statsCards" rfl) (list_map StatsCard.decode_encode d.statsCards),
    withDefault_some (hget "sections" rfl) (list_map SectionSpec.decode_encode d.sections),
    optional_string_of_map (hget "defaultSection" rfl)]

/-! ## Effects -/

theorem DialogRequest.decode_encode (d : DialogRequest) : decode d.encode = some d := by
  let slots : Dict (Option Json) :=
    [("dialogId", some (.string d.dialogId)), ("entityId", some (.string d.entityId)), ("extra", d.extra.map .object)]
  have hencode : d.encode = .ofMembers (Json.given slots) := by simp [encode, slots]
  obtain ⟨fs, hfields, hget⟩ :=
    fields_given slots ["dialogId", "entityId", "extra"] rfl (by decide)
  unfold decode
  simp only [hencode, hfields, Option.bind_eq_bind, Option.bind_some, Option.pure_def,
    required_string (hget "dialogId" rfl), required_string (hget "entityId" rfl),
    optional_map (hget "extra" rfl) (fun members _ => object_object members) nofun]

theorem ActionEffect.decode_encode (e : ActionEffect) : decode e.encode = some e := by
  cases e with
  | navigate path =>
    let slots : Dict (Option Json) := [("path", some (.string path))]
    have hencode : (navigate path).encode = .ofMembers (("type", .string "navigate") :: Json.given slots) := rfl
    have htagged := tagged_given "type" "navigate" slots ["path"] rfl (by decide)
    obtain ⟨fs, hfields, hget⟩ := fields_given slots ["path"] rfl (by decide)
    unfold decode
    simp only [hencode, htagged, hfields, Option.bind_eq_bind, Option.bind_some, Option.pure_def, if_true,
      required_string (hget "path" rfl)]
  | mutate key params invalidates =>
    let slots : Dict (Option Json) :=
      [("key", some (.string key)), ("params", some params), ("invalidates", some (.strings invalidates))]
    have hencode : (mutate key params invalidates).encode =
        .ofMembers (("type", .string "mutate") :: Json.given slots) := rfl
    have htagged := tagged_given "type" "mutate" slots ["key", "params", "invalidates"] rfl (by decide)
    obtain ⟨fs, hfields, hget⟩ := fields_given slots ["key", "params", "invalidates"] rfl (by decide)
    have hparams : fs.required "params" json = some params := required_some (hget "params" rfl) rfl
    unfold decode
    simp only [hencode, htagged, hfields, Option.bind_eq_bind, Option.bind_some, Option.pure_def, if_true,
      required_string (hget "key" rfl), hparams, withDefault_some (hget "invalidates" rfl) (list_strings invalidates)]
    rfl
  | openDialog channel request =>
    let slots : Dict (Option Json) := [("namespace", some (.string channel)), ("request", some request.encode)]
    have hencode : (openDialog channel request).encode =
        .ofMembers (("type", .string "openDialog") :: Json.given slots) := rfl
    have htagged := tagged_given "type" "openDialog" slots ["namespace", "request"] rfl (by decide)
    obtain ⟨fs, hfields, hget⟩ := fields_given slots ["namespace", "request"] rfl (by decide)
    unfold decode
    simp only [hencode, htagged, hfields, Option.bind_eq_bind, Option.bind_some, Option.pure_def, if_true,
      required_string (hget "namespace" rfl),
      required_some (hget "request" rfl) (DialogRequest.decode_encode request)]
    rfl

/-! ## All formats -/

/-- Whatever the fields of a value hold, the parts of configurations, what is sent to the owners of dialogs and the
records are read back as they were written; the numbers of a candidate have 32 bits for this. All that can be read in
one of these formats, however it was written, has a normal form. -/
theorem formats_round_trip :
    RoundTrips FilterSpec.encode FilterSpec.decode (fun _ => True) ∧
      RoundTrips SectionSpec.encode SectionSpec.decode (fun _ => True) ∧
      RoundTrips JourneyStep.encode JourneyStep.decode (fun _ => True) ∧
      RoundTrips StatsCard.encode StatsCard.decode (fun _ => True) ∧
      RoundTrips LinkAction.encode LinkAction.decode (fun _ => True) ∧
      RoundTrips Breadcrumb.encode Breadcrumb.decode (fun _ => True) ∧
      RoundTrips EmptyState.encode EmptyState.decode (fun _ => True) ∧
      RoundTrips EntityName.encode EntityName.decode (fun _ => True) ∧
      RoundTrips StatusConfig.encode StatusConfig.decode (fun _ => True) ∧
      RoundTrips QueryDescriptor.encode QueryDescriptor.decode (fun _ => True) ∧
      RoundTrips DataSpec.encode DataSpec.decode (fun _ => True) ∧
      RoundTrips Dashboard.encode Dashboard.decode (fun _ => True) ∧
      RoundTrips DialogRequest.encode DialogRequest.decode (fun _ => True) ∧
      RoundTrips ActionEffect.encode ActionEffect.decode (fun _ => True) ∧
      RoundTrips Candidate.encode Candidate.decode Candidate.InRange :=
  ⟨.of_total FilterSpec.decode_encode, .of_total SectionSpec.decode_encode, .of_total JourneyStep.decode_encode,
    .of_total StatsCard.decode_encode, .of_total LinkAction.decode_encode, .of_total Breadcrumb.decode_encode,
    .of_total EmptyState.decode_encode, .of_total EntityName.decode_encode, .of_total StatusConfig.decode_encode,
    .of_total QueryDescriptor.decode_encode, .of_total DataSpec.decode_encode, .of_total Dashboard.decode_encode,
    .of_total DialogRequest.decode_encode, .of_total ActionEffect.decode_encode,
    .of_decode_encode Candidate.decode_encode Candidate.inRange_of_decode⟩

/-- A filter that was written as a list of its first fields gets their names. -/
example :
    normalForm? FilterSpec.encode FilterSpec.decode
        (.array [.string "hot", .object [("toggle", .null)], .string "Hot only", .null]) =
      some (.object [("key", .string "hot"), ("label", .string "Hot only"), ("type", .string "toggle")]) := by
  decide +kernel

end RecordScreens
