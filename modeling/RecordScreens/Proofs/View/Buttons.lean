import RecordScreens.Detail.Screen
import RecordScreens.Listing.Screen
import RecordScreens.Proofs.Action.Effects
import RecordScreens.Proofs.Action.Menus
import RecordScreens.Proofs.Listing.Built
import RecordScreens.Proofs.Positions

/-!
# Buttons and clicks

A screen draws buttons for the record that it shows, and when an id is clicked, it looks
for an action with that id. On a screen that was built the two agree: what is drawn can
be clicked, and nothing else comes to an effect.
-/

namespace RecordScreens

variable {S R : Type}

/-! ## Drawn buttons -/

section

open ActionSpec

variable {actions : List (ActionSpec R)} {menu : List (MenuEntry (ActionSpec R))} {r : R}

theorem ActionButton.ofActions_eq (h : Decided actions r) :
    ofActions actions r = .ok ((actions.filter (isOffered r)).map ofAction) := by
  unfold ofActions
  rw [h.visibleActions_eq]
  rfl

/-- How an entry of a menu is drawn. -/
def MenuEntry.drawn : MenuEntry (ActionSpec R) → MenuEntry ActionButton
  | action a => action (.ofAction a)
  | separator => separator

theorem MenuView.ofMenu_eq_ok (h : Decided (MenuEntry.actions menu) r) : ∃ view, ofMenu menu r = .ok view ∧
    MenuEntry.actions view = ((MenuEntry.actions menu).filter (isOffered r)).map .ofAction := by
  have hview : ofMenu menu r = .ok ((MenuEntry.drawFrom (isOffered r) false false menu).map MenuEntry.drawn) := by
    unfold ofMenu MenuEntry.visible
    rw [MenuEntry.visibleFrom_eq h]
    rfl
  refine ⟨_, hview, ?_⟩
  rw [← MenuEntry.actions_drawFrom false false, MenuEntry.actions, MenuEntry.actions, List.filterMap_map,
    List.map_filterMap]
  refine List.filterMap_congr fun entry _ => ?_
  cases entry <;> rfl

end

/-! ## Clicks on a screen -/

namespace Dispatch

variable [DataSource S] [Record R]

/-- A run that looks at the state and is then the click of an action for a record. -/
def Resolves (a : ActionSpec R) (r : R) (others : Nat → Engine S → Engine S) (time : Nat) (e : Engine S)
    (ran : Ran (Engine S) (Except Halt ActionOutcome)) : Prop :=
  let clicked := (click a r).beside others time e
  ran = ⟨clicked.result, ⟨time, e, e⟩ :: clicked.steps, clicked.state⟩

/-- A run that does nothing and comes to an outcome. -/
def Declines (outcome : ActionOutcome) (e : Engine S) (ran : Ran (Engine S) (Except Halt ActionOutcome)) : Prop :=
  ran.result = .ok outcome ∧ (∀ step ∈ ran.steps, step.after = step.before) ∧ ran.state = e

/-- A click on one of some actions by its id, for a record that is looked up when it is clicked. -/
def clickOn (actions : List (ActionSpec R)) (shown : Engine S → Option R) (entityId actionId : String) :
    Routine (Engine S) (Except Halt ActionOutcome) :=
  match actions.find? (·.id == actionId) with
  | none => .done (.ok (.failed (.unknownAction actionId)))
  | some action => .act id fun e =>
    match shown e with
    | some r => dispatch action r
    | none => .done (.ok (.failed (.notLoaded entityId)))

variable {a : ActionSpec R} {r : R} {others : Nat → Engine S → Engine S} {time : Nat} {e : Engine S}

/-- A click takes a step. -/
theorem click_steps_ne_nil : ((click a r).beside others time e).steps ≠ [] := by
  unfold click
  cases resolve a r with
  | error error => exact nofun
  | ok effect => cases effect <;> exact nofun

/-- A click never comes to `hidden`. -/
theorem click_ends (a : ActionSpec R) (r : R) : (click a r : Routine (Engine S) _).Ends (· ≠ .ok .hidden) := by
  have hfail (error : ActionError) : (fail a.id (Record.id r) error : Routine (Engine S) _).Ends (· ≠ .ok .hidden) :=
    fun _ => nofun
  cases hresolve : resolve a r with
  | error error =>
    rw [click_of_error hresolve]
    exact hfail error
  | ok effect =>
    have happly : (apply effect : Routine (Engine S) _).Ends (· ≠ .ok (.ok .hidden)) := by
      have hmap {ε β : Type} (answer : Except ε β) {f : β → ActionOutcome} (hf : ∀ b, f b ≠ .hidden) :
          (.ok (answer.map f) : Except Halt (Except ε ActionOutcome)) ≠ .ok (.ok .hidden) := by
        cases answer with
        | error error => exact nofun
        | ok b => exact fun h => hf b (Except.ok.inj (Except.ok.inj h))
      cases effect with
      | navigate path => exact fun _ => hmap _ fun _ => nofun
      | mutate key params invalidates => exact (Routine.ends_true _).bind fun _ _ => hmap _ fun _ => nofun
      | openDialog channel request =>
        intro e
        change (Halt.contain (e.bus.publish channel request).1).map
          (Except.map (ActionOutcome.dialogRequested channel)) ≠ _
        rcases Halt.contain (e.bus.publish channel request).1 with halt | answer
        · exact nofun
        · exact hmap answer fun _ => nofun
    rw [click_of_effect hresolve]
    refine happly.bind fun answer hanswer => ?_
    rcases answer with halt | error | outcome
    · exact nofun
    · exact hfail error
    · rintro ⟨⟩
      exact hanswer rfl

/-- A run that is a click goes on after its look at the state, and does not come to `hidden`. -/
theorem Resolves.goes_on {ran : Ran (Engine S) (Except Halt ActionOutcome)} (h : Resolves a r others time e ran) :
    ran.result ≠ .ok .hidden ∧ ran.steps.tail ≠ [] := by
  rw [h]
  exact ⟨fun hhidden => (click_ends a r).result others time e hhidden, click_steps_ne_nil⟩

/-- What comes of a click by an id, where `drawn` says whether a button with this id is drawn and `shown` is the record
that it is drawn for. -/
structure Agrees (actions : List (ActionSpec R)) (shown : Option R) (entityId actionId : String) (drawn : Prop)
    (others : Nat → Engine S → Engine S) (time : Nat) (e : Engine S)
    (ran : Ran (Engine S) (Except Halt ActionOutcome)) : Prop where
  resolves_iff : (∃ (a : ActionSpec R) (r : R), Resolves a r others time e ran) ↔ drawn
  resolves : drawn → ∃ a ∈ actions, a.id = actionId ∧ ∃ r, shown = some r ∧ Resolves a r others time e ran
  hidden_iff : ran.result = .ok .hidden ↔ actionId ∈ actions.map (·.id) ∧ shown.isSome ∧ ¬ drawn
  hidden : ran.result = .ok .hidden → Declines .hidden e ran
  notLoaded : actionId ∈ actions.map (·.id) → shown = none → Declines (.failed (.notLoaded entityId)) e ran
  unknown : actionId ∉ actions.map (·.id) → Declines (.failed (.unknownAction actionId)) e ran

variable {actions : List (ActionSpec R)} {entityId actionId : String}

/-- A click that is declined where no button is drawn. -/
theorem agrees_of_declines {shown : Option R} {drawn : Prop} {outcome : ActionOutcome}
    {ran : Ran (Engine S) (Except Halt ActionOutcome)} (hran : Declines outcome e ran) (hsteps : ran.steps.tail = [])
    (hdrawn : ¬ drawn) (hhidden : outcome = .hidden ↔ actionId ∈ actions.map (·.id) ∧ shown.isSome)
    (hnotLoaded : actionId ∈ actions.map (·.id) → shown = none → outcome = .failed (.notLoaded entityId))
    (hunknown : actionId ∉ actions.map (·.id) → outcome = .failed (.unknownAction actionId)) :
    Agrees actions shown entityId actionId drawn others time e ran where
  resolves_iff := ⟨fun ⟨_, _, h⟩ => absurd hsteps h.goes_on.2, fun h => absurd h hdrawn⟩
  resolves h := absurd h hdrawn
  hidden_iff := by
    rw [hran.1, Except.ok.injEq, hhidden]
    simp [hdrawn]
  hidden h := by
    rw [hran.1] at h
    rwa [← Except.ok.inj h]
  notLoaded hdeclared hshown := hnotLoaded hdeclared hshown ▸ hran
  unknown hdeclared := hunknown hdeclared ▸ hran

/-- A click that is carried out where a button is drawn. -/
theorem agrees_of_resolves {shown : Option R} {drawn : Prop} {ran : Ran (Engine S) (Except Halt ActionOutcome)}
    (hran : Resolves a r others time e ran) (hdrawn : drawn) (ha : a ∈ actions) (hshown : shown = some r) :
    Agrees actions shown entityId a.id drawn others time e ran where
  resolves_iff := ⟨fun _ => hdrawn, fun _ => ⟨a, r, hran⟩⟩
  resolves _ := ⟨a, ha, rfl, r, hshown, hran⟩
  hidden_iff := ⟨fun h => absurd h hran.goes_on.1, fun h => absurd hdrawn h.2.2⟩
  hidden h := absurd h hran.goes_on.1
  notLoaded _ hnone := by
    rw [hshown] at hnone
    cases hnone
  unknown hdeclared := absurd (List.mem_map_of_mem ha) hdeclared

theorem Agrees.congr {shown : Option R} {drawn drawn' : Prop} {ran : Ran (Engine S) (Except Halt ActionOutcome)}
    (h : Agrees actions shown entityId actionId drawn others time e ran) (hdrawn : drawn ↔ drawn') :
    Agrees actions shown entityId actionId drawn' others time e ran := propext hdrawn ▸ h

variable {shown : Engine S → Option R}

/-- The run of a click on an action that is declared. -/
theorem clickOn_declared (hids : (actions.map (·.id)).Nodup) (ha : a ∈ actions) :
    (clickOn actions shown entityId a.id).beside others time e =
      let ran := (match shown e with
        | some r => dispatch a r
        | none => .done (.ok (.failed (.notLoaded entityId)))).beside others time e
      { ran with steps := ⟨time, e, e⟩ :: ran.steps } := by
  unfold clickOn
  rw [(find?_key_eq_some_iff hids).mpr ⟨ha, rfl⟩]
  rfl

theorem clickOn_undeclared (h : actionId ∉ actions.map (·.id)) :
    (clickOn actions shown entityId actionId).beside others time e =
      ⟨.ok (.failed (.unknownAction actionId)), [], e⟩ := by
  have hfind : actions.find? (·.id == actionId) = none := by
    refine List.find?_eq_none.mpr fun a ha hid => h ?_
    exact List.mem_map.mpr ⟨a, ha, by simpa using hid⟩
  unfold clickOn
  rw [hfind]
  rfl

/-- A click by an id comes to an action that is offered for the record that is shown, if there is one. -/
theorem agrees_clickOn (shown : Engine S → Option R) (hids : (actions.map (·.id)).Nodup)
    (hdecided : ∀ r, shown e = some r → ActionSpec.Decided actions r) (entityId actionId : String)
    (others : Nat → Engine S → Engine S) (time : Nat) :
    Agrees actions (shown e) entityId actionId (∃ r, shown e = some r ∧ ∃ a ∈ actions, a.isOffered r ∧ a.id = actionId)
      others time e ((clickOn actions shown entityId actionId).beside others time e) := by
  by_cases hdeclared : actionId ∈ actions.map (·.id)
  · obtain ⟨a, ha, rfl⟩ := List.mem_map.mp hdeclared
    rw [clickOn_declared hids ha]
    cases hshown : shown e with
    | none =>
      exact agrees_of_declines ⟨rfl, List.forall_mem_singleton.mpr rfl, rfl⟩ rfl (by simp) (by simp) (fun _ _ => rfl)
        (absurd hdeclared)
    | some r =>
      have hvisible := (hdecided r hshown).isVisible_eq ha
      cases hoffered : a.isOffered r with
      | true =>
        rw [hoffered] at hvisible
        refine agrees_of_resolves (r := r) ?_ ⟨r, rfl, a, ha, hoffered, rfl⟩ ha rfl
        simp only [Resolves, dispatch_of_visible hvisible]
      | false =>
        rw [hoffered] at hvisible
        simp only [dispatch_of_hidden hvisible]
        have hdeclines : Declines .hidden e
            (⟨.ok .hidden, [⟨time, e, e⟩], e⟩ : Ran (Engine S) (Except Halt ActionOutcome)) :=
          ⟨rfl, List.forall_mem_singleton.mpr rfl, rfl⟩
        refine agrees_of_declines hdeclines rfl ?_ ?_ nofun (absurd hdeclared)
        · -- The action is the only one with its id, and it is not offered.
          rintro ⟨r', hr', a', ha', hoffered', hid⟩
          cases hr'
          rw [List.inj_on_of_nodup_map hids ha' ha hid, hoffered] at hoffered'
          cases hoffered'
        · simp [hdeclared]
  · rw [clickOn_undeclared hdeclared]
    refine agrees_of_declines ⟨rfl, nofun, rfl⟩ rfl ?_ (by simp [hdeclared]) (fun h => absurd h hdeclared) fun _ => rfl
    rintro ⟨_, -, a, ha, -, hid⟩
    exact hdeclared (List.mem_map.mpr ⟨a, ha, hid⟩)

end Dispatch

/-! ## Screens -/

theorem DetailDraft.actions_nodup [Record R] {d : DetailDraft R} {c : DetailConfig R} (h : d.build = .ok c) :
    (c.actions.map (·.id)).Nodup := by
  unfold build at h
  obtain ⟨⟨⟩, -, h⟩ := bind_eq_ok.mp h
  obtain ⟨_, -, h⟩ := bind_eq_ok.mp h
  obtain ⟨_, -, h⟩ := bind_eq_ok.mp h
  obtain ⟨_, -, h⟩ := bind_eq_ok.mp h
  obtain ⟨_, -, h⟩ := bind_eq_ok.mp h
  obtain ⟨⟨⟩, -, h⟩ := bind_eq_ok.mp h
  obtain ⟨⟨⟩, -, h⟩ := bind_eq_ok.mp h
  obtain ⟨⟨⟩, -, h⟩ := bind_eq_ok.mp h
  obtain ⟨⟨⟩, hactions, h⟩ := bind_eq_ok.mp h
  obtain ⟨⟨⟩, -, h⟩ := bind_eq_ok.mp h
  obtain ⟨_, -, h⟩ := bind_eq_ok.mp h
  cases h
  exact ensureUnique_eq_ok.mp hactions

theorem ActionButton.exists_ofAction {actions : List (ActionSpec R)} {r : R} {actionId : String} :
    (∃ button ∈ (actions.filter (ActionSpec.isOffered r)).map ofAction, button.id = actionId) ↔
      ∃ a ∈ actions, a.isOffered r ∧ a.id = actionId := by
  constructor
  · rintro ⟨button, hbutton, hid⟩
    obtain ⟨a, ha, rfl⟩ := List.mem_map.mp hbutton
    obtain ⟨ha, hoffered⟩ := List.mem_filter.mp ha
    exact ⟨a, ha, hoffered, hid⟩
  · rintro ⟨a, ha, hoffered, hid⟩
    exact ⟨ofAction a, List.mem_map_of_mem (List.mem_filter.mpr ⟨ha, hoffered⟩), hid⟩

section

open Dispatch

variable [DataSource S] [Record R] {e : Engine S}

/-- The buttons of a detail screen are those whose clicks come to an action. -/
theorem DetailScreen.agrees_runAction {d : DetailDraft R} {s : DetailScreen R} (hbuild : d.build = .ok s.config)
    (hdecided : ∀ r, (s.record e).data? = some r → ActionSpec.Decided s.config.actions r) :
    ∃ buttons menu, s.quickActions e = .ok buttons ∧ s.menu e = .ok menu ∧
      ∀ actionId others time, Agrees s.config.actions (s.record e).data? s.entityId actionId
        (∃ button ∈ buttons ++ MenuEntry.actions menu, button.id = actionId) others time e
        ((s.runAction actionId).beside others time e) := by
  have hagrees := agrees_clickOn (fun e => (s.record e).data?) (DetailDraft.actions_nodup hbuild) hdecided
  cases hr : (s.record e).data? with
  | none =>
    refine ⟨[], [], ?_, ?_, fun actionId others time => ?_⟩
    · simp only [quickActions, hr]
    · simp only [menu, hr]
    · have h := hagrees s.entityId actionId others time
      rw [hr] at h
      exact h.congr (by simp [MenuEntry.actions])
  | some r =>
    have hquick : ActionSpec.Decided s.config.quickActions r :=
      fun a ha => hdecided r hr a (List.mem_append_left _ ha)
    have hmenu : ActionSpec.Decided (MenuEntry.actions s.config.menu) r :=
      fun a ha => hdecided r hr a (List.mem_append_right _ ha)
    obtain ⟨menu, hview, hactions⟩ := MenuView.ofMenu_eq_ok hmenu
    refine ⟨(s.config.quickActions.filter (ActionSpec.isOffered r)).map .ofAction, menu, ?_, ?_, ?_⟩
    · simp only [quickActions, hr]
      exact ActionButton.ofActions_eq hquick
    · simp only [DetailScreen.menu, hr]
      exact hview
    · intro actionId others time
      have h := hagrees s.entityId actionId others time
      rw [hr] at h
      refine h.congr ?_
      rw [hactions, ← List.map_append, ← List.filter_append, ActionButton.exists_ofAction]
      simp [DetailConfig.actions]

/-- The row of a record, where it is decided which actions are offered for it. -/
def ListScreen.rowOf (s : ListScreen R) (r : R) : RenderedRow where
  id := Record.id r
  detailPath := s.config.detailPath r
  cells := s.config.columns.map (Cell.ofColumn r)
  status := (Record.status r).map s.config.statusTable.resolve
  actions := (s.config.quickActions.filter (ActionSpec.isOffered r)).map .ofAction

theorem ListScreen.row_eq {s : ListScreen R} {r : R} (h : ActionSpec.Decided s.config.quickActions r) :
    s.row r = .ok (s.rowOf r) := by
  unfold row
  rw [ActionButton.ofActions_eq h]
  rfl

/-- The buttons in the rows of a list are those whose clicks come to an action, each for the record of its row. -/
theorem ListScreen.agrees_runAction {d : ListDraft R} {s : ListScreen R} (hbuild : d.build = .ok s.config)
    {page : Page R} (hpage : (s.state e).data? = some page) (hids : (page.items.map Record.id).Nodup)
    (hdecided : ∀ r ∈ page.items, ActionSpec.Decided s.config.quickActions r) :
    ∃ rows, s.rows e = .ok rows ∧ List.Forall₂ (fun r row => s.row r = .ok row) page.items rows ∧
      ∀ actionId others time,
        (∀ r row, (r, row) ∈ page.items.zip rows →
          Agrees s.config.quickActions (some r) row.id actionId (∃ button ∈ row.actions, button.id = actionId)
            others time e ((s.runAction actionId row.id).beside others time e)) ∧
        ∀ recordId ∉ rows.map (·.id),
          Agrees s.config.quickActions none recordId actionId False others time e
            ((s.runAction actionId recordId).beside others time e) := by
  have hrows : ∀ r ∈ page.items, s.row r = .ok (s.rowOf r) := fun r hr => row_eq (hdecided r hr)
  let shown (recordId : String) (e : Engine S) : Option R :=
    (s.state e).data?.bind fun page => page.items.find? (Record.id · == recordId)
  have hshown (recordId : String) : shown recordId e = page.items.find? (Record.id · == recordId) := by
    simp only [shown, hpage, Option.bind_some]
  have hagrees (recordId : String) := agrees_clickOn (shown recordId) (ListDraft.sound_of_build hbuild).actionIds
    (fun r hr => hdecided r (List.mem_of_find?_eq_some (hshown recordId ▸ hr))) recordId
  refine ⟨page.items.map s.rowOf, ?_, ?_, fun actionId others time => ⟨?_, ?_⟩⟩
  · simp only [rows, hpage]
    exact mapM_eq_ok hrows
  · rw [List.forall₂_map_right_iff]
    exact List.forall₂_same.mpr hrows
  · rintro r row hrow
    obtain ⟨hr, rfl⟩ : r ∈ page.items ∧ s.rowOf r = row := by
      have hzip : page.items.zip (page.items.map s.rowOf) = page.items.map fun r => (r, s.rowOf r) := by
        simpa using List.zip_map' (l := page.items) (f := id) (g := s.rowOf)
      obtain ⟨r', hr, heq⟩ := List.mem_map.mp (hzip ▸ hrow)
      cases heq
      exact ⟨hr, rfl⟩
    have h := hagrees (Record.id r) actionId others time
    rw [hshown, (find?_key_eq_some_iff hids).mpr ⟨hr, rfl⟩] at h
    refine h.congr ?_
    simp only [rowOf, ActionButton.exists_ofAction]
    simp
  · intro recordId habsent
    have h := hagrees recordId actionId others time
    have hnone : page.items.find? (Record.id · == recordId) = none := by
      refine List.find?_eq_none.mpr fun r hr hid => habsent ?_
      have hid : Record.id r = recordId := by simpa using hid
      exact List.mem_map.mpr ⟨s.rowOf r, List.mem_map_of_mem hr, hid⟩
    rw [hshown, hnone] at h
    exact h.congr (by simp)

/-- What is drawn is what can be clicked, on a detail screen and in the rows of a list, for the records that are
shown. -/
theorem drawn_iff_clickable (e : Engine S) :
    (∀ (d : DetailDraft R) (s : DetailScreen R), d.build = .ok s.config →
      (∀ r, (s.record e).data? = some r → ActionSpec.Decided s.config.actions r) →
      ∃ buttons menu, s.quickActions e = .ok buttons ∧ s.menu e = .ok menu ∧
        ∀ actionId others time, Agrees s.config.actions (s.record e).data? s.entityId actionId
          (∃ button ∈ buttons ++ MenuEntry.actions menu, button.id = actionId) others time e
          ((s.runAction actionId).beside others time e)) ∧
    (∀ (d : ListDraft R) (s : ListScreen R) (page : Page R), d.build = .ok s.config →
      (s.state e).data? = some page → (page.items.map Record.id).Nodup →
      (∀ r ∈ page.items, ActionSpec.Decided s.config.quickActions r) →
      ∃ rows, s.rows e = .ok rows ∧ List.Forall₂ (fun r row => s.row r = .ok row) page.items rows ∧
        ∀ actionId others time,
          (∀ r row, (r, row) ∈ page.items.zip rows →
            Agrees s.config.quickActions (some r) row.id actionId (∃ button ∈ row.actions, button.id = actionId)
              others time e ((s.runAction actionId row.id).beside others time e)) ∧
          ∀ recordId ∉ rows.map (·.id),
            Agrees s.config.quickActions none recordId actionId False others time e
              ((s.runAction actionId recordId).beside others time e)) :=
  ⟨fun _ _ hbuild hdecided => DetailScreen.agrees_runAction hbuild hdecided,
    fun _ _ _ hbuild hpage hids hdecided => ListScreen.agrees_runAction hbuild hpage hids hdecided⟩

end

/-- An action that is offered for new records. -/
def approve : ActionSpec JsonRecord :=
  ActionSpec.visibleForStatuses { id := "approve", label := "Approve", target := .navigate "/approve" } ["new"]

/-- An action that is offered for closed records. -/
def reopen : ActionSpec JsonRecord :=
  ActionSpec.visibleForStatuses { id := "reopen", label := "Reopen", target := .navigate "/reopen" } ["closed"]

/-- A screen that offers both actions for a deal. -/
def dealScreen : DetailScreen JsonRecord where
  config := {
    entityType := "deal", baseRoute := "/deals", channel := "deal", entityQuery := "deal", title := fun _ => "Deal"
    statusTable := {}, breadcrumbs := [], subtitleFields := [], metrics := []
    sections := [{ id := "notes", label := "Notes" }], defaultSection := "notes", journey := []
    quickActions := [approve], menu := [.separator, .action reopen], related := .ofQueries [] }
  entityId := "d1"
  entity := 0
  related := 2
  sections := .start [{ id := "notes", label := "Notes" }] "notes"
  host := 0

/-- A list that offers both actions for each deal. -/
def dealsScreen : ListScreen JsonRecord where
  config := {
    entityType := "deal", entityName := ⟨"Deal", "Deals"⟩, baseRoute := "/deals", title := "Deals", description := none
    icon := none, primaryAction := none, statsCards := [], statsQuery := none, filters := []
    columns := [{ key := "id", label := "Id" }], statusTable := {}, listQuery := "deals", pageSize := 25
    defaultSort := none, emptyState := { title := "No deals" }, quickActions := [approve, reopen] }
  query := 1
  sort := none

/-- A new deal and a closed one; the new one is shown on its own too. -/
def dealsLoaded : Engine Scripted where
  binder := {
    source := {}
    queries := [⟨.record { RecordQuery.ofRecord JsonRecord "deal" "d1" with watch := { value := .data deal } }, 1⟩,
      ⟨.list { ListQuery.ofRecords JsonRecord "deals" with
        watch := { value := .data { items := [deal, closed], total := 2, offset := 0 } } }, 1⟩] }
where
  deal : Json := .object [("id", .string "d1"), ("status", .string "new")]
  closed : Json := .object [("id", .string "d2"), ("status", .string "closed")]

/-- The new deal can be approved and not reopened; in the list the closed one can be reopened. -/
theorem drawn_iff_clickable_deals :
    (∃ (a : ActionSpec JsonRecord) (r : JsonRecord), Dispatch.Resolves a r (fun _ => id) 0 dealsLoaded
      ((dealScreen.runAction "approve").beside (fun _ => id) 0 dealsLoaded)) ∧
    ((dealScreen.runAction "reopen").beside (fun _ => id) 0 dealsLoaded).result = .ok .hidden ∧
    ∃ (a : ActionSpec JsonRecord) (r : JsonRecord), Dispatch.Resolves a r (fun _ => id) 0 dealsLoaded
      ((dealsScreen.runAction "reopen" "d2").beside (fun _ => id) 0 dealsLoaded) := by
  have hdecided (r : JsonRecord) : ActionSpec.Decided [approve, reopen] r := by
    rintro a ha
    rcases List.mem_pair.mp ha with rfl | rfl
    · exact ⟨_, rfl⟩
    · exact ⟨_, rfl⟩
  have hdetail : DetailDraft.build {
      entityType := "deal", baseRoute := some "/deals", entityQuery := some "deal"
      title := some dealScreen.config.title, sections := dealScreen.config.sections
      quickActions := [approve], menu := [.separator, .action reopen] } = .ok dealScreen.config := rfl
  have hlist : ListDraft.build {
      entityType := "deal", entityName := some ⟨"Deal", "Deals"⟩, title := some "Deals", baseRoute := some "/deals"
      listQuery := some "deals", columns := dealsScreen.config.columns, emptyState := some { title := "No deals" }
      quickActions := [approve, reopen] } = .ok dealsScreen.config := rfl
  let deal : JsonRecord := ⟨[("id", .string "d1"), ("status", .string "new")]⟩
  let closed : JsonRecord := ⟨[("id", .string "d2"), ("status", .string "closed")]⟩
  have hpage : (dealsScreen.state dealsLoaded).data? = some ⟨[deal, closed], 2, 0⟩ := rfl
  obtain ⟨hdetailed, hlisted⟩ := drawn_iff_clickable (R := JsonRecord) dealsLoaded
  obtain ⟨buttons, menu, hbuttons, hmenu, hagrees⟩ := hdetailed _ dealScreen hdetail fun r _ => hdecided r
  obtain ⟨rows, hrows, -, hrow⟩ := hlisted _ dealsScreen _ hlist hpage (by decide) fun r _ => hdecided r
  cases hbuttons
  cases hmenu
  cases hrows
  refine ⟨?_, ?_, ?_⟩
  · exact (hagrees "approve" (fun _ => id) 0).resolves_iff.mpr ⟨_, List.mem_cons_self, rfl⟩
  · refine (hagrees "reopen" (fun _ => id) 0).hidden_iff.mpr ⟨by decide, rfl, ?_⟩
    rintro ⟨button, hbutton, hid⟩
    cases List.mem_singleton.mp hbutton
    revert hid
    decide
  · exact ((hrow "reopen" (fun _ => id) 0).1 closed _ (List.mem_cons_of_mem _ List.mem_cons_self)).resolves_iff.mpr
      ⟨_, List.mem_cons_self, rfl⟩

end RecordScreens
