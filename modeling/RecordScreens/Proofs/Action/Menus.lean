import Mathlib.Data.List.Chain
import RecordScreens.Action.Menu
import RecordScreens.Proofs.Failure.Checks
import RecordScreens.Record.Dynamic

/-!
# Menus without hidden actions

A menu is drawn for one record, and some of its actions may be hidden for it. What is left keeps its order, and the
separators keep apart just what they kept apart before: none begins or ends the menu, none follows another one, and two
groups of actions that are left are still two groups.
-/

namespace RecordScreens

variable {α R : Type}

/-! ## Offered actions -/

namespace ActionSpec

/-- For each of the actions it is decided whether it is offered for the record. -/
def Decided (actions : List (ActionSpec R)) (r : R) : Prop := ∀ a ∈ actions, ∃ offered, a.isVisible r = .ok offered

/-- Whether an action is offered for a record, as far as that is decided. -/
def isOffered (r : R) (a : ActionSpec R) : Bool :=
  match a.isVisible r with
  | .ok offered => offered
  | .error _ => false

variable {a : ActionSpec R} {actions : List (ActionSpec R)} {r : R}

theorem Decided.isVisible_eq (h : Decided actions r) (ha : a ∈ actions) : a.isVisible r = .ok (a.isOffered r) := by
  obtain ⟨offered, hoffered⟩ := h a ha
  rw [isOffered, hoffered]

theorem Decided.of_cons (h : Decided (a :: actions) r) :
    a.isVisible r = .ok (a.isOffered r) ∧ Decided actions r :=
  ⟨h.isVisible_eq List.mem_cons_self, fun b hb => h b (List.mem_cons_of_mem a hb)⟩

theorem Decided.visibleActions_eq (h : Decided actions r) :
    visibleActions actions r = .ok (actions.filter (isOffered r)) :=
  filterM_eq_ok fun _ => h.isVisible_eq

end ActionSpec

namespace MenuEntry

/-! ## What is left of a menu -/

/-- A menu of which the offered actions are left, in groups as before. -/
structure Tidies (offered : α → Bool) (menu shown : List (MenuEntry α)) : Prop where
  sublist : shown.Sublist menu
  actions_eq : actions shown = (actions menu).filter offered
  not_leading : shown.head? ≠ some separator
  not_trailing : shown.getLast? ≠ some separator
  not_doubled : ¬ [separator, separator] <:+: shown
  /-- Between offered actions without another one in between, one separator is left if there was one at all. -/
  apart : ∀ before a between b after, menu = before ++ action a :: (between ++ action b :: after) →
    offered a = true → offered b = true → (∀ c ∈ actions between, offered c = false) →
    ∃ shownBefore gap shownAfter, shown = shownBefore ++ action a :: (gap ++ action b :: shownAfter) ∧
      actions shownBefore = (actions before).filter offered ∧ actions shownAfter = (actions after).filter offered ∧
      (separator ∈ between → gap = [separator]) ∧ (separator ∉ between → gap = [])

/-- The entries that are drawn where it is known which actions are offered, after an action was drawn or not, and with a
separator to be drawn before the next one or not. -/
def drawFrom (offered : α → Bool) : (started pending : Bool) → List (MenuEntry α) → List (MenuEntry α)
  | _, _, [] => []
  | started, _, separator :: rest => drawFrom offered started started rest
  | started, pending, action a :: rest =>
    if offered a then (if pending then [separator] else []) ++ action a :: drawFrom offered true false rest
    else drawFrom offered started pending rest

section

open ActionSpec

variable {menu : List (MenuEntry (ActionSpec R))} {r : R}

/-- Where no predicate gives up, the menu is drawn by what they say. -/
theorem visibleFrom_eq (h : Decided (actions menu) r) (started pending : Bool) :
    visibleFrom r started pending menu = .ok (drawFrom (isOffered r) started pending menu) := by
  induction menu generalizing started pending with
  | nil => rfl
  | cons entry rest ih =>
    cases entry with
    | separator => exact ih h started started
    | action a =>
      obtain ⟨ha, hrest⟩ := h.of_cons
      unfold visibleFrom drawFrom
      rw [ha]
      cases a.isOffered r with
      | true =>
        simp only [bind, Except.bind, if_true, ih hrest]
        rfl
      | false => exact ih hrest started pending

/-- The first predicate that gives up ends the drawing. -/
theorem visibleFrom_of_panic {before after : List (ActionSpec R)} {a : ActionSpec R} {p : Panic}
    (hmenu : actions menu = before ++ a :: after) (hbefore : Decided before r) (ha : a.isVisible r = .error p)
    (started pending : Bool) : visibleFrom r started pending menu = .error p := by
  induction menu generalizing before started pending with
  | nil => exact absurd hmenu (by simp [actions])
  | cons entry rest ih =>
    cases entry with
    | separator => exact ih hmenu hbefore started started
    | action c =>
      have hactions : c :: actions rest = before ++ a :: after := hmenu
      unfold visibleFrom
      cases before with
      | nil =>
        cases hactions
        rw [ha]
        rfl
      | cons b before =>
        obtain ⟨rfl, hrest⟩ : c = b ∧ actions rest = before ++ a :: after := by simpa using hactions
        obtain ⟨hc, hbefore⟩ := hbefore.of_cons
        rw [hc]
        cases c.isOffered r with
        | true =>
          simp only [bind, Except.bind, if_true, ih hrest hbefore]
        | false => exact ih hrest hbefore started pending

end

section

variable {offered : α → Bool} {menu : List (MenuEntry α)}

theorem actions_drawFrom (started pending : Bool) :
    actions (drawFrom offered started pending menu) = (actions menu).filter offered := by
  induction menu generalizing started pending with
  | nil => rfl
  | cons entry rest ih =>
    cases entry with
    | separator => exact ih started started
    | action a =>
      have hactions : actions (action a :: rest) = a :: actions rest := rfl
      unfold drawFrom
      cases ha : offered a with
      | true =>
        rw [hactions, List.filter_cons_of_pos ha, ← ih true false]
        cases pending <;> rfl
      | false => rw [hactions, List.filter_cons_of_neg (by simp [ha]), ← ih started pending]; rfl

/-- A separator that is drawn was there, or it is the one that is pending. -/
theorem drawFrom_sublist (started pending : Bool) :
    (drawFrom offered started pending menu).Sublist ((if pending then [separator] else []) ++ menu) := by
  induction menu generalizing started pending with
  | nil => exact List.nil_sublist _
  | cons entry rest ih =>
    cases entry with
    | separator =>
      refine (ih started started).trans (List.Sublist.trans ?_ (List.sublist_append_right _ _))
      cases started <;> simp
    | action a =>
      unfold drawFrom
      split
      · exact (List.Sublist.refl _).append ((ih true false).cons_cons _)
      · exact (ih started pending).trans ((List.Sublist.refl _).append (List.sublist_cons_self _ _))

theorem head?_drawFrom : (drawFrom offered false false menu).head? ≠ some separator := by
  induction menu with
  | nil => exact nofun
  | cons entry rest ih =>
    cases entry with
    | separator => exact ih
    | action a =>
      unfold drawFrom
      split
      · simp
      · exact ih

theorem getLast?_drawFrom (started pending : Bool) :
    (drawFrom offered started pending menu).getLast? ≠ some separator := by
  induction menu generalizing started pending with
  | nil => exact nofun
  | cons entry rest ih =>
    cases entry with
    | separator => exact ih started started
    | action a =>
      unfold drawFrom
      split
      · have hrest := ih true false
        rw [List.getLast?_append, List.getLast?_cons]
        cases hlast : (drawFrom offered true false rest).getLast? with
        | none => simp
        | some e => simpa [hlast] using hrest
      · exact ih started pending

/-- Of two entries that follow each other, one is an action. -/
theorem isChain_drawFrom (started pending : Bool) :
    (drawFrom offered started pending menu).IsChain fun e e' => ¬ (e = separator ∧ e' = separator) := by
  induction menu generalizing started pending with
  | nil => exact .nil
  | cons entry rest ih =>
    cases entry with
    | separator => exact ih started started
    | action a =>
      unfold drawFrom
      split
      · have hrest : (action a :: drawFrom offered true false rest).IsChain
            fun e e' => ¬ (e = separator ∧ e' = separator) :=
          List.isChain_cons.mpr ⟨fun _ _ => nofun, ih true false⟩
        cases pending with
        | true => exact List.isChain_cons.mpr ⟨by simp, hrest⟩
        | false => exact hrest
      · exact ih started pending

/-! ## Groups -/

/-- Hidden actions leave nothing, and separators between them leave one that is pending. -/
theorem drawFrom_hidden {between : List (MenuEntry α)} (h : ∀ c ∈ actions between, offered c = false)
    (started pending : Bool) (rest : List (MenuEntry α)) :
    drawFrom offered started pending (between ++ rest) =
      drawFrom offered started (if between.any isSeparator then started else pending) rest := by
  induction between generalizing pending with
  | nil => rfl
  | cons entry between ih =>
    cases entry with
    | separator =>
      refine (ih h started).trans ?_
      simp [isSeparator]
    | action a =>
      obtain ⟨ha, hbetween⟩ := List.forall_mem_cons.mp (show ∀ c ∈ a :: actions between, offered c = false from h)
      rw [List.cons_append, drawFrom, ha]
      simpa [isSeparator] using ih hbetween pending

/-- What comes after an offered action is drawn without regard to what comes before it. -/
theorem drawFrom_split {a : α} (ha : offered a = true) (before after : List (MenuEntry α)) (started pending : Bool) :
    ∃ drawn, drawFrom offered started pending (before ++ action a :: after) =
        drawn ++ action a :: drawFrom offered true false after ∧
      actions drawn = (actions before).filter offered := by
  induction before generalizing started pending with
  | nil =>
    refine ⟨if pending then [separator] else [], ?_, by cases pending <;> rfl⟩
    rw [List.nil_append, drawFrom, if_pos ha]
  | cons entry before ih =>
    cases entry with
    | separator => exact ih started started
    | action c =>
      have hactions : actions (action c :: before) = c :: actions before := rfl
      rw [List.cons_append, drawFrom, hactions]
      cases hc : offered c with
      | true =>
        obtain ⟨drawn, hdrawn, hfilter⟩ := ih true false
        refine ⟨(if pending then [separator] else []) ++ action c :: drawn, ?_, ?_⟩
        · simp [hdrawn]
        · rw [List.filter_cons_of_pos hc, ← hfilter]
          cases pending <;> rfl
      | false =>
        rw [List.filter_cons_of_neg (by simp [hc])]
        exact ih started pending

theorem mem_separator_iff {entries : List (MenuEntry α)} :
    separator ∈ entries ↔ entries.any isSeparator = true := by
  rw [List.any_eq_true]
  constructor
  · exact fun h => ⟨separator, h, rfl⟩
  · rintro ⟨entry, hentry, hseparator⟩
    cases entry with
    | separator => exact hentry
    | action a => cases hseparator

theorem tidies_drawFrom (offered : α → Bool) (menu : List (MenuEntry α)) :
    Tidies offered menu (drawFrom offered false false menu) where
  sublist := drawFrom_sublist false false
  actions_eq := actions_drawFrom false false
  not_leading := head?_drawFrom
  not_trailing := getLast?_drawFrom false false
  not_doubled h := by
    obtain ⟨before, after, hdoubled⟩ := h
    have hchain := hdoubled ▸ isChain_drawFrom false false
    have hpair := hchain.left_of_append.right_of_append
    simp at hpair
  apart := by
    rintro before a between b after rfl ha hb hbetween
    -- Both actions are drawn, and what stands between them only decides whether a separator is pending at the second.
    obtain ⟨drawn, hdrawn, hbefore⟩ := drawFrom_split ha before (between ++ action b :: after) false false
    refine ⟨drawn, if between.any isSeparator then [separator] else [], drawFrom offered true false after, ?_, hbefore,
      actions_drawFrom true false, fun h => ?_, fun h => ?_⟩
    · rw [hdrawn, drawFrom_hidden hbetween, drawFrom, if_pos hb]
      cases between.any isSeparator <;> rfl
    · rw [if_pos (mem_separator_iff.mp h)]
    · rw [if_neg (mt mem_separator_iff.mpr h)]

end

/-! ## The law -/

open ActionSpec in
/-- A menu is drawn with the actions that are offered, in their order, and with one separator between two of them just
if there was one between them. If a predicate gives up, the first one that does ends the drawing. -/
theorem visible_tidies (menu : List (MenuEntry (ActionSpec R))) (r : R) :
    (Decided (actions menu) r → ∃ shown, visible menu r = .ok shown ∧
      visibleActions (actions menu) r = .ok (actions shown) ∧ Tidies (isOffered r) menu shown) ∧
    ∀ before a after p, actions menu = before ++ a :: after → Decided before r → a.isVisible r = .error p →
      visible menu r = .error p := by
  refine ⟨fun h => ?_, fun before a after p hmenu hbefore ha => visibleFrom_of_panic hmenu hbefore ha false false⟩
  have htidies := tidies_drawFrom (isOffered r) menu
  exact ⟨_, visibleFrom_eq h false false, htidies.actions_eq ▸ h.visibleActions_eq, htidies⟩

/-- A separator, or an action on articles in some statuses. -/
def articleEntry : Option (String × List String) → MenuEntry (ActionSpec JsonRecord)
  | none => separator
  | some (id, statuses) =>
    action (ActionSpec.visibleForStatuses { id, label := id, target := .mutate id [] [] } statuses)

/-- A menu whose separators stand at both ends, next to each other and beside actions that are hidden for drafts. -/
def articleMenu : List (MenuEntry (ActionSpec JsonRecord)) :=
  [none, some ("retract", ["live"]), none, some ("edit", ["draft", "live"]), none, some ("archive", ["live"]),
    none, none, some ("publish", ["draft"]), some ("share", ["live"]), some ("delete", ["draft", "live"]),
    none].map articleEntry

/-- For a draft two groups are left. With an action that gives up, nothing is drawn. -/
theorem visible_tidies_article :
    let draft : JsonRecord := ⟨[("id", .string "a1"), ("status", .string "draft")]⟩
    let shown := [some ("edit", ["draft", "live"]), none, some ("publish", ["draft"]),
      some ("delete", ["draft", "live"])].map articleEntry
    let shy : ActionSpec JsonRecord :=
      { id := "pin", label := "Pin", target := .mutate "pin" [] [], visible := some fun _ => .error ⟨some "boom"⟩ }
    ActionSpec.Decided (actions articleMenu) draft ∧ visible articleMenu draft = .ok shown ∧
      Tidies (ActionSpec.isOffered draft) articleMenu shown ∧
      visible (.action shy :: articleMenu) draft = .error ⟨some "boom"⟩ := by
  intro draft shown shy
  have hdecided : ActionSpec.Decided (actions articleMenu) draft := by
    intro a ha
    obtain ⟨entry, hentry, hentry'⟩ := List.mem_filterMap.mp ha
    obtain ⟨spec, -, rfl⟩ := List.mem_map.mp hentry
    cases spec with
    | none => cases hentry'
    | some spec =>
      cases hentry'
      exact ⟨_, rfl⟩
  obtain ⟨drawn, hdrawn, -, htidies⟩ := (visible_tidies articleMenu draft).1 hdecided
  have hshown : visible articleMenu draft = .ok shown := rfl
  cases hdrawn.symm.trans hshown
  exact ⟨hdecided, hshown, htidies, (visible_tidies _ draft).2 [] shy (actions articleMenu) _ rfl nofun rfl⟩

end MenuEntry

end RecordScreens
