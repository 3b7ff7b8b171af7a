import RecordScreens.Action.Spec

/-!
# Menus

Menus of actions with separators between groups. A menu is drawn for a record without
its hidden actions, and with no more separators than the groups that are left need.
-/

namespace RecordScreens

/-- An entry of a menu. -/
inductive MenuEntry (α : Type) where
  | action (a : α)
  | separator
  deriving DecidableEq, Repr

namespace MenuEntry

variable {α R : Type}

/-- The action of an entry. -/
def action? : MenuEntry α → Option α
  | action a => some a
  | separator => none

def isSeparator : MenuEntry α → Bool
  | action _ => false
  | separator => true

/-- The actions of a menu in order. -/
def actions (menu : List (MenuEntry α)) : List α := menu.filterMap action?

/-- The form in which a diagnostic shows an entry. -/
def diagnostic : MenuEntry (ActionSpec R) → String
  | action a => a.diagnostic
  | separator => "Separator"

end MenuEntry

namespace ActionSpec

variable {R : Type}

/-- The actions that are offered for a record. -/
def visibleActions (actions : List (ActionSpec R)) (r : R) : Except Panic (List (ActionSpec R)) :=
  actions.filterM (·.isVisible r)

end ActionSpec

namespace MenuEntry

variable {R : Type}

/-- Keeps the offered actions, with one separator before an action that another action and
a separator came before. -/
def visibleFrom (r : R) : (started pending : Bool) → List (MenuEntry (ActionSpec R)) →
    Except Panic (List (MenuEntry (ActionSpec R)))
  | _, _, [] => .ok []
  | started, _, separator :: rest => visibleFrom r started started rest
  | started, pending, action a :: rest => do
    if ← a.isVisible r then
      let shown ← visibleFrom r true false rest
      return (if pending then [separator] else []) ++ action a :: shown
    else visibleFrom r started pending rest

/-- The menu as it is drawn for a record. -/
def visible (menu : List (MenuEntry (ActionSpec R))) (r : R) :
    Except Panic (List (MenuEntry (ActionSpec R))) :=
  visibleFrom r false false menu

end MenuEntry

end RecordScreens
