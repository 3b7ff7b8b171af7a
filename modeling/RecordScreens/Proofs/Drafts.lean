import RecordScreens.Column.Spec
import RecordScreens.Proofs.Failure.Requirements
import RecordScreens.Section.Spec

/-!
# Drafts

What the drafts of lists, details and dashboards have in common: what they hold once everything was
said of them, which sections they declare, and what is required of their columns.
-/

namespace RecordScreens

/-! ## What was said one after the other -/

section

variable {σ τ α : Type} {say : σ → τ → σ}

/-- A list that only grows at its end holds all that was said for it, in order. -/
theorem foldl_added {held : σ → List α} {added? : τ → Option α}
    (h : ∀ s t, held (say s t) = held s ++ (added? t).toList) (s : σ) (said : List τ) :
    held (said.foldl say s) = held s ++ said.filterMap added? := by
  induction said generalizing s with
  | nil => exact (List.append_nil _).symm
  | cons t rest ih =>
    rw [List.foldl_cons, ih, h, List.append_assoc, List.filterMap_cons]
    cases added? t <;> rfl

/-- What nothing is said for stays as it is. -/
theorem foldl_kept {held : σ → α} (h : ∀ s t, held (say s t) = held s) (s : σ) (said : List τ) :
    held (said.foldl say s) = held s := by
  induction said generalizing s with
  | nil => rfl
  | cons t rest ih => rw [List.foldl_cons, ih, h]

/-- What can be there only once is the last that was said for it. -/
theorem foldl_last {held : σ → Option α} {last? : τ → Option α}
    (h : ∀ s t, held (say s t) = (last? t).or (held s)) (s : σ) (said : List τ) :
    held (said.foldl say s) = (said.filterMap last?).getLast?.or (held s) := by
  induction said generalizing s with
  | nil => rfl
  | cons t rest ih =>
    rw [List.foldl_cons, ih, h, List.filterMap_cons]
    cases last? t with
    | none => rfl
    | some a =>
      rw [List.getLast?_cons]
      cases (rest.filterMap last?).getLast? <;> rfl

end

/-! ## Sections -/

theorem SectionSpec.declares_iff {sections : List SectionSpec} {id : String} :
    declares sections id = true ↔ id ∈ sections.map (·.id) := by
  simp [declares]

/-! ## Columns -/

namespace ColumnSpec

variable {R : Type} [Record R]

/-- A column that shows a field, and not what it makes of the record, shows one that records of this kind have. -/
def Addressed (c : ColumnSpec R) : Prop :=
  c.render = none → ∀ names, Record.declared R = some names → c.key ∈ names

/-- What is required of columns. -/
def requirements (columns : List (ColumnSpec R)) : List Requirement :=
  [.distinct "column" (columns.map (·.key)), .each columns Addressed fun c => .unknownField "column" c.key]

theorem addressed_iff (c : ColumnSpec R) : (c.isRendered || Record.hasField R c.key) = true ↔ c.Addressed := by
  unfold isRendered Record.hasField Addressed
  cases c.render with
  | some render => simp
  | none => cases Record.declared R <;> simp

theorem checkField_eq (c : ColumnSpec R) :
    c.checkField = ConfigError.ensure (.unknownField "column" c.key) (c.isRendered || Record.hasField R c.key) := by
  unfold checkField ConfigError.ensure
  simp only [Bool.or_eq_true]

theorem checks_columns (columns : List (ColumnSpec R)) : Checks (requirements columns) (checkAll columns) := by
  have hkeys := checks_ensureUnique "column" (columns.map (·.key))
  have hfields : Checks [.each columns Addressed fun c => .unknownField "column" c.key] (columns.forM checkField) := by
    rw [funext checkField_eq]
    exact checks_forM addressed_iff
  exact hkeys.bind hfields

end ColumnSpec

end RecordScreens
