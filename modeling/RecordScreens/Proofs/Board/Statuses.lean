import RecordScreens.Board.Basic
import RecordScreens.Proofs.Record.Lawful

/-!
# Statuses on a board

What the beginning of a drag and a change of the status of one record do to a board.
-/

namespace RecordScreens.Board

variable {R : Type} {b : Board R} {id s t : String}

theorem dragging_eq_some_iff :
    b.dragging = some id ↔ ∃ session, b.gesture = .dragging session ∧ session.recordId = id := by
  unfold dragging
  cases b.gesture <;> simp

theorem dragging_eq_none_iff : b.dragging = none ↔ ∀ session, b.gesture ≠ .dragging session := by
  unfold dragging
  cases b.gesture <;> simp

variable [BoardRecord R]

theorem statusOf_eq {r : R} (hs : Record.status r = some s) : statusOf r = s := by simp [statusOf, hs]

/-- The session of a drag that begins now. -/
def sessionOf (m : ColumnMapping) (id status : String) : DragSession where
  recordId := id
  statusBefore := status
  origin := m.columnOf status

theorem beginDrag_of_record? {r : R} (hr : b.record? id = some r) :
    b.beginDrag id = (true, { b with gesture := .dragging (sessionOf b.mapping id (statusOf r)) }) := by
  unfold beginDrag
  rw [hr]
  rfl

theorem beginDrag_of_none (hr : b.record? id = none) : b.beginDrag id = (false, b) := by
  unfold beginDrag
  rw [hr]

variable [LawfulBoardRecord R]

@[simp] theorem statusOf_setStatus (r : R) (s : String) : statusOf (BoardRecord.setStatus r s) = s := by
  simp [statusOf]

theorem setStatusOf_setStatusOf (id s t : String) (records : List R) :
    setStatusOf id t (setStatusOf id s records) = setStatusOf id t records := by
  induction records with
  | nil => rfl
  | cons r rest ih =>
    by_cases h : Record.id r = id
    · simp [setStatusOf, h]
    · simp [setStatusOf, h, ih]

/-- Only the last change of a status counts. -/
@[simp] theorem setStatus_setStatus (b : Board R) (id s t : String) :
    (b.setStatus id s).setStatus id t = b.setStatus id t := by
  unfold setStatus
  rw [setStatusOf_setStatusOf]

theorem find?_setStatusOf {records : List R} {r : R} (h : records.find? (Record.id · == id) = some r) :
    (setStatusOf id s records).find? (Record.id · == id) = some (BoardRecord.setStatus r s) := by
  induction records with
  | nil => cases h
  | cons first rest ih =>
    by_cases hid : Record.id first = id
    · simp only [List.find?_cons, hid, beq_self_eq_true] at h
      cases h
      simp [setStatusOf, hid]
    · simp only [List.find?_cons, beq_eq_false_iff_ne.mpr hid] at h
      simp [setStatusOf, hid, ih h]

theorem record?_setStatus {r : R} (h : b.record? id = some r) :
    (b.setStatus id s).record? id = some (BoardRecord.setStatus r s) :=
  find?_setStatusOf h

theorem setStatusOf_status {records : List R} {r : R} (h : records.find? (Record.id · == id) = some r)
    (hform : LawfulBoardRecord.WellFormed r) (hs : Record.status r = some s) : setStatusOf id s records = records := by
  induction records with
  | nil => rfl
  | cons first rest ih =>
    by_cases hid : Record.id first = id
    · simp only [List.find?_cons, hid, beq_self_eq_true] at h
      cases h
      simp [setStatusOf, hid, LawfulBoardRecord.setStatus_status hform hs]
    · simp only [List.find?_cons, beq_eq_false_iff_ne.mpr hid] at h
      simp [setStatusOf, hid, ih h]

/-- A record can be given the status that it has. -/
theorem setStatus_status {r : R} (h : b.record? id = some r) (hform : LawfulBoardRecord.WellFormed r)
    (hs : Record.status r = some s) : b.setStatus id s = b := by
  unfold setStatus
  rw [setStatusOf_status h hform hs]

/-- A board with two records in the first of two columns, of which the second one has another status than what is
dropped there. -/
def triage : Board JsonRecord where
  mapping := {
    claims := [⟨{ id := "open", title := "Open" }, ["new", "seen"]⟩, ⟨{ id := "done", title := "Done" }, ["closed"]⟩]
    fallback := "open"
    hidden := [] }
  commitKey := "move"
  records := [⟨[("id", .string "a"), ("status", .string "new")]⟩, ⟨[("id", .string "b"), ("status", .string "seen")]⟩]

end RecordScreens.Board
