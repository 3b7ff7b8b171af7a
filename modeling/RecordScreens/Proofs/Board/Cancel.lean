import RecordScreens.Proofs.Board.Drag

/-!
# Cancelled drags

A drag that is given up writes the status back that the record had before, where a record
without a status counts as one with the empty status. So the record is as it was before if
it had a status, and else it has one from then on.
-/

namespace RecordScreens

theorem JsonRecord.status_eq_some_iff {r : JsonRecord} {s : String} :
    Record.status r = some s ↔ r.get? "status" = some (.string s) := by
  show (r.get? "status").bind Json.asString? = some s ↔ _
  rw [Option.bind_eq_some_iff]
  constructor
  · rintro ⟨v, hv, hs⟩
    cases v with
    | string t =>
      cases hs
      exact hv
    | _ => cases hs
  · intro h
    exact ⟨.string s, h, rfl⟩

namespace Board

variable {R : Type} [BoardRecord R] {b : Board R} {session : DragSession} {id s : String} {r : R}

theorem dragCancel_of_dragging (hdrag : b.gesture = .dragging session) :
    b.dragCancel = { b with gesture := .idle }.setStatus session.recordId session.statusBefore := by
  unfold dragCancel
  rw [hdrag]

variable [LawfulBoardRecord R]

/-- All that hovers do to a board is that they change the status of the dragged record, on any mapping. -/
theorem hover_of_dragging (hdrag : b.gesture = .dragging session) (columns : List String) :
    b.hover columns = b ∨ ∃ status, b.hover columns = b.setStatus session.recordId status := by
  induction columns generalizing b with
  | nil => exact .inl rfl
  | cons first rest ih =>
    have hstep : b.hover (first :: rest) = (b.dragOver first).2.hover rest := rfl
    rw [hstep, dragOver_of_dragging hdrag]
    cases statusOver b.mapping session first with
    | none => exact ih hdrag
    | some status =>
      right
      rcases ih (b := b.setStatus session.recordId status) hdrag with hrest | ⟨status', hrest⟩
      · exact ⟨status, hrest⟩
      · exact ⟨status', hrest.trans (setStatus_setStatus ..)⟩

/-- Of a drag that is given up, only the status is left that it wrote back. -/
theorem dragCancel_hover (hidle : b.gesture = .idle) (hr : b.record? id = some r) (columns : List String) :
    ((b.beginDrag id).2.hover columns).dragCancel = b.setStatus id (statusOf r) := by
  have hback : { b with gesture := .idle } = b := by rw [← hidle]
  rw [beginDrag_of_record? hr]
  let begun : Board R := { b with gesture := .dragging (sessionOf b.mapping id (statusOf r)) }
  rcases hover_of_dragging (b := begun) rfl columns with hover | ⟨status, hover⟩
  · rw [hover, dragCancel_of_dragging rfl]
    exact congrArg (setStatus id (statusOf r)) hback
  · rw [hover, dragCancel_of_dragging rfl]
    calc ({ b with gesture := .idle }.setStatus id status).setStatus id (statusOf r)
        = { b with gesture := .idle }.setStatus id (statusOf r) := setStatus_setStatus ..
      _ = b.setStatus id (statusOf r) := congrArg (setStatus id (statusOf r)) hback

/-- Only a record that has the status already stays as it is. -/
theorem records_setStatus_eq_iff (hr : b.record? id = some r) (hform : LawfulBoardRecord.WellFormed r) :
    (b.setStatus id s).records = b.records ↔ Record.status r = some s := by
  constructor
  · intro hrecords
    have hsame : (b.setStatus id s).record? id = b.record? id := congrArg (List.find? (Record.id · == id)) hrecords
    rw [record?_setStatus hr, hr] at hsame
    rw [← Option.some.inj hsame]
    exact LawfulBoardRecord.status_setStatus r s
  · intro hs
    rw [setStatus_status hr hform hs]

/-- A drag that is given up leaves no gesture and the commits as they were. If the status of the record is a string,
the board is as it was before the drag. If it is not, or if there is none, the record has the empty status from then
on. -/
theorem cancel_restores_status {b : Board JsonRecord} {id : String} {r : JsonRecord} (hidle : b.gesture = .idle)
    (hr : b.record? id = some r) (hform : Dict.Sorted r.members) (columns : List String) :
    let cancelled := ((b.beginDrag id).2.hover columns).dragCancel
    cancelled.gesture = .idle ∧ cancelled.lastTicket = b.lastTicket ∧ cancelled.inFlight = b.inFlight ∧
    ((∃ s, r.get? "status" = some (.string s)) → cancelled = b) ∧
    ((∀ s, r.get? "status" ≠ some (.string s)) →
      cancelled = b.setStatus id "" ∧ cancelled.records ≠ b.records) := by
  intro cancelled
  have hcancelled : cancelled = b.setStatus id (statusOf r) := dragCancel_hover hidle hr columns
  rw [hcancelled]
  refine ⟨hidle, rfl, rfl, ?_, ?_⟩
  · rintro ⟨s, hs⟩
    have hstatus : Record.status r = some s := JsonRecord.status_eq_some_iff.mpr hs
    rw [statusOf_eq hstatus]
    exact setStatus_status hr hform hstatus
  · intro hnone
    have hstatus : Record.status r = none := by
      rw [Option.eq_none_iff_forall_ne_some]
      exact fun s hs => hnone s (JsonRecord.status_eq_some_iff.mp hs)
    have hempty : statusOf r = "" := by simp [statusOf, hstatus]
    rw [hempty]
    refine ⟨rfl, fun hrecords => ?_⟩
    cases hstatus.symm.trans ((records_setStatus_eq_iff hr hform).mp hrecords)

/-- A drag over the other column and one that is not there. -/
theorem cancel_restores_status_triage : ((triage.beginDrag "b").2.hover ["done", "gone"]).dragCancel = triage := by
  have hr : triage.record? "b" = some ⟨[("id", .string "b"), ("status", .string "seen")]⟩ := rfl
  have hform : Dict.Sorted [("id", Json.string "b"), ("status", Json.string "seen")] :=
    List.pairwise_pair.mpr (by decide)
  obtain ⟨-, -, -, hrestored, -⟩ := cancel_restores_status rfl hr hform ["done", "gone"]
  exact hrestored ⟨"seen", rfl⟩

/-- A record without a status that was never dragged over a column does not come back. -/
theorem cancel_adds_status :
    let b : Board JsonRecord := { triage with records := [⟨[("id", .string "a")]⟩] }
    b.gesture = .idle ∧ b.record? "a" = some ⟨[("id", .string "a")]⟩ ∧
      ((b.beginDrag "a").2.hover []).dragCancel.records = [⟨[("id", .string "a"), ("status", .string "")]⟩] ∧
      ((b.beginDrag "a").2.hover []).dragCancel.records ≠ b.records := by
  refine ⟨rfl, rfl, by decide +kernel, by decide +kernel⟩

end Board

end RecordScreens
