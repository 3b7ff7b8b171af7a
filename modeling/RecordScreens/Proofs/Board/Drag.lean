import RecordScreens.Proofs.Board.Mapping
import RecordScreens.Proofs.Board.Statuses
import RecordScreens.Proofs.Query.Mutation

/-!
# Drags from start to end

A drag over any columns leaves the status of the last declared one. Its end compares
statuses, and on a mapping that was built this is the same as comparing columns.
-/

namespace RecordScreens

open ColumnMapping

/-! ## Hovers -/

/-- The last of the columns that is declared. -/
def ColumnMapping.lastDeclared (m : ColumnMapping) (columns : List String) : Option String :=
  (columns.filter (m.Declares ·)).getLast?

namespace Board

variable {R : Type} [BoardRecord R] {b : Board R} {m : ColumnMapping} {session : DragSession} {column status : String}

/-- Drags over columns, one after the other. -/
def hover (columns : List String) (b : Board R) : Board R := columns.foldl (fun b column => (b.dragOver column).2) b

/-- Over a column, a dragged record is in that column. -/
theorem columnOf_statusOver (hm : m.WellFormed) (horigin : session.origin = m.columnOf session.statusBefore)
    (h : statusOver m session column = some status) : m.columnOf status = column := by
  unfold statusOver at h
  split at h
  · rename_i hcolumn
    cases h
    rw [hcolumn, horigin]
  · exact columnOf_of_dropStatus? hm h

theorem statusOver_isSome_iff (hm : m.WellFormed) (horigin : session.origin = m.columnOf session.statusBefore) :
    (statusOver m session column).isSome ↔ m.Declares column := by
  unfold statusOver
  split
  · rename_i hcolumn
    rw [hcolumn, horigin]
    exact ⟨fun _ => declares_columnOf hm _, fun _ => rfl⟩
  · exact dropStatus?_isSome_iff hm

theorem dragOver_of_dragging (hdrag : b.gesture = .dragging session) (column : String) :
    b.dragOver column = match statusOver b.mapping session column with
      | some status => (true, b.setStatus session.recordId status)
      | none => (false, b) := by
  unfold dragOver
  split
  · rename_i session' hdrag'
    cases hdrag.symm.trans hdrag'
    rfl
  · rename_i hnot
    exact absurd hdrag (hnot session)

theorem dragEnd_of_dragging {r : R} (hdrag : b.gesture = .dragging session)
    (hr : b.record? session.recordId = some r) :
    b.dragEnd =
      if statusOf r = session.statusBefore then (.unchanged session.recordId, { b with gesture := .idle })
      else (.commit (issueCommit session (statusOf r) { b with gesture := .idle }).1,
        (issueCommit session (statusOf r) { b with gesture := .idle }).2) := by
  unfold dragEnd
  rw [hdrag]
  simp only [hr, Option.map_some, Option.getD_some]

theorem lastDeclared_cons (m : ColumnMapping) (column : String) (rest : List String) :
    m.lastDeclared (column :: rest) =
      if m.Declares column then some ((m.lastDeclared rest).getD column) else m.lastDeclared rest := by
  unfold lastDeclared
  rw [List.filter_cons]
  by_cases h : m.Declares column
  · simp [h, List.getLast?_cons]
  · simp [h]

variable [LawfulBoardRecord R]

/-- What hovers leave of a board is the status of the last declared column. -/
theorem hover_eq (hm : b.mapping.WellFormed) (horigin : session.origin = b.mapping.columnOf session.statusBefore)
    (hdrag : b.gesture = .dragging session) (columns : List String) :
    (b.mapping.lastDeclared columns = none → b.hover columns = b) ∧
    ∀ column, b.mapping.lastDeclared columns = some column →
      ∃ status, statusOver b.mapping session column = some status ∧
        b.hover columns = b.setStatus session.recordId status := by
  -- Each declared column writes over the status of the one before, and the others change nothing.
  induction columns generalizing b with
  | nil => exact ⟨fun _ => rfl, fun column h => by cases h⟩
  | cons first rest ih =>
    have hstep : b.hover (first :: rest) = (b.dragOver first).2.hover rest := rfl
    rw [lastDeclared_cons, hstep, dragOver_of_dragging hdrag]
    have hiff : _ ↔ b.mapping.Declares first := statusOver_isSome_iff hm horigin
    cases hstatus : statusOver b.mapping session first with
    | none =>
      have hnot : ¬ b.mapping.Declares first := fun h => by simp [hstatus] at hiff; exact hiff h
      rw [if_neg hnot]
      exact ih hm horigin hdrag
    | some status =>
      have hdeclares : b.mapping.Declares first := hiff.mp (by rw [hstatus]; rfl)
      obtain ⟨hnone, hsome⟩ := ih (b := b.setStatus session.recordId status) hm horigin hdrag
      rw [if_pos hdeclares]
      constructor
      · intro h
        cases h
      · intro column h
        cases hrest : b.mapping.lastDeclared rest with
        | none =>
          rw [hrest] at h
          cases h
          exact ⟨status, hstatus, hnone hrest⟩
        | some last =>
          rw [hrest] at h
          cases h
          obtain ⟨status', hstatus', hhover⟩ := hsome last hrest
          exact ⟨status', hstatus', hhover.trans (setStatus_setStatus ..)⟩

/-! ## Whole drags -/

section

variable {id s : String} {r : R}

/-- The board at the end of the hovers of a drag. -/
theorem hover_beginDrag (hm : b.mapping.WellFormed) (hr : b.record? id = some r) (hs : Record.status r = some s)
    (hform : LawfulBoardRecord.WellFormed r) (columns : List String) :
    ∃ status,
      (b.beginDrag id).2.hover columns =
        { b with gesture := .dragging (sessionOf b.mapping id s) }.setStatus id status ∧
      (b.mapping.lastDeclared columns = none → status = s) ∧
      ∀ column, b.mapping.lastDeclared columns = some column →
        statusOver b.mapping (sessionOf b.mapping id s) column = some status := by
  rw [beginDrag_of_record? hr, statusOf_eq hs]
  obtain ⟨hnone, hsome⟩ := hover_eq (b := { b with gesture := .dragging (sessionOf b.mapping id s) }) hm rfl rfl columns
  cases hlast : b.mapping.lastDeclared columns with
  | none =>
    refine ⟨s, ?_, fun _ => rfl, fun column h => by cases h⟩
    have hr' : { b with gesture := .dragging (sessionOf b.mapping id s) }.record? id = some r := hr
    exact (hnone hlast).trans (setStatus_status hr' hform hs).symm
  | some column =>
    obtain ⟨status, hstatus, hhover⟩ := hsome column hlast
    refine ⟨status, hhover, ?_, ?_⟩
    · intro h
      cases h
    · intro column' h
      cases h
      exact hstatus

/-- On a mapping that was built, a status is the old one only in the old column. -/
theorem statusOver_eq_iff (hm : m.WellFormed) (h : statusOver m (sessionOf m id s) column = some status) :
    status = s ↔ column = m.columnOf s := by
  constructor
  · rintro rfl
    exact (columnOf_statusOver hm rfl h).symm
  · intro hcolumn
    have hover : statusOver m (sessionOf m id s) column = some s := if_pos hcolumn
    exact Option.some.inj (h.symm.trans hover)

/-- A hover of a dragged record: it is in the column then, and a column that is not declared is refused. -/
theorem dragOver_dragged (hm : b.mapping.WellFormed) (hr : b.record? id = some r)
    (hdrag : b.gesture = .dragging (sessionOf b.mapping id s)) (column : String) :
    (b.mapping.Declares column → (b.dragOver column).1 = true ∧
      ∃ r', (b.dragOver column).2.record? id = some r' ∧ b.mapping.columnOf (statusOf r') = column) ∧
    (¬ b.mapping.Declares column → b.dragOver column = (false, b)) := by
  have hiff : (statusOver b.mapping (sessionOf b.mapping id s) column).isSome ↔ _ := statusOver_isSome_iff hm rfl
  rw [dragOver_of_dragging hdrag]
  cases hstatus : statusOver b.mapping (sessionOf b.mapping id s) column with
  | none =>
    rw [hstatus] at hiff
    exact ⟨fun h => absurd (hiff.mpr h) Bool.false_ne_true, fun _ => rfl⟩
  | some status =>
    rw [hstatus] at hiff
    refine ⟨fun _ => ⟨rfl, _, record?_setStatus hr, ?_⟩, fun h => absurd (hiff.mp rfl) h⟩
    rw [statusOf_setStatus]
    exact columnOf_statusOver hm rfl hstatus

/-- A drag that came back to its column, or never left it, changes nothing. -/
theorem dragEnd_back (hm : b.mapping.WellFormed) (hidle : b.gesture = .idle) (hr : b.record? id = some r)
    (hs : Record.status r = some s) (hform : LawfulBoardRecord.WellFormed r) {columns : List String}
    (hback : ∀ column, b.mapping.lastDeclared columns = some column → column = b.mapping.columnOf s) :
    ((b.beginDrag id).2.hover columns).dragEnd = (.unchanged id, b) := by
  obtain ⟨status, hhover, hnone, hsome⟩ := hover_beginDrag hm hr hs hform columns
  have hstatus : status = s := by
    cases hlast : b.mapping.lastDeclared columns with
    | none => exact hnone hlast
    | some column => exact (statusOver_eq_iff hm (hsome column hlast)).mpr (hback column hlast)
  have hr' : { b with gesture := .dragging (sessionOf b.mapping id s) }.record? id = some r := hr
  have hend : { b with gesture := .idle } = b := by rw [← hidle]
  rw [hhover, hstatus, setStatus_status hr' hform hs, dragEnd_of_dragging rfl hr']
  rw [if_pos (by simp [statusOf, hs, sessionOf])]
  exact congrArg (Prod.mk _) hend

/-- A drag that ends over another column hands out a commit. -/
theorem dragEnd_elsewhere (hm : b.mapping.WellFormed) (hr : b.record? id = some r) (hs : Record.status r = some s)
    (hform : LawfulBoardRecord.WellFormed r) {columns : List String}
    (hlast : b.mapping.lastDeclared columns = some column) (hcolumn : column ≠ b.mapping.columnOf s) :
    ∃ status, b.mapping.dropStatus? column = some status ∧
      ((b.beginDrag id).2.hover columns).dragEnd.1 = .commit {
        recordId := id, statusBefore := s, statusAfter := status, ticket := b.lastTicket + 1, key := b.commitKey,
        invalidates := b.invalidates } := by
  obtain ⟨status, hhover, -, hsome⟩ := hover_beginDrag hm hr hs hform columns
  have hover := hsome column hlast
  have hne : status ≠ s := fun h => hcolumn ((statusOver_eq_iff hm hover).mp h)
  -- The last column is not the first one, so it gives the status that drops there have.
  have hdrop : b.mapping.dropStatus? column = some status := by
    rw [← hover]
    exact (if_neg hcolumn).symm
  have hr' : { b with gesture := .dragging (sessionOf b.mapping id s) }.record? id = some r := hr
  have hend := dragEnd_of_dragging
    (b := { b with gesture := .dragging (sessionOf b.mapping id s) }.setStatus id status) rfl (record?_setStatus hr')
  rw [statusOf_setStatus] at hend
  refine ⟨status, hdrop, ?_⟩
  rw [hhover]
  exact congrArg Prod.fst (hend.trans (if_neg hne))

end

end Board

/-- A commit sends its mutation once, with the id of the record and its new status. -/
theorem PendingCommit.sendsOnce {S : Type} [DataSource S] (c : PendingCommit) :
    Binder.SendsOnce ⟨.mutate, c.key, c.params⟩ (c.run : Routine (Binder (Logged S)) CommitResult) :=
  (Binder.sendsOnce_mutate c.key c.params c.invalidates).bind fun _ => Routine.keeps_done _

namespace Board

variable {R : Type} [BoardRecord R] [LawfulBoardRecord R]

/-- A drag from start to end, on a mapping that was built. Every declared column takes the record in, and no other
one does. The end hands out a commit if and only if the last of them is another column than the first; else the
board is as it was before. -/
theorem drag_session {d : MappingDraft} {b : Board R} {id s : String} {r : R} (hbuild : d.build = .ok b.mapping)
    (hidle : b.gesture = .idle) (hr : b.record? id = some r) (hs : Record.status r = some s)
    (hform : LawfulBoardRecord.WellFormed r) (columns : List String) :
    let m := b.mapping
    let dragged := (b.beginDrag id).2.hover columns
    (∀ column,
      (m.Declares column → (dragged.dragOver column).1 = true ∧
        ∃ r', (dragged.dragOver column).2.record? id = some r' ∧ m.columnOf (statusOf r') = column) ∧
      (¬ m.Declares column → dragged.dragOver column = (false, dragged))) ∧
    ((∃ c, dragged.dragEnd.1 = .commit c) ↔
      ∃ column, m.lastDeclared columns = some column ∧ column ≠ m.columnOf s) ∧
    (∀ c, dragged.dragEnd.1 = .commit c → c.recordId = id ∧ c.statusBefore = s ∧
      (∃ column, m.lastDeclared columns = some column ∧ m.dropStatus? column = some c.statusAfter) ∧
      ∀ (S : Type) [DataSource S],
        Binder.SendsOnce ⟨.mutate, b.commitKey, .ofMembers [("id", .string id), ("status", .string c.statusAfter)]⟩
          (c.run : Routine (Binder (Logged S)) CommitResult)) ∧
    ((∀ c, dragged.dragEnd.1 ≠ .commit c) → dragged.dragEnd = (.unchanged id, b)) := by
  have hm := MappingDraft.wellFormed_of_build hbuild
  have hback : _ → ((b.beginDrag id).2.hover columns).dragEnd = _ := dragEnd_back hm hidle hr hs hform
  refine ⟨?_, ?_, ?_, ?_⟩
  · intro column
    obtain ⟨status, hhover, -, -⟩ := hover_beginDrag hm hr hs hform columns
    have hr' : { b with gesture := .dragging (sessionOf b.mapping id s) }.record? id = some r := hr
    rw [hhover]
    exact dragOver_dragged (b := { b with gesture := .dragging (sessionOf b.mapping id s) }.setStatus id status) hm
      (record?_setStatus hr') rfl column
  · constructor
    · rintro ⟨c, hc⟩
      apply Classical.byContradiction
      intro hnone
      -- A drag that came back to its column hands out nothing.
      rw [hback fun column hlast => Classical.byContradiction fun hne => hnone ⟨column, hlast, hne⟩] at hc
      cases hc
    · rintro ⟨column, hlast, hcolumn⟩
      obtain ⟨status, -, hend⟩ := dragEnd_elsewhere hm hr hs hform hlast hcolumn
      exact ⟨_, hend⟩
  · intro c hc
    by_cases hstays : ∀ column, b.mapping.lastDeclared columns = some column → column = b.mapping.columnOf s
    · rw [hback hstays] at hc
      cases hc
    · obtain ⟨column, hnot⟩ := Classical.not_forall.mp hstays
      obtain ⟨hlast, hcolumn⟩ := Classical.not_imp.mp hnot
      obtain ⟨status, hdrop, hend⟩ := dragEnd_elsewhere hm hr hs hform hlast hcolumn
      rw [hend] at hc
      cases hc
      exact ⟨rfl, rfl, ⟨column, hlast, hdrop⟩, fun S _ => PendingCommit.sendsOnce _⟩
  · intro hnone
    apply hback
    intro column hlast
    apply Classical.byContradiction
    intro hcolumn
    obtain ⟨status, -, hend⟩ := dragEnd_elsewhere hm hr hs hform hlast hcolumn
    exact hnone _ hend

/-- A drag out of its column and back, and one to the other column. -/
theorem drag_session_triage :
    ((triage.beginDrag "b").2.hover ["done", "gone", "open"]).dragEnd = (.unchanged "b", triage) ∧
    ∃ c, ((triage.beginDrag "b").2.hover ["open", "done", "gone"]).dragEnd.1 = .commit c := by
  have hbuild : MappingDraft.build { claims := triage.mapping.claims } = .ok triage.mapping := rfl
  have hr : triage.record? "b" = some ⟨[("id", .string "b"), ("status", .string "seen")]⟩ := rfl
  have hform : Dict.Sorted [("id", Json.string "b"), ("status", Json.string "seen")] :=
    List.pairwise_pair.mpr (by decide)
  constructor
  · obtain ⟨-, hcommit, -, hback⟩ := drag_session hbuild rfl hr rfl hform ["done", "gone", "open"]
    apply hback
    intro c hc
    obtain ⟨column, hlast, hcolumn⟩ := hcommit.mp ⟨c, hc⟩
    cases hlast
    exact hcolumn rfl
  · obtain ⟨-, hcommit, -⟩ := drag_session hbuild rfl hr rfl hform ["open", "done", "gone"]
    exact hcommit.mpr ⟨"done", rfl, by decide⟩

end Board

end RecordScreens
