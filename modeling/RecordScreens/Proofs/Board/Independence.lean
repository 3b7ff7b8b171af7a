import RecordScreens.Proofs.Board.Docket

/-!
# Records that do not interfere

The records of a board share a list, a gesture, a counter of tickets and a dictionary of
commits under way. Settling a commit looks up and writes nothing but the entries of its
own record there, and neither does an operation on another record touch these. So the
two can change places.
-/

namespace RecordScreens

/-! ## Replies -/

/-- What an operation of a board answers. -/
inductive BoardReply where
  | done
  | accepted (accepted : Bool)
  | dropped (outcome : DropOutcome)
  | settled (outcome : SettleOutcome)
  deriving DecidableEq

namespace Board

variable {R : Type} [BoardRecord R]

/-- What an operation answers. -/
def reply (b : Board R) : BoardOp R → BoardReply
  | .replace _ => .done
  | .pointerDown id place => .accepted (b.pointerDown id place).1
  | .pointerMove place => .accepted (b.pointerMove place).1
  | .beginDrag id => .accepted (b.beginDrag id).1
  | .dragOver column => .accepted (b.dragOver column).1
  | .dragCancel => .done
  | .dragEnd => .dropped b.dragEnd.1
  | .settle c => .settled (b.settle c).1

/-- The operation is on the record with an id: it names it, or the gesture that it goes on with is about it. New
records are on no single one. -/
def Concerns (b : Board R) (id : String) : BoardOp R → Prop
  | .replace _ => False
  | .pointerDown other _ | .beginDrag other => other = id
  | .settle c => c.recordId = id
  | .pointerMove _ | .dragOver _ | .dragCancel | .dragEnd => b.gesture.recordId? = some id

/-- Two operations have the same effect in both orders, and each the same answer. -/
structure Independent (b : Board R) (op op' : BoardOp R) : Prop where
  board : (b.perform op).perform op' = (b.perform op').perform op
  reply : (b.perform op').reply op = b.reply op
  reply' : (b.perform op).reply op' = b.reply op'

/-! ## Commits that are closed -/

/-- A commit of a record is no longer under way, and the record may go back to a status. -/
def close (id : String) (status? : Option String) (b : Board R) : Board R :=
  { b with
    records := match status? with
      | some s => setStatusOf id s b.records
      | none => b.records
    inFlight := Dict.erase b.inFlight id }

end Board

namespace CommitResult

/-- The status that the record goes back to. -/
def back? (c : CommitResult) : Option String :=
  match c.result with
  | .ok _ => none
  | .error _ => some c.statusBefore

/-- What settling does if it is the newest commit of its record. -/
def outcome (c : CommitResult) : SettleOutcome :=
  match c.result with
  | .ok _ => .committed c.recordId c.statusAfter
  | .error e => .reverted c.recordId c.statusBefore e

end CommitResult

namespace Board

variable {R : Type} [BoardRecord R] {b : Board R} {id id' s t : String} {status? : Option String}

theorem settle_eq_close (b : Board R) (c : CommitResult) :
    b.settle c = if Dict.get? b.inFlight c.recordId = some c.ticket then (c.outcome, b.close c.recordId c.back?)
      else (.superseded c.recordId, b) := by
  unfold settle CommitResult.outcome CommitResult.back?
  cases c.result <;> rfl

@[simp] theorem gesture_close : (b.close id status?).gesture = b.gesture := rfl

@[simp] theorem mapping_close : (b.close id status?).mapping = b.mapping := rfl

@[simp] theorem activationDistance_close : (b.close id status?).activationDistance = b.activationDistance := rfl

/-! ## Changes of two records -/

variable [LawfulBoardRecord R]

theorem setStatusOf_comm (h : id ≠ id') (s t : String) (records : List R) :
    setStatusOf id s (setStatusOf id' t records) = setStatusOf id' t (setStatusOf id s records) := by
  induction records with
  | nil => rfl
  | cons r rest ih =>
    by_cases hid : Record.id r = id
    · have hid' : Record.id r ≠ id' := hid ▸ h
      simp [setStatusOf, hid, h]
    · by_cases hid' : Record.id r = id'
      · simp [setStatusOf, hid', h.symm]
      · simp [setStatusOf, hid, hid', ih]

theorem find?_setStatusOf_of_ne (h : id ≠ id') (s : String) (records : List R) :
    (setStatusOf id s records).find? (Record.id · == id') = records.find? (Record.id · == id') := by
  induction records with
  | nil => rfl
  | cons r rest ih =>
    by_cases hid : Record.id r = id
    · simp [setStatusOf, hid, beq_false_of_ne h]
    · simp [setStatusOf, hid, List.find?_cons, ih]

theorem record?_close (h : id ≠ id') : (b.close id status?).record? id' = b.record? id' := by
  cases status? with
  | none => rfl
  | some s => exact find?_setStatusOf_of_ne h s b.records

theorem setStatus_close (h : id ≠ id') (t : String) :
    (b.close id status?).setStatus id' t = (b.setStatus id' t).close id status? := by
  cases status? with
  | none => rfl
  | some s =>
    unfold setStatus close
    simp only [setStatusOf_comm h s t]

theorem close_close {other? : Option String} (h : id ≠ id') :
    (b.close id status?).close id' other? = (b.close id' other?).close id status? := by
  have hflight := Dict.erase_comm b.inFlight id id'
  cases status? <;> cases other? <;> simp only [close, hflight]
  rw [setStatusOf_comm h]

theorem beginDrag_close (h : id ≠ id') :
    (b.close id status?).beginDrag id' = ((b.beginDrag id').1, (b.beginDrag id').2.close id status?) := by
  unfold beginDrag
  rw [record?_close h]
  cases b.record? id' <;> rfl

theorem pointerDown_close (h : id ≠ id') (place : Point) : (b.close id status?).pointerDown id' place =
    ((b.pointerDown id' place).1, (b.pointerDown id' place).2.close id status?) := by
  unfold pointerDown
  rw [record?_close h]
  split <;> rfl

theorem pointerMove_close (h : b.gesture.recordId? = some id') (hne : id ≠ id') (place : Point) :
    (b.close id status?).pointerMove place =
      ((b.pointerMove place).1, (b.pointerMove place).2.close id status?) := by
  unfold pointerMove
  rw [gesture_close, activationDistance_close]
  cases hg : b.gesture with
  | idle => rfl
  | dragging session => rfl
  | pressed pressedId origin =>
    obtain rfl : pressedId = id' := by simpa [hg, Gesture.recordId?] using h
    simp only
    split
    · exact beginDrag_close hne
    · rfl

theorem dragOver_close (h : b.gesture.recordId? = some id') (hne : id ≠ id') (column : String) :
    (b.close id status?).dragOver column =
      ((b.dragOver column).1, (b.dragOver column).2.close id status?) := by
  unfold dragOver
  rw [gesture_close, mapping_close]
  cases hg : b.gesture with
  | idle => rfl
  | pressed pressedId origin => rfl
  | dragging session =>
    obtain rfl : session.recordId = id' := by simpa [hg, Gesture.recordId?] using h
    simp only
    split
    · rw [setStatus_close hne]
    · rfl

theorem dragCancel_close (h : b.gesture.recordId? = some id') (hne : id ≠ id') :
    (b.close id status?).dragCancel = b.dragCancel.close id status? := by
  unfold dragCancel
  rw [gesture_close]
  cases hg : b.gesture with
  | idle => rfl
  | pressed pressedId origin => rfl
  | dragging session =>
    obtain rfl : session.recordId = id' := by simpa [hg, Gesture.recordId?] using h
    exact setStatus_close (b := { b with gesture := .idle }) hne _

theorem dragEnd_close (h : b.gesture.recordId? = some id') (hne : id ≠ id') (hsorted : Dict.Sorted b.inFlight) :
    (b.close id status?).dragEnd = (b.dragEnd.1, b.dragEnd.2.close id status?) := by
  unfold dragEnd
  rw [gesture_close]
  cases hg : b.gesture with
  | idle => rfl
  | pressed pressedId origin => rfl
  | dragging session =>
    obtain rfl : session.recordId = id' := by simpa [hg, Gesture.recordId?] using h
    simp only [record?_close hne]
    split
    · rfl
    · have hflight := Dict.erase_insert_of_ne hsorted hne.symm (b.lastTicket + 1)
      simp only [issueCommit, close, hflight]

theorem settle_close {c : CommitResult} (h : id ≠ c.recordId) :
    (b.close id status?).settle c = ((b.settle c).1, (b.settle c).2.close id status?) := by
  have hflight : Dict.get? (b.close id status?).inFlight c.recordId = Dict.get? b.inFlight c.recordId :=
    Dict.get?_erase_of_ne _ h
  rw [settle_eq_close, settle_eq_close, hflight]
  split
  · rw [close_close h]
  · rfl

/-- It makes no difference to an operation whether a commit of another record is closed before or after it. -/
theorem perform_close {op : BoardOp R} (h : b.Concerns id' op) (hne : id ≠ id') (hsorted : Dict.Sorted b.inFlight) :
    (b.close id status?).perform op = (b.perform op).close id status? ∧
      (b.close id status?).reply op = b.reply op := by
  cases op with
  | replace records => exact h.elim
  | pointerDown other place =>
    obtain rfl : other = id' := h
    simp only [perform, reply, pointerDown_close hne, and_self]
  | beginDrag other =>
    obtain rfl : other = id' := h
    simp only [perform, reply, beginDrag_close hne, and_self]
  | pointerMove place => simp only [perform, reply, pointerMove_close h hne, and_self]
  | dragOver column => simp only [perform, reply, dragOver_close h hne, and_self]
  | dragCancel => exact ⟨dragCancel_close h hne, rfl⟩
  | dragEnd => simp only [perform, reply, dragEnd_close h hne hsorted, and_self]
  | settle c =>
    obtain rfl : c.recordId = id' := h
    simp only [perform, reply, settle_close hne, and_self]

/-! ## Commits of other records -/

omit [LawfulBoardRecord R] in
/-- An operation leaves the commits of all records but its own as they are. -/
theorem get?_inFlight_perform {op : BoardOp R} (h : b.Concerns id' op) (hne : id ≠ id') :
    Dict.get? (b.perform op).inFlight id = Dict.get? b.inFlight id := by
  cases op using BoardOp.commitCases with
  | replace records => exact h.elim
  | dragEnd =>
    simp only [perform]
    rcases b.dragEnd_cases with ⟨-, hend⟩ | ⟨session, p, hdrag, -, hid, -, -, -, hend⟩
    · rw [hend]
    · have hother : session.recordId = id' := by simpa [Concerns, hdrag, Gesture.recordId?] using h
      rw [hend]
      exact Dict.get?_insert_of_ne _ _ fun heq => hne (heq.symm.trans (hid.trans hother))
  | settle c =>
    have hother : c.recordId = id' := h
    simp only [perform, settle_eq_close]
    split
    · exact Dict.get?_erase_of_ne _ fun heq => hne (heq.symm.trans hother)
    · rfl
  | other op hend hsettle hreplace => rw [(commits_perform (b := b) hend hsettle).1]

omit [LawfulBoardRecord R] in
theorem sorted_inFlight_perform (h : Dict.Sorted b.inFlight) (op : BoardOp R) :
    Dict.Sorted (b.perform op).inFlight := by
  cases op using BoardOp.commitCases with
  | replace records => exact h
  | dragEnd =>
    simp only [perform]
    rcases b.dragEnd_cases with ⟨-, hend⟩ | ⟨session, p, -, -, -, -, -, -, hend⟩
    · rw [hend]
      exact h
    · rw [hend]
      exact Dict.sorted_insert h _ _
  | settle c =>
    simp only [perform, settle_eq_close]
    split
    · exact Dict.sorted_erase h _
    · exact h
  | other op hend hsettle hreplace =>
    rw [(commits_perform (b := b) hend hsettle).1]
    exact h

omit [LawfulBoardRecord R] in
theorem sorted_inFlight_run (h : Dict.Sorted b.inFlight) (ops : List (BoardOp R)) :
    Dict.Sorted (b.run ops).inFlight := by
  induction ops generalizing b with
  | nil => exact h
  | cons op rest ih => exact ih (sorted_inFlight_perform h op)

/-! ## Settling beside other records -/

theorem independent_settle {c : CommitResult} {op : BoardOp R} (h : b.Concerns id op) (hne : c.recordId ≠ id)
    (hsorted : Dict.Sorted b.inFlight) : b.Independent (.settle c) op := by
  obtain ⟨hperform, hreply⟩ : (b.close c.recordId c.back?).perform op = _ ∧ _ := perform_close h hne hsorted
  have hsettle := settle_eq_close b c
  have hsettle' := settle_eq_close (b.perform op) c
  rw [get?_inFlight_perform h hne] at hsettle'
  by_cases hopen : Dict.get? b.inFlight c.recordId = some c.ticket
  · rw [if_pos hopen] at hsettle hsettle'
    have hboard : b.perform (.settle c) = b.close c.recordId c.back? := congrArg Prod.snd hsettle
    refine ⟨?_, ?_, ?_⟩
    · rw [hboard, hperform, perform, hsettle']
    · rw [reply, reply, hsettle, hsettle']
    · rw [hboard, hreply]
  · -- What is superseded leaves the board as it is.
    rw [if_neg hopen] at hsettle hsettle'
    have hboard : b.perform (.settle c) = b := congrArg Prod.snd hsettle
    refine ⟨?_, ?_, ?_⟩
    · rw [hboard, perform, hsettle']
    · rw [reply, reply, hsettle, hsettle']
    · rw [hboard]

/-- On every board that operations lead to, a commit can be settled before or after an operation on another record:
the board is the same, and so is what each of the two answers. -/
theorem settle_commutes {b₀ : Board R} (hcommits : b₀.inFlight = []) (ops : List (BoardOp R)) (c : CommitResult)
    {op : BoardOp R} {id : String} :
    let b := b₀.run ops
    b.Concerns id op → c.recordId ≠ id → b.Independent (.settle c) op := by
  intro b h hne
  have hstart : Dict.Sorted b₀.inFlight := hcommits ▸ List.Pairwise.nil
  exact independent_settle h hne (sorted_inFlight_run hstart ops)

/-- A failed commit of one record, and the end of a drag of the other one. -/
theorem settle_commutes_triage :
    let b := triage.run [.beginDrag "a", .dragOver "done", .dragEnd, .beginDrag "b", .dragOver "done"]
    triage.inFlight = [] ∧ b.Concerns "b" .dragEnd ∧ Audit.failed.recordId ≠ "b" ∧
      b.Independent (.settle Audit.failed) .dragEnd ∧
      b.reply (.settle Audit.failed) = .settled (.reverted "a" "new" (.source "move" "refused")) ∧
      ((b.perform .dragEnd).perform (.settle Audit.failed)).inFlight = [("b", 2)] := by
  intro b
  have hcommits : triage.inFlight = [] := rfl
  have hconcerns : b.Concerns "b" .dragEnd := rfl
  have hne : Audit.failed.recordId ≠ "b" := by decide
  exact ⟨hcommits, hconcerns, hne, settle_commutes hcommits _ Audit.failed hconcerns hne, rfl, rfl⟩

end Board

end RecordScreens
