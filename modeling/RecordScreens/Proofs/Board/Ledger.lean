import RecordScreens.Proofs.Board.Statuses

/-!
# Statuses that are accounted for

A ledger of the statuses on a board: those that came with the records, those that were
handed out in commits, and those to which commits that failed went back. Between drags
the board should show nothing else. It does unless a drag gives way to another gesture,
which leaves the status of its last column behind, or unless a commit of the dragged
record fails in the meantime, since the end of the drag puts back an older status then.
-/

namespace RecordScreens

/-! ## Statuses by id -/

/-- Statuses with the ids of their records, in order. -/
abbrev Statuses := List (String × String)

namespace Statuses

variable {id other s t : String} {entries : Statuses}

/-- The status of the first record with an id. -/
def get? : Statuses → String → Option String
  | [], _ => none
  | (other, t) :: rest, id => if other = id then some t else get? rest id

/-- Changes the status of the first record with an id. -/
def set (id s : String) : Statuses → Statuses
  | [] => []
  | (other, t) :: rest => if other = id then (other, s) :: rest else (other, t) :: set id s rest

@[simp] theorem set_set (id s t : String) (entries : Statuses) : set id t (set id s entries) = set id t entries := by
  induction entries with
  | nil => rfl
  | cons entry rest ih =>
    by_cases h : entry.1 = id
    · simp [set, h]
    · simp [set, h, ih]

theorem set_comm (h : id ≠ other) (s t : String) (entries : Statuses) :
    set id s (set other t entries) = set other t (set id s entries) := by
  induction entries with
  | nil => rfl
  | cons entry rest ih =>
    by_cases hid : entry.1 = id
    · have hother : entry.1 ≠ other := fun heq => h (hid.symm.trans heq)
      simp [set, hid, h]
    · by_cases hother : entry.1 = other
      · simp [set, hother, Ne.symm h]
      · simp [set, hid, hother, ih]

theorem set_of_get? (h : get? entries id = some s) : set id s entries = entries := by
  induction entries with
  | nil => rfl
  | cons entry rest ih =>
    obtain ⟨other, t⟩ := entry
    unfold get? at h
    unfold set
    split
    · rename_i hid
      rw [if_pos hid] at h
      cases h
      rfl
    · rename_i hid
      rw [if_neg hid] at h
      rw [ih h]

theorem set_of_get?_none (h : get? entries id = none) (s : String) : set id s entries = entries := by
  induction entries with
  | nil => rfl
  | cons entry rest ih =>
    by_cases hid : entry.1 = id
    · simp [get?, hid] at h
    · simp only [get?, hid, if_false] at h
      simp [set, hid, ih h]

theorem get?_set_self (h : get? entries id = some t) (s : String) : get? (set id s entries) id = some s := by
  induction entries with
  | nil => cases h
  | cons entry rest ih =>
    by_cases hid : entry.1 = id
    · simp [set, get?, hid]
    · simp only [get?, hid, if_false] at h
      simp [set, get?, hid, ih h]

theorem get?_set_of_ne (h : id ≠ other) (s : String) (entries : Statuses) :
    get? (set id s entries) other = get? entries other := by
  induction entries with
  | nil => rfl
  | cons entry rest ih =>
    by_cases hid : entry.1 = id
    · simp [set, get?, hid, h]
    · simp [set, get?, hid, ih]

end Statuses

namespace Board

variable {R : Type} [BoardRecord R] {b : Board R} {id s : String}

/-- What the records show. -/
def statusesOf (records : List R) : Statuses := records.map fun r => (Record.id r, statusOf r)

/-- What a board shows. -/
def statuses (b : Board R) : Statuses := statusesOf b.records

theorem get?_statuses (b : Board R) (id : String) : b.statuses.get? id = (b.record? id).map statusOf := by
  unfold statuses record?
  induction b.records with
  | nil => rfl
  | cons r rest ih =>
    by_cases hid : Record.id r = id
    · simp [statusesOf, Statuses.get?, hid]
    · have hfalse : (Record.id r == id) = false := beq_eq_false_iff_ne.mpr hid
      simpa [statusesOf, Statuses.get?, List.find?_cons, hid, hfalse] using ih

variable [LawfulBoardRecord R]

@[simp] theorem statuses_setStatus (b : Board R) (id s : String) :
    (b.setStatus id s).statuses = b.statuses.set id s := by
  unfold statuses setStatus
  induction b.records with
  | nil => rfl
  | cons r rest ih =>
    by_cases hid : Record.id r = id
    · simp [statusesOf, setStatusOf, Statuses.set, hid]
    · simpa [statusesOf, setStatusOf, Statuses.set, hid] using ih

end Board

/-! ## Operations -/

/-- What a board is asked to do. -/
inductive BoardOp (R : Type) where
  | replace (records : List R)
  | pointerDown (id : String) (place : Point)
  | pointerMove (place : Point)
  | beginDrag (id : String)
  | dragOver (column : String)
  | dragCancel
  | dragEnd
  | settle (c : CommitResult)

/-- A board and the statuses that are accounted for. -/
structure Audit (R : Type) where
  board : Board R
  ledger : Statuses
  /-- The ledger with what drags left behind. -/
  left : Statuses
  /-- Whether a commit of the dragged record has failed since its drag began. -/
  outdated : Bool := false

namespace Audit

variable {R : Type} [BoardRecord R]

/-- The audit of a board with its own statuses. -/
def ofBoard (b : Board R) : Audit R := { board := b, ledger := b.statuses, left := b.statuses }

/-- A status is handed out in a commit, or goes back when one fails. -/
def enter (id s : String) (board : Board R) (a : Audit R) : Audit R :=
  { a with board, ledger := a.ledger.set id s, left := a.left.set id s }

/-- The drag, if there is one, gives way to another gesture. -/
def interrupt (accepted : Bool) (board : Board R) (a : Audit R) : Audit R :=
  match a.board.dragging, accepted with
  | some id, true =>
    { a with board, left := a.left.set id ((a.board.statuses.get? id).getD ""), outdated := false }
  | _, _ => { a with board }

/-- The drag, if there is one, ends with the status that the record had before. -/
def putBack (board : Board R) (a : Audit R) : Audit R :=
  match a.board.gesture with
  | .dragging session =>
    { a with
      board
      left := if a.outdated then a.left.set session.recordId session.statusBefore else a.left
      outdated := false }
  | _ => { a with board }

/-- A gesture ends. -/
def drop (outcome : DropOutcome) (board : Board R) (a : Audit R) : Audit R :=
  match outcome with
  | .commit c => { a.enter c.recordId c.statusAfter board with outdated := false }
  | _ => a.putBack board

/-- A commit is settled. -/
def settle (outcome : SettleOutcome) (board : Board R) (a : Audit R) : Audit R :=
  match outcome with
  | .reverted id status _ =>
    { a.enter id status board with outdated := a.outdated || a.board.dragging == some id }
  | _ => { a with board }

def perform (a : Audit R) : BoardOp R → Audit R
  | .replace records => ofBoard (a.board.replace records)
  | .pointerDown id place => a.interrupt (a.board.pointerDown id place).1 (a.board.pointerDown id place).2
  | .pointerMove place => { a with board := (a.board.pointerMove place).2 }
  | .beginDrag id => a.interrupt (a.board.beginDrag id).1 (a.board.beginDrag id).2
  | .dragOver column => { a with board := (a.board.dragOver column).2 }
  | .dragCancel => a.putBack a.board.dragCancel
  | .dragEnd => a.drop a.board.dragEnd.1 a.board.dragEnd.2
  | .settle c => a.settle (a.board.settle c).1 (a.board.settle c).2

def run (ops : List (BoardOp R)) (a : Audit R) : Audit R := ops.foldl perform a

/-! ## The invariant -/

/-- Between drags the board shows what drags have left of the ledger. During one this holds of every other record,
and the drag remembers the status that the dragged one should have. -/
structure Inv (a : Audit R) : Prop where
  between : a.board.dragging = none → a.board.statuses = a.left ∧ a.outdated = false
  others : ∀ {session}, a.board.gesture = .dragging session →
    ∀ s, a.board.statuses.set session.recordId s = a.left.set session.recordId s
  present : ∀ {session}, a.board.gesture = .dragging session →
    ∃ s, a.board.statuses.get? session.recordId = some s
  before : ∀ {session}, a.board.gesture = .dragging session → a.outdated = false →
    a.left.get? session.recordId = some session.statusBefore

variable {a : Audit R}

theorem inv_between (hgesture : a.board.dragging = none) (h : a.board.statuses = a.left)
    (houtdated : a.outdated = false) : a.Inv := by
  have hnever := Board.dragging_eq_none_iff.mp hgesture
  exact ⟨fun _ => ⟨h, houtdated⟩, fun hdrag => absurd hdrag (hnever _), fun hdrag => absurd hdrag (hnever _),
    fun hdrag => absurd hdrag (hnever _)⟩

/-- A drag begins on a board that shows what drags have left. -/
theorem inv_beginDrag {b : Board R} {id : String} {r : R} (hr : b.record? id = some r)
    (hboard : a.board = (b.beginDrag id).2) (h : b.statuses = a.left) : a.Inv := by
  have hbegin := hboard.trans (congrArg Prod.snd (Board.beginDrag_of_record? hr))
  have hstatuses : a.board.statuses = b.statuses := by
    rw [hbegin]
    rfl
  have hget : b.statuses.get? id = some (Board.statusOf r) := by
    rw [Board.get?_statuses, hr]
    rfl
  refine ⟨?_, ?_, ?_, ?_⟩
  · intro hnone
    rw [hbegin] at hnone
    cases hnone
  · intro session hdrag s
    rw [hstatuses, h]
  · intro session hdrag
    rw [hbegin] at hdrag
    cases hdrag
    exact ⟨_, hstatuses ▸ hget⟩
  · intro session hdrag _
    rw [hbegin] at hdrag
    cases hdrag
    exact h ▸ hget

theorem interrupt_of_none (h : a.board.dragging = none) (accepted : Bool) (board : Board R) :
    a.interrupt accepted board = { a with board } := by
  unfold interrupt
  rw [h]

theorem interrupt_refused (a : Audit R) (board : Board R) : a.interrupt false board = { a with board } := by
  unfold interrupt
  split
  · rename_i hfalse
    cases hfalse
  · rfl

/-- Whatever gesture a drag gives way to, the board shows what it has left then. -/
theorem Inv.interrupt (h : a.Inv) (board : Board R) (hsame : board.statuses = a.board.statuses) :
    (a.interrupt true board).board = board ∧ board.statuses = (a.interrupt true board).left ∧
      (a.interrupt true board).outdated = false := by
  unfold Audit.interrupt
  cases hdragging : a.board.dragging with
  | none =>
    obtain ⟨hleft, houtdated⟩ := h.between hdragging
    exact ⟨rfl, hsame.trans hleft, houtdated⟩
  | some id =>
    obtain ⟨session, hgesture, rfl⟩ := Board.dragging_eq_some_iff.mp hdragging
    obtain ⟨s, hget⟩ := h.present hgesture
    refine ⟨rfl, ?_, rfl⟩
    show board.statuses = a.left.set session.recordId ((a.board.statuses.get? session.recordId).getD "")
    rw [hget, Option.getD_some, ← h.others hgesture, Statuses.set_of_get? hget, hsame]

/-- A gesture without a drag ends. -/
theorem Inv.endIdle (h : a.Inv) (hdragging : a.board.dragging = none) :
    (a.putBack { a.board with gesture := .idle }).Inv := by
  have hput : a.putBack { a.board with gesture := .idle } = { a with board := { a.board with gesture := .idle } } := by
    unfold Audit.putBack
    split
    · rename_i session hdrag
      exact absurd hdrag (Board.dragging_eq_none_iff.mp hdragging session)
    · rfl
  obtain ⟨hleft, houtdated⟩ := h.between hdragging
  rw [hput]
  exact inv_between rfl hleft houtdated

/-- A drag ends with the status that the record had before. -/
theorem Inv.putBack (h : a.Inv) {session : DragSession} (hdrag : a.board.gesture = .dragging session) {board : Board R}
    (hgesture : board.dragging = none)
    (hback : board.statuses = a.board.statuses.set session.recordId session.statusBefore) : (a.putBack board).Inv := by
  rw [h.others hdrag] at hback
  unfold Audit.putBack
  rw [hdrag]
  refine inv_between hgesture ?_ rfl
  -- Unless a commit has failed in the meantime, the drag remembers what was left of the record.
  cases houtdated : a.outdated with
  | true => exact hback
  | false => exact hback.trans (Statuses.set_of_get? (h.before hdrag houtdated))

theorem Inv.dragEnd (h : a.Inv) : (a.perform .dragEnd).Inv := by
  show (a.drop a.board.dragEnd.1 a.board.dragEnd.2).Inv
  unfold Board.dragEnd
  cases hgesture : a.board.gesture with
  | idle => exact h.endIdle (by simp [Board.dragging, hgesture])
  | pressed id origin => exact h.endIdle (by simp [Board.dragging, hgesture])
  | dragging session =>
    obtain ⟨s, hget⟩ := h.present hgesture
    have hstatus : ((a.board.record? session.recordId).map Board.statusOf).getD "" = s := by
      rw [← Board.get?_statuses, hget, Option.getD_some]
    have hothers := h.others hgesture s
    rw [Statuses.set_of_get? hget] at hothers
    simp only [hstatus]
    -- A record that shows its old status is dropped where it was, and nothing is handed out.
    by_cases hunchanged : s = session.statusBefore
    · rw [if_pos hunchanged]
      refine h.putBack hgesture rfl ?_
      rw [← hunchanged, Statuses.set_of_get? hget]
      rfl
    · rw [if_neg hunchanged]
      exact inv_between rfl hothers rfl

theorem Inv.pointerDown (h : a.Inv) (id : String) (place : Point) : (a.perform (.pointerDown id place)).Inv := by
  show (a.interrupt (a.board.pointerDown id place).1 (a.board.pointerDown id place).2).Inv
  unfold Board.pointerDown
  split
  · obtain ⟨hboard, hleft, houtdated⟩ := h.interrupt { a.board with gesture := .pressed id place } rfl
    exact inv_between (by rw [hboard]; rfl) (by rw [hboard]; exact hleft) houtdated
  · rw [interrupt_refused]
    exact h

theorem Inv.beginDrag (h : a.Inv) (id : String) : (a.perform (.beginDrag id)).Inv := by
  show (a.interrupt (a.board.beginDrag id).1 (a.board.beginDrag id).2).Inv
  cases hr : a.board.record? id with
  | none =>
    rw [Board.beginDrag_of_none hr, interrupt_refused]
    exact h
  | some r =>
    have hbegin := Board.beginDrag_of_record? hr
    obtain ⟨hboard, hleft, -⟩ := h.interrupt (a.board.beginDrag id).2 (by rw [hbegin]; rfl)
    rw [congrArg Prod.fst hbegin]
    refine inv_beginDrag hr hboard (Eq.trans ?_ hleft)
    rw [hbegin]
    rfl

theorem Inv.pointerMove (h : a.Inv) (place : Point) : (a.perform (.pointerMove place)).Inv := by
  show Inv { a with board := (a.board.pointerMove place).2 }
  unfold Board.pointerMove
  cases hgesture : a.board.gesture with
  | idle => exact h
  | dragging session => exact h
  | pressed id origin =>
    simp only
    split
    · cases hr : a.board.record? id with
      | none =>
        rw [Board.beginDrag_of_none hr]
        exact h
      | some r =>
        obtain ⟨hleft, -⟩ := h.between (by simp [Board.dragging, hgesture])
        exact inv_beginDrag hr rfl hleft
    · exact h

/-- A record goes back, also if it is the dragged one. -/
theorem Inv.revert (h : a.Inv) (id s : String) {board : Board R}
    (hstatuses : board.statuses = a.board.statuses.set id s) (hgesture : board.gesture = a.board.gesture) :
    Inv { a.enter id s board with outdated := a.outdated || a.board.dragging == some id } := by
  refine ⟨?_, ?_, ?_, ?_⟩
  · intro hnone
    have hnone' : a.board.dragging = none := by
      rw [Board.dragging_eq_none_iff] at hnone ⊢
      exact hgesture ▸ hnone
    obtain ⟨hleft, houtdated⟩ := h.between hnone'
    exact ⟨hstatuses.trans (congrArg _ hleft), by simp [houtdated, hnone']⟩
  · intro session hdrag t
    -- `others` looks at every record but the dragged one, whichever of them goes back.
    have hothers := h.others (hgesture.symm.trans hdrag)
    show board.statuses.set session.recordId t = (a.left.set id s).set session.recordId t
    rw [hstatuses]
    by_cases hid : id = session.recordId
    · rw [hid, Statuses.set_set, Statuses.set_set, hothers]
    · rw [Statuses.set_comm (Ne.symm hid), Statuses.set_comm (Ne.symm hid), hothers]
  · intro session hdrag
    obtain ⟨t, hget⟩ := h.present (hgesture.symm.trans hdrag)
    show ∃ t, board.statuses.get? session.recordId = some t
    rw [hstatuses]
    by_cases hid : id = session.recordId
    · rw [hid]
      exact ⟨s, Statuses.get?_set_self hget s⟩
    · rw [Statuses.get?_set_of_ne hid]
      exact ⟨t, hget⟩
  · intro session hdrag houtdated
    have hdrag' := hgesture.symm.trans hdrag
    -- What the drag remembers still holds, so the record that goes back is another one.
    obtain ⟨houtdated', hother⟩ := Bool.or_eq_false_iff.mp houtdated
    have hid : id ≠ session.recordId := by
      rintro rfl
      simp [Board.dragging_eq_some_iff.mpr ⟨session, hdrag', rfl⟩] at hother
    exact (Statuses.get?_set_of_ne hid s a.left).trans (h.before hdrag' houtdated')

section

variable [LawfulBoardRecord R]

theorem Inv.dragOver (h : a.Inv) (column : String) : (a.perform (.dragOver column)).Inv := by
  show Inv { a with board := (a.board.dragOver column).2 }
  unfold Board.dragOver
  cases hgesture : a.board.gesture with
  | idle => exact h
  | pressed id origin => exact h
  | dragging session =>
    simp only
    cases Board.statusOver a.board.mapping session column with
    | none => exact h
    | some status =>
      obtain ⟨s, hget⟩ := h.present hgesture
      refine ⟨?_, ?_, ?_, h.before⟩
      · intro hnone
        exact absurd hgesture (Board.dragging_eq_none_iff.mp hnone session)
      · intro session' hdrag s
        cases hgesture.symm.trans hdrag
        rw [Board.statuses_setStatus, Statuses.set_set]
        exact h.others hgesture s
      · intro session' hdrag
        cases hgesture.symm.trans hdrag
        rw [Board.statuses_setStatus]
        exact ⟨_, Statuses.get?_set_self hget status⟩

theorem Inv.dragCancel (h : a.Inv) : (a.perform .dragCancel).Inv := by
  show (a.putBack a.board.dragCancel).Inv
  unfold Board.dragCancel
  cases hgesture : a.board.gesture with
  | dragging session => exact h.putBack hgesture rfl (Board.statuses_setStatus ..)
  | idle => exact h.endIdle (by simp [Board.dragging, hgesture])
  | pressed id origin => exact h.endIdle (by simp [Board.dragging, hgesture])

theorem Inv.settle (h : a.Inv) (c : CommitResult) : (a.perform (.settle c)).Inv := by
  show (a.settle (a.board.settle c).1 (a.board.settle c).2).Inv
  unfold Board.settle
  split
  · split
    · exact ⟨h.between, h.others, h.present, h.before⟩
    · exact h.revert c.recordId c.statusBefore (by exact Board.statuses_setStatus ..) rfl
  · exact h

/-- Every operation keeps the invariant. -/
theorem Inv.perform (h : a.Inv) (op : BoardOp R) : (a.perform op).Inv := by
  cases op with
  | replace records => exact inv_between rfl rfl rfl
  | pointerDown id place => exact h.pointerDown id place
  | pointerMove place => exact h.pointerMove place
  | beginDrag id => exact h.beginDrag id
  | dragOver column => exact h.dragOver column
  | dragCancel => exact h.dragCancel
  | dragEnd => exact h.dragEnd
  | settle c => exact h.settle c

theorem Inv.run (h : a.Inv) (ops : List (BoardOp R)) : (a.run ops).Inv := by
  induction ops generalizing a with
  | nil => exact h
  | cons op rest ih => exact ih (h.perform op)

end

/-! ## Orderly runs -/

/-- Whether an operation makes a drag give way to another gesture, or takes back the status of the dragged record. -/
def Disturbs (a : Audit R) : BoardOp R → Prop
  | .pointerDown id _ => a.board.dragging ≠ none ∧ (a.board.record? id).isSome
  | .beginDrag id => a.board.dragging ≠ none ∧ (a.board.record? id).isSome
  | .settle c => a.board.dragging = some c.recordId ∧ ∃ e, (a.board.settle c).1 = .reverted c.recordId c.statusBefore e
  | _ => False

/-- No operation of a run disturbs a drag. -/
def Orderly : List (BoardOp R) → Audit R → Prop
  | [], _ => True
  | op :: rest, a => ¬ a.Disturbs op ∧ Orderly rest (a.perform op)

theorem interrupt_undisturbed {accepted : Bool} (h : ¬ (a.board.dragging ≠ none ∧ accepted = true)) (board : Board R) :
    a.interrupt accepted board = { a with board } := by
  by_cases hdragging : a.board.dragging = none
  · exact interrupt_of_none hdragging accepted board
  · cases accepted with
    | false => exact interrupt_refused a board
    | true => exact absurd ⟨hdragging, rfl⟩ h

omit [BoardRecord R] in
theorem putBack_of_not_outdated (h : a.outdated = false) (board : Board R) : a.putBack board = { a with board } := by
  unfold putBack
  split
  · simp [h]
  · rfl

theorem reverted_of_settle {b : Board R} {c : CommitResult} {id s : String} {e : QueryError}
    (h : (b.settle c).1 = .reverted id s e) : id = c.recordId ∧ s = c.statusBefore := by
  unfold Board.settle at h
  split at h
  · split at h
    · cases h
    · cases h
      exact ⟨rfl, rfl⟩
  · cases h

theorem left_perform {op : BoardOp R} (h : ¬ a.Disturbs op) (hleft : a.left = a.ledger)
    (houtdated : a.outdated = false) :
    (a.perform op).left = (a.perform op).ledger ∧ (a.perform op).outdated = false := by
  cases op with
  | replace records => exact ⟨rfl, rfl⟩
  | pointerDown id place =>
    have haccepted : (a.board.pointerDown id place).1 = (a.board.record? id).isSome := by
      unfold Board.pointerDown
      cases a.board.record? id <;> rfl
    simp only [perform]
    rw [haccepted, interrupt_undisturbed h]
    exact ⟨hleft, houtdated⟩
  | beginDrag id =>
    have haccepted : (a.board.beginDrag id).1 = (a.board.record? id).isSome := by
      unfold Board.beginDrag
      cases a.board.record? id <;> rfl
    simp only [perform]
    rw [haccepted, interrupt_undisturbed h]
    exact ⟨hleft, houtdated⟩
  | pointerMove place => exact ⟨hleft, houtdated⟩
  | dragOver column => exact ⟨hleft, houtdated⟩
  | dragCancel =>
    simp only [perform]
    rw [putBack_of_not_outdated houtdated]
    exact ⟨hleft, houtdated⟩
  | dragEnd =>
    simp only [perform, drop]
    split
    · exact ⟨congrArg _ hleft, rfl⟩
    · rw [putBack_of_not_outdated houtdated]
      exact ⟨hleft, houtdated⟩
  | settle c =>
    simp only [perform, settle]
    split
    · rename_i id status e houtcome
      obtain ⟨rfl, rfl⟩ := reverted_of_settle houtcome
      -- The record that goes back is not the dragged one, so no drag remembers a status that it no longer has.
      refine ⟨congrArg _ hleft, ?_⟩
      have hother : a.board.dragging ≠ some c.recordId := fun hdragging => h ⟨hdragging, e, houtcome⟩
      simp [houtdated, hother]
    · exact ⟨hleft, houtdated⟩

/-- In an orderly run, drags leave nothing behind. -/
theorem left_run {ops : List (BoardOp R)} (h : Orderly ops a) (hleft : a.left = a.ledger)
    (houtdated : a.outdated = false) : (a.run ops).left = (a.run ops).ledger := by
  induction ops generalizing a with
  | nil => exact hleft
  | cons op rest ih =>
    obtain ⟨hop, hrest⟩ := h
    obtain ⟨hleft', houtdated'⟩ := left_perform hop hleft houtdated
    exact ih hrest hleft' houtdated'

/-- Between drags a board shows the statuses that are accounted for, but for those that drags have left behind. In an
orderly run there are none. -/
theorem statuses_accounted [LawfulBoardRecord R] (b : Board R) (hb : b.dragging = none) (ops : List (BoardOp R)) :
    let a := run ops (ofBoard b)
    (a.board.dragging = none → a.board.statuses = a.left ∧ (a.board.statuses = a.ledger ↔ a.left = a.ledger)) ∧
    (Orderly ops (ofBoard b) → a.board.dragging = none → a.board.statuses = a.ledger) := by
  have hinv : (run ops (ofBoard b)).Inv := (inv_between hb rfl rfl).run ops
  refine ⟨?_, ?_⟩
  · intro hbetween
    obtain ⟨hleft, -⟩ := hinv.between hbetween
    exact ⟨hleft, by rw [hleft]⟩
  · intro horderly hbetween
    obtain ⟨hleft, -⟩ := hinv.between hbetween
    exact hleft.trans (left_run horderly rfl rfl)

/-- A commit of the first record that failed. -/
def failed : CommitResult where
  recordId := "a"
  statusBefore := "new"
  statusAfter := "closed"
  ticket := 1
  result := .error (.source "move" "refused")

/-- A drag that is committed and goes back when that fails. -/
theorem statuses_accounted_triage :
    let a := run [.beginDrag "a", .dragOver "done", .dragEnd, .settle failed] (ofBoard Board.triage)
    Orderly [.beginDrag "a", .dragOver "done", .dragEnd, .settle failed] (ofBoard Board.triage) ∧
    a.board.dragging = none ∧ a.board.statuses = a.ledger := by
  have horderly : Orderly [.beginDrag "a", .dragOver "done", .dragEnd, .settle failed] (ofBoard Board.triage) := by
    refine ⟨?_, id, id, ?_, trivial⟩
    · intro hdisturbs
      exact hdisturbs.1 rfl
    · intro hdisturbs
      cases hdisturbs.1
  obtain ⟨-, haccounted⟩ := statuses_accounted Board.triage rfl
    [.beginDrag "a", .dragOver "done", .dragEnd, .settle failed]
  exact ⟨horderly, rfl, haccounted horderly rfl⟩

/-- A press on another record leaves the status of the last column behind; a commit that fails during a drag of its
record is undone by the end of the drag. -/
theorem statuses_left_behind :
    (let a := run [.beginDrag "a", .dragOver "done", .pointerDown "b" ⟨0, 0⟩] (ofBoard Board.triage)
    a.board.dragging = none ∧ a.board.statuses ≠ a.ledger) ∧
    (let a := run [.beginDrag "a", .dragOver "done", .dragEnd, .beginDrag "a", .settle failed, .dragCancel]
      (ofBoard Board.triage)
    a.board.dragging = none ∧ a.board.statuses ≠ a.ledger) := by
  refine ⟨⟨rfl, ?_⟩, rfl, ?_⟩
  · decide
  · decide

end Audit

end RecordScreens
