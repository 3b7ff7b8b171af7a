import Mathlib.Data.List.Nodup
import RecordScreens.Proofs.Board.Ledger

/-!
# Commits that were handed out

A docket keeps the commits of a board in the order in which they were handed out, with
the results that came in for each of them. The board itself knows one ticket for each
record and nothing else. This is enough to take in each commit at most once, and only
the newest of its record.
-/

namespace RecordScreens

/-! ## Cases -/

/-- Whether a result is one of this commit: it bears the record and the ticket. -/
def CommitResult.Answers (c : CommitResult) (p : PendingCommit) : Prop :=
  c.recordId = p.recordId ∧ c.ticket = p.ticket

instance (c : CommitResult) (p : PendingCommit) : Decidable (c.Answers p) :=
  inferInstanceAs (Decidable (_ ∧ _))

namespace SettleOutcome

def isSuperseded : SettleOutcome → Bool
  | superseded _ => true
  | _ => false

/-- The id of the record that went back. -/
def reverted? : SettleOutcome → Option String
  | reverted id _ _ => some id
  | _ => none

end SettleOutcome

/-- A result that came in for a commit. -/
structure Answer where
  result : Except QueryError Json
  /-- Whether the board left it aside. -/
  superseded : Bool

/-- A commit that was handed out, and what came after it. -/
structure Case where
  commit : PendingCommit
  /-- The results that came in for it, in order. -/
  answers : List Answer := []
  /-- Whether the status of its record was written since. -/
  overwritten : Bool := false

namespace Case

/-- A result comes in, for this commit or for another one. -/
def receive (c : CommitResult) (superseded : Bool) (k : Case) : Case :=
  if c.Answers k.commit then { k with answers := k.answers ++ [⟨c.result, superseded⟩] } else k

/-- The status of a record, if there is one, is written. -/
def write (id : Option String) (k : Case) : Case :=
  if id = some k.commit.recordId then { k with overwritten := true } else k

/-- The statuses of all records are written. -/
def replace (k : Case) : Case := { k with overwritten := true }

variable {c : CommitResult} {superseded : Bool} {id : Option String} {k : Case}

@[simp] theorem commit_receive : (k.receive c superseded).commit = k.commit := by
  unfold receive
  split <;> rfl

@[simp] theorem commit_write : (k.write id).commit = k.commit := by
  unfold write
  split <;> rfl

@[simp] theorem answers_write : (k.write id).answers = k.answers := by
  unfold write
  split <;> rfl

theorem receive_of_not_answers (h : ¬ c.Answers k.commit) : k.receive c superseded = k := if_neg h

theorem answers_receive_of_answers (h : c.Answers k.commit) :
    (k.receive c superseded).answers = k.answers ++ [⟨c.result, superseded⟩] := by
  rw [receive, if_pos h]

@[simp] theorem overwritten_receive : (k.receive c superseded).overwritten = k.overwritten := by
  unfold receive
  split <;> rfl

theorem overwritten_write_eq_false_iff :
    (k.write id).overwritten = false ↔ k.overwritten = false ∧ id ≠ some k.commit.recordId := by
  unfold write
  split <;> simp [*]

@[simp] theorem map_write_none (cases : List Case) : cases.map (write none) = cases := by
  rw [show write none = id from funext fun k => if_neg (by simp), List.map_id]

theorem answers_receive_eq_nil_iff : (k.receive c superseded).answers = [] ↔ k.answers = [] ∧ ¬ c.Answers k.commit := by
  by_cases h : c.Answers k.commit
  · simp [answers_receive_of_answers h, h]
  · simp [receive_of_not_answers h, h]

end Case

/-! ## Operations -/

/-- Three operations have a bearing on commits beyond the status that they write. -/
@[elab_as_elim] theorem BoardOp.commitCases {R : Type} {motive : BoardOp R → Prop}
    (replace : ∀ records, motive (.replace records)) (dragEnd : motive .dragEnd) (settle : ∀ c, motive (.settle c))
    (other : ∀ op, op ≠ .dragEnd → (∀ c, op ≠ .settle c) → (∀ records, op ≠ .replace records) → motive op)
    (op : BoardOp R) : motive op := by
  cases op with
  | replace records => exact replace records
  | dragEnd => exact dragEnd
  | settle c => exact settle c
  | _ => exact other _ nofun nofun nofun

/-- The id of the record that a gesture is about. -/
def Gesture.recordId? : Gesture → Option String
  | idle => none
  | pressed id _ => some id
  | dragging session => some session.recordId

namespace Board

variable {R : Type} [BoardRecord R]

/-- The board after an operation. -/
def perform (b : Board R) : BoardOp R → Board R
  | .replace records => b.replace records
  | .pointerDown id place => (b.pointerDown id place).2
  | .pointerMove place => (b.pointerMove place).2
  | .beginDrag id => (b.beginDrag id).2
  | .dragOver column => (b.dragOver column).2
  | .dragCancel => b.dragCancel
  | .dragEnd => b.dragEnd.2
  | .settle c => (b.settle c).2

/-- The board after operations, one after the other. -/
def run (b : Board R) (ops : List (BoardOp R)) : Board R := ops.foldl perform b

/-- The id of the record whose status an operation writes, if it is a single one. -/
def written (b : Board R) : BoardOp R → Option String
  | .dragOver column => if (b.dragOver column).1 then b.dragging else none
  | .dragCancel => b.dragging
  | .settle c => (b.settle c).1.reverted?
  | _ => none

/-- The commit that an operation hands out. -/
def issued (b : Board R) : BoardOp R → Option PendingCommit
  | .dragEnd =>
    match b.dragEnd.1 with
    | .commit p => some p
    | _ => none
  | _ => none

/-- All that the end of a gesture can do. -/
theorem dragEnd_cases (b : Board R) :
    (b.issued .dragEnd = none ∧ b.dragEnd.2 = { b with gesture := .idle }) ∨
    ∃ session p, b.gesture = .dragging session ∧ b.issued .dragEnd = some p ∧
      p.recordId = session.recordId ∧ p.statusBefore = session.statusBefore ∧
      p.statusAfter = ((b.record? session.recordId).map statusOf).getD "" ∧ p.ticket = b.lastTicket + 1 ∧
      b.dragEnd = (.commit p, { b with
        gesture := .idle, lastTicket := p.ticket, inFlight := Dict.insert b.inFlight p.recordId p.ticket }) := by
  simp only [issued]
  unfold dragEnd
  cases hgesture : b.gesture with
  | idle => exact .inl ⟨rfl, rfl⟩
  | pressed id origin => exact .inl ⟨rfl, rfl⟩
  | dragging session =>
    simp only
    by_cases hstatus : ((b.record? session.recordId).map statusOf).getD "" = session.statusBefore
    · rw [if_pos hstatus]
      exact .inl ⟨rfl, rfl⟩
    · rw [if_neg hstatus]
      exact .inr ⟨session, _, rfl, rfl, rfl, rfl, rfl, rfl, rfl⟩

/-- All that settling a result can do. -/
theorem settle_cases (b : Board R) (c : CommitResult) :
    (Dict.get? b.inFlight c.recordId ≠ some c.ticket ∧ b.settle c = (.superseded c.recordId, b)) ∨
    Dict.get? b.inFlight c.recordId = some c.ticket ∧
      ((∃ v, c.result = .ok v ∧ b.settle c =
        (.committed c.recordId c.statusAfter, { b with inFlight := Dict.erase b.inFlight c.recordId })) ∨
      ∃ e, c.result = .error e ∧ b.settle c =
        (.reverted c.recordId c.statusBefore e,
          { b with inFlight := Dict.erase b.inFlight c.recordId }.setStatus c.recordId c.statusBefore)) := by
  unfold settle
  by_cases hopen : Dict.get? b.inFlight c.recordId = some c.ticket
  · refine .inr ⟨hopen, ?_⟩
    rw [if_pos hopen]
    cases hresult : c.result with
    | ok v => exact .inl ⟨v, rfl, rfl⟩
    | error e => exact .inr ⟨e, rfl, rfl⟩
  · exact .inl ⟨hopen, if_neg hopen⟩

/-- Only the end of a gesture and a settled commit change what a board knows of commits. -/
theorem commits_perform {b : Board R} {op : BoardOp R} (hend : op ≠ .dragEnd) (hsettle : ∀ c, op ≠ .settle c) :
    (b.perform op).inFlight = b.inFlight ∧ (b.perform op).lastTicket = b.lastTicket ∧ b.issued op = none := by
  cases op with
  | dragEnd => exact absurd rfl hend
  | settle c => exact absurd rfl (hsettle c)
  | replace records => exact ⟨rfl, rfl, rfl⟩
  | pointerDown id place =>
    simp only [perform, pointerDown]
    split <;> exact ⟨rfl, rfl, rfl⟩
  | beginDrag id =>
    simp only [perform, beginDrag]
    split <;> exact ⟨rfl, rfl, rfl⟩
  | pointerMove place =>
    simp only [perform, pointerMove, beginDrag]
    split
    · exact ⟨rfl, rfl, rfl⟩
    · exact ⟨rfl, rfl, rfl⟩
    · split
      · split <;> exact ⟨rfl, rfl, rfl⟩
      · exact ⟨rfl, rfl, rfl⟩
  | dragOver column =>
    simp only [perform, dragOver]
    split
    · split <;> exact ⟨rfl, rfl, rfl⟩
    · exact ⟨rfl, rfl, rfl⟩
  | dragCancel =>
    simp only [perform, dragCancel]
    split <;> exact ⟨rfl, rfl, rfl⟩

/-- The mutation of the commits of a board and what it invalidates stay as they are. -/
theorem wiring_perform (b : Board R) (op : BoardOp R) :
    (b.perform op).commitKey = b.commitKey ∧ (b.perform op).invalidates = b.invalidates := by
  cases op with
  | replace records => exact ⟨rfl, rfl⟩
  | pointerDown id place =>
    simp only [perform, pointerDown]
    split <;> exact ⟨rfl, rfl⟩
  | beginDrag id =>
    simp only [perform, beginDrag]
    split <;> exact ⟨rfl, rfl⟩
  | pointerMove place =>
    simp only [perform, pointerMove, beginDrag]
    split
    · exact ⟨rfl, rfl⟩
    · exact ⟨rfl, rfl⟩
    · split
      · split <;> exact ⟨rfl, rfl⟩
      · exact ⟨rfl, rfl⟩
  | dragOver column =>
    simp only [perform, dragOver]
    split
    · split <;> exact ⟨rfl, rfl⟩
    · exact ⟨rfl, rfl⟩
  | dragCancel =>
    simp only [perform, dragCancel]
    split <;> exact ⟨rfl, rfl⟩
  | dragEnd =>
    rcases b.dragEnd_cases with ⟨-, hend⟩ | ⟨_, _, -, -, -, -, -, -, hend⟩ <;>
      simp [perform, hend]
  | settle c =>
    rcases b.settle_cases c with ⟨-, hsettle⟩ | ⟨-, ⟨_, -, hsettle⟩ | ⟨_, -, hsettle⟩⟩ <;>
      simp [perform, hsettle, setStatus]

/-- But for new records, an operation writes the status of at most one record. -/
theorem records_perform {b : Board R} {op : BoardOp R} (hreplace : ∀ records, op ≠ .replace records) :
    ∃ s, (b.perform op).records = match b.written op with
      | some id => setStatusOf id s b.records
      | none => b.records := by
  cases op with
  | replace records => exact absurd rfl (hreplace records)
  | pointerDown id place =>
    refine ⟨"", ?_⟩
    simp only [perform, pointerDown]
    split <;> rfl
  | beginDrag id =>
    refine ⟨"", ?_⟩
    simp only [perform, beginDrag]
    split <;> rfl
  | pointerMove place =>
    refine ⟨"", ?_⟩
    simp only [perform, pointerMove, beginDrag]
    split
    · rfl
    · rfl
    · split
      · split <;> rfl
      · rfl
  | dragOver column =>
    cases hgesture : b.gesture with
    | idle => exact ⟨"", by simp [perform, written, dragOver, hgesture]⟩
    | pressed id origin => exact ⟨"", by simp [perform, written, dragOver, hgesture]⟩
    | dragging session =>
      cases hover : statusOver b.mapping session column with
      | none => exact ⟨"", by simp [perform, written, dragOver, hgesture, hover]⟩
      | some status => exact ⟨status, by simp [perform, written, dragOver, dragging, hgesture, hover, setStatus]⟩
  | dragCancel =>
    cases hgesture : b.gesture with
    | idle => exact ⟨"", by simp [perform, written, dragCancel, dragging, hgesture]⟩
    | pressed id origin => exact ⟨"", by simp [perform, written, dragCancel, dragging, hgesture]⟩
    | dragging session =>
      exact ⟨session.statusBefore, by simp [perform, written, dragCancel, dragging, hgesture, setStatus]⟩
  | dragEnd =>
    refine ⟨"", ?_⟩
    simp only [perform, written]
    rcases b.dragEnd_cases with ⟨-, hend⟩ | ⟨session, p, -, -, -, -, -, -, hend⟩ <;> rw [hend]
  | settle c =>
    simp only [perform, written]
    rcases b.settle_cases c with ⟨-, hsettle⟩ | ⟨-, ⟨v, -, hsettle⟩ | ⟨e, -, hsettle⟩⟩
    · rw [hsettle]
      exact ⟨"", rfl⟩
    · rw [hsettle]
      exact ⟨"", rfl⟩
    · rw [hsettle]
      exact ⟨c.statusBefore, rfl⟩

end Board

/-- An audit watches the board and changes nothing on it. -/
theorem Audit.board_perform {R : Type} [BoardRecord R] (a : Audit R) (op : BoardOp R) :
    (a.perform op).board = a.board.perform op := by
  have hinterrupt (accepted : Bool) (board : Board R) : (a.interrupt accepted board).board = board := by
    unfold interrupt
    split <;> rfl
  have hputBack (board : Board R) : (a.putBack board).board = board := by
    unfold putBack
    split <;> rfl
  cases op with
  | pointerDown id place => exact hinterrupt ..
  | beginDrag id => exact hinterrupt ..
  | dragCancel => exact hputBack _
  | dragEnd =>
    simp only [perform, drop]
    split
    · rfl
    · exact hputBack _
  | settle c =>
    simp only [perform, settle]
    split <;> rfl
  | _ => rfl

/-- A board with the commits that it handed out, in order. -/
structure Docket (R : Type) where
  board : Board R
  cases : List Case := []

namespace Docket

variable {R : Type}

/-- The docket of a board that has handed out nothing yet. -/
def ofBoard (b : Board R) : Docket R := { board := b }

/-- The commits of a record, in order. -/
def casesOf (d : Docket R) (id : String) : List Case := d.cases.filter (·.commit.recordId = id)

/-- The commit of a record that was handed out last. -/
def newest? (d : Docket R) (id : String) : Option Case := (d.casesOf id).getLast?

variable [BoardRecord R]

/-- What came of the commits by an operation. -/
def casesAfter (d : Docket R) : BoardOp R → List Case
  | .replace _ => d.cases.map .replace
  | .settle c =>
    (d.cases.map (.receive c (d.board.settle c).1.isSuperseded)).map (.write (d.board.written (.settle c)))
  | op => d.cases.map (.write (d.board.written op)) ++ ((d.board.issued op).map fun p => { commit := p }).toList

def perform (d : Docket R) (op : BoardOp R) : Docket R :=
  { board := d.board.perform op, cases := d.casesAfter op }

def run (d : Docket R) (ops : List (BoardOp R)) : Docket R := ops.foldl perform d

@[simp] theorem board_run (d : Docket R) (ops : List (BoardOp R)) : (d.run ops).board = d.board.run ops := by
  induction ops generalizing d with
  | nil => rfl
  | cons op rest ih => exact ih (d.perform op)

/-- Most operations have no bearing on commits but for the status that they write. -/
theorem casesAfter_eq (d : Docket R) {op : BoardOp R} (hend : op ≠ .dragEnd) (hsettle : ∀ c, op ≠ .settle c)
    (hreplace : ∀ records, op ≠ .replace records) : d.casesAfter op = d.cases.map (.write (d.board.written op)) := by
  obtain ⟨-, -, hissued⟩ := Board.commits_perform (b := d.board) hend hsettle
  cases op with
  | replace records => exact absurd rfl (hreplace records)
  | settle c => exact absurd rfl (hsettle c)
  | _ => simp [casesAfter, hissued]

/-! ## The commits of a record -/

section

omit [BoardRecord R]

variable {d : Docket R} {id : String} {f : Case → Case}

theorem casesOf_map (hf : ∀ k, (f k).commit = k.commit) (board : Board R) :
    (Docket.mk board (d.cases.map f)).casesOf id = (d.casesOf id).map f := by
  unfold casesOf
  rw [List.filter_map]
  refine congrArg (List.map f) (List.filter_congr fun k _ => ?_)
  simp [hf]

theorem newest?_map (hf : ∀ k, (f k).commit = k.commit) (board : Board R) :
    (Docket.mk board (d.cases.map f)).newest? id = (d.newest? id).map f := by
  unfold newest?
  rw [casesOf_map hf, List.getLast?_map]

theorem casesOf_concat (k : Case) (board : Board R) :
    (Docket.mk board (d.cases ++ [k])).casesOf id =
      if k.commit.recordId = id then d.casesOf id ++ [k] else d.casesOf id := by
  unfold casesOf
  by_cases h : k.commit.recordId = id
  · simp [h]
  · simp [h]

theorem newest?_concat (k : Case) (board : Board R) :
    (Docket.mk board (d.cases ++ [k])).newest? id = if k.commit.recordId = id then some k else d.newest? id := by
  unfold newest?
  rw [casesOf_concat]
  split
  · exact List.getLast?_concat
  · rfl

theorem mem_of_newest? {k : Case} (h : d.newest? id = some k) : k ∈ d.cases ∧ k.commit.recordId = id := by
  have hmem := List.mem_of_getLast? h
  simpa [casesOf] using hmem

end

/-! ## Tickets -/

section

omit [BoardRecord R]

/-- The ticket of the newest commit of a record, unless a result of it has come in. -/
def openTicket? (d : Docket R) (id : String) : Option Nat :=
  (d.newest? id).bind fun k => if k.answers.isEmpty then some k.commit.ticket else none

theorem openTicket?_eq_some_iff {d : Docket R} {id : String} {ticket : Nat} :
    d.openTicket? id = some ticket ↔ ∃ k, d.newest? id = some k ∧ k.answers = [] ∧ k.commit.ticket = ticket := by
  unfold openTicket?
  rw [Option.bind_eq_some_iff]
  refine exists_congr fun k => and_congr_right fun _ => ?_
  cases k.answers <;> simp

/-- What a board knows of its commits. -/
structure Inv (d : Docket R) : Prop where
  inFlight : ∀ id, Dict.get? d.board.inFlight id = d.openTicket? id
  ticket_le : ∀ k ∈ d.cases, k.commit.ticket ≤ d.board.lastTicket
  distinct : (d.cases.map (·.commit.ticket)).Nodup

end

variable {d : Docket R} {op : BoardOp R}

omit [BoardRecord R] in
theorem inv_ofBoard {b : Board R} (hb : b.inFlight = []) : (ofBoard b).Inv :=
  ⟨fun id => congrArg (Dict.get? · id) hb, fun _ hk => absurd hk List.not_mem_nil, List.nodup_nil⟩

omit [BoardRecord R] in
/-- The board and the cases change in nothing that bears on tickets. -/
theorem Inv.map (h : d.Inv) {f : Case → Case} (hf : ∀ k, (f k).commit = k.commit)
    (hanswers : ∀ k, (f k).answers = k.answers) {board : Board R} (hflight : board.inFlight = d.board.inFlight)
    (hlast : board.lastTicket = d.board.lastTicket) : (Docket.mk board (d.cases.map f)).Inv := by
  refine ⟨?_, ?_, ?_⟩
  · intro id
    simp only [openTicket?, newest?_map hf, hflight, h.inFlight id]
    cases d.newest? id <;> simp [hf, hanswers]
  · intro k hk
    obtain ⟨k', hk', rfl⟩ := List.mem_map.mp hk
    simpa [hf, hlast] using h.ticket_le k' hk'
  · simpa [Function.comp_def, hf] using h.distinct

/-- The end of a gesture hands out a commit with a ticket of its own, or nothing. -/
theorem Inv.dragEnd (h : d.Inv) : (d.perform .dragEnd).Inv := by
  simp only [perform, casesAfter, Board.perform, Board.written]
  rcases d.board.dragEnd_cases with ⟨hissued, hboard⟩ | ⟨session, p, -, hissued, -, -, -, hticket, hend⟩
  · rw [hissued, hboard, Option.map_none, Option.toList_none, List.append_nil]
    exact h.map (fun _ => Case.commit_write) (fun _ => Case.answers_write) rfl rfl
  · rw [hissued, hend, Case.map_write_none, Option.map_some, Option.toList_some]
    refine ⟨?_, ?_, ?_⟩
    · intro id
      simp only [openTicket?, newest?_concat, Dict.get?_insert]
      by_cases hid : p.recordId = id
      · simp [hid]
      · rw [if_neg hid, if_neg hid]
        exact h.inFlight id
    · intro k hk
      show k.commit.ticket ≤ p.ticket
      rcases List.mem_append.mp hk with hk | hk
      · have := h.ticket_le k hk
        omega
      · obtain rfl := List.mem_singleton.mp hk
        exact Nat.le_refl _
    · rw [List.map_append, List.nodup_append]
      refine ⟨h.distinct, List.pairwise_singleton _ _, ?_⟩
      -- The tickets before are at most the last one, and the new one is greater.
      intro ticket hmem ticket' hnew
      obtain ⟨k, hk, rfl⟩ := List.mem_map.mp hmem
      have hle := h.ticket_le k hk
      have hnew' : ticket' = p.ticket := by simpa using hnew
      omega

omit [BoardRecord R] in
/-- A result is taken in if and only if it is the first one of the newest commit of its record. -/
theorem Inv.open_iff (h : d.Inv) (c : CommitResult) :
    Dict.get? d.board.inFlight c.recordId = some c.ticket ↔
      ∃ k, d.newest? c.recordId = some k ∧ k.answers = [] ∧ c.Answers k.commit := by
  rw [h.inFlight, openTicket?_eq_some_iff]
  refine exists_congr fun k => and_congr_right fun hk => and_congr_right fun _ => ?_
  have hid := (mem_of_newest? hk).2
  exact ⟨fun hticket => ⟨hid.symm, hticket.symm⟩, fun hof => hof.2.symm⟩

omit [BoardRecord R] in
/-- A result that is taken in closes the newest commit of its record, and any other one closes nothing. -/
theorem Inv.openTicket?_receive (h : d.Inv) (c : CommitResult) (superseded : Bool) (written : Option String)
    (board : Board R) (id : String) :
    (Docket.mk board ((d.cases.map (.receive c superseded)).map (.write written))).openTicket? id =
      if Dict.get? d.board.inFlight c.recordId = some c.ticket ∧ c.recordId = id then none else d.openTicket? id := by
  have hf : ∀ k : Case, ((Case.write written ∘ Case.receive c superseded) k).commit = k.commit := by simp
  rw [List.map_map, openTicket?, newest?_map hf, openTicket?]
  cases hnewest : d.newest? id with
  | none => simp
  | some k =>
    have hid := (mem_of_newest? hnewest).2
    have hopen : Dict.get? d.board.inFlight c.recordId = some c.ticket ∧ c.recordId = id ↔
        k.answers = [] ∧ c.Answers k.commit := by
      rw [h.open_iff]
      constructor
      · rintro ⟨⟨k', hk', hnone, hof⟩, rfl⟩
        cases hnewest.symm.trans hk'
        exact ⟨hnone, hof⟩
      · rintro ⟨hnone, hof⟩
        have hsame : c.recordId = id := hof.1.trans hid
        exact ⟨⟨k, hsame ▸ hnewest, hnone, hof⟩, hsame⟩
    simp only [hopen, Option.map_some, Option.bind_some, Function.comp_apply, Case.answers_write, List.isEmpty_iff,
      Case.answers_receive_eq_nil_iff]
    by_cases hnone : k.answers = [] <;> by_cases hof : c.Answers k.commit <;> simp [hnone, hof]

theorem Inv.settle (h : d.Inv) (c : CommitResult) : (d.perform (.settle c)).Inv := by
  have hlast : (d.board.settle c).2.lastTicket = d.board.lastTicket := by
    rcases d.board.settle_cases c with ⟨-, hsettle⟩ | ⟨-, ⟨v, -, hsettle⟩ | ⟨e, -, hsettle⟩⟩ <;>
      simp only [hsettle, Board.setStatus]
  refine ⟨?_, ?_, ?_⟩
  · intro id
    simp only [perform, casesAfter, Board.perform]
    rw [h.openTicket?_receive, ← h.inFlight id]
    rcases d.board.settle_cases c with ⟨hclosed, hsettle⟩ | ⟨hopen, hsettle⟩
    · rw [hsettle, if_neg fun hboth => hclosed hboth.1]
    · have hflight : (d.board.settle c).2.inFlight = Dict.erase d.board.inFlight c.recordId := by
        rcases hsettle with ⟨v, -, hsettle⟩ | ⟨e, -, hsettle⟩ <;> simp only [hsettle, Board.setStatus]
      rw [hflight]
      by_cases hid : c.recordId = id
      · rw [if_pos ⟨hopen, hid⟩, ← hid, Dict.get?_erase_self]
      · rw [if_neg fun hboth => hid hboth.2, Dict.get?_erase_of_ne _ hid]
  · intro k hk
    simp only [perform, casesAfter, List.map_map] at hk
    obtain ⟨k', hk', rfl⟩ := List.mem_map.mp hk
    simpa [perform, Board.perform, hlast] using h.ticket_le k' hk'
  · simpa [perform, casesAfter, Function.comp_def] using h.distinct

/-- Every operation keeps what a board knows of its commits. -/
theorem Inv.perform (h : d.Inv) (op : BoardOp R) : (d.perform op).Inv := by
  cases op using BoardOp.commitCases with
  | replace records => exact h.map (f := .replace) (fun _ => rfl) (fun _ => rfl) rfl rfl
  | dragEnd => exact h.dragEnd
  | settle c => exact h.settle c
  | other op hend hsettle hreplace =>
    obtain ⟨hflight, hlast, -⟩ := Board.commits_perform (b := d.board) hend hsettle
    rw [Docket.perform, d.casesAfter_eq hend hsettle hreplace]
    exact h.map (fun _ => Case.commit_write) (fun _ => Case.answers_write) hflight hlast

theorem Inv.run (h : d.Inv) (ops : List (BoardOp R)) : (d.run ops).Inv := by
  induction ops generalizing d with
  | nil => exact h
  | cons op rest ih => exact ih (h.perform op)

/-! ## Settling once -/

omit [BoardRecord R] in
/-- Two commits have different tickets, so that a result is one of a single commit. -/
theorem Inv.eq_of_answers (h : d.Inv) {k k' : Case} (hk : k ∈ d.cases) (hk' : k' ∈ d.cases) {c : CommitResult}
    (hof : c.Answers k.commit) (hof' : c.Answers k'.commit) : k = k' :=
  List.inj_on_of_nodup_map h.distinct hk hk' (hof.2.symm.trans hof'.2)

theorem Inv.isSuperseded_eq_false_iff (h : d.Inv) (c : CommitResult) :
    (d.board.settle c).1.isSuperseded = false ↔
      ∃ k, d.newest? c.recordId = some k ∧ c.Answers k.commit ∧ k.answers = [] := by
  have hopen := h.open_iff c
  simp only [and_comm (a := _ = [])] at hopen
  rw [← hopen]
  rcases d.board.settle_cases c with ⟨hclosed, hsettle⟩ | ⟨hopen, ⟨v, -, hsettle⟩ | ⟨e, -, hsettle⟩⟩
  · rw [hsettle]
    exact ⟨(nomatch ·), fun hopen => absurd hopen hclosed⟩
  · rw [hsettle]
    exact ⟨fun _ => hopen, fun _ => rfl⟩
  · rw [hsettle]
    exact ⟨fun _ => hopen, fun _ => rfl⟩

/-- Whatever happened to a board, it takes in a result if and only if it is the first one of the newest commit of its
record, and leaves any other one aside as if it had not come. A commit of a record is under way exactly until then. -/
theorem settles_newest_once {b : Board R} (hb : b.inFlight = []) (ops : List (BoardOp R)) :
    let d := (ofBoard b).run ops
    (∀ c : CommitResult,
      ((d.board.settle c).1.isSuperseded = false ↔
        ∃ k, d.newest? c.recordId = some k ∧ c.Answers k.commit ∧ k.answers = []) ∧
      ((d.board.settle c).1.isSuperseded = true → d.board.settle c = (.superseded c.recordId, d.board))) ∧
    (∀ k ∈ d.cases, ∀ k' ∈ d.cases, ∀ result, (k.commit.answered result).Answers k'.commit ↔ k' = k) ∧
    (∀ id, d.board.isCommitting id = true ↔ ∃ k, d.newest? id = some k ∧ k.answers = []) ∧
    (d.cases.map (·.commit.ticket)).Nodup := by
  intro d
  have hinv : d.Inv := (inv_ofBoard hb).run ops
  refine ⟨?_, ?_, ?_, hinv.distinct⟩
  · intro c
    refine ⟨hinv.isSuperseded_eq_false_iff c, ?_⟩
    rcases d.board.settle_cases c with ⟨-, hsettle⟩ | ⟨-, ⟨v, -, hsettle⟩ | ⟨e, -, hsettle⟩⟩
    · intro _
      exact hsettle
    · rw [hsettle]
      intro hsuperseded
      cases hsuperseded
    · rw [hsettle]
      intro hsuperseded
      cases hsuperseded
  · intro k hk k' hk' result
    constructor
    · intro hof
      exact hinv.eq_of_answers hk' hk hof ⟨rfl, rfl⟩
    · rintro rfl
      exact ⟨rfl, rfl⟩
  · intro id
    unfold Board.isCommitting Dict.contains
    rw [hinv.inFlight, Option.isSome_iff_exists]
    constructor
    · rintro ⟨ticket, hopen⟩
      obtain ⟨k, hk, hnone, -⟩ := openTicket?_eq_some_iff.mp hopen
      exact ⟨k, hk, hnone⟩
    · rintro ⟨k, hk, hnone⟩
      exact ⟨_, openTicket?_eq_some_iff.mpr ⟨k, hk, hnone, rfl⟩⟩

/-- A record that is dropped twice: the second commit is settled once, however often its result comes in. -/
theorem settles_newest_once_triage :
    let second : CommitResult := { Audit.failed with statusBefore := "closed", statusAfter := "new", ticket := 2 }
    let twice : List (BoardOp JsonRecord) :=
      [.beginDrag "a", .dragOver "done", .dragEnd, .beginDrag "a", .dragOver "open", .dragEnd, .settle Audit.failed]
    let d := (ofBoard Board.triage).run twice
    let d' := (ofBoard Board.triage).run (twice ++ [.settle second])
    Board.triage.inFlight = [] ∧ (d.board.settle second).1.isSuperseded = false ∧
      d'.board.settle second = (.superseded "a", d'.board) ∧ d'.board.isCommitting "a" = false := by
  intro second twice d d'
  obtain ⟨htaken, -, -, -⟩ := settles_newest_once (b := Board.triage) rfl twice
  obtain ⟨haside, -, hcommitting, -⟩ := settles_newest_once (b := Board.triage) rfl (twice ++ [.settle second])
  refine ⟨rfl, ?_, ?_, ?_⟩
  · exact (htaken second).1.mpr ⟨_, rfl, ⟨rfl, rfl⟩, rfl⟩
  · exact (haside second).2 rfl
  · rw [Bool.eq_false_iff]
    intro hopen
    obtain ⟨k, hk, hnone⟩ := (hcommitting "a").mp hopen
    cases hk
    cases hnone

end Docket

end RecordScreens
