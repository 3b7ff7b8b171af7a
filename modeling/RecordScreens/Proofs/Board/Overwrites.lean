import RecordScreens.Proofs.Board.Docket

/-!
# What a late failure overwrites

A commit that fails puts back the status from before its drag, as long as no newer
commit of the record was handed out. Nothing else holds it back: neither records that
were replaced since, nor a drag of the record that is on. As long as nobody wrote the
record, it is the drop itself that is undone.
-/

namespace RecordScreens

/-! ## Writes -/

namespace Board

variable {R : Type} [BoardRecord R] [LawfulBoardRecord R] {b : Board R}

/-- But for new records, an operation writes at most one status. -/
theorem statuses_perform {op : BoardOp R} (hreplace : ∀ records, op ≠ .replace records) :
    ∃ s, (b.perform op).statuses = match b.written op with
      | some id => b.statuses.set id s
      | none => b.statuses := by
  obtain ⟨s, hrecords⟩ := records_perform (b := b) hreplace
  refine ⟨s, ?_⟩
  unfold statuses
  rw [hrecords]
  cases b.written op with
  | none => rfl
  | some id => exact statuses_setStatus b id s

end Board

namespace Docket

variable {R : Type} [BoardRecord R]

/-! ## Commits that nobody wrote over -/

/-- A record that nobody wrote since a commit has the status of that commit. -/
def Shows (d : Docket R) : Prop :=
  ∀ k ∈ d.cases, k.overwritten = false → d.board.statuses.get? k.commit.recordId = some k.commit.statusAfter

variable {d : Docket R}

theorem Shows.dragEnd (h : d.Shows)
    (hpresent : ∀ {session}, d.board.gesture = .dragging session →
      ∃ s, d.board.statuses.get? session.recordId = some s) : (d.perform .dragEnd).Shows := by
  intro k hk hfree
  simp only [perform, casesAfter, Board.perform, Board.written, Case.map_write_none] at hk ⊢
  rcases d.board.dragEnd_cases with ⟨hissued, hend⟩ | ⟨session, p, hdrag, hissued, hid, -, hstatus, -, hend⟩
  · rw [hissued, Option.map_none, Option.toList_none, List.append_nil] at hk
    rw [hend]
    exact h k hk hfree
  · rw [hissued, Option.map_some, Option.toList_some] at hk
    rw [hend]
    rcases List.mem_append.mp hk with hk | hk
    · exact h k hk hfree
    · -- The new commit takes its status from the record.
      rw [List.mem_singleton.mp hk]
      obtain ⟨s, hs⟩ := hpresent hdrag
      show d.board.statuses.get? p.recordId = some p.statusAfter
      rw [hid, hstatus, ← Board.get?_statuses, hs, Option.getD_some]

variable [LawfulBoardRecord R]

/-- An operation writes at most one record, and its cases are marked. -/
theorem Shows.write (h : d.Shows) {op : BoardOp R} (hreplace : ∀ records, op ≠ .replace records) {f : Case → Case}
    (hcommit : ∀ k, (f k).commit = k.commit) (hoverwritten : ∀ k, (f k).overwritten = k.overwritten) :
    (Docket.mk (d.board.perform op) ((d.cases.map f).map (.write (d.board.written op)))).Shows := by
  intro k hk hfree
  rw [List.map_map] at hk
  obtain ⟨k', hk', rfl⟩ := List.mem_map.mp hk
  obtain ⟨hfree', hwritten⟩ := Case.overwritten_write_eq_false_iff.mp hfree
  obtain ⟨s, hstatuses⟩ := Board.statuses_perform (b := d.board) hreplace
  have hshown := h k' hk' ((hoverwritten k').symm.trans hfree')
  simp only [Function.comp_apply, Case.commit_write, hcommit] at hwritten ⊢
  rw [hstatuses]
  cases hid : d.board.written op with
  | none => exact hshown
  | some id =>
    have hne : id ≠ k'.commit.recordId := fun heq => hwritten (hid.trans (congrArg some heq))
    exact (Statuses.get?_set_of_ne hne s _).trans hshown

theorem Shows.perform (h : d.Shows)
    (hpresent : ∀ {session}, d.board.gesture = .dragging session →
      ∃ s, d.board.statuses.get? session.recordId = some s) (op : BoardOp R) : (d.perform op).Shows := by
  cases op using BoardOp.commitCases with
  | replace records =>
    intro k hk hfree
    obtain ⟨k', -, rfl⟩ := List.mem_map.mp hk
    cases hfree
  | dragEnd => exact h.dragEnd hpresent
  | settle c =>
    have hreplace (records : List R) : BoardOp.settle c ≠ .replace records := fun h => by cases h
    exact h.write hreplace (fun _ => Case.commit_receive) (fun _ => Case.overwritten_receive)
  | other op hend hsettle hreplace =>
    rw [Docket.perform, d.casesAfter_eq hend hsettle hreplace]
    simpa using h.write hreplace (f := id) (fun _ => rfl) (fun _ => rfl)

theorem Shows.run (h : d.Shows) {a : Audit R} (ha : a.Inv) (hboard : a.board = d.board) (ops : List (BoardOp R)) :
    (d.run ops).Shows := by
  -- The audit of the run knows that a dragged record is there.
  induction ops generalizing d a with
  | nil => exact h
  | cons op rest ih =>
    have hpresent {session} (hdrag : d.board.gesture = .dragging session) :
        ∃ s, d.board.statuses.get? session.recordId = some s := by
      rw [← hboard] at hdrag ⊢
      exact ha.present hdrag
    exact ih (h.perform hpresent op) (ha.perform op) ((a.board_perform op).trans (congrArg (·.perform op) hboard))

/-! ## Late failures -/

/-- Whether a failure of a commit puts another status back: it is the first result of the newest commit of a record
that does not show the old status already. -/
def Undoes (d : Docket R) (k : Case) : Prop :=
  d.newest? k.commit.recordId = some k ∧ k.answers = [] ∧
    ∃ s, d.board.statuses.get? k.commit.recordId = some s ∧ s ≠ k.commit.statusBefore

/-- A failure either puts back the status from before the drag of its commit or changes no status. -/
theorem Inv.statuses_settle_error (h : d.Inv) {k : Case} (hk : k ∈ d.cases) (e : QueryError) :
    let settled := (d.board.settle (k.commit.answered (.error e))).2
    (d.Undoes k ∧ settled.statuses = d.board.statuses.set k.commit.recordId k.commit.statusBefore) ∨
    (¬ d.Undoes k ∧ settled.statuses = d.board.statuses) := by
  intro settled
  rcases d.board.settle_cases (k.commit.answered (.error e)) with
    ⟨hclosed, hsettle⟩ | ⟨htaken, ⟨v, hresult, -⟩ | ⟨e', -, hsettle⟩⟩
  · refine .inr ⟨?_, by simp only [settled, hsettle]⟩
    rintro ⟨hnewest, hnone, -⟩
    exact hclosed ((h.open_iff _).mpr ⟨k, hnewest, hnone, rfl, rfl⟩)
  · cases hresult
  · obtain ⟨k', hnewest, hnone, hof⟩ := (h.open_iff _).mp htaken
    obtain rfl := h.eq_of_answers hk (mem_of_newest? hnewest).1 ⟨rfl, rfl⟩ hof
    have hstatuses : settled.statuses = d.board.statuses.set k.commit.recordId k.commit.statusBefore := by
      simp only [settled, hsettle]
      exact Board.statuses_setStatus ..
    -- The old status is put back in any case, which changes nothing if it is there or nothing is.
    cases hshown : d.board.statuses.get? k.commit.recordId with
    | none =>
      refine .inr ⟨?_, ?_⟩
      · rintro ⟨-, -, t, ht, -⟩
        cases hshown.symm.trans ht
      · rw [hstatuses, Statuses.set_of_get?_none hshown]
    | some s =>
      by_cases hsame : s = k.commit.statusBefore
      · refine .inr ⟨?_, ?_⟩
        · rintro ⟨-, -, t, ht, hne⟩
          cases hshown.symm.trans ht
          exact hne hsame
        · rw [hstatuses, ← hsame, Statuses.set_of_get? hshown]
      · exact .inl ⟨⟨hnewest, hnone, s, hshown, hsame⟩, hstatuses⟩

theorem Inv.settle_error_changes_iff (h : d.Inv) {k : Case} (hk : k ∈ d.cases) (e : QueryError) :
    (d.board.settle (k.commit.answered (.error e))).2.statuses.get? k.commit.recordId ≠
      d.board.statuses.get? k.commit.recordId ↔ d.Undoes k := by
  rcases h.statuses_settle_error hk e with ⟨hundoes, hstatuses⟩ | ⟨hkeeps, hstatuses⟩
  · have ⟨_, _, s, hshown, hne⟩ := hundoes
    rw [hstatuses, Statuses.get?_set_self hshown, hshown]
    exact ⟨fun _ => hundoes, fun _ hsame => hne (Option.some.inj hsame).symm⟩
  · rw [hstatuses]
    exact ⟨fun hchanges => absurd rfl hchanges, fun hundoes => absurd hundoes hkeeps⟩

/-- A failure changes the status of its record if and only if it is the first result of the newest commit of a record
that does not show the old status already. If nobody wrote the record since, it is the status of the drop that goes;
else whatever was written since is lost, be it new records or the status of a drag that is on. -/
theorem failure_undoes_newest {b : Board R} (hb : b.dragging = none) (hcommits : b.inFlight = [])
    (ops : List (BoardOp R)) :
    let d := (ofBoard b).run ops
    ∀ k ∈ d.cases, ∀ e,
      let shown := d.board.statuses.get? k.commit.recordId
      let settled := (d.board.settle (k.commit.answered (.error e))).2
      (settled.statuses.get? k.commit.recordId ≠ shown ↔ d.Undoes k) ∧
      (d.Undoes k → settled.statuses = d.board.statuses.set k.commit.recordId k.commit.statusBefore) ∧
      (¬ d.Undoes k → settled.statuses = d.board.statuses) ∧
      (k.overwritten = false → shown = some k.commit.statusAfter) ∧
      ((settled.statuses.get? k.commit.recordId ≠ shown → k.overwritten = false) ↔
        ¬ (k.overwritten = true ∧ d.Undoes k)) := by
  intro d k hk e shown settled
  have hinv : d.Inv := (inv_ofBoard hcommits).run ops
  have hshows : d.Shows := Shows.run (a := .ofBoard b) (fun k hk => absurd hk List.not_mem_nil)
    (Audit.inv_between hb rfl rfl) rfl ops
  have hchanges : settled.statuses.get? k.commit.recordId ≠ shown ↔ d.Undoes k := hinv.settle_error_changes_iff hk e
  have hsettled : d.Undoes k ∧ _ ∨ ¬ d.Undoes k ∧ _ := hinv.statuses_settle_error hk e
  refine ⟨hchanges, ?_, ?_, hshows k hk, ?_⟩
  · intro hundoes
    exact (hsettled.resolve_right fun hkeeps => hkeeps.1 hundoes).2
  · intro hkeeps
    exact (hsettled.resolve_left fun hundoes => hkeeps hundoes.1).2
  · rw [hchanges]
    cases k.overwritten <;> simp

/-- A commit that fails before anything else happens to its record. -/
theorem failure_undoes_newest_triage :
    let d := (ofBoard Board.triage).run [.beginDrag "a", .dragOver "done", .dragEnd]
    Board.triage.dragging = none ∧ Board.triage.inFlight = [] ∧ d.board.statuses.get? "a" = some "closed" ∧
      (d.board.settle Audit.failed).2.statuses = d.board.statuses.set "a" "new" := by
  intro d
  obtain ⟨-, hundone, -, hshown, -⟩ := failure_undoes_newest (b := Board.triage) rfl rfl
    [.beginDrag "a", .dragOver "done", .dragEnd] (d.cases.head (by decide)) (List.head_mem _)
    (.source "move" "refused")
  exact ⟨rfl, rfl, hshown rfl, hundone ⟨rfl, rfl, "closed", rfl, by decide⟩⟩

/-- A commit of the second record that failed. -/
def failedSecond : CommitResult := { Audit.failed with recordId := "b", statusBefore := "seen" }

/-- A failure takes back the status of records that came after the drop, and the status of a later drag of the record
that is still on. -/
theorem failure_overwrites_newer :
    (let d := (ofBoard Board.triage).run
      [.beginDrag "a", .dragOver "done", .dragEnd, .replace [⟨[("id", .string "a"), ("status", .string "seen")]⟩]]
    d.board.statuses.get? "a" = some "seen" ∧ (d.board.settle Audit.failed).2.statuses.get? "a" = some "new") ∧
    (let d := (ofBoard Board.triage).run
      [.beginDrag "b", .dragOver "done", .dragEnd, .beginDrag "b", .dragOver "open"]
    d.board.dragging = some "b" ∧ d.board.statuses.get? "b" = some "new" ∧
      (d.board.settle failedSecond).2.statuses.get? "b" = some "seen") := by
  refine ⟨⟨?_, ?_⟩, ?_, ?_, ?_⟩ <;> rfl

end Docket

end RecordScreens
