import RecordScreens.Proofs.Board.Docket

/-!
# What is left when all commits have settled

A board and its source agree on a record if it has the status of its last commit that
succeeded. What the board shows is decided by the newest commit alone: its own status if
it succeeded, and the status from before its drag if it failed. The two are the same
unless that status was itself the one of a commit that failed later, which the board
does not notice.
-/

namespace RecordScreens

/-! ## Outcomes -/

def Answer.failed (a : Answer) : Bool :=
  match a.result with
  | .ok _ => false
  | .error _ => true

namespace Case

/-- The result that counts; what comes later is a copy of it. -/
def first? (k : Case) : Option Answer := k.answers.head?

def succeeded (k : Case) : Bool := k.first?.any (!·.failed)

def failed (k : Case) : Bool := k.first?.any (·.failed)

/-- Whether the commit failed after a newer one of its record was handed out. -/
def missed (k : Case) : Bool := k.first?.any fun a => a.failed && a.superseded

/-- The status that the commit leaves. -/
def status (k : Case) : String := if k.failed then k.commit.statusBefore else k.commit.statusAfter

variable {c : CommitResult} {superseded : Bool} {id : Option String} {k : Case}

theorem first?_receive : (k.receive c superseded).first? =
    if c.Answers k.commit then some (k.first?.getD ⟨c.result, superseded⟩) else k.first? := by
  unfold first?
  by_cases h : c.Answers k.commit
  · rw [answers_receive_of_answers h, if_pos h]
    cases k.answers <;> rfl
  · rw [receive_of_not_answers h, if_neg h]

@[simp] theorem first?_write : (k.write id).first? = k.first? := by simp [first?]

theorem status_congr {k k' : Case} (hcommit : k.commit = k'.commit) (hfirst : k.first? = k'.first?) :
    k.status = k'.status := by
  unfold status failed
  rw [hcommit, hfirst]

@[simp] theorem status_write : (k.write id).status = k.status := status_congr commit_write first?_write

@[simp] theorem missed_write : (k.write id).missed = k.missed := by simp [missed]

theorem failed_eq_false_iff (h : k.answers ≠ []) : k.failed = false ↔ k.succeeded = true := by
  obtain ⟨a, rest, hanswers⟩ := List.exists_cons_of_ne_nil h
  simp [failed, succeeded, first?, hanswers]

/-- Only its first result has a bearing on what a commit leaves. -/
theorem status_receive (h : ¬ (k.answers = [] ∧ c.Answers k.commit)) : (k.receive c superseded).status = k.status := by
  by_cases hof : c.Answers k.commit
  · obtain ⟨a, rest, hanswers⟩ := List.exists_cons_of_ne_nil fun hnone => h ⟨hnone, hof⟩
    refine status_congr commit_receive ?_
    rw [first?_receive, if_pos hof, first?, hanswers]
    rfl
  · rw [receive_of_not_answers hof]

theorem status_of_open (h : k.answers = []) : k.status = k.commit.statusAfter := by
  simp [status, failed, first?, h]

/-- The first result of a commit decides on its outcome. -/
theorem first?_receive_first (h : k.answers = []) (hof : c.Answers k.commit) :
    (k.receive c superseded).first? = some ⟨c.result, superseded⟩ := by
  rw [first?_receive, if_pos hof, first?, h]
  rfl

theorem status_receive_first (h : k.answers = []) (hof : c.Answers k.commit) :
    (k.receive c superseded).status =
      if (Answer.mk c.result superseded).failed then k.commit.statusBefore else k.commit.statusAfter := by
  simp [status, failed, first?_receive_first h hof]

theorem missed_receive (h : k.missed = true) : (k.receive c superseded).missed = true := by
  unfold missed at h ⊢
  rw [first?_receive]
  split
  · cases hfirst : k.first? with
    | none => simp [hfirst] at h
    | some a => simpa [hfirst] using h
  · exact h

end Case

/-! ## Statuses of commits in turn -/

namespace Docket

/-- The status that the newest commit leaves. -/
def left? (original : Option String) (ks : List Case) : Option String :=
  (ks.getLast?.map (·.status)).or original

/-- The status of the last commit that succeeded. -/
def agreed? (original : Option String) (ks : List Case) : Option String :=
  ((ks.filter (·.succeeded)).getLast?.map (·.commit.statusAfter)).or original

/-- Each drag began at the status that the commit before it leaves. -/
def Founded : Option String → List Case → Prop
  | _, [] => True
  | s, k :: rest => s = some k.commit.statusBefore ∧ Founded (some k.status) rest

variable {s : Option String} {k : Case} {ks : List Case} {f : Case → Case}

theorem left?_cons (s : Option String) (k : Case) (ks : List Case) : left? s (k :: ks) = left? (some k.status) ks := by
  unfold left?
  rw [List.getLast?_cons]
  cases ks.getLast? <;> rfl

theorem left?_concat (s : Option String) (ks : List Case) (k : Case) : left? s (ks ++ [k]) = some k.status := by
  simp [left?]

theorem agreed?_cons (s : Option String) (k : Case) (ks : List Case) :
    agreed? s (k :: ks) = agreed? (if k.succeeded then some k.commit.statusAfter else s) ks := by
  unfold agreed?
  by_cases h : k.succeeded
  · rw [List.filter_cons_of_pos h, List.getLast?_cons, if_pos h]
    cases (ks.filter (·.succeeded)).getLast? <;> rfl
  · rw [List.filter_cons_of_neg h, if_neg h]

theorem founded_concat : Founded s (ks ++ [k]) ↔ Founded s ks ∧ left? s ks = some k.commit.statusBefore := by
  induction ks generalizing s with
  | nil => simp [Founded, left?]
  | cons first rest ih =>
    simp only [List.cons_append, Founded, ih, left?_cons, and_assoc]

/-- What comes after a commit has to keep its status, the last one excepted. -/
theorem Founded.map (h : Founded s ks) (hcommit : ∀ k, (f k).commit = k.commit)
    (hstatus : ∀ k ∈ ks.dropLast, (f k).status = k.status) : Founded s (ks.map f) := by
  induction ks generalizing s with
  | nil => trivial
  | cons first rest ih =>
    obtain ⟨hbefore, hrest⟩ := h
    refine ⟨by rw [hcommit, hbefore], ?_⟩
    cases rest with
    | nil => trivial
    | cons second rest =>
      rw [hstatus first (by simp)]
      exact ih hrest fun k hk => hstatus k (by simp [hk])

/-- If each drag began at the status that the commit before it leaves, the last commit leaves the status of the last
one that succeeded. -/
theorem Founded.left?_eq (h : Founded s ks) (hall : ∀ k ∈ ks, k.answers ≠ []) : left? s ks = agreed? s ks := by
  induction ks generalizing s with
  | nil => rfl
  | cons k rest ih =>
    obtain ⟨hbefore, hrest⟩ := h
    rw [left?_cons, agreed?_cons, ih hrest fun k' hk' => hall k' (List.mem_cons_of_mem k hk')]
    -- A commit that failed leaves what was there before it, and counts for nothing.
    obtain ⟨a, others, hanswers⟩ := List.exists_cons_of_ne_nil (hall k List.mem_cons_self)
    cases hfailed : a.failed <;>
      simp [Case.status, Case.succeeded, Case.failed, Case.first?, hanswers, hfailed, hbefore]

/-- Once all results are in, the last commit leaves the status of the last one that succeeded unless it failed itself,
and its drag began at another status. -/
theorem left?_eq_agreed?_iff (hall : ∀ k ∈ ks, k.answers ≠ []) :
    left? s ks = agreed? s ks ↔
      ∀ k, ks.getLast? = some k → k.failed = true → agreed? s ks = some k.commit.statusBefore := by
  rcases List.eq_nil_or_concat ks with rfl | ⟨earlier, k, rfl⟩
  · simp [left?, agreed?]
  · rw [List.concat_eq_append] at hall ⊢
    rw [left?_concat, List.getLast?_concat]
    cases hfailed : k.failed with
    | true =>
      simp only [Case.status, hfailed, if_true, Option.some.injEq, forall_eq', true_imp_iff]
      exact eq_comm
    | false =>
      have hsucceeded : k.succeeded = true := by
        rw [← Case.failed_eq_false_iff (hall k (by simp)), hfailed]
      simp [agreed?, Case.status, hfailed, hsucceeded]

theorem left?_map (h : ∀ k, ks.getLast? = some k → (f k).status = k.status) : left? s (ks.map f) = left? s ks := by
  unfold left?
  rw [List.getLast?_map]
  cases hlast : ks.getLast? with
  | none => rfl
  | some k => simp [h k hlast]

/-- The commits of a record that had the status `s` leave the status `t`. Unless one of them was missed, each drag began
at the status that the commit before it leaves. -/
structure Leaves (s : Option String) (ks : List Case) (t : Option String) : Prop where
  left : left? s ks = t
  founded : (∀ k ∈ ks, k.missed = false) → Founded s ks

variable {t : Option String} {c : CommitResult} {superseded : Bool}

theorem Leaves.concat (h : Leaves s ks (some k.commit.statusBefore)) : Leaves s (ks ++ [k]) (some k.status) := by
  refine ⟨left?_concat .., fun hmissed => founded_concat.mpr ⟨h.founded fun k' hk' => ?_, h.left⟩⟩
  exact hmissed k' (List.mem_append_left _ hk')

theorem Leaves.write (h : Leaves s ks t) (id : Option String) : Leaves s (ks.map (.write id)) t := by
  refine ⟨(left?_map fun _ _ => Case.status_write).trans h.left, fun hmissed => ?_⟩
  refine (h.founded fun k hk => ?_).map (fun _ => Case.commit_write) fun _ _ => Case.status_write
  simpa using hmissed _ (List.mem_map_of_mem hk)

/-- A result comes in that does not decide on any commit but the last one. -/
theorem Leaves.founded_receive (h : Leaves s ks t)
    (hmissed : ∀ k ∈ ks.map (Case.receive c superseded), k.missed = false)
    (hstatus : ∀ k ∈ ks.dropLast, (k.receive c superseded).status = k.status) :
    Founded s (ks.map (.receive c superseded)) := by
  refine (h.founded fun k hk => ?_).map (fun _ => Case.commit_receive) hstatus
  rw [Bool.eq_false_iff]
  intro hmiss
  have hnot := hmissed _ (List.mem_map_of_mem hk)
  simp [Case.missed_receive hmiss] at hnot

theorem Leaves.elsewhere (h : Leaves s ks t) (hks : ∀ k ∈ ks, ¬ c.Answers k.commit) :
    Leaves s (ks.map (.receive c superseded)) t := by
  rwa [List.map_congr_left fun k hk => Case.receive_of_not_answers (hks k hk), List.map_id']

/-- A result that is left aside does not decide on the last commit. If it would decide on another one, and is a failure,
that commit is missed. -/
theorem Leaves.aside (h : Leaves s ks t)
    (hlast : ∀ k, ks.getLast? = some k → ¬ (k.answers = [] ∧ c.Answers k.commit)) :
    Leaves s (ks.map (.receive c true)) t := by
  refine ⟨(left?_map fun k hk => Case.status_receive (hlast k hk)).trans h.left, fun hmissed => ?_⟩
  refine h.founded_receive hmissed fun k hk => ?_
  by_cases hfirst : k.answers = [] ∧ c.Answers k.commit
  · obtain ⟨hnone, hof⟩ := hfirst
    have hnot := hmissed _ (List.mem_map_of_mem ((List.dropLast_sublist _).subset hk))
    rw [Case.status_receive_first hnone hof, Case.status_of_open hnone]
    cases hfailed : Answer.failed ⟨c.result, true⟩ with
    | true => simp [Case.missed, Case.first?_receive_first hnone hof, hfailed] at hnot
    | false => rfl
  · exact Case.status_receive hfirst

/-- A result that is taken in decides on the last commit and on no other. -/
theorem Leaves.taken (h : Leaves s (ks ++ [k]) t) (hks : ∀ k ∈ ks, ¬ c.Answers k.commit) :
    Leaves s ((ks ++ [k]).map (.receive c false)) (some (k.receive c false).status) := by
  refine ⟨by rw [List.map_append]; exact left?_concat .., fun hmissed => h.founded_receive hmissed fun k' hk' => ?_⟩
  rw [List.dropLast_concat] at hk'
  exact Case.status_receive fun hfirst => hks k' hk' hfirst.2

/-! ## Runs -/

variable {R : Type} [BoardRecord R]

/-- Every result that comes in is one of a commit that was handed out. -/
def Genuine : List (BoardOp R) → Docket R → Prop
  | [], _ => True
  | op :: rest, d =>
    (∀ c, op = .settle c → ∃ k ∈ d.cases, c = k.commit.answered c.result) ∧ Genuine rest (d.perform op)

end Docket

namespace Audit

variable {R : Type} [BoardRecord R] {a : Audit R}

theorem ledger_perform_of_ne {op : BoardOp R} (hend : op ≠ .dragEnd) (hsettle : ∀ c, op ≠ .settle c)
    (hreplace : ∀ records, op ≠ .replace records) : (a.perform op).ledger = a.ledger := by
  cases op with
  | replace records => exact absurd rfl (hreplace records)
  | dragEnd => exact absurd rfl hend
  | settle c => exact absurd rfl (hsettle c)
  | pointerMove place => rfl
  | dragOver column => rfl
  | pointerDown id place =>
    simp only [perform, interrupt]
    split <;> rfl
  | beginDrag id =>
    simp only [perform, interrupt]
    split <;> rfl
  | dragCancel =>
    simp only [perform, putBack]
    split <;> rfl

theorem ledger_dragEnd : (a.perform .dragEnd).ledger =
    match a.board.issued .dragEnd with
    | some p => a.ledger.set p.recordId p.statusAfter
    | none => a.ledger := by
  simp only [perform, drop, Board.issued, putBack, enter]
  cases a.board.dragEnd.1 <;> simp only <;> split <;> rfl

theorem ledger_settle (c : CommitResult) : (a.perform (.settle c)).ledger =
    match (a.board.settle c).1 with
    | .reverted id status _ => a.ledger.set id status
    | _ => a.ledger := by
  simp only [perform, settle, enter]
  cases (a.board.settle c).1 <;> rfl

end Audit

namespace Docket

variable {R : Type} [BoardRecord R] {d : Docket R} {a : Audit R} {original : String → Option String}

/-- What the ledger of an orderly run says of a record is what its commits leave. -/
structure Reconciles (original : String → Option String) (d : Docket R) (a : Audit R) : Prop where
  board : a.board = d.board
  audit : a.Inv
  docket : d.Inv
  tidy : a.left = a.ledger
  current : a.outdated = false
  leaves : ∀ id, Leaves (original id) (d.casesOf id) (a.ledger.get? id)

theorem Reconciles.dragEnd (h : Reconciles original d a) (id : String) :
    Leaves (original id) ((d.perform .dragEnd).casesOf id) ((a.perform .dragEnd).ledger.get? id) := by
  rw [Audit.ledger_dragEnd, h.board]
  simp only [perform, casesAfter, Board.written, Case.map_write_none]
  rcases d.board.dragEnd_cases with ⟨hissued, -⟩ | ⟨session, p, hdrag, hissued, hid, hbefore, -, -, -⟩
  · rw [hissued, Option.map_none, Option.toList_none, List.append_nil]
    exact h.leaves id
  · rw [hissued, Option.map_some, Option.toList_some, casesOf_concat]
    -- The drag remembers what the ledger says of its record.
    have hledger : a.ledger.get? p.recordId = some p.statusBefore := by
      rw [hid, hbefore, ← h.tidy]
      exact h.audit.before (h.board ▸ hdrag) h.current
    by_cases hsame : p.recordId = id
    · subst hsame
      rw [if_pos rfl, Statuses.get?_set_self hledger]
      exact Leaves.concat (k := { commit := p }) (hledger ▸ h.leaves _)
    · rw [if_neg hsame, Statuses.get?_set_of_ne hsame]
      exact h.leaves id

omit [BoardRecord R] in
/-- The tickets of a record are different, so a result of its last commit is none of another one. -/
theorem Inv.not_answers (h : d.Inv) {id : String} {ks : List Case} {k : Case} (hcases : d.casesOf id = ks ++ [k])
    {c : CommitResult} (hof : c.Answers k.commit) : ∀ k' ∈ ks, ¬ c.Answers k'.commit := by
  intro k' hk' hof'
  have hmem {k'' : Case} (hk'' : k'' ∈ ks ++ [k]) : k'' ∈ d.cases :=
    List.mem_of_mem_filter (hcases ▸ hk'' : k'' ∈ d.casesOf id)
  obtain rfl := h.eq_of_answers (hmem (List.mem_append_left _ hk')) (hmem (by simp)) hof' hof
  have hnodup : (d.casesOf id).Nodup := (h.distinct.of_map _).filter _
  rw [hcases] at hnodup
  exact (List.nodup_append.mp hnodup).2.2 k' hk' k' (List.mem_singleton_self k') rfl

/-- The first result of the newest commit of a record decides on what its commits leave. -/
theorem Reconciles.taken (h : Reconciles original d a) {c : CommitResult} {k : Case}
    (hnewest : d.newest? c.recordId = some k) (hnone : k.answers = []) (hof : c.Answers k.commit) :
    a.ledger.get? c.recordId = some k.commit.statusAfter ∧
      Leaves (original c.recordId) ((d.casesOf c.recordId).map (.receive c false))
        (some (if (Answer.mk c.result false).failed then k.commit.statusBefore else k.commit.statusAfter)) := by
  obtain ⟨ks, hks⟩ := List.getLast?_eq_some_iff.mp hnewest
  have hleaves := h.leaves c.recordId
  rw [hks] at hleaves ⊢
  constructor
  · rw [← hleaves.left, left?_concat, Case.status_of_open hnone]
  · have htaken := hleaves.taken (h.docket.not_answers hks hof)
    rwa [Case.status_receive_first hnone hof] at htaken

theorem Reconciles.settle (h : Reconciles original d a) {c : CommitResult}
    (hgenuine : ∃ k ∈ d.cases, c = k.commit.answered c.result) (id : String) :
    Leaves (original id) ((d.perform (.settle c)).casesOf id) ((a.perform (.settle c)).ledger.get? id) := by
  have hcases : (d.perform (.settle c)).casesOf id =
      ((d.casesOf id).map (.receive c (d.board.settle c).1.isSuperseded)).map
        (.write (d.board.written (.settle c))) := by
    simp only [perform, casesAfter, List.map_map]
    exact casesOf_map (by simp) _
  rw [hcases, Audit.ledger_settle, h.board]
  apply Leaves.write
  rcases d.board.settle_cases c with ⟨hclosed, hsettle⟩ | ⟨hopen, hsettle⟩
  · rw [hsettle]
    refine (h.leaves id).aside fun k hnewest => ?_
    rintro ⟨hnone, hof⟩
    obtain rfl : c.recordId = id := hof.1.trans (mem_of_newest? hnewest).2
    exact hclosed ((h.docket.open_iff c).mpr ⟨k, hnewest, hnone, hof⟩)
  · obtain ⟨k, hnewest, hnone, hof⟩ := (h.docket.open_iff c).mp hopen
    by_cases hid : c.recordId = id
    · subst hid
      obtain ⟨hledger, htaken⟩ := h.taken hnewest hnone hof
      rcases hsettle with ⟨v, hresult, hsettle⟩ | ⟨e, hresult, hsettle⟩
      · rw [hsettle]
        simpa [SettleOutcome.isSuperseded, Answer.failed, hresult, hledger] using htaken
      · -- A result with the ticket of this commit brings back the status from before its drag.
        obtain ⟨k', hk', hanswered⟩ := hgenuine
        obtain rfl := h.docket.eq_of_answers (mem_of_newest? hnewest).1 hk' hof (hanswered ▸ ⟨rfl, rfl⟩)
        have hbefore : c.statusBefore = k.commit.statusBefore := by rw [hanswered]; rfl
        rw [hsettle]
        simpa [SettleOutcome.isSuperseded, Answer.failed, hresult, hbefore, Statuses.get?_set_self hledger] using htaken
    · have helsewhere : ∀ k' ∈ d.casesOf id, ¬ c.Answers k'.commit := by
        intro k' hk' hof'
        exact hid (hof'.1.trans (by simpa using List.of_mem_filter hk'))
      rcases hsettle with ⟨v, -, hsettle⟩ | ⟨e, -, hsettle⟩
      · rw [hsettle]
        exact (h.leaves id).elsewhere helsewhere
      · rw [hsettle]
        simp only [Statuses.get?_set_of_ne hid]
        exact (h.leaves id).elsewhere helsewhere

/-! ## Orderly runs -/

/-- Every operation of an orderly run without new records keeps the books. -/
theorem Reconciles.perform [LawfulBoardRecord R] (h : Reconciles original d a) {op : BoardOp R}
    (hgenuine : ∀ c, op = .settle c → ∃ k ∈ d.cases, c = k.commit.answered c.result)
    (hreplace : ∀ records, op ≠ .replace records) (horderly : ¬ a.Disturbs op) :
    Reconciles original (d.perform op) (a.perform op) := by
  obtain ⟨htidy, hcurrent⟩ := Audit.left_perform horderly h.tidy h.current
  refine ⟨(a.board_perform op).trans (congrArg (·.perform op) h.board), h.audit.perform op, h.docket.perform op,
    htidy, hcurrent, fun id => ?_⟩
  cases op using BoardOp.commitCases with
  | replace records => exact absurd rfl (hreplace records)
  | dragEnd => exact h.dragEnd id
  | settle c => exact h.settle (hgenuine c rfl) id
  | other op hend hsettle hreplace =>
    rw [Audit.ledger_perform_of_ne hend hsettle hreplace, Docket.perform, d.casesAfter_eq hend hsettle hreplace,
      casesOf_map fun _ => Case.commit_write]
    exact (h.leaves id).write _

theorem Reconciles.run [LawfulBoardRecord R] (h : Reconciles original d a) {ops : List (BoardOp R)}
    (hgenuine : Genuine ops d) (hreplace : ∀ records, .replace records ∉ ops) (horderly : Audit.Orderly ops a) :
    Reconciles original (d.run ops) (Audit.run ops a) := by
  induction ops generalizing d a with
  | nil => exact h
  | cons op rest ih =>
    refine ih (h.perform hgenuine.1 ?_ horderly.1) hgenuine.2 ?_ horderly.2
    · rintro records rfl
      exact hreplace records List.mem_cons_self
    · exact fun records hmem => hreplace records (List.mem_cons_of_mem _ hmem)

/-- After an orderly run with the results of its commits, in any order and any number, a record shows what its newest
commit leaves. That is the status of its last commit that succeeded unless the newest one failed, and its drag began
at another status. It did not if no commit failed after a newer one was handed out. -/
theorem settled_statuses [LawfulBoardRecord R] {b : Board R} (hb : b.dragging = none) (hcommits : b.inFlight = [])
    {ops : List (BoardOp R)} (hgenuine : Genuine ops (ofBoard b)) (hreplace : ∀ records, .replace records ∉ ops)
    (horderly : Audit.Orderly ops (.ofBoard b)) :
    let d := (ofBoard b).run ops
    d.board.dragging = none → (∀ k ∈ d.cases, k.answers ≠ []) → ∀ id,
      let original := b.statuses.get? id
      let shown := d.board.statuses.get? id
      let agreed := agreed? original (d.casesOf id)
      shown = ((d.newest? id).map (·.status)).or original ∧
      (shown = agreed ↔ ∀ k, d.newest? id = some k → k.failed = true → agreed = some k.commit.statusBefore) ∧
      ((∀ k ∈ d.casesOf id, k.missed = false) → shown = agreed) := by
  intro d hbetween hall id original shown agreed
  have hstart : Reconciles b.statuses.get? (ofBoard b) (.ofBoard b) :=
    ⟨rfl, Audit.inv_between hb rfl rfl, inv_ofBoard hcommits, rfl, rfl, fun _ => ⟨rfl, fun _ => trivial⟩⟩
  have h := hstart.run hgenuine hreplace horderly
  have hall' : ∀ k ∈ d.casesOf id, k.answers ≠ [] := fun k hk => hall k (List.mem_of_mem_filter hk)
  have hshown : shown = left? original (d.casesOf id) := by
    obtain ⟨hleft, -⟩ := h.audit.between (h.board ▸ hbetween)
    rw [(h.leaves id).left, ← h.tidy, ← hleft, h.board]
  refine ⟨hshown, ?_, fun hmissed => ?_⟩
  · rw [hshown]
    exact left?_eq_agreed?_iff hall'
  · rw [hshown]
    exact ((h.leaves id).founded hmissed).left?_eq hall'

/-- Two drops of a record overlap, and the result of the later one comes in before the earlier one fails. -/
def overlapping (result : Except QueryError Json) : List (BoardOp JsonRecord) :=
  [.beginDrag "a", .dragOver "done", .dragEnd, .beginDrag "a", .dragOver "open", .dragEnd,
    .settle { Audit.failed with statusBefore := "closed", statusAfter := "new", ticket := 2, result },
    .settle Audit.failed]

theorem genuine_overlapping (result : Except QueryError Json) :
    Genuine (overlapping result) (ofBoard Board.triage) := by
  refine ⟨nofun, nofun, nofun, nofun, nofun, nofun, ?_, ?_, trivial⟩
  · rintro _ ⟨⟩
    exact ⟨_, .tail _ (.head _), rfl⟩
  · rintro _ ⟨⟩
    cases result <;> exact ⟨_, .head _, rfl⟩

/-- If the later of two drops succeeds, the board shows its status. -/
theorem settled_statuses_triage :
    let ops := overlapping (.ok .null)
    let d := (ofBoard Board.triage).run ops
    Board.triage.dragging = none ∧ Board.triage.inFlight = [] ∧ Genuine ops (ofBoard Board.triage) ∧
      (∀ records, .replace records ∉ ops) ∧ Audit.Orderly ops (.ofBoard Board.triage) ∧ d.board.dragging = none ∧
      (∀ k ∈ d.cases, k.answers ≠ []) ∧ d.board.statuses.get? "a" = some "new" := by
  intro ops d
  have hgenuine : Genuine ops (ofBoard Board.triage) := genuine_overlapping _
  have hreplace : ∀ records, .replace records ∉ ops := by simp [ops, overlapping]
  have horderly : Audit.Orderly ops (.ofBoard Board.triage) := by
    refine ⟨?_, id, id, ?_, id, id, ?_, ?_, trivial⟩
    · exact fun hdisturbs => hdisturbs.1 rfl
    · exact fun hdisturbs => hdisturbs.1 rfl
    · exact fun hdisturbs => by cases hdisturbs.1
    · exact fun hdisturbs => by cases hdisturbs.1
  have hall : ∀ k ∈ d.cases, k.answers ≠ [] := by decide
  obtain ⟨hshown, -⟩ := settled_statuses (b := Board.triage) rfl rfl hgenuine hreplace horderly rfl hall "a"
  exact ⟨rfl, rfl, hgenuine, hreplace, horderly, rfl, hall, hshown⟩

/-- Both of two overlapping drops fail, and the record shows the status of the first. -/
theorem settled_statuses_disagree :
    let ops := overlapping (.error (.source "move" "refused"))
    let d := (ofBoard Board.triage).run ops
    Genuine ops (ofBoard Board.triage) ∧ d.board.dragging = none ∧ (∀ k ∈ d.cases, k.answers ≠ []) ∧
      d.board.statuses.get? "a" = some "closed" ∧
      agreed? (Board.triage.statuses.get? "a") (d.casesOf "a") = some "new" :=
  ⟨genuine_overlapping _, rfl, by decide, rfl, rfl⟩

end Docket

end RecordScreens
