import Mathlib.Data.List.Find
import RecordScreens.Proofs.Board.Docket
import RecordScreens.Proofs.Board.Drag
import RecordScreens.Proofs.Query.Refetch
import RecordScreens.Record.Dynamic

/-!
# Boards and the store behind them

The records of a board are a copy of a collection, and its moves change both: a drag
changes the copy, its commit the collection, and a commit that fails takes the change
of the copy back. When a move is over, the two are the same again, unless something
that the commit makes fetched again changes the collection as well.
-/

namespace RecordScreens

namespace PendingCommit

theorem get?_id_params (c : PendingCommit) : (c.params.get? "id").bind Json.asString? = some c.recordId := by
  simp [params, Json.get?, Json.ofMembers, Dict.ofList, Dict.get?_insert, Json.asString?]

theorem get?_status_params (c : PendingCommit) : c.params.get? "status" = some (.string c.statusAfter) := by
  simp [params, Json.get?, Json.ofMembers, Dict.ofList]

theorem run_eq {S : Type} [DataSource S] (c : PendingCommit) (b : Binder S) :
    (c.run : Routine (Binder S) CommitResult).run b =
      (c.answered ((Binder.mutate c.key c.params c.invalidates).run b).1,
        ((Binder.mutate c.key c.params c.invalidates).run b).2) := by
  simp only [PendingCommit.run, Routine.bind_eq, Routine.run_bind]
  rfl

end PendingCommit

/-! ## Records on both sides -/

/-- A record whose members are in order, with an id and a status. -/
structure JsonRecord.Complete (r : JsonRecord) : Prop where
  ordered : Dict.Sorted r.members
  id : ∃ id, r.text? "id" = some id
  status : ∃ status, r.text? "status" = some status

namespace JsonRecord.Complete

variable {r : JsonRecord} {records : List JsonRecord} {id s : String}

theorem setStatus (h : r.Complete) (s : String) : (BoardRecord.setStatus r s).Complete where
  ordered := Dict.sorted_insert h.ordered ..
  id := by
    obtain ⟨id, hid⟩ := h.id
    have hmember : (r.set "status" (.string s)).get? "id" = r.get? "id" := Dict.get?_insert_of_ne _ _ (by decide)
    exact ⟨id, (congrArg (Option.bind · Json.asString?) hmember).trans hid⟩
  status := ⟨s, LawfulBoardRecord.status_setStatus r s⟩

theorem setStatusOf (h : ∀ r ∈ records, r.Complete) (id s : String) :
    ∀ r ∈ Board.setStatusOf id s records, r.Complete := by
  induction records with
  | nil => exact h
  | cons first rest ih =>
    obtain ⟨hfirst, hrest⟩ := List.forall_mem_cons.mp h
    unfold Board.setStatusOf
    split
    · exact List.forall_mem_cons.mpr ⟨hfirst.setStatus s, hrest⟩
    · exact List.forall_mem_cons.mpr ⟨hfirst, ih hrest⟩

theorem idOf?_toJson (h : r.Complete) : Store.idOf? r.toJson = some (Record.id r) := by
  obtain ⟨id, hid⟩ := h.id
  have hrecord : Record.id r = id := congrArg (·.getD "") hid
  exact hid.trans (congrArg some hrecord.symm)

/-- The board and the store find the same record, also if ids repeat. -/
theorem find?_map_toJson (h : ∀ r ∈ records, r.Complete) (hr : records.find? (Record.id · == id) = some r) :
    Store.find? (records.map toJson) id = some r.toJson := by
  have hsame : records.find? ((Store.idOf? · == some id) ∘ toJson) = records.find? (Record.id · == id) :=
    List.find?_congr fun r hr => by simp [(h r hr).idOf?_toJson]
  rw [Store.find?, List.find?_map, hsame, hr]
  rfl

/-- The board and the store change the status of the same record. -/
theorem map_setStatusOf (h : ∀ r ∈ records, r.Complete) (id s : String) :
    (Board.setStatusOf id s records).map toJson =
      Store.updateFirst id (Store.withStatus (.string s)) (records.map toJson) := by
  induction records with
  | nil => rfl
  | cons first rest ih =>
    obtain ⟨hfirst, hrest⟩ := List.forall_mem_cons.mp h
    unfold Board.setStatusOf
    simp only [List.map_cons, Store.updateFirst, hfirst.idOf?_toJson, Option.some.injEq]
    split
    · rfl
    · rw [List.map_cons, ih hrest]

end JsonRecord.Complete

/-! ## Moves -/

/-- How far a move has come. -/
inductive MoveStage where
  | resting
  | dragging
  /-- A commit was handed out. -/
  | issued (c : PendingCommit)
  /-- The commit was run. -/
  | answered (c : CommitResult)

/-- A part of a move, or a failure of the mutation from now on. -/
inductive MoveOp where
  | beginDrag (id : String)
  | dragOver (column : String)
  | dragCancel
  | dragEnd
  | send
  | settle
  | fail (message : String)

/-- A board with the store behind it. -/
structure Desk where
  board : Board JsonRecord
  binder : Binder Store
  stage : MoveStage := .resting

namespace Desk

/-- Moves come one after the other. What is not the turn of a move is left out. -/
def perform (d : Desk) (op : MoveOp) : Desk :=
  match op, d.stage with
  | .beginDrag id, .resting => { d with board := (d.board.beginDrag id).2, stage := .dragging }
  | .dragOver column, .dragging => { d with board := (d.board.dragOver column).2 }
  | .dragCancel, .dragging => { d with board := d.board.dragCancel, stage := .resting }
  | .dragEnd, .dragging =>
    match d.board.dragEnd with
    | (.commit c, board) => { d with board, stage := .issued c }
    | (_, board) => { d with board, stage := .resting }
  | .send, .issued c =>
    let (result, binder) := (c.run : Routine (Binder Store) CommitResult).run d.binder
    { d with binder, stage := .answered result }
  | .settle, .answered c => { d with board := (d.board.settle c).2, stage := .resting }
  | .fail message, _ =>
    { d with binder := { d.binder with source := d.binder.source.fail d.board.commitKey message } }
  | _, _ => d

def run (d : Desk) (ops : List MoveOp) : Desk := ops.foldl perform d

/-- However far a move has come, dropping the record, and running and settling the commit if there is one, ends it. -/
theorem stage_finish (d : Desk) : (d.run [.dragEnd, .send, .settle]).stage = .resting := by
  obtain ⟨board, binder, stage⟩ := d
  cases stage with
  | dragging =>
    simp only [run, List.foldl_cons, List.foldl_nil]
    cases hend : board.dragEnd with
    | mk outcome board' => cases outcome <;> simp [perform, hend]
  | resting => rfl
  | issued c => rfl
  | answered c => rfl

/-! ## What a move has changed so far -/

/-- The records with the status of one of them changed. -/
structure Shifted (stored : List JsonRecord) (id before after : String) (shown : List JsonRecord) : Prop where
  eq : shown = Board.setStatusOf id after stored
  before : ∃ r, stored.find? (Record.id · == id) = some r ∧ Record.status r = some before

namespace Shifted

variable {stored shown : List JsonRecord} {id before after s : String}

theorem start {r : JsonRecord} (hr : stored.find? (Record.id · == id) = some r) (hcomplete : r.Complete)
    (hs : Record.status r = some s) : Shifted stored id s s stored where
  eq := (Board.setStatusOf_status hr hcomplete.ordered hs).symm
  before := ⟨r, hr, hs⟩

theorem hover (h : Shifted stored id before after shown) (s : String) :
    Shifted stored id before s (Board.setStatusOf id s shown) where
  eq := by rw [h.eq, Board.setStatusOf_setStatusOf]
  before := h.before

/-- The status from before brings the records back. -/
theorem back (h : Shifted stored id before after shown) (hcomplete : ∀ r ∈ stored, r.Complete) :
    Board.setStatusOf id before shown = stored := by
  obtain ⟨r, hr, hs⟩ := h.before
  rw [h.eq, Board.setStatusOf_setStatusOf]
  exact Board.setStatusOf_status hr (hcomplete r (List.mem_of_find?_eq_some hr)).ordered hs

theorem record? (h : Shifted stored id before after shown) :
    ∃ r, shown.find? (Record.id · == id) = some r ∧ Board.statusOf r = after := by
  obtain ⟨r, hr, -⟩ := h.before
  exact ⟨_, h.eq ▸ Board.find?_setStatusOf hr, Board.statusOf_setStatus ..⟩

end Shifted

/-- What the board shows at each stage of a move, if these are the records of the collection. -/
def Shows (stored : List JsonRecord) (b : Board JsonRecord) : MoveStage → Prop
  | .resting => b.dragging = none ∧ b.records = stored
  | .dragging =>
    b.dragging = none ∧ b.records = stored ∨
      ∃ session after, b.gesture = .dragging session ∧
        Shifted stored session.recordId session.statusBefore after b.records
  | .issued c =>
    b.dragging = none ∧ Shifted stored c.recordId c.statusBefore c.statusAfter b.records ∧
      Dict.get? b.inFlight c.recordId = some c.ticket ∧ c.key = b.commitKey ∧ c.invalidates = b.invalidates
  | .answered c =>
    b.dragging = none ∧ Dict.get? b.inFlight c.recordId = some c.ticket ∧
      ((∃ v, c.result = .ok v) ∧ b.records = stored ∨
        (∃ e, c.result = .error e) ∧ Shifted stored c.recordId c.statusBefore c.statusAfter b.records)

namespace Shows

variable {stored : List JsonRecord} {b : Board JsonRecord}

theorem beginDrag (h : Shows stored b .resting) (hcomplete : ∀ r ∈ stored, r.Complete) (id : String) :
    Shows stored (b.beginDrag id).2 .dragging := by
  obtain ⟨hdragging, rfl⟩ := h
  cases hr : b.record? id with
  | none =>
    rw [Board.beginDrag_of_none hr]
    exact .inl ⟨hdragging, rfl⟩
  | some r =>
    rw [Board.beginDrag_of_record? hr]
    have hform := hcomplete r (List.mem_of_find?_eq_some hr)
    obtain ⟨s, hs⟩ := hform.status
    refine .inr ⟨_, s, rfl, ?_⟩
    rw [Board.statusOf_eq hs]
    exact Shifted.start hr hform hs

theorem dragOver (h : Shows stored b .dragging) (column : String) : Shows stored (b.dragOver column).2 .dragging := by
  rcases h with ⟨hdragging, hrecords⟩ | ⟨session, after, hgesture, hshifted⟩
  · have hover : b.dragOver column = (false, b) := by
      unfold Board.dragOver
      split
      · rename_i session hgesture
        exact absurd hgesture (Board.dragging_eq_none_iff.mp hdragging session)
      · rfl
    rw [hover]
    exact .inl ⟨hdragging, hrecords⟩
  · rw [Board.dragOver_of_dragging hgesture]
    split
    · rename_i status _
      exact .inr ⟨session, status, hgesture, hshifted.hover status⟩
    · exact .inr ⟨session, after, hgesture, hshifted⟩

theorem dragCancel (h : Shows stored b .dragging) (hcomplete : ∀ r ∈ stored, r.Complete) :
    Shows stored b.dragCancel .resting := by
  unfold Board.dragCancel
  rcases h with ⟨hdragging, hrecords⟩ | ⟨session, after, hgesture, hshifted⟩
  · split
    · rename_i session hgesture
      exact absurd hgesture (Board.dragging_eq_none_iff.mp hdragging session)
    · exact ⟨rfl, hrecords⟩
  · rw [hgesture]
    exact ⟨rfl, hshifted.back hcomplete⟩

/-- A drag ends with the records of the collection, or with a commit of the change. -/
theorem dragEnd (h : Shows stored b .dragging) (hcomplete : ∀ r ∈ stored, r.Complete) :
    (∃ c, b.dragEnd.1 = .commit c ∧ Shows stored b.dragEnd.2 (.issued c)) ∨
      (∀ c, b.dragEnd.1 ≠ .commit c) ∧ Shows stored b.dragEnd.2 .resting := by
  rcases h with ⟨hdragging, hrecords⟩ | ⟨session, after, hgesture, hshifted⟩
  · refine .inr ?_
    unfold Board.dragEnd
    split
    · exact ⟨nofun, rfl, hrecords⟩
    · exact ⟨nofun, rfl, hrecords⟩
    · rename_i session hgesture
      exact absurd hgesture (Board.dragging_eq_none_iff.mp hdragging session)
  · obtain ⟨r, hr, hafter⟩ := hshifted.record?
    rw [Board.dragEnd_of_dragging hgesture hr, hafter]
    by_cases hsame : after = session.statusBefore
    · rw [if_pos hsame]
      refine .inr ⟨nofun, rfl, ?_⟩
      -- The record shows its old status, so nothing on the board has changed.
      rw [← hshifted.back hcomplete, ← hsame, hshifted.eq, Board.setStatusOf_setStatusOf]
    · rw [if_neg hsame]
      exact .inl ⟨_, rfl, rfl, hshifted, Dict.get?_insert_self .., rfl, rfl⟩

theorem settle {c : CommitResult} (h : Shows stored b (.answered c)) (hcomplete : ∀ r ∈ stored, r.Complete) :
    Shows stored (b.settle c).2 .resting := by
  obtain ⟨hdragging, hopen, hanswer⟩ := h
  rcases b.settle_cases c with ⟨hclosed, -⟩ | ⟨-, ⟨v, hresult, hsettle⟩ | ⟨e, hresult, hsettle⟩⟩
  · exact absurd hopen hclosed
  · rcases hanswer with ⟨-, hrecords⟩ | ⟨⟨e, herror⟩, -⟩
    · rw [hsettle]
      exact ⟨hdragging, hrecords⟩
    · cases hresult.symm.trans herror
  · rcases hanswer with ⟨⟨v, hok⟩, -⟩ | ⟨-, hshifted⟩
    · cases hresult.symm.trans hok
    · rw [hsettle]
      exact ⟨hdragging, hshifted.back hcomplete⟩

end Shows

/-! ## Moves and the store -/

/-- The commits of the board go to a collection or fail, what is fetched again after them leaves the collection alone,
and the board shows its records as the stage of the move says. -/
structure Inv (collection : String) (d : Desk) : Prop where
  route : Dict.get? d.binder.source.routes d.board.commitKey = some (.setStatus collection) ∨
    ∃ message, Dict.get? d.binder.source.routes d.board.commitKey = some (.fail message)
  reads : d.binder.Reads collection d.board.invalidates
  mirror : ∃ stored, stored.map JsonRecord.toJson = d.binder.source.records collection ∧
    (∀ r ∈ stored, r.Complete) ∧ Shows stored d.board d.stage

variable {collection : String} {d : Desk}

/-- What happens to the board alone. -/
theorem Inv.onBoard (h : d.Inv collection) (op : BoardOp JsonRecord) {stage : MoveStage}
    (hshows : ∀ stored, (∀ r ∈ stored, r.Complete) → Shows stored d.board d.stage →
      Shows stored (d.board.perform op) stage) : Inv collection { d with board := d.board.perform op, stage } := by
  obtain ⟨stored, hstored, hcomplete, hmirror⟩ := h.mirror
  obtain ⟨hkey, hinvalidates⟩ := d.board.wiring_perform op
  exact ⟨hkey ▸ h.route, hinvalidates ▸ h.reads, stored, hstored, hcomplete, hshows stored hcomplete hmirror⟩

theorem Inv.dragEnd (h : d.Inv collection) (hstage : d.stage = .dragging) : (d.perform .dragEnd).Inv collection := by
  unfold Desk.perform
  rw [hstage]
  simp only
  split
  · rename_i c board hend
    have hboard : d.board.perform .dragEnd = board := congrArg Prod.snd hend
    rw [← hboard]
    refine h.onBoard .dragEnd fun stored hcomplete hshows => ?_
    rw [hstage] at hshows
    rcases hshows.dragEnd hcomplete with ⟨c', hcommit, hissued⟩ | ⟨hnone, -⟩
    · cases (congrArg Prod.fst hend).symm.trans hcommit
      exact hissued
    · exact absurd (congrArg Prod.fst hend) (hnone c)
  · rename_i outcome board hnot hend
    have hboard : d.board.perform .dragEnd = board := congrArg Prod.snd hend
    rw [← hboard]
    refine h.onBoard .dragEnd fun stored hcomplete hshows => ?_
    rw [hstage] at hshows
    rcases hshows.dragEnd hcomplete with ⟨c', hcommit, -⟩ | ⟨-, hrests⟩
    · exact absurd ((congrArg Prod.fst hend).symm.trans hcommit) (hnot c')
    · exact hrests

theorem Inv.fail (h : d.Inv collection) (message : String) : (d.perform (.fail message)).Inv collection := by
  refine ⟨.inr ⟨message, Dict.get?_insert_self ..⟩, ?_, h.mirror⟩
  exact h.reads.of_outlines rfl rfl fun key params hsets => Store.sets_of_sets_fail hsets

theorem Inv.send (h : d.Inv collection) {c : PendingCommit} (hstage : d.stage = .issued c) :
    (d.perform .send).Inv collection := by
  have hsend : d.perform .send = { d with
      binder := ((c.run : Routine (Binder Store) CommitResult).run d.binder).2
      stage := .answered ((c.run : Routine (Binder Store) CommitResult).run d.binder).1 } := by
    unfold Desk.perform
    rw [hstage]
  rw [hsend, PendingCommit.run_eq]
  obtain ⟨stored, hstored, hcomplete, hshows⟩ := h.mirror
  rw [hstage] at hshows
  obtain ⟨hdragging, hshifted, hopen, hkey, hinvalidates⟩ := hshows
  rcases h.route with hroute | ⟨message, hroute⟩
  · -- The store changes its record as the board did.
    obtain ⟨r, hr, -⟩ := hshifted.before
    have hfind : Store.find? (d.binder.source.records collection) c.recordId = some r.toJson :=
      hstored ▸ JsonRecord.Complete.find?_map_toJson hcomplete hr
    rw [← hkey] at hroute
    obtain ⟨hok, hrecords⟩ := Store.call_setStatus hroute c.get?_id_params c.get?_status_params hfind
    have hreads : d.binder.Reads collection c.invalidates := hinvalidates ▸ h.reads
    obtain ⟨hresult, halike⟩ := Binder.run_mutate_ok hok hreads
    refine ⟨.inl ?_, ?_, Board.setStatusOf c.recordId c.statusAfter stored, ?_, ?_, hdragging, hopen,
      .inl ⟨⟨_, hresult⟩, ?_⟩⟩
    · rw [halike.routes, ← hkey]
      exact hroute
    · exact h.reads.of_outlines halike.outlines halike.held fun key params => (Store.sets_congr halike.routes).mp
    · rw [halike.records, JsonRecord.Complete.map_setStatusOf hcomplete, hstored]
      exact hrecords.symm
    · exact JsonRecord.Complete.setStatusOf hcomplete _ _
    · exact hshifted.eq
  · rw [← hkey] at hroute
    have herror : (Store.call c.key c.params d.binder.source).1 = _ := Store.call_fail hroute
    have hkeeps : ¬ d.binder.source.Sets collection c.key c.params := by
      rintro ⟨hset, -⟩
      cases hroute.symm.trans hset
    rw [Binder.run_mutate, herror]
    refine ⟨.inr ⟨message, hkey ▸ hroute⟩, ?_, stored, ?_, hcomplete, hdragging, hopen,
      .inr ⟨⟨_, rfl⟩, hshifted⟩⟩
    · exact h.reads.of_outlines rfl rfl fun key params => (Store.sets_congr rfl).mp
    · exact hstored.trans (Store.records_call hkeeps).symm

/-- Every part of a move keeps the invariant. -/
theorem Inv.perform (h : d.Inv collection) (op : MoveOp) : (d.perform op).Inv collection := by
  cases op with
  | beginDrag id =>
    cases hstage : d.stage with
    | resting =>
      simp only [Desk.perform, hstage]
      refine h.onBoard (.beginDrag id) fun stored hcomplete hshows => ?_
      rw [hstage] at hshows
      exact hshows.beginDrag hcomplete id
    | _ => simpa only [Desk.perform, hstage] using h
  | dragOver column =>
    cases hstage : d.stage with
    | dragging =>
      simp only [Desk.perform, hstage]
      refine h.onBoard (.dragOver column) fun stored hcomplete hshows => ?_
      rw [hstage] at hshows
      exact hshows.dragOver column
    | _ => simpa only [Desk.perform, hstage] using h
  | dragCancel =>
    cases hstage : d.stage with
    | dragging =>
      simp only [Desk.perform, hstage]
      refine h.onBoard .dragCancel fun stored hcomplete hshows => ?_
      rw [hstage] at hshows
      exact hshows.dragCancel hcomplete
    | _ => simpa only [Desk.perform, hstage] using h
  | dragEnd =>
    cases hstage : d.stage with
    | dragging => exact h.dragEnd hstage
    | _ => simpa only [Desk.perform, hstage] using h
  | send =>
    cases hstage : d.stage with
    | issued c => exact h.send hstage
    | _ => simpa only [Desk.perform, hstage] using h
  | settle =>
    cases hstage : d.stage with
    | answered c =>
      simp only [Desk.perform, hstage]
      refine h.onBoard (.settle c) fun stored hcomplete hshows => ?_
      rw [hstage] at hshows
      exact hshows.settle hcomplete
    | _ => simpa only [Desk.perform, hstage] using h
  | fail message => exact h.fail message

theorem Inv.run (h : d.Inv collection) (ops : List MoveOp) : (d.run ops).Inv collection := by
  induction ops generalizing d with
  | nil => exact h
  | cons op rest ih => exact ih (h.perform op)

/-- The board has the values of a collection, one by one and member by member. -/
def Mirrors (collection : String) (d : Desk) : Prop :=
  d.board.records.map JsonRecord.toJson = d.binder.source.records collection

theorem Inv.mirrors (h : d.Inv collection) (hstage : d.stage = .resting) : d.Mirrors collection := by
  obtain ⟨stored, hstored, -, hshows⟩ := h.mirror
  rw [hstage] at hshows
  rw [Mirrors, hshows.2, hstored]

/-- A board that was loaded from a collection mirrors it after every move, whatever the move came to, if nothing that a
commit makes fetched again sets a status there. A move that is on can be ended wherever it is. -/
theorem mirrors_collection (hstage : d.stage = .resting) (hdragging : d.board.dragging = none)
    (hroute : Dict.get? d.binder.source.routes d.board.commitKey = some (.setStatus collection))
    (hloaded : d.Mirrors collection) (hcomplete : ∀ r ∈ d.board.records, r.Complete)
    (hreads : d.binder.Reads collection d.board.invalidates) (ops : List MoveOp) :
    let after := d.run ops
    let ended := after.run [.dragEnd, .send, .settle]
    (after.stage = .resting → after.Mirrors collection) ∧ ended.stage = .resting ∧ ended.Mirrors collection := by
  intro after ended
  have hstart : d.Inv collection := by
    refine ⟨.inl hroute, hreads, d.board.records, hloaded, hcomplete, ?_⟩
    rw [hstage]
    exact ⟨hdragging, rfl⟩
  have hafter : after.Inv collection := hstart.run ops
  exact ⟨hafter.mirrors, stage_finish after, (hafter.run _).mirrors (stage_finish after)⟩

/-- The board of two records over a store with them and with a query that a commit makes fetched again. -/
def triage (key : String) (query : LiveQuery) : Desk where
  board := { Board.triage with invalidates := [key] }
  binder := {
    source := {
      collections := [("deals", Board.triage.records.map JsonRecord.toJson)]
      routes := [("deals", .list "deals" []), ("move", .setStatus "deals")] }
    queries := [{ query }] }

/-- A move that succeeds and the start of one that fails, with the list of the records fetched again in between. -/
theorem mirrors_collection_triage :
    let d := triage "deals" (.list (.ofRecords JsonRecord "deals"))
    let after := d.run [.beginDrag "a", .dragOver "done", .dragEnd, .send, .settle, .beginDrag "b", .dragOver "done",
      .fail "refused"]
    d.stage = .resting ∧ d.board.dragging = none ∧
      Dict.get? d.binder.source.routes d.board.commitKey = some (.setStatus "deals") ∧ d.Mirrors "deals" ∧
      (∀ r ∈ d.board.records, r.Complete) ∧ d.binder.Reads "deals" d.board.invalidates ∧
      (after.run [.dragEnd, .send, .settle]).Mirrors "deals" := by
  intro d after
  have hcomplete : ∀ r ∈ d.board.records, r.Complete := by
    intro r hr
    have hmem : r ∈ Board.triage.records := hr
    simp only [Board.triage, List.mem_cons, List.not_mem_nil, or_false] at hmem
    rcases hmem with rfl | rfl
    · exact ⟨List.pairwise_pair.mpr (by decide), ⟨"a", rfl⟩, "new", rfl⟩
    · exact ⟨List.pairwise_pair.mpr (by decide), ⟨"b", rfl⟩, "seen", rfl⟩
  have hreads : d.binder.Reads "deals" d.board.invalidates := by
    rintro i q key hmem ⟨a, rfl, -⟩
    obtain ⟨r, hr, -, -, -, hq⟩ := Binder.mem_dependents.mp hmem
    obtain rfl := List.mem_singleton.mp (List.mem_of_getElem? hr)
    cases hq
  have hloaded : d.Mirrors "deals" := rfl
  obtain ⟨-, -, hended⟩ := mirrors_collection (d := d) rfl rfl rfl hloaded hcomplete hreads
    [.beginDrag "a", .dragOver "done", .dragEnd, .send, .settle, .beginDrag "b", .dragOver "done", .fail "refused"]
  exact ⟨rfl, rfl, rfl, hloaded, hcomplete, hreads, hended⟩

/-- An aggregate with a part that asks with the key of the commits. -/
def echo : AggregateQuery :=
  .ofQueries [("b", { queryKey := "move", params := [("id", .string "b"), ("status", .string "closed")] })] none

/-- The values of the two records with the first one closed. -/
def firstClosed (second : String) : List Json :=
  [.object [("id", .string "a"), ("status", .string "closed")],
    .object [("id", .string "b"), ("status", .string second)]]

/-- A query that is fetched again after a commit changes another record of the collection than the board did. -/
theorem mirror_misses_refetch :
    let d := triage "move" (.aggregate echo)
    let after := d.run [.beginDrag "a", .dragOver "done", .dragEnd, .send, .settle]
    d.Mirrors "deals" ∧ after.stage = .resting ∧ after.board.records.map JsonRecord.toJson = firstClosed "seen" ∧
      after.binder.source.records "deals" = firstClosed "closed" ∧ ¬ after.Mirrors "deals" :=
  have hdiffer : firstClosed "seen" ≠ firstClosed "closed" := by decide
  ⟨rfl, rfl, rfl, rfl, fun h => hdiffer h⟩

end Desk

end RecordScreens
