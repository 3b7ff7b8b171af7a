import RecordScreens.Proofs.Board.Agreement
import RecordScreens.Proofs.Board.Drag
import RecordScreens.Proofs.Positions

/-!
# What a board leaves as it is

A board finds a record by its id in a list in which ids may repeat, and what it writes
there is a status. So the list keeps its length and its order, and each record in it all
members but the status. A status is only written where a drag was: by the drag itself,
by giving it up, or by a commit that its end handed out.
-/

namespace RecordScreens

/-- The members of a record without its status. -/
def JsonRecord.others (r : JsonRecord) : Json.Object := Dict.erase r.members "status"

@[simp] theorem JsonRecord.others_setStatus (r : JsonRecord) (s : String) :
    (BoardRecord.setStatus r s).others = r.others :=
  Dict.erase_insert_self r.members "status" (.string s)

namespace Board

variable {R : Type} [BoardRecord R]

/-! ## Changes of statuses in a list -/

/-- A change of a status takes place at the first record with the id. -/
theorem setStatusOf_eq_modify (id s : String) (records : List R) :
    setStatusOf id s records = records.modify (records.findIdx (Record.id · == id)) (BoardRecord.setStatus · s) := by
  induction records with
  | nil => rfl
  | cons r rest ih =>
    by_cases hid : Record.id r = id
    · simp [setStatusOf, List.findIdx_cons, hid]
    · have hne : (Record.id r == id) = false := beq_false_of_ne hid
      simp [setStatusOf, List.findIdx_cons, hid, hne, ih]

/-- What a record keeps when its status changes, all records of the list keep. -/
theorem map_setStatusOf {β : Type} {g : R → β} (hg : ∀ r s, g (BoardRecord.setStatus r s) = g r) (id s : String)
    (records : List R) : (setStatusOf id s records).map g = records.map g := by
  rw [setStatusOf_eq_modify]
  exact map_modify_of_eq (fun r => hg r s) ..

theorem findIdx_id (records : List R) (id : String) :
    records.findIdx (Record.id · == id) = (records.map Record.id).findIdx (· == id) := by
  rw [List.findIdx_map]
  rfl

theorem record?_isSome_iff {b : Board R} {id : String} :
    (b.record? id).isSome ↔ id ∈ b.records.map (Record.id (R := R)) := by
  simp [record?, List.find?_isSome]

/-- Records with new statuses for some of the ids that satisfy a condition. -/
inductive Restatused (p : String → Prop) (original : List R) : List R → Prop
  | same : Restatused p original original
  | change {records : List R} (h : Restatused p original records) {id : String} (hid : p id) (s : String) :
    Restatused p original (setStatusOf id s records)

namespace Restatused

variable {p : String → Prop} {original records : List R}

theorem map_eq {β : Type} {g : R → β} (h : Restatused p original records)
    (hg : ∀ r s, g (BoardRecord.setStatus r s) = g r) : records.map g = original.map g := by
  induction h with
  | same => rfl
  | change _ _ s ih => rw [map_setStatusOf hg, ih]

variable [LawfulBoardRecord R]

theorem ids_eq (h : Restatused p original records) : records.map (Record.id (R := R)) = original.map Record.id :=
  h.map_eq LawfulBoardRecord.id_setStatus

/-- A record that is not the first one with an id of the condition is still there. -/
theorem getElem?_or (h : Restatused p original records) {i : Nat} {r : R} (hr : original[i]? = some r) :
    records[i]? = some r ∨ p (Record.id r) ∧ i = original.findIdx (Record.id · == Record.id r) := by
  induction h with
  | same => exact .inl hr
  | @change records h id hid s ih =>
    -- The first record with an id stands where it stood, since all ids do.
    have hfirst : records.findIdx (Record.id · == id) = original.findIdx (Record.id · == id) := by
      rw [findIdx_id, findIdx_id, h.ids_eq]
    rcases ih with hkept | hchanged
    · rw [setStatusOf_eq_modify, hfirst]
      by_cases hi : original.findIdx (Record.id · == id) = i
      · have hlt : original.findIdx (Record.id · == id) < original.length :=
          hi ▸ (List.getElem?_eq_some_iff.mp hr).1
        obtain rfl : Record.id r = id := by
          have hfound := List.findIdx_getElem (w := hlt)
          obtain ⟨hlt', hget⟩ := List.getElem?_eq_some_iff.mp hr
          simp only [hi, hget] at hfound
          exact beq_iff_eq.mp hfound
        exact .inr ⟨hid, hi.symm⟩
      · left
        rw [List.getElem?_modify_ne _ _ hi, hkept]
    · exact .inr hchanged

end Restatused

/-! ## Gestures -/

/-- A gesture goes on with the record that it is about, and a new one is about a record that is there. -/
theorem recordId?_perform {b : Board R} {op : BoardOp R} {id : String}
    (h : (b.perform op).gesture.recordId? = some id) : b.gesture.recordId? = some id ∨ (b.record? id).isSome := by
  have hbegin (id' : String) (h : (b.beginDrag id').2.gesture.recordId? = some id) :
      b.gesture.recordId? = some id ∨ (b.record? id).isSome := by
    cases hr : b.record? id' with
    | none =>
      rw [beginDrag_of_none hr] at h
      exact .inl h
    | some r =>
      rw [beginDrag_of_record? hr] at h
      cases h
      exact .inr (Option.isSome_of_eq_some hr)
  cases op with
  | replace records => cases h
  | pointerDown id' place =>
    simp only [perform, pointerDown] at h
    split at h
    · rename_i hsome
      cases h
      exact .inr hsome
    · exact .inl h
  | beginDrag id' => exact hbegin id' h
  | pointerMove place =>
    simp only [perform, pointerMove] at h
    split at h
    · exact .inl h
    · exact .inl h
    · split at h
      · exact hbegin _ h
      · exact .inl h
  | dragOver column =>
    simp only [perform, dragOver] at h
    split at h
    · split at h <;> exact .inl h
    · exact .inl h
  | dragCancel =>
    simp only [perform, dragCancel] at h
    split at h <;> cases h
  | dragEnd =>
    simp only [perform] at h
    rcases b.dragEnd_cases with ⟨-, hend⟩ | ⟨session, p, -, -, -, -, -, -, hend⟩ <;> rw [hend] at h <;> cases h
  | settle c =>
    simp only [perform] at h
    rcases b.settle_cases c with ⟨-, hsettle⟩ | ⟨-, ⟨v, -, hsettle⟩ | ⟨e, -, hsettle⟩⟩ <;>
      exact .inl (by rwa [hsettle] at h)

/-! ## Runs -/

/-- A record with the id is dragged at some time of the run. -/
def Drags (b : Board R) (ops : List (BoardOp R)) (id : String) : Prop :=
  ∃ before, before <+: ops ∧ (b.run before).dragging = some id

end Board

namespace Docket

variable {R : Type} [BoardRecord R] {p : String → Prop} {original : List R} {d : Docket R}

/-- All that is known of a board whose drags are of records with ids of a condition. -/
structure Touches (p : String → Prop) (original : List R) (d : Docket R) : Prop where
  records : Board.Restatused p original d.board.records
  commits : ∀ k ∈ d.cases, p k.commit.recordId
  dragged : ∀ id, d.board.dragging = some id → p id
  /-- The record of a gesture is there. -/
  present : ∀ id, d.board.gesture.recordId? = some id → id ∈ d.board.records.map (Record.id (R := R))

/-- An operation writes the status of a dragged record, or of one with a commit. -/
theorem Touches.written (h : Touches p original d) {op : BoardOp R}
    (hgenuine : ∀ c, op = .settle c → ∃ k ∈ d.cases, c = k.commit.answered c.result) {id : String}
    (hwritten : d.board.written op = some id) : p id := by
  cases op with
  | dragOver column =>
    simp only [Board.written] at hwritten
    split at hwritten
    · exact h.dragged id hwritten
    · cases hwritten
  | dragCancel => exact h.dragged id hwritten
  | settle c =>
    obtain ⟨k, hk, hc⟩ := hgenuine c rfl
    simp only [Board.written] at hwritten
    rcases d.board.settle_cases c with ⟨-, hsettle⟩ | ⟨-, ⟨v, -, hsettle⟩ | ⟨e, -, hsettle⟩⟩ <;>
      rw [hsettle] at hwritten
    · cases hwritten
    · cases hwritten
    · cases hwritten
      rw [hc]
      exact h.commits k hk
  | _ => cases hwritten

/-- Only the end of a drag hands out a commit, and it is one of the dragged record. -/
theorem Touches.issued (h : Touches p original d) {op : BoardOp R} {c : PendingCommit}
    (hissued : d.board.issued op = some c) : p c.recordId := by
  cases op with
  | dragEnd =>
    rcases d.board.dragEnd_cases with ⟨hnone, -⟩ | ⟨session, c', hdrag, hissued', hid, -⟩
    · cases hnone.symm.trans hissued
    · cases hissued'.symm.trans hissued
      exact h.dragged _ (Board.dragging_eq_some_iff.mpr ⟨session, hdrag, hid.symm⟩)
  | _ => cases hissued

theorem Touches.commits_perform (h : Touches p original d) (op : BoardOp R) :
    ∀ k ∈ (d.perform op).cases, p k.commit.recordId := by
  intro k hk
  have hmap {f : Case → Case} (hf : ∀ k, (f k).commit = k.commit) (hk : k ∈ d.cases.map f) : p k.commit.recordId := by
    obtain ⟨k', hk', rfl⟩ := List.mem_map.mp hk
    rw [hf]
    exact h.commits k' hk'
  cases op using BoardOp.commitCases with
  | replace records => exact hmap (f := .replace) (fun _ => rfl) hk
  | settle c =>
    simp only [perform, casesAfter, List.map_map] at hk
    exact hmap (by simp) hk
  | dragEnd =>
    simp only [perform, casesAfter] at hk
    rcases List.mem_append.mp hk with hk | hk
    · exact hmap (fun _ => Case.commit_write) hk
    · obtain ⟨c, hissued, rfl⟩ := Option.map_eq_some_iff.mp (Option.mem_toList.mp hk)
      exact h.issued hissued
  | other op hend hsettle hreplace =>
    simp only [perform, d.casesAfter_eq hend hsettle hreplace] at hk
    exact hmap (fun _ => Case.commit_write) hk

/-- Every operation but new records keeps this, as long as the next drag is of such a record as well. -/
theorem Touches.perform [LawfulBoardRecord R] (h : Touches p original d) {op : BoardOp R}
    (hgenuine : ∀ c, op = .settle c → ∃ k ∈ d.cases, c = k.commit.answered c.result)
    (hreplace : ∀ records, op ≠ .replace records)
    (hdrags : ∀ id, (d.board.perform op).dragging = some id → p id) : Touches p original (d.perform op) := by
  have hrecords : Board.Restatused p original (d.board.perform op).records := by
    obtain ⟨s, heq⟩ := Board.records_perform (b := d.board) hreplace
    rw [heq]
    cases hwritten : d.board.written op with
    | none => exact h.records
    | some id => exact h.records.change (h.written hgenuine hwritten) s
  refine ⟨hrecords, h.commits_perform op, hdrags, fun id hgesture => ?_⟩
  have hids : (d.board.perform op).records.map (Record.id (R := R)) = d.board.records.map Record.id :=
    hrecords.ids_eq.trans h.records.ids_eq.symm
  show id ∈ (d.board.perform op).records.map (Record.id (R := R))
  rw [hids]
  rcases Board.recordId?_perform hgesture with hbefore | hthere
  · exact h.present id hbefore
  · exact Board.record?_isSome_iff.mp hthere

theorem Touches.run [LawfulBoardRecord R] (h : Touches p original d) {ops : List (BoardOp R)}
    (hgenuine : Genuine ops d) (hreplace : ∀ records, .replace records ∉ ops)
    (hdrags : ∀ id, d.board.Drags ops id → p id) : Touches p original (d.run ops) := by
  induction ops generalizing d with
  | nil => exact h
  | cons op rest ih =>
    have hprefix (id : String) (hid : (d.board.perform op).Drags rest id) : p id := by
      obtain ⟨before, hbefore, hdragging⟩ := hid
      exact hdrags id ⟨op :: before, List.cons_prefix_cons.mpr ⟨rfl, hbefore⟩, hdragging⟩
    refine ih (h.perform hgenuine.1 ?_ fun id hid => hprefix id ⟨[], List.nil_prefix, hid⟩) hgenuine.2 ?_ hprefix
    · rintro records rfl
      exact hreplace records List.mem_cons_self
    · exact fun records hmem => hreplace records (List.mem_cons_of_mem _ hmem)

end Docket

namespace Board

/-- From new records on, a board keeps their number, their order, their ids and all that they say but for the status.
A record that is not the first one of an id that was dragged stays as it is. The record of a gesture is there: a press
that is moved far enough becomes a drag of it, and the end of a drag compares the status that it has. -/
theorem touches_dragged_statuses (b : Board JsonRecord) (records : List JsonRecord) (ops : List (BoardOp JsonRecord))
    (hgenuine : Docket.Genuine ops (.ofBoard (b.replace records))) (hreplace : ∀ records, .replace records ∉ ops) :
    let b' := (b.replace records).run ops
    b'.records.map (Record.id (R := JsonRecord)) = records.map Record.id ∧
    b'.records.map JsonRecord.others = records.map JsonRecord.others ∧
    (∀ i r, records[i]? = some r → b'.records[i]? = some r ∨
      (b.replace records).Drags ops (Record.id r) ∧ i = records.findIdx (Record.id · == Record.id r)) ∧
    (∀ id, b'.gesture.recordId? = some id → (b'.record? id).isSome) ∧
    (∀ id origin, b'.gesture = .pressed id origin → ∀ place : Point, b'.activationDistance < place.distance origin →
      (b'.pointerMove place).1 = true ∧ (b'.pointerMove place).2.dragging = some id) ∧
    (∀ session, b'.gesture = .dragging session → ∃ r, b'.record? session.recordId = some r ∧
      b'.dragEnd.1 = if statusOf r = session.statusBefore then .unchanged session.recordId
        else .commit (issueCommit session (statusOf r) b').1) := by
  intro b'
  have hstart : Docket.Touches ((b.replace records).Drags ops) records (.ofBoard (b.replace records)) :=
    ⟨.same, fun k hk => absurd hk List.not_mem_nil, nofun, nofun⟩
  have h := hstart.run hgenuine hreplace fun _ hid => hid
  have hboard : ((Docket.ofBoard (b.replace records)).run ops).board = b' := Docket.board_run ..
  obtain ⟨hrecords, -, -, hpresent⟩ := h
  rw [hboard] at hrecords hpresent
  have hthere (id : String) (hid : b'.gesture.recordId? = some id) : (b'.record? id).isSome :=
    record?_isSome_iff.mpr (hpresent id hid)
  refine ⟨hrecords.ids_eq, hrecords.map_eq JsonRecord.others_setStatus, fun i r hr => hrecords.getElem?_or hr, hthere,
    ?_, ?_⟩
  · intro id origin hpressed place hfar
    obtain ⟨r, hr⟩ := Option.isSome_iff_exists.mp (hthere id (by rw [hpressed]; rfl))
    unfold pointerMove
    rw [hpressed]
    simp only [if_pos hfar, beginDrag_of_record? hr]
    exact ⟨trivial, rfl⟩
  · intro session hdragging
    obtain ⟨r, hr⟩ := Option.isSome_iff_exists.mp (hthere session.recordId (by rw [hdragging]; rfl))
    refine ⟨r, hr, ?_⟩
    rw [dragEnd_of_dragging hdragging hr]
    split <;> rfl

/-- Of two records with the id of a drag, the second one stays as it is. -/
theorem touches_dragged_statuses_triage :
    let records := triage.records ++ [⟨[("id", .string "a"), ("status", .string "seen")]⟩]
    let ops := [.beginDrag "a", .dragOver "done", .dragEnd, .settle Audit.failed, .beginDrag "a", .dragOver "done"]
    let b' := (triage.replace records).run ops
    Docket.Genuine ops (.ofBoard (triage.replace records)) ∧ (∀ records, .replace records ∉ ops) ∧
      b'.records[2]? = records[2]? ∧ (b'.record? "a").isSome ∧ b'.statuses.get? "a" = some "closed" := by
  intro records ops b'
  have hgenuine : Docket.Genuine ops (.ofBoard (triage.replace records)) := by
    refine ⟨nofun, nofun, nofun, ?_, nofun, nofun, trivial⟩
    rintro _ ⟨⟩
    exact ⟨_, .head _, rfl⟩
  have hreplace : ∀ records, .replace records ∉ ops := by simp [ops]
  obtain ⟨-, -, hkept, hpresent, -⟩ := touches_dragged_statuses triage records ops hgenuine hreplace
  refine ⟨hgenuine, hreplace, ?_, hpresent "a" (by decide +kernel), by decide +kernel⟩
  rcases hkept 2 _ rfl with hsame | ⟨-, hfirst⟩
  · exact hsame
  · cases hfirst

end Board

end RecordScreens
