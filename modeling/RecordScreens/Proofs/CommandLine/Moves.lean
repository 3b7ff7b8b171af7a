import RecordScreens.Proofs.Board.Columns
import RecordScreens.Proofs.Board.Frame
import RecordScreens.Proofs.Candidate.Opened
import RecordScreens.Proofs.CommandLine.Accepted

/-!
# Moves and the board below

What the board command tells of a move agrees with the board that it prints below: a card that was moved is listed in
its new column, and after a move that failed the board is the one without the move. A card that is already in its column
is listed there, unless its status keeps it off the board.
-/

namespace RecordScreens

open Candidate Routine

/-! ## Cards -/

/-- A card that gets another status is listed in the column of that one, unless it is hidden. -/
theorem Board.listed_setStatus {R : Type} [BoardRecord R] [LawfulBoardRecord R] {b : Board R} {id s : String} {r : R}
    (hm : b.mapping.WellFormed) (hids : (b.records.map (Record.id (R := R))).Nodup) (hr : b.record? id = some r) :
    (b.setStatus id s).listed id = if b.mapping.isHidden s then [] else [b.mapping.columnOf s] := by
  have hids' : ((b.setStatus id s).records.map (Record.id (R := R))).Nodup := by
    show ((setStatusOf id s b.records).map (Record.id (R := R))).Nodup
    rw [map_setStatusOf LawfulBoardRecord.id_setStatus]
    exact hids
  rw [listed_eq (b := b.setStatus id s) hm hids' (record?_setStatus hr), statusOf_setStatus]
  rfl

namespace Command

variable {b : Board Candidate} {c : Candidate} {id column : String}

/-- What is printed of a board are its records in the columns of its mapping. -/
theorem boardLines_congr {b' : Board Candidate} (hmapping : b'.mapping = b.mapping)
    (hrecords : b'.records = b.records) : boardLines b' = boardLines b := by
  unfold boardLines Board.columns
  rw [hmapping, hrecords]

/-- The move of a card to a declared column. To its own column it changes nothing, and to another one it sends the
status that is dropped there. -/
theorem run_moveCard (hm : b.mapping.WellFormed) (hkey : b.commitKey = statusMutation) (hr : b.record? id = some c)
    (hcolumn : b.mapping.Declares column) (e : Engine Store) :
    (b.mapping.columnOf c.status = column →
      ((moveCard b ⟨id, column⟩).run e).1 =
        .printed ([id ++ " is already in " ++ column, ""] ++ boardLines b)) ∧
    (b.mapping.columnOf c.status ≠ column →
      ∃ commit : PendingCommit, commit.recordId = id ∧ b.mapping.dropStatus? column = some commit.statusAfter ∧
        ((moveCard b ⟨id, column⟩).run e).1 = match (Store.call statusMutation commit.params e.binder.source).1 with
          | .ok _ => .printed (settledLines (.committed id commit.statusAfter) ++
              boardLines (b.setStatus id commit.statusAfter))
          | .error error => .printed (settledLines (.reverted id c.status error) ++ boardLines b)) := by
  let session := Board.sessionOf b.mapping id c.status
  let begun : Board Candidate := { b with gesture := .dragging session }
  have hbegin : b.beginDrag id = (true, begun) := Board.beginDrag_of_record? hr
  obtain ⟨status, hover⟩ : ∃ status, Board.statusOver b.mapping session column = some status :=
    Option.isSome_iff_exists.mp ((Board.statusOver_isSome_iff hm rfl).mpr hcolumn)
  let dragged := begun.setStatus id status
  have hrun : (moveCard b ⟨id, column⟩).run e = (drop dragged column).run e := by
    have hdragOver : begun.dragOver column = (true, dragged) := by
      rw [Board.dragOver_of_dragging rfl]
      simp only [show begun.mapping = b.mapping from rfl, hover]
      rfl
    simp only [moveCard, hbegin, hdragOver]
  have hr' : dragged.record? id = some { c with status } := Board.record?_setStatus (b := begun) hr
  have hback : status = c.status ↔ column = b.mapping.columnOf c.status := Board.statusOver_eq_iff hm hover
  have hsame : Board.setStatusOf id c.status b.records = b.records := Board.setStatusOf_status hr trivial rfl
  have hdragging : dragged.gesture = .dragging session := rfl
  obtain ⟨hunchanged, hcommitted⟩ := run_drop hdragging hr' column e
  rw [hrun]
  constructor
  · intro hown
    have hstatus : status = c.status := hback.mpr hown.symm
    have hlines : boardLines dragged = boardLines b := by
      refine boardLines_congr rfl ?_
      show Board.setStatusOf id status b.records = b.records
      rw [hstatus, hsame]
    rw [hunchanged hstatus, hlines]
    rfl
  · intro hother
    have hstatus : status ≠ c.status := fun h => hother (hback.mp h).symm
    let commit := (Board.issueCommit session status dragged).1
    have hkey : commit.key = statusMutation := hkey
    have hdropped : ((drop dragged column).run e).1 =
        match (Store.call commit.key commit.params e.binder.source).1 with
        | .ok _ => .printed (settledLines (.committed id status) ++ boardLines dragged)
        | .error error => .printed (settledLines (.reverted id c.status error) ++
            boardLines (dragged.setStatus id c.status)) := hcommitted hstatus
    have hmoved : boardLines dragged = boardLines (b.setStatus id status) := boardLines_congr rfl rfl
    have hreverted : boardLines (dragged.setStatus id c.status) = boardLines b := by
      refine boardLines_congr rfl ?_
      show Board.setStatusOf id c.status (Board.setStatusOf id status b.records) = b.records
      rw [Board.setStatusOf_setStatusOf, hsame]
    refine ⟨commit, rfl, ?_, ?_⟩
    · show b.mapping.dropStatus? column = some status
      rw [← hover]
      exact (if_neg fun h => hother h.symm).symm
    · rw [hdropped, hmoved, hreverted, hkey]
      rfl

end Command

/-! ## Statuses of columns -/

namespace Candidate

theorem filterMap_of_map_decode {values : List Json} {candidates : List Candidate}
    (h : values.map decode = candidates.map some) : values.filterMap decode = candidates := by
  have hread := congrArg (List.filterMap fun c : Option Candidate => c) h
  simpa [List.filterMap_map, Function.comp_def] using hread

/-- No card is dropped out of sight. -/
theorem isHidden_of_dropStatus? {mapping : ColumnMapping} (hmapping : boardMapping = .ok mapping)
    {column status : String} (hdrop : mapping.dropStatus? column = some status) :
    mapping.isHidden status = false := by
  obtain ⟨first, -, -, -, rfl⟩ := MappingDraft.build_eq_ok.mp hmapping
  obtain ⟨claim, hclaim, hstatus⟩ := Option.bind_eq_some_iff.mp hdrop
  have hshown : ∀ claim ∈ boardDraft.claims, ∀ s ∈ claim.statuses, boardDraft.hidden.contains s = false := by decide
  exact hshown claim (List.mem_of_find?_eq_some hclaim) status (List.mem_of_head? hstatus)

/-- The answer to the commit of a candidate's status, over the same records: the status is set if the record is an
object, and not found otherwise. -/
theorem answer_commit {values : List Json} {v : Json} {c : Candidate} (hread : ∀ v ∈ values, ∃ c, decode v = some c)
    (hids : ((values.filterMap decode).map (·.id)).Nodup) (hv : v ∈ values) (hc : decode v = some c) {s : Store}
    (hsame : (store values).Same s) {commit : PendingCommit} (hid : commit.recordId = c.id) :
    let answer := (Store.call statusMutation commit.params s).1
    ((∃ members, v = .object members) → answer = .ok (Store.withStatus (.string commit.statusAfter) v)) ∧
      ((∀ members, v ≠ .object members) → answer = Store.failed statusMutation (Store.notFound c.id)) := by
  obtain ⟨hobject, harray⟩ := find?_of_decode hread hids hv hc
  have hroute := (routes_store values).2.2
  have hcommit : (commit.params.get? "id").bind Json.asString? = some c.id := hid ▸ commit.get?_id_params
  rw [← records_store values] at hobject harray
  rw [hsame.call_eq]
  constructor
  · intro hmembers
    exact (Store.call_setStatus hroute hcommit commit.get?_status_params (hobject hmembers)).1
  · intro hmembers
    exact Store.call_setStatus_of_none hroute hcommit commit.get?_status_params (harray hmembers)

end Candidate

/-! ## The law -/

namespace Invocation

open Command

variable {files : Files} {i : Invocation} {settings : Settings} {values : List Json} {mapping : ColumnMapping}

/-- The moves of cards over candidates that were accepted, whose ids differ. The board without the move is `before`. A
card that is told to be in its column already is listed there once, unless its status keeps it off the board: then it is
listed nowhere. A card that is told to be moved is listed once, in its new column; so it is with each candidate who is
written as an object. The move of one who is written as an array fails, and the board is the one without the move. -/
theorem told_as_listed (hsettings : i.settingsOf files = .ok settings) (hvalues : i.candidatesOf files = .ok values)
    (hmapping : boardMapping = .ok mapping) (hids : ((values.filterMap decode).map (·.id)).Nodup) {v : Json}
    {c : Candidate} (hv : v ∈ values) (hc : decode v = some c) {column : String} (hcolumn : mapping.Declares column)
    (hcommand : i.command = .board (some ⟨c.id, column⟩)) :
    ∃ before : Board Candidate, before.mapping = mapping ∧ values.map decode = before.records.map some ∧
      { i with command := .board none }.run files = .printed (boardLines before) ∧
      (mapping.columnOf c.status = column →
        i.run files = .printed ([c.id ++ " is already in " ++ column, ""] ++ boardLines before) ∧
        before.listed c.id = if mapping.isHidden c.status then [] else [column]) ∧
      (mapping.columnOf c.status ≠ column → (∃ members, v = .object members) →
        ∃ status, mapping.dropStatus? column = some status ∧
          i.run files = .printed (["Moved " ++ c.id ++ " to " ++ status, ""] ++
            boardLines (before.setStatus c.id status)) ∧
          (before.setStatus c.id status).listed c.id = [column]) ∧
      (mapping.columnOf c.status ≠ column → (∀ members, v ≠ .object members) →
        i.run files = .printed (["Move of " ++ c.id ++ " failed: " ++
          (QueryError.source statusMutation (Store.notFound c.id)).message, ""] ++ boardLines before)) := by
  have hstored := stored_of_candidatesOf hvalues
  have hm : mapping.WellFormed := MappingDraft.wellFormed_of_build hmapping
  obtain ⟨candidates, fetched, hcandidates, hsame, hrun⟩ := run_boardOf hsettings hvalues hmapping
  let before := boardOf settings mapping candidates
  have hmove : i.run files = ((moveCard before ⟨c.id, column⟩).run fetched).1 := by
    have h := hrun (some ⟨c.id, column⟩)
    rw [← hcommand] at h
    exact h
  have hanswer {commit : PendingCommit} (hid : commit.recordId = c.id) :=
    answer_commit (fun w hw => (hstored w hw).read) hids hv hc hsame hid
  -- The candidates of the board are those of the document, so their ids differ as well.
  have hread : values.filterMap decode = candidates := filterMap_of_map_decode hcandidates
  rw [hread] at hids
  have hmem : c ∈ candidates := hread ▸ List.mem_filterMap.mpr ⟨v, hv, hc⟩
  have hrecord : before.record? c.id = some c := (find?_key_eq_some_iff hids).mpr ⟨hmem, rfl⟩
  obtain ⟨hown, hother⟩ := run_moveCard (b := before) hm rfl hrecord hcolumn fetched
  refine ⟨before, rfl, hcandidates, hrun none, ?_, ?_, ?_⟩
  · intro hstays
    refine ⟨hmove.trans (hown hstays), ?_⟩
    rw [Board.listed_eq hm hids hrecord, ← hstays]
    rfl
  · intro hmoves hobject
    obtain ⟨commit, hid, hdrop, hprinted⟩ := hother hmoves
    rw [(hanswer hid).1 hobject] at hprinted
    refine ⟨commit.statusAfter, hdrop, hmove.trans hprinted, ?_⟩
    rw [Board.listed_setStatus hm hids hrecord, if_neg]
    · exact congrArg (fun column => [column]) (ColumnMapping.columnOf_of_dropStatus? hm hdrop)
    · exact Bool.eq_false_iff.mp (isHidden_of_dropStatus? hmapping hdrop)
  · intro hmoves harray
    obtain ⟨commit, hid, -, hprinted⟩ := hother hmoves
    rw [(hanswer hid).2 harray] at hprinted
    exact hmove.trans hprinted

/-- Of two candidates the first one is moved, and the second one, who is written as an array, is not. -/
theorem told_as_listed_pair :
    let files : Files := { content := fun _ => .text pairText }
    let i (id column : String) : Invocation :=
      { settings := none, data := some "pair.json", command := .board (some ⟨id, column⟩) }
    (∃ before : Board Candidate,
      (i "a" "placed").run files =
        .printed (["Moved a to placed", ""] ++ boardLines (before.setStatus "a" "placed")) ∧
      (before.setStatus "a" "placed").listed "a" = ["placed"]) ∧
    ∃ before : Board Candidate,
      { i "b" "sourced" with command := .board none }.run files = .printed (boardLines before) ∧
      (i "b" "sourced").run files = .printed
        (["Move of b failed: Query 'candidates.updateStatus' failed: record 'b' not found", ""] ++
          boardLines before) := by
  intro files i
  obtain ⟨mapping, hmapping, hcolumns, hplaced⟩ : ∃ mapping, boardMapping = .ok mapping ∧
      (mapping.Declares "placed" ∧ mapping.Declares "sourced" ∧ mapping.columnOf "active" ≠ "placed" ∧
        mapping.columnOf "bench" ≠ "sourced") ∧ mapping.dropStatus? "placed" = some "placed" :=
    ⟨_, rfl, by decide, by decide⟩
  obtain ⟨hdeclaresPlaced, hdeclaresSourced, hactive, hbench⟩ := hcolumns
  have hvalues (id column : String) : (i id column).candidatesOf files = .ok pair := by
    simp only [candidatesOf, i, files, valuesOfText_pairText]
    rfl
  have hids : ((pair.filterMap decode).map (·.id)).Nodup := by decide +kernel
  let ada : Candidate := { id := "a", firstName := "Ada", lastName := "Lovelace", status := "active" }
  let grace : Candidate := { id := "b", firstName := "Grace", lastName := "Hopper", status := "bench" }
  have hada : decode pair[0] = some ada := by decide +kernel
  have hgrace : decode pair[1] = some grace := by decide +kernel
  constructor
  · obtain ⟨before, -, -, -, -, hmoved, -⟩ := told_as_listed (i := i "a" "placed") rfl (hvalues ..) hmapping hids
      (List.getElem_mem _) hada hdeclaresPlaced rfl
    obtain ⟨status, hdrop, hprinted, hlisted⟩ := hmoved hactive ⟨_, rfl⟩
    cases hplaced.symm.trans hdrop
    exact ⟨before, hprinted, hlisted⟩
  · obtain ⟨before, -, -, hbefore, -, -, hfailed⟩ := told_as_listed (i := i "b" "sourced") rfl (hvalues ..) hmapping
      hids (List.getElem_mem _) hgrace hdeclaresSourced rfl
    refine ⟨before, hbefore, hfailed hbench ?_⟩
    intro members hobject
    cases hobject

/-- A text with one candidate, whose status is hidden. -/
def inactiveText : String :=
  "[\x7b\"id\":\"a\",\"first_name\":\"Ada\",\"last_name\":\"Lovelace\",\"status\":\"inactive\"\x7d]"

/-- A candidate who is told to be in the first column already is listed in none. -/
theorem told_unlisted :
    let files : Files := { content := fun _ => .text inactiveText }
    let i : Invocation :=
      { settings := none, data := some "inactive.json", command := .board (some ⟨"a", "sourced"⟩) }
    i.candidatesOf files = .ok [.object [("first_name", .string "Ada"), ("id", .string "a"),
      ("last_name", .string "Lovelace"), ("status", .string "inactive")]] ∧
    i.run files = .printed ["a is already in sourced", "", "Sourced (0): ", "Screening (0): ", "Interviewing (0): ",
      "Placed (0): "] := by
  constructor
  · decide +kernel
  · decide +kernel

end Invocation

end RecordScreens
