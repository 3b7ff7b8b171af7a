import RecordScreens.CommandLine.Run
import RecordScreens.Proofs.Board.Docket
import RecordScreens.Proofs.Board.Drag
import RecordScreens.Proofs.Board.Mirror
import RecordScreens.Proofs.Candidate.Listed
import RecordScreens.Proofs.Listing.Inputs
import RecordScreens.Proofs.Listing.Sent
import RecordScreens.Proofs.View.Buttons
import RecordScreens.Proofs.View.Tables

/-!
# Commands over accepted candidates

Once a document of candidates is accepted, no later answer is refused: the lists of candidates settle with pages,
whatever was fetched and whichever statuses were set before, and the commands that list candidates never tell of an
answer that cannot be read.
-/

namespace RecordScreens

open Candidate Routine

/-! ## The list -/

section

variable {o : ListOptions} {s : ListScreen Candidate} {c : ListConfig Candidate} {e : Engine Store}

/-- The rows of a page are drawn if it is decided which actions are offered. -/
theorem ListScreen.rows_eq_ok (hdecided : ∀ r, ActionSpec.Decided s.config.quickActions r) (e : Engine Store) :
    ∃ rows, s.rows e = .ok rows := by
  unfold rows
  split
  · exact ⟨_, mapM_eq_ok fun r _ => row_eq (hdecided r)⟩
  · exact ⟨_, rfl⟩

namespace Command

@[simp] theorem config_enter : (enter o s).config = s.config := by
  unfold enter
  cases o.status <;> cases o.search <;> cases o.hot <;> cases o.sort <;>
    simp [ListScreen.setFilter, ListScreen.setPage]

@[simp] theorem query_enter : (enter o s).query = s.query := by
  unfold enter
  cases o.status <;> cases o.search <;> cases o.hot <;> cases o.sort <;>
    simp [ListScreen.setFilter, ListScreen.setPage]

/-- A page is printed without a fault, and cut off only at a table that is too wide. -/
theorem listOutcome_data {q : ListQuery} {page : Page Json} (hq : e.binder.list? s.query = some q)
    (hpage : q.state = .data page) (hdecided : ∀ r, ActionSpec.Decided s.config.quickActions r) (head : List String) :
    (listOutcome s head e).fault = none ∧ ∀ h ∈ (listOutcome s head e).crash, h = .panic Layout.tooWide := by
  have hstate : s.state e = .data (page.filterMap Record.decode) := by
    rw [ListScreen.state, hq]
    simp only [hpage, QueryState.mapData]
  obtain ⟨rows, hrows⟩ := s.rows_eq_ok hdecided e
  have hlines : (∃ lines, pageLines s e (page.filterMap Record.decode) = .ok lines) ∨
      pageLines s e (page.filterMap Record.decode) = .error Layout.tooWide := by
    unfold pageLines
    split
    · exact .inl ⟨_, rfl⟩
    · let under (table : String) := [table, "", pageLine (page.filterMap Record.decode)]
      rw [hrows]
      show (∃ lines, (Layout.listRows rows).bind (.ok ∘ under) = .ok lines) ∨
        (Layout.listRows rows).bind (.ok ∘ under) = .error Layout.tooWide
      rcases Layout.listRows_cases rows with ⟨table, htable⟩ | htable <;> rw [htable]
      · exact .inl ⟨under table, rfl⟩
      · exact .inr rfl
  rw [listOutcome, hstate]
  rcases hlines with ⟨lines, hlines⟩ | hlines <;> simp only [hlines]
  · exact ⟨rfl, nofun⟩
  · exact ⟨rfl, fun h hh => (Option.some.inj hh).symm⟩

/-- What the list command needs of its configuration and of the store. -/
structure ListsCandidates (c : ListConfig Candidate) (s : Store) : Prop where
  listQuery_eq : c.listQuery = listQuery
  reads : ∀ key, c.statsQuery = some key → s.OnlyReads key
  decided : ∀ r, ActionSpec.Decided c.quickActions r

/-- The stats are asked for without a change of the candidates. -/
theorem run_stats (h : Listing e.binder)
    (hreads : ∀ key, s.config.statsQuery = some key → e.binder.source.OnlyReads key) :
    Listing (s.stats.run e).2.binder ∧ ∀ i, (s.stats.run e).2.binder.slot? i = e.binder.slot? i := by
  unfold ListScreen.stats
  cases hkey : s.config.statsQuery with
  | none => exact ⟨h, fun _ => rfl⟩
  | some key =>
    simp only [bind_eq, run_bind, Engine.run_onBinder, Binder.run_query]
    exact ⟨⟨h.readable.of_same (.call (hreads key hkey) _), h.queries⟩, fun _ => rfl⟩

theorem run_list (h : Listing e.binder) (hlists : ListsCandidates c e.binder.source) (hsize : c.pageSize < Nat.pow 2 64)
    (hoffset : o.page * c.pageSize < Nat.pow 2 64) :
    ((runList o c).run e).1.fault = none ∧ ∀ h ∈ ((runList o c).run e).1.crash, h = .panic Layout.tooWide := by
  let started := ListScreen.start c e
  let s := enter o started.1
  have hconfig : s.config = c := config_enter
  have hquery : s.query = e.binder.queries.length := query_enter
  have hstarted : Listing started.2.binder := by
    have hregistered : started.2.binder = (e.binder.register (.list (.ofRecords Candidate c.listQuery))).2 := rfl
    rw [hregistered, hlists.listQuery_eq]
    exact h.register
  have hslot : started.2.binder.slot? s.query = some (.list (.ofRecords Candidate c.listQuery)) :=
    hquery ▸ Binder.slot?_register_self e.binder _
  obtain ⟨hasked, hkept⟩ := run_stats (s := s) hstarted (hconfig ▸ hlists.reads)
  have hwords : s.params.InWords := ListScreen.inWords_params (hconfig ▸ hsize) (hconfig ▸ hoffset)
  have hq := Binder.list?_of_slot? ((hkept _).trans hslot)
  obtain ⟨q, candidates, -, hq, -, hpage⟩ := hasked.run_fetchList hq hwords
  have hrun : (runList o c).run e =
      (listOutcome s (listHead c (s.stats.run started.2).1) (s.refresh.run (s.stats.run started.2).2).2,
        (s.refresh.run (s.stats.run started.2).2).2) := by
    unfold runList
    simp only [bind_eq, run_bind, run_step]
    rfl
  have hrefreshed : (s.refresh.run (s.stats.run started.2).2).2.binder.list? s.query = some q := by
    rw [ListScreen.refresh, Engine.run_onBinder]
    exact hq
  rw [hrun]
  exact listOutcome_data hrefreshed hpage (hconfig ▸ hlists.decided) _

end Command

end

/-! ## The board -/

namespace Command

/-- How the board command ends on a board of candidates. If a card stays where it was, this is told, and a mutation that
failed is a failure of the source. -/
inductive BoardEnds (b : Board Candidate) : Option CardMove → RunOutcome → Prop where
  | shown : BoardEnds b none (.printed (boardLines b))
  | noCard {move : CardMove} (hcard : b.record? move.recordId = none) :
      BoardEnds b (some move) (.failed ("no card '" ++ move.recordId ++ "' on the board"))
  | noColumn {move : CardMove} (hcolumn : b.mapping.dropStatus? move.column = none) :
      BoardEnds b (some move) (.failed ("no column '" ++ move.column ++ "'"))
  | unchanged {move : CardMove} {after : Board Candidate} :
      BoardEnds b (some move) (.printed ([move.recordId ++ " is already in " ++ move.column, ""] ++ boardLines after))
  | moved {move : CardMove} {status : String} {after : Board Candidate} :
      BoardEnds b (some move) (.printed (settledLines (.committed move.recordId status) ++ boardLines after))
  | refused {move : CardMove} {status message : String} {after : Board Candidate} :
      BoardEnds b (some move) (.printed
        (settledLines (.reverted move.recordId status (.source statusMutation message)) ++ boardLines after))

variable {b : Board Candidate} {e : Engine Store}

/-- A commit is answered by the store. -/
theorem run_commit (commit : PendingCommit) (binder : Binder Store) :
    (commit.run.run binder).1 = commit.answered (Store.call commit.key commit.params binder.source).1 := by
  rw [PendingCommit.run_eq, Binder.run_mutate]
  cases (Store.call commit.key commit.params binder.source).1 <;> rfl

section

variable {c : Candidate} {session : DragSession} {dragged : Board Candidate}

/-- A card that has its old status stays where it is, and else its commit is sent, and the board takes in the answer. -/
theorem run_drop (hgesture : dragged.gesture = .dragging session)
    (hr : dragged.record? session.recordId = some c) (column : String) (e : Engine Store) :
    (c.status = session.statusBefore →
      ((drop dragged column).run e).1 =
        .printed ([session.recordId ++ " is already in " ++ column, ""] ++ boardLines dragged)) ∧
    (c.status ≠ session.statusBefore →
      let commit := (Board.issueCommit session c.status dragged).1
      ((drop dragged column).run e).1 = match (Store.call commit.key commit.params e.binder.source).1 with
        | .ok _ => .printed (settledLines (.committed session.recordId c.status) ++ boardLines dragged)
        | .error error => .printed (settledLines (.reverted session.recordId session.statusBefore error) ++
            boardLines (dragged.setStatus session.recordId session.statusBefore))) := by
  have hend := Board.dragEnd_of_dragging hgesture hr
  rw [show Board.statusOf c = c.status from rfl] at hend
  constructor
  · intro hstatus
    rw [if_pos hstatus] at hend
    simp only [drop, hend, pure_eq, run_done]
    rfl
  · intro hstatus commit
    rw [if_neg hstatus] at hend
    let after := (Board.issueCommit session c.status { dragged with gesture := .idle }).2
    have hrun : ((drop dragged column).run e).1 =
        let settled := after.settle (commit.run.run e.binder).1
        .printed (settledLines settled.1 ++ boardLines settled.2) := by
      simp only [drop, hend, bind_eq, run_bind, Engine.run_onBinder, pure_eq, run_done]
      rfl
    have hopen : Dict.get? after.inFlight commit.recordId = some commit.ticket := Dict.get?_insert_self ..
    rw [hrun, run_commit]
    cases hcall : (Store.call commit.key commit.params e.binder.source).1 with
    | ok v =>
      have hsettle : after.settle (commit.answered (.ok v)) =
          (.committed commit.recordId commit.statusAfter,
            { after with inFlight := Dict.erase after.inFlight commit.recordId }) := if_pos hopen
      simp only [hsettle]
      rfl
    | error error =>
      have hsettle : after.settle (commit.answered (.error error)) =
          (.reverted commit.recordId commit.statusBefore error,
            { after with inFlight := Dict.erase after.inFlight commit.recordId }.setStatus commit.recordId
              commit.statusBefore) := if_pos hopen
      simp only [hsettle]
      rfl

theorem ends_drop {move : CardMove} {collection : String} (hgesture : dragged.gesture = .dragging session)
    (hr : dragged.record? session.recordId = some c) (hcard : session.recordId = move.recordId)
    (hkey : dragged.commitKey = statusMutation)
    (hroute : Dict.get? e.binder.source.routes statusMutation = some (.setStatus collection)) :
    BoardEnds b (some move) ((drop dragged move.column).run e).1 := by
  obtain ⟨hback, haway⟩ := run_drop hgesture hr move.column e
  by_cases hstatus : c.status = session.statusBefore
  · rw [hback hstatus, hcard]
    exact .unchanged
  · rw [haway hstatus]
    have hcommit : (Board.issueCommit session c.status dragged).1.key = statusMutation := hkey
    rw [hcommit, hcard]
    cases hcall : (Store.call statusMutation (Board.issueCommit session c.status dragged).1.params
        e.binder.source).1 with
    | ok v => exact .moved
    | error error =>
      obtain ⟨message, rfl⟩ := Store.source_of_setStatus hroute hcall
      exact .refused

end

theorem ends_moveCard {collection : String} (hkey : b.commitKey = statusMutation)
    (hroute : Dict.get? e.binder.source.routes statusMutation = some (.setStatus collection)) (move : CardMove) :
    BoardEnds b (some move) ((moveCard b move).run e).1 := by
  unfold moveCard Board.beginDrag
  cases hcard : b.record? move.recordId with
  | none => exact .noCard hcard
  | some r =>
    simp only
    rw [Board.dragOver_of_dragging rfl]
    cases hover : Board.statusOver b.mapping
      { recordId := move.recordId, statusBefore := Board.statusOf r, origin := b.mapping.columnOf (Board.statusOf r) }
      move.column with
    | none =>
      refine .noColumn ?_
      unfold Board.statusOver at hover
      split at hover
      · cases hover
      · exact hover
    | some status => exact ends_drop rfl (Board.record?_setStatus (b := { b with gesture := _ }) hcard) rfl hkey hroute

/-- The board of the command, with these candidates on it. -/
def boardOf (settings : Settings) (mapping : ColumnMapping) (candidates : List Candidate) : Board Candidate where
  mapping
  commitKey := statusMutation
  invalidates := [listQuery]
  activationDistance := settings.activationDistance
  records := candidates

/-- The board command fetches all candidates, and then it moves the card on their board or just shows it. -/
theorem run_runBoard (h : Listing e.binder) (settings : Settings) (mapping : ColumnMapping) :
    ∃ (candidates : List Candidate) (fetched : Engine Store),
      (e.binder.source.records "candidates").map decode = candidates.map some ∧
      e.binder.source.Same fetched.binder.source ∧
      ∀ move, ((runBoard settings mapping move).run e).1 = match move with
        | none => .printed (boardLines (boardOf settings mapping candidates))
        | some move => ((moveCard (boardOf settings mapping candidates) move).run fetched).1 := by
  let registered := e.binder.register (.list (.ofRecords Candidate listQuery))
  let fetched := (Binder.fetchList registered.1 {}).run registered.2
  have hslot : registered.2.slot? registered.1 = some (.list (.ofRecords Candidate listQuery)) :=
    Binder.slot?_register_self e.binder _
  have hsame : e.binder.source.Same fetched.2.source := by
    have hsource : fetched.2.source = (Store.call listQuery ({} : ListParams).toQuery e.binder.source).2 :=
      congrArg (·.2.source) (Binder.run_fetchList hslot {})
    exact hsource ▸ .call h.readable.onlyReads _
  obtain ⟨q, candidates, -, hq, hcandidates, hpage⟩ :=
    h.register.run_fetchList (Binder.list?_of_slot? hslot) ListParams.inWords_default
  rw [asked_all] at hcandidates
  have hstate : ((fetched.2.list? registered.1).map (·.state)).getD .pending =
      .data (pageOf {} registered.2.source candidates) := by
    rw [hq, Option.map_some, Option.getD_some, hpage]
  have hread : (candidates.map encode).filterMap decode = candidates := filterMap_encode hcandidates
  refine ⟨candidates, { e with binder := fetched.2 }, hcandidates, hsame, fun move => ?_⟩
  unfold runBoard
  simp only [bind_eq, run_bind, Engine.run_onBinder, run_step, Routine.run, fetched, registered] at hstate ⊢
  simp only [hstate, QueryState.data?, Option.map_some, Option.getD_some, pageOf, hread]
  cases move <;> rfl

end Command

/-! ## Configurations -/

namespace Candidate

/-- The configuration of the list is at fault only if pages have no rows. -/
theorem listConfig_eq_ok {n : Nat} (hn : n ≠ 0) :
    ∃ c, listConfig n = .ok c ∧ c.pageSize = n ∧ c.listQuery = listQuery ∧ c.statsQuery = some statsQuery ∧
      c.quickActions = (listDraft n).quickActions := by
  obtain ⟨n, rfl⟩ := Nat.exists_eq_succ_of_ne_zero hn
  exact ⟨_, rfl, rfl, rfl, rfl, rfl⟩

theorem decided_quickActions (n : Nat) (r : Candidate) : ActionSpec.Decided (listDraft n).quickActions r := by
  intro a ha
  rcases List.mem_pair.mp ha with rfl | rfl <;> exact ⟨_, rfl⟩

theorem boardMapping_eq_ok : ∃ mapping, boardMapping = .ok mapping := ⟨_, rfl⟩

end Candidate

/-! ## Invocations -/

namespace Invocation

variable {files : Files} {i : Invocation} {settings : Settings} {values : List Json}

/-- The candidates of a run are those of a document that was accepted, or the samples. -/
theorem stored_of_candidatesOf (h : i.candidatesOf files = .ok values) : ∀ v ∈ values, Stored v := by
  unfold candidatesOf at h
  split at h
  · cases h
    intro v hv
    obtain ⟨c, hc, rfl⟩ := List.mem_map.mp hv
    exact stored_encode (inRange_samples c hc)
  · rename_i path hpath
    split at h
    · rename_i content hcontent
      cases hread : valuesOfText content with
      | error fault =>
        rw [hread] at h
        cases h
      | ok read =>
        rw [hread] at h
        cases h
        exact stored_of_text hread
    all_goals cases h

theorem run_eq (hsettings : i.settingsOf files = .ok settings) (hvalues : i.candidatesOf files = .ok values) :
    i.run files = ((i.command.run settings).run (engine settings values)).1 := by
  rw [Invocation.run, hsettings, hvalues]

/-- A list command fails only for a page size of zero. -/
theorem run_list (hsettings : i.settingsOf files = .ok settings) (hvalues : i.candidatesOf files = .ok values)
    {o : ListOptions} (hcommand : i.command = .list o) (hsize : settings.pageSize < Nat.pow 2 64)
    (hoffset : o.page * settings.pageSize < Nat.pow 2 64) :
    (i.run files).fault = if settings.pageSize = 0 then
      some { message := (ConfigError.missingField ListDraft.configName "page_size").message } else none := by
  rw [run_eq hsettings hvalues, hcommand, Command.run]
  split
  · rename_i hzero
    rw [hzero]
    rfl
  · rename_i hpositive
    obtain ⟨c, hc, hpageSize, hquery, hstats, hactions⟩ := listConfig_eq_ok hpositive
    have hlists : Command.ListsCandidates c (store values) := by
      refine ⟨hquery, fun key hkey => ?_, fun r => hactions ▸ decided_quickActions _ r⟩
      cases hstats.symm.trans hkey
      exact onlyReads_statsQuery values
    rw [hc]
    rw [← hpageSize] at hsize hoffset
    exact (Command.run_list (listing_store (stored_of_candidatesOf hvalues) _) hlists hsize hoffset).1

/-- The board command shows the board of all candidates, or moves a card on it over the same records. -/
theorem run_boardOf (hsettings : i.settingsOf files = .ok settings) (hvalues : i.candidatesOf files = .ok values)
    {mapping : ColumnMapping} (hmapping : boardMapping = .ok mapping) :
    ∃ (candidates : List Candidate) (fetched : Engine Store),
      values.map decode = candidates.map some ∧ (store values).Same fetched.binder.source ∧
      ∀ move, { i with command := .board move }.run files = match move with
        | none => .printed (Command.boardLines (Command.boardOf settings mapping candidates))
        | some move => ((Command.moveCard (Command.boardOf settings mapping candidates) move).run fetched).1 := by
  obtain ⟨candidates, fetched, hcandidates, hsame, hrun⟩ := Command.run_runBoard (e := engine settings values)
    (listing_store (stored_of_candidatesOf hvalues) _) settings mapping
  refine ⟨candidates, fetched, (records_store values).symm ▸ hcandidates, hsame, fun move => ?_⟩
  rw [run_eq (i := { i with command := .board move }) hsettings hvalues, Command.run, hmapping]
  exact hrun move

theorem run_board (hsettings : i.settingsOf files = .ok settings) (hvalues : i.candidatesOf files = .ok values)
    {move : Option CardMove} (hcommand : i.command = .board move) :
    ∃ b : Board Candidate, values.map decode = b.records.map some ∧ Command.BoardEnds b move (i.run files) := by
  obtain ⟨mapping, hmapping⟩ := boardMapping_eq_ok
  obtain ⟨candidates, fetched, hcandidates, hsame, hrun⟩ := run_boardOf hsettings hvalues hmapping
  refine ⟨Command.boardOf settings mapping candidates, hcandidates, ?_⟩
  have hmove := hrun move
  rw [← hcommand] at hmove
  rw [hmove]
  cases move with
  | none => exact .shown
  | some move => exact Command.ends_moveCard rfl (hsame.routes ▸ (routes_store values).2.2) move

end Invocation

/-! ## The law -/

/-- Over a document of candidates that was accepted, however statuses are set and pages are fetched, no query for pages
of candidates comes to know an error: each fetch settles with the candidates that it asks for, in order, and each query
that a mutation fetches again settles with a page. It makes no difference which deeds are begun at once. So the list
command reports no error at all, unless its pages have no rows, and the board command shows all candidates and tells of
no error but of a status that the store did not set. -/
theorem Candidate.accepted_settles :
    (∀ (text : String) (values : List Json), valuesOfText text = .ok values →
      ∀ (timeout : Nat) (deeds : List Deed), (∀ d ∈ deeds, d.Allowed) →
        let b := after deeds { source := store values, timeout }
        (∀ i q, b.list? i = some q → q.state = .pending ∨ ∃ page, q.state = .data page) ∧
        (∀ i q p, b.list? i = some q → p.InWords →
          let ran := (Binder.fetchList i p).run b
          ∃ (q' : ListQuery) (candidates : List Candidate), ran.1 = .applied ∧ ran.2.list? i = some q' ∧
            (asked p b.source).map decode = candidates.map some ∧ q'.state = .data (pageOf p b.source candidates)) ∧
        (∀ params invalidates v, TextStatus params → listQuery ∈ invalidates →
          let ran := (Binder.mutate statusMutation params invalidates).run b
          ran.1 = .ok v → ∀ i r, b.queries[i]? = some r → r.live = true →
            ∃ q page, ran.2.list? i = some q ∧ q.state = .data page) ∧
        ∀ more : List Deed, ((Routine.all (more.map Deed.routine)).run b).2 = after more b) ∧
    ∀ (files : Files) (i : Invocation) (settings : Settings) (values : List Json),
      i.settingsOf files = .ok settings → i.candidatesOf files = .ok values →
        (∀ o, i.command = .list o → settings.pageSize < Nat.pow 2 64 → o.page * settings.pageSize < Nat.pow 2 64 →
          (i.run files).fault = if settings.pageSize = 0 then
            some { message := (ConfigError.missingField ListDraft.configName "page_size").message } else none) ∧
        ∀ move, i.command = .board move →
          ∃ b : Board Candidate, values.map decode = b.records.map some ∧ Command.BoardEnds b move (i.run files) := by
  refine ⟨fun text values haccepted timeout deeds hdeeds => ?_, fun files i settings values hsettings hvalues => ?_⟩
  · intro b
    have hlisting : Listing b := (listing_store (stored_of_text haccepted) timeout).after hdeeds
    refine ⟨fun i q hq => (hlisting.lists hq).known, fun i q p hq hwords => hlisting.run_fetchList hq hwords,
      fun params invalidates v hparams hkey => ?_, fun more => run_all_deeds more b⟩
    intro ran hok i r hr hlive
    exact hlisting.run_mutate hparams hkey hok hr hlive
  · exact ⟨fun o hcommand => Invocation.run_list hsettings hvalues hcommand,
      fun move hcommand => Invocation.run_board hsettings hvalues hcommand⟩

/-- The first candidate is placed. The status of the second one, whom the store does not find, is not set, and this too
leaves the lists and the commands without an error. -/
theorem Candidate.accepted_settles_pair :
    let params (id : String) : Json := .object [("id", .string id), ("status", .string "placed")]
    let files : Files := { content := fun _ => .text pairText }
    let invocation (command : Command) : Invocation := { settings := none, data := some "pair.json", command }
    let b := after [.make, .setStatus (params "b") [listQuery]] { source := store pair }
    let ran := (Binder.mutate statusMutation (params "a") [listQuery]).run b
    ((Binder.fetchList 0 { limit := some 1 }).run b).1 = .applied ∧
      (∃ q page, ran.2.list? 0 = some q ∧ q.state = .data page) ∧
      ((invocation (.list {})).run files).fault = none ∧
      ∃ b : Board Candidate, pair.map decode = b.records.map some ∧
        Command.BoardEnds b (some ⟨"b", "placed"⟩) ((invocation (.board (some ⟨"b", "placed"⟩))).run files) := by
  intro params files invocation b ran
  obtain ⟨hlists, hcommands⟩ := accepted_settles
  have hparams (id : String) : TextStatus (params id) := by
    intro status hstatus
    exact ⟨"placed", (Option.some.inj hstatus).symm⟩
  have hallowed : ∀ d ∈ [Deed.make, .setStatus (params "b") [listQuery]], d.Allowed :=
    List.forall_mem_cons.mpr ⟨trivial, List.forall_mem_singleton.mpr (hparams "b")⟩
  obtain ⟨-, hfetch, hmutate, -⟩ := hlists pairText pair valuesOfText_pairText 5000 _ hallowed
  obtain ⟨q, hq⟩ : ∃ q, b.list? 0 = some q := Option.isSome_iff_exists.mp (by decide +kernel)
  have hwords : ListParams.InWords { limit := some 1 } := ⟨by rintro n ⟨⟩; decide, by decide⟩
  obtain ⟨-, -, happlied, -⟩ := hfetch 0 q { limit := some 1 } hq hwords
  have hok : ran.1 = .ok (.object [("first_name", .string "Ada"), ("id", .string "a"),
      ("last_name", .string "Lovelace"), ("status", .string "placed")]) := by
    decide +kernel
  have hheld : (b.queries[0]?).any (·.live) = true := by decide +kernel
  obtain ⟨r, hr, hlive⟩ := (Option.any_eq_true _ _).mp hheld
  have hrefetched := hmutate (params "a") [listQuery] _ (hparams "a") (List.mem_singleton_self _) hok 0 r hr hlive
  have hcandidates (command : Command) : (invocation command).candidatesOf files = .ok pair := by
    simp only [Invocation.candidatesOf, invocation, files, valuesOfText_pairText]
    rfl
  have hlist := (hcommands files (invocation (.list {})) {} pair rfl (hcandidates _)).1 {} rfl (by decide) (by decide)
  have hboard := (hcommands files (invocation (.board (some ⟨"b", "placed"⟩))) {} pair rfl (hcandidates _)).2 _ rfl
  exact ⟨happlied, hrefetched, hlist, hboard⟩

end RecordScreens
