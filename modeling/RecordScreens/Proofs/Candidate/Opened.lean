import RecordScreens.Listing.Screen
import RecordScreens.Proofs.Action.Effects
import RecordScreens.Proofs.Candidate.Stored
import RecordScreens.Proofs.Detail.Load
import RecordScreens.Proofs.Listing.Pages
import RecordScreens.Proofs.Query.Freshness

/-!
# Opening what is listed

A row of a list shows the id of a candidate, and by that id the candidate is opened. The list reads whole records,
whereas the store looks for the id that stands in a record. The two agree on records that are objects.
-/

namespace RecordScreens

open Routine

/-! ## Loading from a store -/

namespace Store

/-- A record that is asked for by its id. -/
theorem call_get {s : Store} {key collection : String} (hroute : Dict.get? s.routes key = some (.get collection))
    (id : String) : (call key (RecordQuery.params id) s).1 =
      orFail key (notFound id) (find? (s.records collection) id) := by
  have hid : ((RecordQuery.params id).get? "id").bind Json.asString? = some id := rfl
  simp only [call, hroute, lookUp, hid]
  rfl

end Store

namespace Binder

variable {i j : Nat}

/-- The fetches of an aggregate leave the other queries alone. -/
theorem keeps_fetchAggregate (h : i ≠ j) : (fetchAggregate i : Routine (Binder Store) _).Keeps (·.slot? j) :=
  keeps_iff_steps.mpr (allows_slot h).fetchAggregate

end Binder

namespace DetailScreen

variable {R : Type} [Record R] {s : DetailScreen R} {e : Engine Store}

/-- A load from a store succeeds just if the record is read, whatever the related queries come to. -/
theorem run_load [LawfulRecord R] (h : s.Ready e.binder) :
    let key := s.config.entityQuery
    let outcome := (Store.call key (RecordQuery.params s.entityId) e.binder.source).1.bind (Record.read R key)
    (s.load.run e).1 = outcome.map (fun _ => ()) ∧ s.record (s.load.run e).2 = .ofResult outcome := by
  intro key outcome
  obtain ⟨q, hq, hkey, hid, hform⟩ := h.entity
  obtain ⟨a, ha, -⟩ := h.related
  have hne : s.related ≠ s.entity := by
    intro heq
    cases hq.symm.trans (heq ▸ ha)
  let answer := (Store.call q.key (RecordQuery.params q.id) e.binder.source).1
  have hread : q.read answer = outcome.map Record.encode := by
    rw [RecordQuery.read_eq hform]
    simp only [answer, outcome, key, hkey, hid]
  let found := (Binder.fetchSingle s.entity).run e.binder
  have hfound : found = (.ofResult (q.read answer),
      (Binder.ask q.key (RecordQuery.params q.id) e.binder).2.put s.entity (.record (q.refetched e.binder.source))) :=
    Binder.run_fetchSingle hq
  have hslot : ((Binder.fetchAggregate s.related).run found.2).2.slot? s.entity =
      some (.record (q.refetched e.binder.source)) := by
    rw [(Binder.keeps_fetchAggregate hne).run_eq, hfound]
    exact Binder.slot?_ask_put hq ..
  have hrun : s.load.run e = (outcome.map (fun _ => ()),
      { e with binder := ((Binder.fetchAggregate s.related).run found.2).2 }) := by
    have houtcome : ((Binder.fetchSingle s.entity).run e.binder).1 = .ofResult outcome := by
      rw [← FetchOutcome.ofResult_map Record.encode, ← hread]
      exact congrArg Prod.fst hfound
    unfold load
    simp only [bind_eq, run_bind, Engine.run_onBinder, (Binder.prompt_fetchSingle s.entity).run_par, houtcome]
    cases outcome <;> rfl
  rw [hrun]
  refine ⟨rfl, ?_⟩
  have hstate : (q.refetched e.binder.source).state = .ofResult (q.read answer) := rfl
  rw [record, Binder.record?_of_slot? hslot]
  simp only [hstate, hread]
  exact QueryState.bindData_read ..

end DetailScreen

/-! ## Ids -/

namespace Candidate

variable {values : List Json} {v : Json} {c : Candidate}

/-- Candidates with different ids stand in different records. -/
theorem eq_of_id (hids : ((values.filterMap decode).map (·.id)).Nodup) {w : Json} {d : Candidate} (hv : v ∈ values)
    (hc : decode v = some c) (hw : w ∈ values) (hd : decode w = some d) (hid : c.id = d.id) : v = w := by
  let Apart (v w : Json) : Prop := ∀ c, decode v = some c → ∀ d, decode w = some d → c.id ≠ d.id
  have hapart : values.Pairwise Apart := List.pairwise_filterMap.mp (List.pairwise_map.mp hids)
  have hsymm : Std.Symm Apart := ⟨fun v w h c hc d hd heq => h d hd c hc heq.symm⟩
  by_contra hne
  exact hapart.forall hv hw hne c hc d hd hid

/-- The record in which the id of a candidate stands is the record of the candidate. -/
theorem eq_of_idOf? (hread : ∀ v ∈ values, ∃ c, decode v = some c)
    (hids : ((values.filterMap decode).map (·.id)).Nodup) (hv : v ∈ values) (hc : decode v = some c) {w : Json}
    (hw : w ∈ values) (hid : Store.idOf? w = some c.id) : w = v := by
  obtain ⟨d, hd⟩ := hread w hw
  obtain ⟨members, rfl⟩ := Store.object_of_idOf? hid
  exact eq_of_id hids hw hd hv hc (Option.some.inj ((idOf?_of_decode hd).symm.trans hid))

/-- The store finds a candidate just if the record is an object. -/
theorem find?_of_decode (hread : ∀ v ∈ values, ∃ c, decode v = some c)
    (hids : ((values.filterMap decode).map (·.id)).Nodup) (hv : v ∈ values) (hc : decode v = some c) :
    ((∃ members, v = .object members) → Store.find? values c.id = some v) ∧
      ((∀ members, v ≠ .object members) → Store.find? values c.id = none) := by
  have hfound {w : Json} (h : Store.find? values c.id = some w) : Store.idOf? w = some c.id ∧ w = v := by
    have hid : Store.idOf? w = some c.id := by simpa using List.find?_some h
    exact ⟨hid, eq_of_idOf? hread hids hv hc (List.mem_of_find?_eq_some h) hid⟩
  constructor
  · rintro ⟨members, rfl⟩
    obtain ⟨w, hw⟩ := Store.find?_isSome_iff.mpr ⟨_, hv, idOf?_of_decode hc⟩
    rw [hw, (hfound hw).2]
  · intro hobject
    cases hw : Store.find? values c.id with
    | none => rfl
    | some w =>
      obtain ⟨hid, rfl⟩ := hfound hw
      obtain ⟨members, rfl⟩ := Store.object_of_idOf? hid
      exact absurd rfl (hobject members)

end Candidate

/-! ## Rows -/

theorem ListScreen.id_of_row {R : Type} [Record R] {s : ListScreen R} {r : R} {row : RenderedRow}
    (h : s.row r = .ok row) : row.id = Record.id r := by
  obtain ⟨buttons, -, h⟩ := bind_eq_ok.mp h
  cases h
  rfl

namespace Candidate

/-- The query with a number lists these candidates, and what it knows of is theirs. -/
structure Browses (values : List Json) (i : Nat) (b : Binder Store) : Prop where
  same : (store values).Same b.source
  query : ∃ q, b.list? i = some q ∧ q.key = listQuery ∧ q.fullForm? = Record.fullForm? Candidate ∧
    ∀ page, q.state = .data page → ∀ item ∈ page.items, ∃ v ∈ values, Record.fullForm? Candidate v = some item

variable {values : List Json} {i : Nat} {e : Engine Store} {s : ListScreen Candidate}

theorem browses_start (hsame : (store values).Same e.binder.source) {config : ListConfig Candidate}
    (hconfig : config.listQuery = listQuery) :
    Browses values (ListScreen.start config e).1.query (ListScreen.start config e).2.binder := by
  refine ⟨hsame, _, Binder.list?_of_slot? (Binder.slot?_register_self ..), hconfig, rfl, ?_⟩
  intro page hpage
  cases hpage

/-- Whatever the user has entered, a screen fetches what is there. -/
theorem Browses.refresh (h : Browses values i e.binder) (hs : s.query = i) :
    Browses values i (s.refresh.run e).2.binder := by
  obtain ⟨q, hq, hkey, hform, -⟩ := h.query
  have hroute : Dict.get? e.binder.source.routes q.key = some (.list "candidates" searchFields) := by
    rw [hkey, h.same.routes]
    exact (routes_store values).1
  have hreads : e.binder.source.OnlyReads q.key := by
    intro collection hset
    cases hroute.symm.trans hset
  have hslot := Binder.slot?_of_list? hq
  subst hs
  rw [ListScreen.refresh, Engine.run_onBinder, Binder.run_fetchList hslot]
  refine ⟨h.same.trans (.call hreads _), _, Binder.list?_of_slot? (Binder.slot?_ask_put hslot ..), hkey, hform, ?_⟩
  intro page hpage
  cases hread : q.read s.params (Store.call q.key s.params.toQuery e.binder.source).1 with
  | error error =>
    rw [hread] at hpage
    cases hpage
  | ok read =>
    rw [hread] at hpage
    cases hpage
    exact records_of_same h.same ▸ hform ▸ ListQuery.mem_of_read hroute hread

theorem Browses.visits (h : Browses values i e.binder) {visits : List (ListScreen Candidate)}
    (hvisits : ∀ s ∈ visits, s.query = i) :
    Browses values i (visits.foldl (fun e s => (s.refresh.run e).2) e).binder := by
  induction visits generalizing e with
  | nil => exact h
  | cons s rest ih =>
    obtain ⟨hs, hrest⟩ := List.forall_mem_cons.mp hvisits
    exact ih (h.refresh hs) hrest

/-- Each row is the row of one of the candidates. -/
theorem Browses.mem_of_mem_rows (h : Browses values i e.binder) (hs : s.query = i) {rows : List RenderedRow}
    (hrows : s.rows e = .ok rows) {row : RenderedRow} (hrow : row ∈ rows) :
    ∃ v ∈ values, ∃ c, decode v = some c ∧ s.row c = .ok row := by
  obtain ⟨q, hq, -, -, hitems⟩ := h.query
  subst hs
  simp only [ListScreen.rows, ListScreen.state, hq] at hrows
  cases hstate : q.state with
  | data page =>
    rw [hstate] at hrows
    obtain ⟨c, hc, hrow⟩ := exists_of_mem_mapM hrows hrow
    obtain ⟨item, hitem, hread⟩ := List.mem_filterMap.mp hc
    obtain ⟨v, hv, hform⟩ := hitems page hstate item hitem
    obtain ⟨d, hd, rfl⟩ := Option.map_eq_some_iff.mp hform
    -- What is shown was read from the full form of the record, which says what the record said.
    obtain rfl : d = c := Option.some.inj ((LawfulRecord.decode_encode hd).symm.trans hread)
    exact ⟨v, hv, d, hd, hrow⟩
  | pending =>
    rw [hstate] at hrows
    cases hrows
    cases hrow
  | error error =>
    rw [hstate] at hrows
    cases hrows
    cases hrow

/-- What is loaded for the row of a candidate, over the same records: the candidate, if the record is an object, and an
error otherwise. -/
theorem load_row (hread : ∀ v ∈ values, ∃ c, decode v = some c)
    (hids : ((values.filterMap decode).map (·.id)).Nodup) {v : Json} {c : Candidate} (hv : v ∈ values)
    (hc : decode v = some c) (hsame : (store values).Same e.binder.source) {config : DetailConfig Candidate}
    (hconfig : config.entityQuery = getQuery) :
    let started := DetailScreen.start config c.id e
    let loaded := started.1.load.run started.2
    let missing : QueryError := .source getQuery (Store.notFound c.id)
    ((∃ members, v = .object members) → loaded.1 = .ok () ∧ started.1.record loaded.2 = .data c) ∧
      ((∀ members, v ≠ .object members) → loaded.1 = .error missing ∧ started.1.record loaded.2 = .error missing) := by
  intro started loaded missing
  have hready : started.1.Ready started.2.binder := DetailScreen.ready_start config c.id e
  have hroute : Dict.get? e.binder.source.routes getQuery = some (.get "candidates") := by
    rw [hsame.routes]
    exact (routes_store values).2.1
  have hanswer : (Store.call getQuery (RecordQuery.params c.id) e.binder.source).1 =
      Store.orFail getQuery (Store.notFound c.id) (Store.find? values c.id) := by
    rw [Store.call_get hroute, records_of_same hsame]
  have hloaded := DetailScreen.run_load hready
  have hkey : started.1.config.entityQuery = getQuery := hconfig
  have hid : started.1.entityId = c.id := rfl
  have hsource : started.2.binder.source = e.binder.source := rfl
  simp only [hkey, hid, hsource, hanswer] at hloaded
  obtain ⟨hobject, harray⟩ := find?_of_decode hread hids hv hc
  refine ⟨fun h => ?_, fun h => ?_⟩
  · rw [hobject h] at hloaded
    have hrecord : Record.read Candidate getQuery v = .ok c := by
      have hdecode : (Record.decode v : Option Candidate) = some c := hc
      rw [Record.read, hdecode]
    simp only [Store.orFail, Except.bind, hrecord] at hloaded
    exact hloaded
  · rw [harray h] at hloaded
    exact hloaded

/-! ## The law -/

/-- Over a document of candidates with different ids, whatever the user of a list enters and fetches in turn, each row
stands for one of the candidates. If the record is an object, the screen that is opened for the id of the row loads this
very candidate. If it is an array, which is listed as well, the screen fails to load. -/
theorem listed_opens {text : String} {values : List Json} (haccepted : valuesOfText text = .ok values)
    (hids : ((values.filterMap decode).map (·.id)).Nodup) {e : Engine Store}
    (hsame : (store values).Same e.binder.source) {list : ListConfig Candidate} (hlist : list.listQuery = listQuery)
    {detail : DetailConfig Candidate} (hdetail : detail.entityQuery = getQuery) :
    let started := ListScreen.start list e
    ∀ visits : List (ListScreen Candidate), (∀ s ∈ visits, s.query = started.1.query) →
      let shown := visits.foldl (fun e s => (s.refresh.run e).2) started.2
      ∀ (s : ListScreen Candidate) (rows : List RenderedRow), s.query = started.1.query → s.rows shown = .ok rows →
        ∀ row ∈ rows, ∃ v ∈ values, ∃ c, decode v = some c ∧ s.row c = .ok row ∧
          let opened := DetailScreen.start detail row.id shown
          let loaded := opened.1.load.run opened.2
          let missing : QueryError := .source getQuery (Store.notFound row.id)
          ((∃ members, v = .object members) → loaded.1 = .ok () ∧ opened.1.record loaded.2 = .data c) ∧
            ((∀ members, v ≠ .object members) →
              loaded.1 = .error missing ∧ opened.1.record loaded.2 = .error missing) := by
  intro started visits hvisits shown s rows hs hrows row hrow
  have hbrowses : Browses values started.1.query shown.binder := (browses_start hsame hlist).visits hvisits
  obtain ⟨v, hv, c, hc, hrow⟩ := hbrowses.mem_of_mem_rows hs hrows hrow
  refine ⟨v, hv, c, hc, hrow, ?_⟩
  have hid : row.id = c.id := ListScreen.id_of_row hrow
  rw [hid]
  exact load_row (fun w hw => (stored_of_text haccepted w hw).read) hids hv hc hbrowses.same hdetail

/-- Of two candidates the active one is listed, and this very candidate is opened. -/
theorem listed_opens_pair :
    let e : Engine Store := { binder := { source := store pair } }
    let unsorted : ListDraft Candidate := { listDraft 25 with defaultSort := none }
    ∃ list detail, unsorted.build = .ok list ∧ detailConfig = .ok detail ∧
      let started := ListScreen.start list e
      let s := started.1.setFilter "status" (.text "active")
      let shown := (s.refresh.run started.2).2
      ∃ row, s.rows shown = .ok [row] ∧
        let opened := DetailScreen.start detail row.id shown
        let loaded := opened.1.load.run opened.2
        loaded.1 = .ok () ∧
          opened.1.record loaded.2 =
            .data { id := "a", firstName := "Ada", lastName := "Lovelace", status := "active" } := by
  intro e unsorted
  obtain ⟨detail, hdetail, hgetQuery⟩ : ∃ detail, detailConfig = .ok detail ∧ detail.entityQuery = getQuery :=
    ⟨_, rfl, rfl⟩
  obtain ⟨list, hlist, hlistQuery, hlisted⟩ : ∃ list, unsorted.build = .ok list ∧ list.listQuery = listQuery ∧
      let started := ListScreen.start list e
      let s := started.1.setFilter "status" (.text "active")
      (s.rows (s.refresh.run started.2).2).map (·.map (·.id)) = .ok ["a"] :=
    ⟨_, rfl, rfl, by decide +kernel⟩
  refine ⟨list, detail, hlist, hdetail, ?_⟩
  intro started s shown
  have hids : (s.rows shown).map (·.map (·.id)) = .ok ["a"] := hlisted
  obtain ⟨row, hrows, hid⟩ : ∃ row, s.rows shown = .ok [row] ∧ row.id = "a" := by
    cases hrows : s.rows shown with
    | error p =>
      rw [hrows] at hids
      cases hids
    | ok rows =>
      rw [hrows] at hids
      obtain ⟨row, rfl, hrow⟩ := List.map_eq_singleton_iff.mp (Except.ok.inj hids)
      exact ⟨row, rfl, hrow⟩
  obtain ⟨v, hv, c, hc, hrow, hobject, -⟩ := listed_opens valuesOfText_pairText (by decide +kernel)
    (.refl (store pair)) hlistQuery hgetQuery [s] (List.forall_mem_singleton.mpr rfl) s [row] rfl hrows row
    (List.mem_singleton_self row)
  refine ⟨row, hrows, ?_⟩
  rcases List.mem_pair.mp hv with rfl | rfl
  · cases hc
    exact hobject ⟨_, rfl⟩
  · cases hc
    exact absurd (hid.symm.trans (ListScreen.id_of_row hrow)) (by decide)

/-- The second of two candidates is listed and cannot be opened. -/
theorem listed_unopened :
    let e : Engine Store := { binder := { source := store pair } }
    let unsorted : ListDraft Candidate := { listDraft 25 with defaultSort := none }
    let listed : Except ConfigError (Except Panic (List String)) := unsorted.build.map fun config =>
      let started := ListScreen.start config e
      (started.1.rows (started.1.refresh.run started.2).2).map (·.map (·.id))
    let opened : Except ConfigError (Except QueryError Unit) := detailConfig.map fun config =>
      let started := DetailScreen.start config "b" e
      (started.1.load.run started.2).1
    valuesOfText pairText = .ok pair ∧ ((pair.filterMap decode).map (·.id)).Nodup ∧ listed = .ok (.ok ["a", "b"]) ∧
      opened = .ok (.error (.source getQuery "record 'b' not found")) := by
  refine ⟨valuesOfText_pairText, by decide +kernel, ?_, ?_⟩
  · decide +kernel
  · decide +kernel

end Candidate

end RecordScreens
