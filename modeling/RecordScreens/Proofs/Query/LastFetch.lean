import RecordScreens.Proofs.Query.Numbered

/-!
# The last fetch wins

However the fetches of a list query or of a record query overlap, what the query knows
is the answer to the newest of them once that has arrived, and an answer that is
overtaken changes nothing.
-/

namespace RecordScreens

open Binder Overlap

variable {S : Type}

/-! ## List queries -/

/-- A fetch of a list query. -/
inductive ListCall where
  | fetch (p : ListParams)
  /-- Fetches the page of the fetch before again. -/
  | refetch

/-- The parameters that a fetch asks for after one that asked for `last`. -/
def ListCall.params (last : Option ListParams) : ListCall → ListParams
  | fetch p => p
  | refetch => last.getD {}

namespace ListQuery

instance : NumberedQuery ListQuery (Page Json) (Nat × QueryState (Page Json)) where
  toLive := .list
  ofLive? := LiveQuery.asList?
  ofLive?_eq_some {live q} := by cases live <;> simp [LiveQuery.asList?]
  issued q := q.issued
  known q := (q.settled, q.state)
  keep n r := (n, .ofResult r)
  shown := Prod.snd
  shown_keep _ _ := rfl
  settle := settle
  settle_newest r h := by simp [settle, h, state, Watch.send]
  settle_older r h := by simp [settle, h]

def fetching [DataSource S] (i : Nat) : Fetching S ListCall ListParams where
  routine
    | .fetch p => fetchList i p
    | .refetch => refetchList i
  label := ListCall.params

/-- What the answer to a request for a page comes to; it was one call with the parameters of the page. -/
def Response (key : String) (fullForm? : Json → Option Json) (timeout : Nat) (p : ListParams)
    (asked : List TakenCall) (r : Except QueryError (Page Json)) : Prop :=
  ∃ reply, asked = [⟨⟨.query, key, p.toQuery⟩, reply⟩] ∧
    r = (reply.answer key timeout).bind (Page.ofAnswer key fullForm? p.offset)

/-- What a list query is, and the parameters of its last fetch. -/
structure Fits (key : String) (fullForm? : Json → Option Json) (last : Option ListParams) (q : ListQuery) :
    Prop where
  key_eq : q.key = key
  fullForm?_eq : q.fullForm? = fullForm?
  lastParams_eq : q.lastParams = last

variable {key : String} {fullForm? : Json → Option Json}

theorem Fits.begin {q : ListQuery} {last : Option ListParams} (h : Fits key fullForm? last q) (p : ListParams) :
    Fits key fullForm? (some p) (q.begin p) :=
  ⟨h.key_eq, h.fullForm?_eq, rfl⟩

theorem Fits.settle {q : ListQuery} {last : Option ListParams} (n : Nat) (r : Except QueryError (Page Json))
    (h : Fits key fullForm? last q) : Fits key fullForm? last (q.settle n r).2 := by
  unfold ListQuery.settle
  split
  · exact ⟨h.key_eq, h.fullForm?_eq, h.lastParams_eq⟩
  · exact h

theorem advance_fetchList [DataSource S] {b : Binder (Logged S)} {i : Nat} {q : ListQuery}
    (hq : b.list? i = some q) (p : ListParams) :
    (fetchList i p).advance b =
      requested i (q.begin p) q.key p.toQuery (settleList i (q.issued + 1) p) b := by
  unfold fetchList
  rw [Routine.advance_act, hq]
  exact advance_query ..

/-- A refetch asks for the page of the fetch before. -/
theorem advance_refetchList [DataSource S] {b : Binder S} {i : Nat} {q : ListQuery} (hq : b.list? i = some q) :
    (refetchList i).advance b = (fetchList i (q.lastParams.getD {})).advance b := by
  unfold refetchList
  rw [Routine.advance_act, hq]
  rfl

/-- The step that ends a fetch takes its answer in. -/
theorem takesIn_settleList (i n : Nat) (p : ListParams) (answer : Except QueryError Json) :
    TakesIn (Fits key fullForm?) i n (answer.bind (Page.ofAnswer key fullForm? p.offset))
      (settleList (S := Logged S) i n p answer) := by
  intro b q last hq hfits
  have hlist : b.list? i = some q := by rw [list?_eq]; exact hq
  have hread : q.read p answer = answer.bind (Page.ofAnswer key fullForm? p.offset) := by
    unfold read
    rw [hfits.key_eq, hfits.fullForm?_eq]
  unfold settleList
  rw [hlist, ← hread]
  rfl

def laws [DataSource S] (key : String) (fullForm? : Json → Option Json) (i timeout : Nat) :
    Laws ListQuery (fetching (S := S) i) i timeout where
  Fits := Fits key fullForm?
  Response := Response key fullForm? timeout
  fits_settle := Fits.settle
  begins := by
    intro last b q call hq htimeout hfits
    have hlist : b.list? i = some q := by rw [list?_eq]; exact hq
    -- Either call is a fetch with the parameters that its label shows.
    have hcall : ((fetching i).routine call).advance b = (fetchList i (call.params last)).advance b := by
      cases call with
      | fetch p => rfl
      | refetch => exact (advance_refetchList hlist).trans (by rw [hfits.lastParams_eq]; rfl)
    obtain rfl := hfits.key_eq
    have hfits' := hfits.begin (call.params last)
    obtain ⟨hbegins, hasked, htimeout'⟩ := begins_requested hq hfits'
      (takesIn_settleList i (q.issued + 1) (call.params last) _)
    rw [hcall, advance_fetchList hlist, ← htimeout]
    exact ⟨q.begin (call.params last), _, hfits', rfl, rfl, ⟨_, hasked, rfl⟩, hbegins, htimeout'⟩

section

variable [DataSource S] {i timeout : Nat} {o : Overlap S ListParams FetchOutcome} {q : ListQuery}

/-- A list query of which nothing is known follows its fetches. -/
theorem follows_run {b : Binder (Logged S)} (hq : b.list? i = some { key, fullForm? })
    (moves : List (Move S ListCall i)) :
    ∃ q, Follows (laws key fullForm? i b.timeout) (0, .pending) (run (fetching i) moves { binder := b }) q := by
  have hhere : query? ListQuery i b = some { key, fullForm? } := query?_eq_some.mpr (slot?_of_list? hq)
  have hinitial := follows_initial (W := laws key fullForm? i b.timeout) hhere rfl ⟨rfl, rfl, rfl⟩ rfl
  obtain ⟨q, hfollows, -⟩ := hinitial.run moves
  exact ⟨q, hfollows⟩

theorem lastParams_eq (h : Follows (laws key fullForm? i timeout) (0, .pending) o q) :
    q.lastParams = o.newest?.map (·.label) :=
  h.fits.lastParams_eq

/-- A query is fetching as long as its newest fetch waits. -/
theorem isFetching_iff (h : Follows (laws key fullForm? i timeout) (0, .pending) o q) :
    q.isFetching = true ↔ ∃ f, o.newest? = some f ∧ f.rest.waits = true := by
  have hissued : q.issued = o.begun.length := h.issued_eq
  -- What is known carries the number of its fetch, and the query is fetching while that is not the last number.
  unfold isFetching
  rw [bne_iff_ne, hissued]
  constructor
  · intro hne
    cases hnewest : o.newest? with
    | none =>
      have hnil : o.begun = [] := List.getLast?_eq_none_iff.mp hnewest
      have hopen : ∀ f, o.newest? = some f → f.rest.waits = true := fun f hf => by rw [hnewest] at hf; cases hf
      rcases h.unsettled hopen with hfirst | ⟨n, r, hn, -⟩
      · obtain ⟨hsettled, -⟩ := Prod.mk.inj hfirst
        exact absurd (by rw [hnil, hsettled]; rfl) hne
      · simp [hnil] at hn
    | some f =>
      refine ⟨f, rfl, ?_⟩
      cases hwaits : f.rest.waits with
      | true => rfl
      | false =>
        obtain ⟨r, -, -, hknown⟩ := h.settled hnewest hwaits
        exact absurd (Prod.mk.inj hknown).1.symm hne
  · rintro ⟨f, hnewest, hwaits⟩
    have hpos : 0 < o.begun.length := List.length_pos_of_mem (List.mem_of_getLast? hnewest)
    have hopen : ∀ g, o.newest? = some g → g.rest.waits = true := fun g hg => by
      rw [hnewest] at hg
      cases hg
      exact hwaits
    rcases h.unsettled hopen with hfirst | ⟨n, r, hn, hknown⟩
    · obtain ⟨hsettled, -⟩ := Prod.mk.inj hfirst
      omega
    · obtain ⟨hsettled, -⟩ := Prod.mk.inj hknown
      omega

/-- A refetch sends the parameters of the newest fetch. -/
theorem refetch_sends (h : Follows (laws key fullForm? i timeout) (0, .pending) o q) :
    ∃ f r, (o.move (fetching i) (.begin .refetch : Move S ListCall i)).newest? = some f ∧
      f.label = q.lastParams.getD {} ∧ Response key fullForm? timeout (q.lastParams.getD {}) f.asked r := by
  -- The refetch is a fetch like any other one, so its calls are those of its label.
  obtain ⟨q', h', -⟩ := h.begin .refetch
  have hnewest := newest?_begin o (ListCall.params (o.newest?.map (·.label)) .refetch) (refetchList i)
  obtain ⟨r, hresponse⟩ := h'.lastWins.asks _ (List.mem_of_getLast? hnewest)
  rw [lastParams_eq h]
  exact ⟨_, r, hnewest, rfl, hresponse⟩

end

end ListQuery

/-! ## Record queries -/

namespace RecordQuery

instance : NumberedQuery RecordQuery Json (QueryState Json) where
  toLive := .record
  ofLive? := LiveQuery.asRecord?
  ofLive?_eq_some {live q} := by cases live <;> simp [LiveQuery.asRecord?]
  issued q := q.issued
  known q := q.state
  keep _ r := .ofResult r
  shown known := known
  shown_keep _ _ := rfl
  settle := settle
  settle_newest r h := by simp [settle, h, state, Watch.send]
  settle_older r h := by simp [settle, h]

def fetching [DataSource S] (i : Nat) : Fetching S Unit Unit where
  routine _ := fetchSingle i
  label _ _ := ()

/-- What the answer to a request for a record comes to; it was one call with the id of the record. -/
def Response (key id : String) (fullForm? : Json → Option Json) (timeout : Nat) (_ : Unit)
    (asked : List TakenCall) (r : Except QueryError Json) : Prop :=
  ∃ reply, asked = [⟨⟨.query, key, RecordQuery.params id⟩, reply⟩] ∧
    r = (reply.answer key timeout).bind (Record.ofAnswer key fullForm?)

/-- What a record query is. -/
structure Fits (key id : String) (fullForm? : Json → Option Json) (_ : Option Unit) (q : RecordQuery) :
    Prop where
  key_eq : q.key = key
  id_eq : q.id = id
  fullForm?_eq : q.fullForm? = fullForm?

variable {key id : String} {fullForm? : Json → Option Json}

theorem Fits.settle {q : RecordQuery} {last : Option Unit} (n : Nat) (r : Except QueryError Json)
    (h : Fits key id fullForm? last q) : Fits key id fullForm? last (q.settle n r).2 := by
  unfold RecordQuery.settle
  split
  · exact ⟨h.key_eq, h.id_eq, h.fullForm?_eq⟩
  · exact h

theorem advance_fetchSingle [DataSource S] {b : Binder (Logged S)} {i : Nat} {q : RecordQuery}
    (hq : b.record? i = some q) :
    (fetchSingle i).advance b =
      requested i q.begin q.key (params q.id) (settleSingle i (q.issued + 1)) b := by
  unfold fetchSingle
  rw [Routine.advance_act, hq]
  exact advance_query ..

/-- The step that ends a fetch takes its answer in. -/
theorem takesIn_settleSingle (i n : Nat) (answer : Except QueryError Json) :
    TakesIn (Fits key id fullForm?) i n (answer.bind (Record.ofAnswer key fullForm?))
      (settleSingle (S := Logged S) i n answer) := by
  intro b q last hq hfits
  have hrecord : b.record? i = some q := by rw [record?_eq]; exact hq
  have hread : q.read answer = answer.bind (Record.ofAnswer key fullForm?) := by
    unfold read
    rw [hfits.key_eq, hfits.fullForm?_eq]
  unfold settleSingle
  rw [hrecord, ← hread]
  rfl

def laws [DataSource S] (key id : String) (fullForm? : Json → Option Json) (i timeout : Nat) :
    Laws RecordQuery (fetching (S := S) i) i timeout where
  Fits := Fits key id fullForm?
  Response := Response key id fullForm? timeout
  fits_settle := Fits.settle
  begins := by
    intro last b q call hq htimeout hfits
    have hrecord : b.record? i = some q := by rw [record?_eq]; exact hq
    obtain rfl := hfits.key_eq
    obtain rfl := hfits.id_eq
    have hfits' : Fits q.key q.id fullForm? (some ()) q.begin := ⟨rfl, rfl, hfits.fullForm?_eq⟩
    obtain ⟨hbegins, hasked, htimeout'⟩ := begins_requested hq hfits' (takesIn_settleSingle i (q.issued + 1) _)
    have hroutine : ((fetching i).routine call).advance b = _ := advance_fetchSingle hrecord
    rw [hroutine, ← htimeout]
    exact ⟨q.begin, _, hfits', rfl, rfl, ⟨_, hasked, rfl⟩, hbegins, htimeout'⟩

/-- A record query of which nothing is known follows its fetches. -/
theorem follows_run [DataSource S] {i : Nat} {b : Binder (Logged S)}
    (hq : b.record? i = some { key, id, fullForm? }) (moves : List (Move S Unit i)) :
    ∃ q, Follows (laws key id fullForm? i b.timeout) .pending (run (fetching i) moves { binder := b }) q := by
  have hhere : query? RecordQuery i b = some { key, id, fullForm? } := query?_eq_some.mpr (slot?_of_record? hq)
  have hinitial := follows_initial (W := laws key id fullForm? i b.timeout) hhere rfl ⟨rfl, rfl, rfl⟩ rfl
  obtain ⟨q, hfollows, -⟩ := hinitial.run moves
  exact ⟨q, hfollows⟩

end RecordQuery

/-! ## The law -/

/-- However the fetches of a query overlap with each other and with anything else on the binder, the answer to
the newest one is kept and every other one is dropped. A list query tells whether its newest fetch waits and what
that fetch asked for, and a refetch asks for the same. -/
theorem last_fetch_wins [DataSource S] (b : Binder (Logged S)) (i : Nat) (key id : String)
    (fullForm? : Json → Option Json) :
    (b.list? i = some { key, fullForm? } →
      ∀ moves : List (Move S ListCall i), ∃ q : ListQuery,
        let o := run (ListQuery.fetching i) moves { binder := b }
        LastWins (ListQuery.fetching i) (ListQuery.Response key fullForm? b.timeout) i o q ∧
        (q.isFetching = true ↔ ∃ f, o.newest? = some f ∧ f.rest.waits = true) ∧
        q.lastParams = o.newest?.map (·.label) ∧
        ∃ f r, (o.move (ListQuery.fetching i) (.begin .refetch : Move S ListCall i)).newest? = some f ∧
          f.label = q.lastParams.getD {} ∧
          ListQuery.Response key fullForm? b.timeout (q.lastParams.getD {}) f.asked r) ∧
    (b.record? i = some { key, id, fullForm? } →
      ∀ moves : List (Move S Unit i), ∃ q : RecordQuery,
        LastWins (RecordQuery.fetching i) (RecordQuery.Response key id fullForm? b.timeout) i
          (run (RecordQuery.fetching i) moves { binder := b }) q) := by
  constructor
  · intro hq moves
    obtain ⟨q, hfollows⟩ := ListQuery.follows_run hq moves
    exact ⟨q, hfollows.lastWins, ListQuery.isFetching_iff hfollows, ListQuery.lastParams_eq hfollows,
      ListQuery.refetch_sends hfollows⟩
  · intro hq moves
    obtain ⟨q, hfollows⟩ := RecordQuery.follows_run hq moves
    exact ⟨q, hfollows.lastWins⟩

/-- A list query and a record query, and a source whose first answer to each is the slower one. -/
def reordered : Binder (Logged Scripted) where
  source := { source := { script := [
    ("page", [{ delay := some 100, result := some (.ok (page [deal "a", deal "b"])) },
      { delay := some 10, result := some (.ok (page [deal "c"])) }]),
    ("one", [{ delay := some 100, result := some (.error "gone") },
      { delay := some 10, result := some (.ok (deal "a")) }])] } }
  queries := [{ query := .list { key := "page", fullForm? := some } },
    { query := .record { key := "one", id := "a", fullForm? := some } }]
where
  deal (id : String) : Json := .object [("id", .string id)]
  page (items : List Json) : Json := .object [("items", .array items), ("total", .ofNat 3)]

/-- Two fetches of each query, of which the first one is overtaken. -/
theorem last_fetch_wins_reordered :
    (reordered.list? 0 = some { key := "page", fullForm? := some } ∧
      ∃ q : ListQuery, q.state = .data { items := [reordered.deal "c"], total := 3, offset := 2 } ∧
        q.isFetching = false ∧ q.lastParams = some { offset := 2 }) ∧
    (reordered.record? 1 = some { key := "one", id := "a", fullForm? := some } ∧
      ∃ q : RecordQuery, q.state = .data (reordered.deal "a")) := by
  refine ⟨⟨rfl, ?_⟩, rfl, ?_⟩
  · obtain ⟨q, hlast, hfetching, hparams, -⟩ := (last_fetch_wins reordered 0 "page" "" some).1 rfl
      [.begin (.fetch {}), .begin (.fetch { offset := 2 }), .arrive 1, .arrive 0]
    obtain ⟨r, ⟨reply, hasked, hr⟩, -, hstate⟩ := hlast.settled rfl rfl
    cases hasked
    refine ⟨q, hstate.trans (by rw [hr]; rfl), ?_, hparams⟩
    apply Bool.eq_false_iff.mpr
    intro h
    obtain ⟨f, hf, hwaits⟩ := hfetching.mp h
    cases hf
    cases hwaits
  · obtain ⟨q, hlast⟩ := (last_fetch_wins reordered 1 "one" "a" some).2 rfl
      [.begin (), .begin (), .arrive 1, .arrive 0]
    obtain ⟨r, ⟨reply, hasked, hr⟩, -, hstate⟩ := hlast.settled rfl rfl
    cases hasked
    exact ⟨q, hstate.trans (by rw [hr]; rfl)⟩

end RecordScreens
