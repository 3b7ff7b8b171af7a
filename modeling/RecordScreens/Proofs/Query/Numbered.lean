import RecordScreens.Proofs.Query.Overlap

/-!
# Numbered fetches

Queries that number their fetches and keep the answer to the last one only. What holds
of all of them, however their fetches overlap, follows from what one burst does: it
begins a fetch under the next number, or it takes in the answer to one.
-/

namespace RecordScreens

/-- A kind of query that numbers its fetches. What it keeps of an answer is up to the kind. -/
class NumberedQuery (Q : Type) (β K : outParam Type) where
  toLive : Q → LiveQuery
  ofLive? : LiveQuery → Option Q
  ofLive?_eq_some : ∀ {live : LiveQuery} {q : Q}, ofLive? live = some q ↔ live = toLive q
  /-- The number of the last fetch. -/
  issued : Q → Nat
  /-- What the query knows. -/
  known : Q → K
  /-- What is known from the answer to the fetch with a number. -/
  keep : Nat → Except QueryError β → K
  /-- The state that is shown. -/
  shown : K → QueryState β
  shown_keep : ∀ (n : Nat) (r : Except QueryError β), shown (keep n r) = .ofResult r
  /-- Takes in the answer to the fetch with a number. -/
  settle : Nat → Except QueryError β → Q → FetchOutcome × Q
  settle_newest : ∀ {n : Nat} {q : Q} (r : Except QueryError β), issued q = n →
    (settle n r q).1 = .ofResult r ∧ known (settle n r q).2 = keep n r ∧ issued (settle n r q).2 = n
  settle_older : ∀ {n : Nat} {q : Q} (r : Except QueryError β), issued q ≠ n → settle n r q = (.stale, q)

open NumberedQuery

/-- The state that a query shows. -/
def NumberedQuery.shownState {Q β K : Type} [NumberedQuery Q β K] (q : Q) : QueryState β := shown Q (known q)

theorem NumberedQuery.shownState_of_keep {Q β K : Type} [NumberedQuery Q β K] {q : Q} {n : Nat}
    {r : Except QueryError β} (h : known q = keep Q n r) : shownState q = .ofResult r := by
  unfold shownState
  rw [h, shown_keep]

theorem QueryState.ofResult_ne_pending {β : Type} (r : Except QueryError β) : QueryState.ofResult r ≠ .pending := by
  cases r with
  | ok a => nofun
  | error e => nofun

namespace Overlap

variable {S C L Q β K : Type} {i : Nat}

/-- What may happen while a query in place `i` is fetched. -/
inductive Move (S C : Type) (i : Nat) where
  /-- A fetch is begun. -/
  | begin (call : C)
  /-- The answer to the fetch that was begun as number `k`, counted from zero, arrives. -/
  | arrive (k : Nat)
  | elsewhere (e : Binder.Elsewhere (Logged S) i)

/-- How the queries of a kind are fetched: the routine of a call, and what it asks for after the fetch before. -/
structure Fetching (S C L : Type) where
  routine : C → Routine (Binder (Logged S)) FetchOutcome
  label : Option L → C → L

def move (F : Fetching S C L) (o : Overlap S L FetchOutcome) : Move S C i → Overlap S L FetchOutcome
  | .begin call => o.begin (F.label (o.newest?.map (·.label)) call) (F.routine call)
  | .arrive k => o.arrive k
  | .elsewhere e => o.elsewhere e

def run (F : Fetching S C L) (moves : List (Move S C i)) (o : Overlap S L FetchOutcome) :
    Overlap S L FetchOutcome := moves.foldl (move F) o

/-! ## Bursts -/

section

variable [NumberedQuery Q β K]

/-- The query in place `i`, as one of its kind. -/
def query? (Q : Type) [NumberedQuery Q β K] (i : Nat) (b : Binder (Logged S)) : Option Q :=
  (b.slot? i).bind ofLive?

theorem query?_eq_some {b : Binder (Logged S)} {q : Q} :
    query? Q i b = some q ↔ b.slot? i = some (toLive q) := by
  unfold query?
  constructor
  · intro h
    obtain ⟨live, hlive, hq⟩ := Option.bind_eq_some_iff.mp h
    rw [hlive, ofLive?_eq_some.mp hq]
  · intro h
    rw [h]
    exact ofLive?_eq_some.mpr rfl

/-- What is left of a fetch takes in its answer, and does nothing else. -/
def Settles (Fits : Option L → Q → Prop) (i n : Nat) (r : Except QueryError β)
    (rest : Routine (Binder (Logged S)) FetchOutcome) : Prop :=
  ∀ {b : Binder (Logged S)} {q : Q} {last : Option L}, query? Q i b = some q → Fits last q →
    (rest.wake b).1 = .done (settle n r q).1 ∧ query? Q i (rest.wake b).2 = some (settle n r q).2 ∧
    (rest.wake b).2.timeout = b.timeout ∧ (issued q ≠ n → (rest.wake b).2 = b)

/-- What the burst that begins a fetch leaves: the begun query `q`, or what the answer made of it. -/
structure Begins (Fits : Option L → Q → Prop) (i : Nat) (q : Q) (r : Except QueryError β)
    (left : Routine (Binder (Logged S)) FetchOutcome × Binder (Logged S)) : Prop where
  waiting : left.1.waits = true → query? Q i left.2 = some q ∧ Settles Fits i (issued q) r left.1
  ended : left.1.waits = false →
    left.1 = .done (.ofResult r) ∧ query? Q i left.2 = some (settle (issued q) r q).2

/-- A step that takes an answer in as the query in place `i` does. -/
def TakesIn (Fits : Option L → Q → Prop) (i n : Nat) (r : Except QueryError β)
    (take : Binder (Logged S) → FetchOutcome × Binder (Logged S)) : Prop :=
  ∀ {b : Binder (Logged S)} {q : Q} {last : Option L}, query? Q i b = some q → Fits last q →
    take b = ((settle n r q).1, b.put i (toLive (settle n r q).2))

variable {Fits : Option L → Q → Prop} {n : Nat} {r : Except QueryError β}
  {take : Binder (Logged S) → FetchOutcome × Binder (Logged S)}

theorem query?_put {b : Binder (Logged S)} {old : Q} (q : Q) (h : query? Q i b = some old) :
    query? Q i (b.put i (toLive q)) = some q :=
  query?_eq_some.mpr (Binder.slot?_put_self _ (query?_eq_some.mp h))

theorem TakesIn.settles (h : TakesIn Fits i n r take) (millis : Nat) :
    Settles Fits i n r (.sleep millis (.step take)) := by
  -- Only a step that is the last one changes the binder, so an older answer leaves all of it as it is.
  intro b q last hq hfits
  rw [Routine.wake_sleep, Routine.advance_step, h hq hfits]
  refine ⟨rfl, query?_put _ hq, rfl, fun hne => ?_⟩
  rw [settle_older r hne]
  exact Binder.put_self (query?_eq_some.mp hq)

/-- The burst that begins a fetch: the begun query is put down, the request is sent, and the reply is taken in
at once or awaited. -/
def requested [DataSource S] (i : Nat) (q : Q) (key : String) (params : Json)
    (take : Except QueryError Json → Binder (Logged S) → FetchOutcome × Binder (Logged S))
    (b : Binder (Logged S)) : Routine (Binder (Logged S)) FetchOutcome × Binder (Logged S) :=
  match (Binder.ask key params (b.put i (toLive q))).1.wait? b.timeout with
  | none =>
    (Routine.step (take ((Binder.ask key params (b.put i (toLive q))).1.answer key b.timeout))).advance
      (Binder.ask key params (b.put i (toLive q))).2
  | some millis =>
    (.sleep millis (.step (take ((Binder.ask key params (b.put i (toLive q))).1.answer key b.timeout))),
      (Binder.ask key params (b.put i (toLive q))).2)

/-- What such a burst does, if its answer comes to `r`. -/
theorem begins_requested [DataSource S] {b : Binder (Logged S)} {old q : Q} {last : Option L} {key : String}
    {params : Json} {take : Except QueryError Json → Binder (Logged S) → FetchOutcome × Binder (Logged S)}
    (hold : query? Q i b = some old) (hfits : Fits last q)
    (htake : TakesIn Fits i (issued q) r
      (take ((Binder.ask key params (b.put i (toLive q))).1.answer key b.timeout))) :
    Begins Fits i q r (requested i q key params take b) ∧
    (requested i q key params take b).2.source.taken.drop b.source.taken.length =
      [⟨⟨.query, key, params⟩, (Binder.ask key params (b.put i (toLive q))).1⟩] ∧
    (requested i q key params take b).2.timeout = b.timeout := by
  have hhere : query? Q i (Binder.ask key params (b.put i (toLive q))).2 = some q := query?_put q hold
  have hasked : (Binder.ask key params (b.put i (toLive q))).2.source.taken.drop b.source.taken.length =
      [⟨⟨.query, key, params⟩, (Binder.ask key params (b.put i (toLive q))).1⟩] := by
    rw [Binder.taken_ask, Binder.source_put, List.drop_left]
  -- The reply is there in the same burst, or the fetch waits for it.
  unfold requested
  cases (Binder.ask key params (b.put i (toLive q))).1.wait? b.timeout with
  | none =>
    have hdone := htake hhere hfits
    refine ⟨⟨fun hopen => (by cases hopen), fun _ => ?_⟩, ?_, ?_⟩
    · rw [Routine.advance_step, hdone, (settle_newest r rfl).1]
      exact ⟨rfl, query?_put _ hhere⟩
    · rw [Routine.advance_step, hdone]
      exact hasked
    · rw [Routine.advance_step, hdone]
      rfl
  | some millis =>
    exact ⟨⟨fun _ => ⟨hhere, htake.settles millis⟩, fun hended => (by cases hended)⟩, hasked, rfl⟩

end

/-- What a kind of query keeps to when it is fetched. -/
structure Laws (Q : Type) [NumberedQuery Q β K] (F : Fetching S C L) (i timeout : Nat) where
  /-- What a query is, and that its last fetch asked for what is given. -/
  Fits : Option L → Q → Prop
  /-- What the answer to the given calls comes to. -/
  Response : L → List TakenCall → Except QueryError β → Prop
  fits_settle : ∀ {last q} (n : Nat) (r : Except QueryError β), Fits last q → Fits last (settle n r q).2
  begins : ∀ {last : Option L} {b : Binder (Logged S)} {q : Q} (call : C),
    query? Q i b = some q → b.timeout = timeout → Fits last q →
    ∃ q' r, Fits (some (F.label last call)) q' ∧ issued q' = issued q + 1 ∧ known q' = known q ∧
      Response (F.label last call)
        (((F.routine call).advance b).2.source.taken.drop b.source.taken.length) r ∧
      Begins Fits i q' r ((F.routine call).advance b) ∧ ((F.routine call).advance b).2.timeout = timeout

/-! ## The invariant -/

section

variable [NumberedQuery Q β K] {F : Fetching S C L} {timeout : Nat}

/-- Where a query stands among its fetches, if it knew `first` before them. -/
structure Follows (W : Laws Q F i timeout) (first : K) (o : Overlap S L FetchOutcome) (q : Q) : Prop where
  here : query? Q i o.binder = some q
  timeout_eq : o.binder.timeout = timeout
  fits : W.Fits (o.newest?.map (·.label)) q
  issued_eq : issued q = o.begun.length
  fetch : ∀ {k f}, o.begun[k]? = some f → ∃ r, W.Response f.label f.asked r ∧
    (f.rest.waits = true → Settles W.Fits i (k + 1) r f.rest) ∧
    (f.rest.waits = false → ∃ outcome, f.rest = .done outcome)
  /-- Once the newest fetch has ended, its answer is what is known. -/
  settled : ∀ {f}, o.newest? = some f → f.rest.waits = false →
    ∃ r, W.Response f.label f.asked r ∧ f.rest = .done (.ofResult r) ∧ known q = keep Q o.begun.length r
  /-- Until then it is what was known before, from an older fetch or from none. -/
  unsettled : (∀ f, o.newest? = some f → f.rest.waits = true) →
    known q = first ∨ ∃ n r, n < o.begun.length ∧ known q = keep Q n r

variable {W : Laws Q F i timeout} {first : K} {o : Overlap S L FetchOutcome} {q : Q}

theorem follows_initial {b : Binder (Logged S)} (hq : query? Q i b = some q) (htimeout : b.timeout = timeout)
    (hfits : W.Fits none q) (hissued : issued q = 0) : Follows W (known q) { binder := b } q where
  here := hq
  timeout_eq := htimeout
  fits := hfits
  issued_eq := hissued
  fetch h := by simp at h
  settled h := by simp [newest?] at h
  unsettled _ := .inl rfl

/-- Whatever is known comes from some fetch, or from before all of them. -/
theorem Follows.known_cases (h : Follows W first o q) :
    known q = first ∨ ∃ n r, n < o.begun.length + 1 ∧ known q = keep Q n r := by
  -- As long as the newest fetch waits, what is known is older than it.
  have holder (hopen : ∀ f, o.newest? = some f → f.rest.waits = true) :
      known q = first ∨ ∃ n r, n < o.begun.length + 1 ∧ known q = keep Q n r := by
    rcases h.unsettled hopen with hfirst | ⟨n, r, hn, hknown⟩
    · exact .inl hfirst
    · exact .inr ⟨n, r, by omega, hknown⟩
  cases hnewest : o.newest? with
  | none => exact holder fun f hf => by rw [hnewest] at hf; cases hf
  | some f =>
    cases hwaits : f.rest.waits with
    | true => exact holder fun g hg => by rw [hnewest] at hg; cases hg; exact hwaits
    | false =>
      obtain ⟨r, -, -, hknown⟩ := h.settled hnewest hwaits
      exact .inr ⟨_, r, by omega, hknown⟩

theorem Follows.elsewhere (h : Follows W first o q) (e : Binder.Elsewhere (Logged S) i) :
    Follows W first (o.elsewhere e) q where
  here := query?_eq_some.mpr ((e.slot?_eq o.binder).trans (query?_eq_some.mp h.here))
  timeout_eq := (e.timeout_eq o.binder).trans h.timeout_eq
  fits := h.fits
  issued_eq := h.issued_eq
  fetch := h.fetch
  settled := h.settled
  unsettled := h.unsettled

theorem Follows.begin (h : Follows W first o q) (call : C) :
    ∃ q', Follows W first (o.move F (.begin call : Move S C i)) q' ∧
      (known q' = known q ∨ ∃ n r, known q' = keep Q n r) := by
  obtain ⟨q', r, hfits, hissued, hknown, hresponse, hbegins, htimeout⟩ :=
    W.begins call h.here h.timeout_eq h.fits
  have hlength : issued q' = o.begun.length + 1 := by rw [hissued, h.issued_eq]
  have hfetch : ∀ {k f}, (o.move F (.begin call : Move S C i)).begun[k]? = some f →
      ∃ r, W.Response f.label f.asked r ∧ (f.rest.waits = true → Settles W.Fits i (k + 1) r f.rest) ∧
        (f.rest.waits = false → ∃ outcome, f.rest = .done outcome) := by
    intro k f hf
    rcases getElem?_begin_cases hf with hf | ⟨rfl, rfl⟩
    · exact h.fetch hf
    · refine ⟨r, hresponse, ?_, ?_⟩
      · intro hopen
        exact hlength ▸ (hbegins.waiting hopen).2
      · intro hended
        exact ⟨_, (hbegins.ended hended).1⟩
  -- The new fetch is the newest one, and whether it waits decides what the query is now.
  cases hwaits : ((F.routine call).advance o.binder).1.waits with
  | true =>
    obtain ⟨hhere, -⟩ := hbegins.waiting hwaits
    refine ⟨q', ⟨hhere, htimeout, ?_, ?_, hfetch, ?_, ?_⟩, .inl hknown⟩
    · rw [move, newest?_begin]
      exact hfits
    · rw [hlength, move, length_begin]
    · intro f hf hended
      rw [move, newest?_begin] at hf
      cases hf
      simp [started, hwaits] at hended
    · intro _
      rw [hknown, move, length_begin]
      exact h.known_cases
  | false =>
    obtain ⟨hdone, hhere⟩ := hbegins.ended hwaits
    obtain ⟨-, hkeep, hissued'⟩ := settle_newest (q := q') r rfl
    refine ⟨(settle (issued q') r q').2, ⟨hhere, htimeout, ?_, ?_, hfetch, ?_, ?_⟩, .inr ⟨_, r, hkeep⟩⟩
    · rw [move, newest?_begin]
      exact W.fits_settle _ r hfits
    · rw [hissued', hlength, move, length_begin]
    · intro f hf _
      rw [move, newest?_begin] at hf
      cases hf
      refine ⟨r, hresponse, hdone, ?_⟩
      rw [hkeep, hlength, move, length_begin]
    · intro hopen
      have hopen' := hopen _ (newest?_begin ..)
      simp [started, hwaits] at hopen'

section

variable {k : Nat} {f : Begun S L FetchOutcome} {r : Except QueryError β}

/-- The answer to a fetch leaves every other fetch as it was, and ends this one. -/
theorem Follows.fetch_arrive (h : Follows W first o q) (hf : o.begun[k]? = some f) (hwaits : f.rest.waits = true)
    {j : Nat} {g : Begun S L FetchOutcome} (hg : (o.arrive k).begun[j]? = some g) :
    ∃ r, W.Response g.label g.asked r ∧ (g.rest.waits = true → Settles W.Fits i (j + 1) r g.rest) ∧
      (g.rest.waits = false → ∃ outcome, g.rest = .done outcome) := by
  by_cases hkj : k = j
  · subst hkj
    obtain ⟨r, hresponse, hopen, -⟩ := h.fetch hf
    obtain ⟨hleft, -⟩ := hopen hwaits h.here h.fits
    rw [getElem?_arrive_self hf, hleft] at hg
    cases hg
    refine ⟨r, hresponse, ?_, ?_⟩
    · intro hopen
      simp at hopen
    · intro _
      exact ⟨_, rfl⟩
  · rw [getElem?_arrive_of_ne hkj] at hg
    exact h.fetch hg

/-- The answer to the newest fetch is what is known then. -/
theorem Follows.answered_newest (h : Follows W first o q) (hf : o.begun[k]? = some f) (hwaits : f.rest.waits = true)
    (hresponse : W.Response f.label f.asked r) (hsettles : Settles W.Fits i (k + 1) r f.rest)
    (hnewest : k + 1 = o.begun.length) :
    (o.arrive k).begun[k]? = some { f with rest := .done (.ofResult r) } ∧
      ∃ q', Follows W first (o.arrive k) q' ∧ known q' = keep Q (k + 1) r := by
  obtain ⟨hleft, hhere, htimeout, -⟩ := hsettles h.here h.fits
  obtain ⟨houtcome, hkeep, hissued⟩ := settle_newest r (h.issued_eq.trans hnewest.symm)
  have hbinder : (o.arrive k).binder = (f.rest.wake o.binder).2 := by rw [arrive_of_getElem? hf]
  have hlast : o.newest? = some f := by rw [newest?_eq, ← hnewest, Nat.add_sub_cancel, hf]
  have hself := getElem?_arrive_self hf
  rw [hleft, houtcome] at hself
  refine ⟨hself, (settle (k + 1) r q).2, ⟨?_, ?_, ?_, ?_, h.fetch_arrive hf hwaits, ?_, ?_⟩, hkeep⟩
  · rw [hbinder]
    exact hhere
  · rw [hbinder, htimeout, h.timeout_eq]
  · rw [newest?_arrive_self hf hnewest]
    have hfits := h.fits
    rw [hlast] at hfits
    exact W.fits_settle _ r hfits
  · rw [hissued, length_arrive, hnewest]
  · intro g hg _
    rw [newest?_arrive_self hf hnewest, hleft, houtcome] at hg
    cases hg
    exact ⟨r, hresponse, rfl, by rw [length_arrive, ← hnewest, hkeep]⟩
  · intro hopen
    have hopen' := hopen _ (newest?_arrive_self hf hnewest)
    simp [hleft] at hopen'

/-- The answer to an older fetch changes nothing. -/
theorem Follows.answered_older (h : Follows W first o q) (hf : o.begun[k]? = some f) (hwaits : f.rest.waits = true)
    (hsettles : Settles W.Fits i (k + 1) r f.rest) (holder : k + 1 ≠ o.begun.length) :
    (o.arrive k).begun[k]? = some { f with rest := .done .stale } ∧ (o.arrive k).binder = o.binder ∧
      Follows W first (o.arrive k) q := by
  obtain ⟨hleft, -, -, hsame⟩ := hsettles h.here h.fits
  have hne : issued q ≠ k + 1 := by
    rw [h.issued_eq]
    exact Ne.symm holder
  have hbinder : (o.arrive k).binder = o.binder := by
    rw [arrive_of_getElem? hf]
    exact hsame hne
  have hk : k < o.begun.length := (List.getElem?_eq_some_iff.mp hf).1
  have hlt : k + 1 < o.begun.length := by omega
  have hself := getElem?_arrive_self hf
  rw [hleft, settle_older r hne] at hself
  refine ⟨hself, hbinder, ⟨?_, ?_, ?_, ?_, h.fetch_arrive hf hwaits, ?_, ?_⟩⟩
  · rw [hbinder]
    exact h.here
  · rw [hbinder, h.timeout_eq]
  · rw [newest?_arrive_of_lt hlt]
    exact h.fits
  · rw [length_arrive, h.issued_eq]
  · rw [newest?_arrive_of_lt hlt, length_arrive]
    exact h.settled
  · rw [newest?_arrive_of_lt hlt, length_arrive]
    exact h.unsettled

/-- The answer to a fetch arrives: it is kept if the fetch is the newest one, and else nothing happens. -/
theorem Follows.answered (h : Follows W first o q) (hf : o.begun[k]? = some f) (hwaits : f.rest.waits = true) :
    ∃ r, W.Response f.label f.asked r ∧
      (k + 1 = o.begun.length →
        (o.arrive k).begun[k]? = some { f with rest := .done (.ofResult r) } ∧
        ∃ q', Follows W first (o.arrive k) q' ∧ known q' = keep Q (k + 1) r) ∧
      (k + 1 ≠ o.begun.length →
        (o.arrive k).begun[k]? = some { f with rest := .done .stale } ∧ (o.arrive k).binder = o.binder ∧
        Follows W first (o.arrive k) q) := by
  obtain ⟨r, hresponse, hopen, -⟩ := h.fetch hf
  have hsettles : Settles W.Fits i (k + 1) r f.rest := hopen hwaits
  exact ⟨r, hresponse, h.answered_newest hf hwaits hresponse hsettles, h.answered_older hf hwaits hsettles⟩

end

theorem Follows.arrive (h : Follows W first o q) (k : Nat) :
    ∃ q', Follows W first (o.arrive k) q' ∧ (known q' = known q ∨ ∃ n r, known q' = keep Q n r) := by
  cases hf : o.begun[k]? with
  | none =>
    have hsame : o.arrive k = o := by unfold Overlap.arrive; rw [hf]
    rw [hsame]
    exact ⟨q, h, .inl rfl⟩
  | some f =>
    cases hwaits : f.rest.waits with
    | false =>
      rw [arrive_of_not_waits hf hwaits]
      exact ⟨q, h, .inl rfl⟩
    | true =>
      obtain ⟨r, -, hnewest, holder⟩ := h.answered hf hwaits
      by_cases hk : k + 1 = o.begun.length
      · obtain ⟨-, q', hq', hkeep⟩ := hnewest hk
        exact ⟨q', hq', .inr ⟨_, r, hkeep⟩⟩
      · exact ⟨q, (holder hk).2.2, .inl rfl⟩

theorem Follows.move (h : Follows W first o q) (m : Move S C i) :
    ∃ q', Follows W first (o.move F m) q' ∧ (known q' = known q ∨ ∃ n r, known q' = keep Q n r) := by
  cases m with
  | begin call => exact h.begin call
  | arrive k => exact h.arrive k
  | elsewhere e => exact ⟨q, h.elsewhere e, .inl rfl⟩

/-- The law of a whole run: the query follows its fetches, and it forgets nothing but for another answer. -/
theorem Follows.run (h : Follows W first o q) (moves : List (Move S C i)) :
    ∃ q', Follows W first (o.run F moves) q' ∧ (known q' = known q ∨ ∃ n r, known q' = keep Q n r) := by
  induction moves generalizing o q with
  | nil => exact ⟨q, h, .inl rfl⟩
  | cons m rest ih =>
    obtain ⟨q₁, h₁, hknown₁⟩ := h.move m
    obtain ⟨q₂, h₂, hknown₂⟩ := ih h₁
    refine ⟨q₂, h₂, ?_⟩
    -- The last answer that was kept, in the rest of the run or else in its first move, is what is known.
    rcases hknown₂ with heq | hkept
    · rw [heq]
      exact hknown₁
    · exact .inr hkept

/-! ## The law of the last fetch -/

/-- Where fetches have brought a query, if `Response` says what the answer to a request comes to. -/
structure LastWins (F : Fetching S C L) (Response : L → List TakenCall → Except QueryError β → Prop)
    (i : Nat) (o : Overlap S L FetchOutcome) (q : Q) : Prop where
  here : query? Q i o.binder = some q
  asks : ∀ f ∈ o.begun, ∃ r, Response f.label f.asked r
  /-- An answer is kept if its fetch is the newest one, and else it changes nothing. -/
  arrives : ∀ {k f}, o.begun[k]? = some f → f.rest.waits = true → ∃ r, Response f.label f.asked r ∧
    (k + 1 = o.begun.length →
      (o.arrive k).begun[k]? = some { f with rest := .done (.ofResult r) } ∧
      ∃ q' : Q, query? Q i (o.arrive k).binder = some q' ∧ shownState q' = .ofResult r) ∧
    (k + 1 ≠ o.begun.length →
      (o.arrive k).begun[k]? = some { f with rest := .done .stale } ∧ (o.arrive k).binder = o.binder)
  /-- Once the newest fetch has ended, its answer is what is shown. -/
  settled : ∀ {f}, o.newest? = some f → f.rest.waits = false →
    ∃ r, Response f.label f.asked r ∧ f.rest = .done (.ofResult r) ∧ shownState q = .ofResult r
  /-- Whatever happens next, what was settled once is not pending again. -/
  stays : ∀ more : List (Move S C i), ∃ q' : Q, query? Q i (o.run F more).binder = some q' ∧
    (shownState q ≠ .pending → shownState q' ≠ .pending)

theorem Follows.lastWins (h : Follows W first o q) : LastWins F W.Response i o q where
  here := h.here
  asks f hf := by
    obtain ⟨k, hk⟩ := List.getElem?_of_mem hf
    obtain ⟨r, hresponse, -⟩ := h.fetch hk
    exact ⟨r, hresponse⟩
  arrives hf hwaits := by
    obtain ⟨r, hresponse, hnewest, holder⟩ := h.answered hf hwaits
    refine ⟨r, hresponse, ?_, ?_⟩
    · intro hk
      obtain ⟨hleft, q', hq', hknown⟩ := hnewest hk
      exact ⟨hleft, q', hq'.here, shownState_of_keep hknown⟩
    · intro hk
      obtain ⟨hleft, hbinder, -⟩ := holder hk
      exact ⟨hleft, hbinder⟩
  settled hf hended := by
    obtain ⟨r, hresponse, hdone, hknown⟩ := h.settled hf hended
    exact ⟨r, hresponse, hdone, shownState_of_keep hknown⟩
  stays more := by
    obtain ⟨q', hq', hknown⟩ := h.run more
    refine ⟨q', hq'.here, ?_⟩
    intro hsettled
    rcases hknown with hsame | ⟨n, r, hkept⟩
    · unfold shownState at hsettled ⊢
      rw [hsame]
      exact hsettled
    · rw [shownState_of_keep hkept]
      exact QueryState.ofResult_ne_pending r

end

end Overlap

end RecordScreens
