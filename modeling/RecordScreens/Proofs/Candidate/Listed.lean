import RecordScreens.Proofs.Candidate.Stored
import RecordScreens.Proofs.Listing.Pages
import RecordScreens.Proofs.Query.Freshness
import RecordScreens.Proofs.Query.Numbered

/-!
# Lists of candidates

List queries over a store of candidates whose records are all read. Each answer is a page of candidates, so no query
comes to know an error, whatever is fetched and whichever statuses are set.
-/

namespace RecordScreens

theorem exists_map_some {α β : Type} {f : α → Option β} {l : List α} (h : ∀ a ∈ l, ∃ b, f a = some b) :
    ∃ bs : List β, l.map f = bs.map some := by
  induction l with
  | nil => exact ⟨[], rfl⟩
  | cons a rest ih =>
    obtain ⟨⟨b, hb⟩, hrest⟩ := List.forall_mem_cons.mp h
    obtain ⟨bs, hbs⟩ := ih hrest
    exact ⟨b :: bs, by simp [hb, hbs]⟩

namespace Candidate

/-! ## Pages -/

/-- The records that a page is to show, in order. -/
def asked (p : ListParams) (s : Store) : List Json :=
  Source.stretch p.offset p.limit (Source.found searchFields p (s.records "candidates"))

/-- The page of these candidates, in their full form. -/
def pageOf (p : ListParams) (s : Store) (candidates : List Candidate) : Page Json where
  items := candidates.map encode
  total := (Source.found searchFields p (s.records "candidates")).length
  offset := p.offset

/-- Every page of a readable store is read whole. -/
theorem Readable.answer {s : Store} (h : Readable s) {p : ListParams} (hwords : p.InWords) :
    ∃ candidates : List Candidate, (asked p s).map decode = candidates.map some ∧
      (Store.call listQuery p.toQuery s).1.bind (Page.ofAnswer listQuery (Record.fullForm? Candidate) p.offset) =
        .ok (pageOf p s candidates) := by
  obtain ⟨candidates, hcandidates⟩ : ∃ candidates : List Candidate, (asked p s).map decode = candidates.map some :=
    exists_map_some fun r hr => (h.stored r (Source.mem_of_mem_page hr)).read
  have hforms : (asked p s).mapM (Record.fullForm? Candidate) = some (candidates.map encode) := by
    refine mapM_eq_some.mpr ?_
    have hform : Record.fullForm? Candidate = fun v => (decode v).map encode := rfl
    have hmap := congrArg (List.map (Option.map encode)) hcandidates
    simpa [Function.comp_def, hform] using hmap
  refine ⟨candidates, hcandidates, ?_⟩
  rw [Store.call_list h.route (ListParams.decode_toQuery hwords)]
  exact Source.ofAnswer_page listQuery hforms

/-- Without filters and limits, all records are asked for. -/
@[simp] theorem asked_all (s : Store) : asked {} s = s.records "candidates" := by
  simp [asked, Source.found, Source.stretch, Source.matchesAll]

/-- What is written of candidates that were read is read again. -/
theorem filterMap_encode {values : List Json} {candidates : List Candidate}
    (h : values.map decode = candidates.map some) : (candidates.map encode).filterMap decode = candidates := by
  have hread : ∀ c ∈ candidates, (decode ∘ encode) c = some c := by
    intro c hc
    obtain ⟨v, -, hv⟩ := List.mem_map.mp (h ▸ List.mem_map_of_mem hc)
    exact decode_encode (inRange_of_decode hv)
  rw [List.filterMap_map, List.filterMap_congr hread, List.filterMap_some]

/-! ## Queries -/

/-- A query for pages of candidates that knows of no error. -/
structure Lists (q : ListQuery) : Prop where
  key_eq : q.key = listQuery
  form_eq : q.fullForm? = Record.fullForm? Candidate
  inWords : q.refetchParams.InWords
  known : q.state = .pending ∨ ∃ page, q.state = .data page

theorem lists_ofRecords : Lists (.ofRecords Candidate listQuery) where
  key_eq := rfl
  form_eq := rfl
  inWords := ListParams.inWords_default
  known := .inl rfl

theorem Lists.begin {q : ListQuery} (h : Lists q) {p : ListParams} (hwords : p.InWords) : Lists (q.begin p) :=
  ⟨h.key_eq, h.form_eq, hwords, h.known⟩

/-- An answer that is read as a page is not taken in as an error. -/
theorem Lists.settle {q : ListQuery} (h : Lists q) (n : Nat) (page : Page Json) : Lists (q.settle n (.ok page)).2 := by
  unfold ListQuery.settle
  split
  · exact ⟨h.key_eq, h.form_eq, h.inWords, .inr ⟨page, rfl⟩⟩
  · exact h

/-- A binder over a readable store with queries for pages of candidates, none of which knows of an error. -/
structure Listing (b : Binder Store) : Prop where
  readable : Readable b.source
  queries : ∀ i live, b.slot? i = some live → ∃ q, live = .list q ∧ Lists q

variable {b b' : Binder Store} {i : Nat} {q : ListQuery} {p : ListParams} {key : String} {params : Json}

namespace Listing

theorem lists (h : Listing b) (hq : b.list? i = some q) : Lists q := by
  obtain ⟨q', hq', hlists⟩ := h.queries i _ (Binder.slot?_of_list? hq)
  cases hq'
  exact hlists

theorem congr (h : Listing b) (hsource : b'.source = b.source) (hslot : ∀ i, b'.slot? i = b.slot? i) : Listing b' :=
  ⟨hsource ▸ h.readable, fun i live hlive => h.queries i live ((hslot i).symm.trans hlive)⟩

theorem put (h : Listing b) (hq : Lists q) (i : Nat) : Listing (b.put i (.list q)) := by
  refine ⟨h.readable, fun j live hlive => ?_⟩
  by_cases hj : i = j
  · subst hj
    obtain ⟨r, hr, rfl⟩ := Option.map_eq_some_iff.mp hlive
    rw [Binder.put, List.getElem?_modify_eq] at hr
    obtain ⟨old, -, rfl⟩ := Option.map_eq_some_iff.mp hr
    exact ⟨q, rfl, hq⟩
  · exact h.queries j live ((Binder.slot?_put_of_ne hj b _).symm.trans hlive)

theorem register (h : Listing b) : Listing (b.register (.list (.ofRecords Candidate listQuery))).2 := by
  refine ⟨h.readable, fun i live hlive => ?_⟩
  obtain ⟨r, hr, rfl⟩ := Option.map_eq_some_iff.mp hlive
  rcases getElem?_concat_cases hr with hr | ⟨-, rfl⟩
  · exact h.queries i _ (Option.map_eq_some_iff.mpr ⟨r, hr, rfl⟩)
  · exact ⟨_, rfl, lists_ofRecords⟩

theorem ask (h : Listing b) (params : Json) : Listing (b.ask listQuery params).2 :=
  ⟨h.readable.of_same (.call h.readable.onlyReads params), h.queries⟩

theorem settleList (h : Listing b) (i n : Nat) {answer : Except QueryError Json} {page : Page Json}
    (hanswer : answer.bind (Page.ofAnswer listQuery (Record.fullForm? Candidate) p.offset) = .ok page) :
    Listing (Binder.settleList i n p answer b).2 := by
  unfold Binder.settleList
  split
  · exact h
  · rename_i q hq
    have hlists := h.lists hq
    have hread : q.read p answer = .ok page := by
      unfold ListQuery.read
      rw [hlists.key_eq, hlists.form_eq, hanswer]
    rw [hread]
    exact h.put (hlists.settle n page) i

end Listing

/-! ## Routines -/

open Routine

/-- The store answers at once, and from the state in which it is asked. -/
theorem preserves_query {α : Type} {k : Except QueryError Json → Routine (Binder Store) α}
    (hk : ∀ b : Binder Store, Listing b → (k (Store.call listQuery params b.source).1).Preserves Listing) :
    ((Binder.query listQuery params).bind k).Preserves Listing :=
  fun b hb => ⟨hb.ask params, fun _ hb' => ⟨hb', hk b hb⟩⟩

theorem preserves_fetchList (i : Nat) (hwords : p.InWords) : (Binder.fetchList i p).Preserves Listing := by
  unfold Binder.fetchList
  refine steps_act (fun _ hb => hb) fun b hb => ?_
  cases hq : b.list? i with
  | none => exact steps_done _
  | some q =>
    have hlists := hb.lists hq
    apply (steps_modify fun _ hb' => hb'.put (hlists.begin hwords) i).bind
    intro _
    rw [hlists.key_eq]
    refine preserves_query fun b' hb' => steps_step fun b'' hb'' => ?_
    obtain ⟨_, -, hanswer⟩ := hb'.readable.answer hwords
    exact hb''.settleList i _ hanswer

theorem preserves_refetchList (i : Nat) : (Binder.refetchList i).Preserves Listing := by
  unfold Binder.refetchList
  refine steps_act (fun _ hb => hb) fun b hb => preserves_fetchList i ?_
  cases hq : b.list? i with
  | none => exact ListParams.inWords_default
  | some q => exact (hb.lists hq).inWords

theorem preserves_invalidate (keys : List String) : (Binder.invalidate keys).Preserves Listing := by
  have hheld (change : Nat → Binder Store → Binder Store) (hsource : ∀ i b, (change i b).source = b.source)
      (hslot : ∀ i b j, (change i b).slot? j = b.slot? j) (found : List (Nat × LiveQuery × String)) (b : Binder Store)
      (hb : Listing b) : Listing (found.foldl (fun b e => change e.1 b) b) := by
    refine hb.congr ?_ fun j => ?_
    · exact Binder.view_foldl Binder.source (fun b e => hsource e.1 b) found b
    · exact Binder.view_foldl (Binder.slot? · j) (fun b e => hslot e.1 b j) found b
  unfold Binder.invalidate
  refine steps_act (fun b hb => ?_) fun b hb => ?_
  · exact hheld .retain (fun _ _ => rfl) (fun i b => Binder.slot?_retain b i) _ b hb
  refine (steps_all fun r hr => ?_).bind fun _ => ?_
  · obtain ⟨⟨i, q, key⟩, hfound, rfl⟩ := List.mem_map.mp hr
    obtain ⟨entry, hentry, -, -, -, rfl⟩ := Binder.mem_dependents.mp hfound
    obtain ⟨q, hq, -⟩ := hb.queries i _ (Option.map_eq_some_iff.mpr ⟨entry, hentry, rfl⟩)
    simp only [hq]
    exact (preserves_refetchList i).bind fun _ => steps_done _
  · refine (steps_modify fun b hb => ?_).bind fun _ => steps_done _
    exact hheld .release (fun _ _ => rfl) (fun i b => Binder.slot?_release b i) _ b hb

/-- Whether it succeeds or fails, a mutation with a text as status leaves all candidates readable, and no query comes to
know an error. -/
theorem preserves_mutate (hparams : TextStatus params) (invalidates : List String) :
    (Binder.mutate key params invalidates).Preserves Listing := by
  intro b hb
  refine ⟨⟨hb.readable.call key hparams, hb.queries⟩, fun _ hb' => ⟨hb', ?_⟩⟩
  show (Binder.concluded invalidates (Store.call key params b.source).1).Preserves Listing
  cases (Store.call key params b.source).1 with
  | error e => exact steps_done _
  | ok v =>
    simp only [Binder.concluded]
    split
    · exact (preserves_invalidate invalidates).bind fun _ => steps_done _
    · exact steps_done _

/-! ## Settled queries -/

/-- A fetch of a page settles with the candidates that are asked for. -/
theorem Listing.run_fetchList (h : Listing b) (hq : b.list? i = some q) (hwords : p.InWords) :
    ∃ (q' : ListQuery) (candidates : List Candidate), ((Binder.fetchList i p).run b).1 = .applied ∧
      ((Binder.fetchList i p).run b).2.list? i = some q' ∧ (asked p b.source).map decode = candidates.map some ∧
      q'.state = .data (pageOf p b.source candidates) := by
  have hlists := h.lists hq
  have hslot := Binder.slot?_of_list? hq
  obtain ⟨candidates, hcandidates, hanswer⟩ := h.readable.answer hwords
  have hread : q.read p (Store.call q.key p.toQuery b.source).1 = .ok (pageOf p b.source candidates) := by
    unfold ListQuery.read
    rw [hlists.key_eq, hlists.form_eq, hanswer]
  rw [Binder.run_fetchList hslot p, hread]
  exact ⟨_, candidates, rfl, Binder.list?_of_slot? (Binder.slot?_ask_put hslot _ _ _), hcandidates, rfl⟩

/-- Every query of the binder only reads. -/
theorem Listing.refreshable (h : Listing b) :
    ∀ r ∈ b.queries, r.live = true → Binder.Refreshable b.source r.query := by
  intro r hr _
  obtain ⟨i, hi⟩ := List.getElem?_of_mem hr
  obtain ⟨q, hq, hlists⟩ := h.queries i _ (Option.map_eq_some_iff.mpr ⟨r, hi, rfl⟩)
  rw [hq]
  refine ⟨trivial, fun k hk => ?_⟩
  obtain rfl : k = q.key := List.mem_singleton.mp hk
  exact hlists.key_eq ▸ h.readable.onlyReads

/-- After a mutation that succeeds, every query that someone holds knows a page, if the mutation invalidates them. -/
theorem Listing.run_mutate (h : Listing b) (hparams : TextStatus params) {invalidates : List String} {v : Json}
    (hkey : listQuery ∈ invalidates) (hok : ((Binder.mutate key params invalidates).run b).1 = .ok v)
    {r : Registered} (hr : b.queries[i]? = some r) (hlive : r.live = true) :
    ∃ q page, ((Binder.mutate key params invalidates).run b).2.list? i = some q ∧ q.state = .data page := by
  have hafter : Listing ((Binder.mutate key params invalidates).run b).2 := (preserves_mutate hparams invalidates).run h
  let told := (Store.call key params b.source).2
  let keys := Binder.keysOf i (b.dependents invalidates)
  have hrenewed := (Binder.renewed_mutate hok h.refreshable).getElem? hr
  obtain ⟨q, hq, hlists⟩ := h.queries i _ (Option.map_eq_some_iff.mpr ⟨r, hr, rfl⟩)
  have hkeys (k : String) : k ∈ keys ↔ k = listQuery ∧ k ∈ invalidates := by
    simp [keys, Binder.mem_keysOf, Binder.mem_dependents, hr, hlive, hq, LiveQuery.queryKeys, hlists.key_eq]
  -- What someone holds was fetched again, so it knows an answer; and no answer is an error.
  have hrefreshed : LiveQuery.Refreshed told keys (.list q) (keys.foldl (fun q k => q.refetched told k) (.list q)) := by
    refine LiveQuery.refreshed_foldl trivial fun k hk => ?_
    rw [((hkeys k).mp hk).1]
    exact List.mem_singleton.mpr hlists.key_eq.symm
  rw [hq] at hrenewed
  generalize keys.foldl (fun (q : LiveQuery) k => q.refetched told k) (.list q) = live at hrefreshed hrenewed
  cases hrefreshed with
  | @list _ q' hsame hform hparams hstate =>
    have hq' : ((Binder.mutate key params invalidates).run b).2.list? i = some q' := by rw [Binder.list?, hrenewed]
    rw [hlists.key_eq, if_pos ((hkeys listQuery).mpr ⟨rfl, hkey⟩)] at hstate
    rcases (hafter.lists hq').known with hpending | ⟨page, hpage⟩
    · exact absurd (hstate.symm.trans hpending) (QueryState.ofResult_ne_pending _)
    · exact ⟨q', page, hq', hpage⟩

/-! ## Histories -/

/-- What is done to the lists of candidates. -/
inductive Deed where
  /-- A query is made. -/
  | make
  /-- A query is dropped. -/
  | drop (i : Nat)
  | fetch (i : Nat) (p : ListParams)
  | refetch (i : Nat)
  /-- A status is to be set, whether that succeeds or fails. -/
  | setStatus (params : Json) (invalidates : List String)

namespace Deed

/-- Pages are given by machine words, and statuses are texts. -/
def Allowed : Deed → Prop
  | fetch _ p => p.InWords
  | setStatus params _ => TextStatus params
  | make | drop _ | refetch _ => True

def routine : Deed → Routine (Binder Store) Unit
  | make => (Routine.step (Binder.register (.list (.ofRecords Candidate listQuery)))).bind fun _ => .done ()
  | drop i => .modify (Binder.release i)
  | fetch i p => (Binder.fetchList i p).bind fun _ => .done ()
  | refetch i => (Binder.refetchList i).bind fun _ => .done ()
  | setStatus params invalidates => (Binder.mutate statusMutation params invalidates).bind fun _ => .done ()

theorem prompt_routine (d : Deed) : d.routine.Prompt := by
  cases d with
  | make => exact (prompt_step _).bind fun _ => prompt_done _
  | drop i => exact prompt_modify _
  | fetch i p => exact (Binder.prompt_fetchList i p).bind fun _ => prompt_done _
  | refetch i => exact (prompt_act fun _ => Binder.prompt_fetchList i _).bind fun _ => prompt_done _
  | setStatus params invalidates => exact (Binder.prompt_mutate _ _ _).bind fun _ => prompt_done _

theorem preserves_routine {d : Deed} (h : d.Allowed) : d.routine.Preserves Listing := by
  cases d with
  | make => exact (steps_step fun _ hb => hb.register).bind fun _ => steps_done _
  | drop i => exact steps_modify fun b hb => hb.congr rfl (Binder.slot?_release b i)
  | fetch i p => exact (preserves_fetchList i h).bind fun _ => steps_done _
  | refetch i => exact (preserves_refetchList i).bind fun _ => steps_done _
  | setStatus params invalidates => exact (preserves_mutate h invalidates).bind fun _ => steps_done _

end Deed

/-- The binder after deeds, one after the other. -/
def after (deeds : List Deed) (b : Binder Store) : Binder Store := deeds.foldl (fun b d => (d.routine.run b).2) b

/-- Deeds that are begun at once are done one after the other. -/
theorem run_all_deeds (deeds : List Deed) (b : Binder Store) :
    ((Routine.all (deeds.map Deed.routine)).run b).2 = after deeds b := by
  have hprompt : ∀ r ∈ deeds.map Deed.routine, r.Prompt := by
    intro r hr
    obtain ⟨d, -, rfl⟩ := List.mem_map.mp hr
    exact d.prompt_routine
  exact (Routine.run_all hprompt b).trans List.foldl_map

theorem Listing.after (h : Listing b) {deeds : List Deed} (hdeeds : ∀ d ∈ deeds, d.Allowed) :
    Listing (after deeds b) := by
  induction deeds generalizing b with
  | nil => exact h
  | cons d rest ih =>
    obtain ⟨hd, hrest⟩ := List.forall_mem_cons.mp hdeeds
    exact ih ((Deed.preserves_routine hd).run h) hrest

theorem listing_store {values : List Json} (h : ∀ v ∈ values, Stored v) (timeout : Nat) :
    Listing { source := store values, timeout } :=
  ⟨readable_store h, nofun⟩

end Candidate

end RecordScreens
