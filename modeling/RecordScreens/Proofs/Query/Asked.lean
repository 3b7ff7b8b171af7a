import RecordScreens.Proofs.Query.Mutation
import RecordScreens.Proofs.Query.Overlap

/-!
# What routines ask for

The calls that a source takes while a routine runs, beside whatever else is asked of it.
A query makes one, and its answer is what comes of the reply within the timeout.
-/

namespace RecordScreens

/-- The calls that the source of a binder took in a step. -/
def TimedStep.asked {S : Type} (step : TimedStep (Binder (Logged S))) : List TakenCall :=
  step.after.source.taken.drop step.before.source.taken.length

namespace Binder

variable {S α : Type} {P : List TakenCall → Binder (Logged S) → Prop} {t : Terms (Binder (Logged S))} {time : Nat}
  {b : Binder (Logged S)}

/-- Of a routine that has ended, only what it asked for and what it left of the binder matters. -/
def Asked (P : List TakenCall → Binder (Logged S) → Prop) : Routine.Post (Binder (Logged S)) α :=
  fun _ steps b => P (steps.flatMap (·.asked)) b

theorem asked_of_source {b b' : Binder (Logged S)} (h : b'.source = b.source) :
    TimedStep.asked ⟨time, b, b'⟩ = [] := by
  simp [TimedStep.asked, h]

/-- A step that leaves the source alone asks for nothing. -/
theorem asked_act {change : Binder (Logged S) → Binder (Logged S)}
    {next : Binder (Logged S) → Routine (Binder (Logged S)) α} (hchange : t.guarantee b (change b))
    (hsource : (change b).source = b.source) (hnext : (next b).Ensures t (Asked P) time (change b)) :
    (Routine.act change next).Ensures t (Asked P) time b := by
  refine ⟨hchange, hnext.weaken fun a steps _ h => ?_⟩
  unfold Asked
  rwa [List.flatMap_cons, asked_of_source hsource]

theorem asked_bind {β : Type} {Q : List TakenCall → Binder (Logged S) → Prop} {r : Routine (Binder (Logged S)) α}
    {k : α → Routine (Binder (Logged S)) β} (h : r.Ensures t (Asked P) time b)
    (hk : ∀ a taken time b', P taken b' → (k a).Ensures t (Asked fun more => Q (taken ++ more)) time b') :
    (r.bind k).Ensures t (Asked Q) time b := by
  refine Routine.Ensures.bind (h.weaken fun a steps b' hsteps time => ?_)
  refine (hk a _ time b' hsteps).weaken fun c more b'' hmore => ?_
  unfold Asked at hmore ⊢
  rwa [List.flatMap_append]

theorem source_updateAggregate (b : Binder S) (i : Nat) (f : AggregateQuery → AggregateQuery) :
    (b.updateAggregate i f).source = b.source := by
  unfold updateAggregate
  split <;> rfl

theorem source_settleList (i fetch : Nat) (p : ListParams) (answer : Except QueryError Json) (b : Binder S) :
    (settleList i fetch p answer b).2.source = b.source := by
  unfold settleList
  split <;> rfl

theorem source_settleSingle (i fetch : Nat) (answer : Except QueryError Json) (b : Binder S) :
    (settleSingle i fetch answer b).2.source = b.source := by
  unfold settleSingle
  split <;> rfl

/-! ## Queries -/

section

variable [DataSource S] {key : String} {params : Json} {k : Except QueryError Json → Routine (Binder (Logged S)) α}

theorem asked_ask :
    TimedStep.asked ⟨time, b, (ask key params b).2⟩ = [⟨⟨.query, key, params⟩, (ask key params b).1⟩] := by
  unfold TimedStep.asked
  rw [taken_ask, List.drop_left]

/-- A query asks, looks how long it may wait, and goes on when its answer is there. -/
theorem ensures_query {post : Routine.Post (Binder (Logged S)) α} (hask : t.guarantee b (ask key params b).2)
    (hlook : t.guarantee (ask key params b).2 (ask key params b).2)
    (hk : ∀ b', t.rely (ask key params b).2 b' →
      (k ((ask key params b).1.answer key b.timeout)).Ensures t
        (fun a steps => post a
          (⟨time, b, (ask key params b).2⟩ :: ⟨time, (ask key params b).2, (ask key params b).2⟩ :: steps))
        (time + ((ask key params b).1.wait? b.timeout).getD 0) b') :
    ((query key params).bind k).Ensures t post time b := by
  let asked := (ask key params b).2
  let reply := (ask key params b).1
  have hawait : ((reply.await key asked.timeout).bind k).Ensures t
      (fun a steps => post a (⟨time, b, asked⟩ :: ⟨time, asked, asked⟩ :: steps)) time asked := by
    rw [Reply.await_eq]
    cases hwait : reply.wait? asked.timeout with
    | none =>
      have hnow := hk asked (t.rely_refl asked)
      rwa [show (ask key params b).1.wait? b.timeout = none from hwait] at hnow
    | some millis =>
      intro b' hb'
      have hlater := hk b' hb'
      rwa [show (ask key params b).1.wait? b.timeout = some millis from hwait] at hlater
  exact ⟨hask, hlook, hawait⟩

theorem asked_query (hask : t.guarantee b (ask key params b).2)
    (hlook : t.guarantee (ask key params b).2 (ask key params b).2)
    (hk : ∀ time b', t.rely (ask key params b).2 b' →
      (k ((ask key params b).1.answer key b.timeout)).Ensures t
        (Asked fun taken => P (⟨⟨.query, key, params⟩, (ask key params b).1⟩ :: taken)) time b') :
    ((query key params).bind k).Ensures t (Asked P) time b := by
  refine ensures_query hask hlook fun b' hb' => (hk _ b' hb').weaken fun a steps _ h => ?_
  unfold Asked at h ⊢
  rwa [List.flatMap_cons, List.flatMap_cons, asked_ask, asked_of_source rfl]

/-! ## Invalidations -/

/-- What is found is held while it is fetched again, which asks for nothing and changes no query. -/
theorem asked_invalidate {keys : List String}
    (hheld : ∀ b b' : Binder (Logged S), b'.slot? = b.slot? → b'.timeout = b.timeout → t.guarantee b b')
    (hP : ∀ taken b b', b'.slot? = b.slot? → b'.timeout = b.timeout → P taken b → P taken b')
    (h : ∀ b', b'.slot? = b.slot? → b'.timeout = b.timeout →
      (Routine.all ((b.dependents keys).map fun found => refresh found.1 found.2.1 found.2.2)).Ensures t (Asked P)
        time b') :
    (invalidate keys).Ensures t (Asked P) time b := by
  let found := b.dependents keys
  let all (change : Nat → Binder (Logged S) → Binder (Logged S)) (b : Binder (Logged S)) : Binder (Logged S) :=
    found.foldl (fun b found => change found.1 b) b
  have hslot {change : Nat → Binder (Logged S) → Binder (Logged S)} (b : Binder (Logged S))
      (hchange : ∀ b i j, (change i b).slot? j = b.slot? j) : (all change b).slot? = b.slot? :=
    view_foldl slot? (fun b e => funext fun j => hchange b e.1 j) found b
  have htimeout {change : Nat → Binder (Logged S) → Binder (Logged S)} (b : Binder (Logged S))
      (hchange : ∀ b i, (change i b).timeout = b.timeout) : (all change b).timeout = b.timeout :=
    view_foldl timeout (fun b e => hchange b e.1) found b
  have hsource {change : Nat → Binder (Logged S) → Binder (Logged S)} (b : Binder (Logged S))
      (hchange : ∀ b i, (change i b).source = b.source) : (all change b).source = b.source :=
    view_foldl source (fun b e => hchange b e.1) found b
  have hretained : (all retain b).slot? = b.slot? := hslot b slot?_retain
  have hretained' : (all retain b).timeout = b.timeout := htimeout b fun _ _ => rfl
  refine asked_act (hheld _ _ hretained hretained') (hsource b fun _ _ => rfl) ?_
  refine asked_bind (h _ hretained hretained') fun _ taken time b' htaken => ?_
  have hreleased : (all release b').slot? = b'.slot? := hslot b' slot?_release
  have hreleased' : (all release b').timeout = b'.timeout := htimeout b' fun _ _ => rfl
  refine asked_act (hheld _ _ hreleased hreleased') (hsource b' fun _ _ => rfl) ?_
  show P (taken ++ []) (all release b')
  rw [List.append_nil]
  exact hP taken b' _ hreleased hreleased' htaken

end

end Binder

end RecordScreens
