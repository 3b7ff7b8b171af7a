import Mathlib.Data.Set.Function
import RecordScreens.Routine

/-!
# Routines beside others

Whenever a routine waits, others may change the state. What it ensures then rests on
terms: what others may do while it waits, and what its own steps do in return. Routines
on terms that fit together can run at once, and each ends as it would beside anyone.
-/

namespace RecordScreens

/-- A step of a routine: when it was taken, and the states before and after it. -/
structure TimedStep (σ : Type) where
  time : Nat
  before : σ
  after : σ

/-- What a step did to a part of the state. -/
def TimedStep.map {σ τ : Type} (get : σ → τ) (step : TimedStep σ) : TimedStep τ :=
  ⟨step.time, get step.before, get step.after⟩

/-- How a routine went: its result, its own steps in order, and the state in the end. -/
structure Ran (σ α : Type) where
  result : α
  steps : List (TimedStep σ)
  state : σ

/-- What others may do while a routine waits, and what the routine does in each of its own steps. -/
structure Terms (σ : Type) where
  rely : σ → σ → Prop
  guarantee : σ → σ → Prop
  rely_refl : ∀ s, rely s s
  rely_trans : ∀ {s s' s''}, rely s s' → rely s' s'' → rely s s''

namespace Terms

variable {σ ε : Type}

/-- Each may take its steps while the other one waits. -/
def Fit (t₁ t₂ : Terms σ) : Prop :=
  (∀ s s', t₁.guarantee s s' → t₂.rely s s') ∧ ∀ s s', t₂.guarantee s s' → t₁.rely s s'

/-- The terms of all of several routines. -/
def each (es : List ε) (t : ε → Terms σ) : Terms σ where
  rely s s' := ∀ e ∈ es, (t e).rely s s'
  guarantee s s' := ∃ e ∈ es, (t e).guarantee s s'
  rely_refl s e _ := (t e).rely_refl s
  rely_trans h h' e he := (t e).rely_trans (h e he) (h' e he)

/-- The terms of two routines. -/
def both (t₁ t₂ : Terms σ) : Terms σ where
  rely s s' := t₁.rely s s' ∧ t₂.rely s s'
  guarantee s s' := t₁.guarantee s s' ∨ t₂.guarantee s s'
  rely_refl s := ⟨t₁.rely_refl s, t₂.rely_refl s⟩
  rely_trans h h' := ⟨t₁.rely_trans h.1 h'.1, t₂.rely_trans h.2 h'.2⟩

/-- The terms of a routine on a part of the state. -/
def through {τ : Type} (get : τ → σ) (t : Terms σ) : Terms τ where
  rely s s' := t.rely (get s) (get s')
  guarantee s s' := t.guarantee (get s) (get s')
  rely_refl s := t.rely_refl (get s)
  rely_trans := t.rely_trans

theorem each_cons (e : ε) (es : List ε) (t : ε → Terms σ) : each (e :: es) t = (t e).both (each es t) := by
  simp only [each, both, List.mem_cons, forall_eq_or_imp, exists_eq_or_imp]

theorem both_comm (t₁ t₂ : Terms σ) : t₁.both t₂ = t₂.both t₁ := by
  simp only [both, and_comm, or_comm]

theorem Fit.symm {t₁ t₂ : Terms σ} (h : t₁.Fit t₂) : t₂.Fit t₁ := ⟨h.2, h.1⟩

/-- The first of several routines fits the others if it fits each of them. -/
theorem fit_each {t₁ : Terms σ} {es : List ε} {t : ε → Terms σ} (h : ∀ e ∈ es, t₁.Fit (t e)) : t₁.Fit (each es t) := by
  refine ⟨fun s s' hs e he => (h e he).1 s s' hs, ?_⟩
  rintro s s' ⟨e, he, hs⟩
  exact (h e he).2 s s' hs

/-! ## Parts of the state -/

variable {ι V : Type} {part : σ → ι → V} {own own' : Set ι}

/-- Nobody else changes these parts of the state, and the routine changes no others. -/
def owning (part : σ → ι → V) (own : Set ι) : Terms σ where
  rely s s' := Set.EqOn (part s) (part s') own
  guarantee s s' := Set.EqOn (part s) (part s') ownᶜ
  rely_refl _ := Set.eqOn_refl ..
  rely_trans h h' := h.trans h'

/-- Routines that own no part in common fit together. -/
theorem fit_owning (h : own ⊆ own'ᶜ) : (owning part own).Fit (owning part own') := by
  have h' : own' ⊆ ownᶜ := fun p hp' hp => h hp hp'
  exact ⟨fun s s' hs => hs.mono h', fun s s' hs => hs.mono h⟩

end Terms

namespace Routine

variable {σ τ α β ε γ : Type}

/-! ## Runs -/

/-- The run of a routine that is begun at `time`, where `others n` is what others do to the state while the routine
waits, counting its waits from zero. -/
def beside : Routine σ α → (others : Nat → σ → σ) → (time : Nat) → σ → Ran σ α
  | done a, _, _, s => { result := a, steps := [], state := s }
  | act change next, others, time, s =>
    let ran := (next s).beside others time (change s)
    { ran with steps := ⟨time, s, change s⟩ :: ran.steps }
  | sleep millis next, others, time, s => next.beside (fun n => others (n + 1)) (time + millis) (others 0 s)

/-- Beside others that do nothing, a routine runs as it does on its own. -/
theorem run_eq_beside (r : Routine σ α) (time : Nat) (s : σ) :
    r.run s = ((r.beside (fun _ => id) time s).result, (r.beside (fun _ => id) time s).state) := by
  induction r generalizing time s with
  | done a => rfl
  | act change next ih => exact ih s time (change s)
  | sleep millis next ih => exact ih (time + millis) s

theorem beside_map (r : Routine σ α) (f : α → β) (others : Nat → σ → σ) (time : Nat) (s : σ) :
    (r.bind fun a => done (f a)).beside others time s =
      { result := f (r.beside others time s).result, steps := (r.beside others time s).steps,
        state := (r.beside others time s).state } := by
  induction r generalizing others time s with
  | done a => rfl
  | act change next ih => simp only [bind, beside, ih]
  | sleep millis next ih => exact ih _ _ _

/-- What follows a routine runs after it, beside what others have left to do. -/
theorem beside_bind (r : Routine σ α) (k : α → Routine σ β) (others : Nat → σ → σ) (time : Nat) (s : σ) :
    ∃ waits time', let first := r.beside others time s
      let rest := (k first.result).beside (fun n => others (n + waits)) time' first.state
      (r.bind k).beside others time s = { rest with steps := first.steps ++ rest.steps } := by
  induction r generalizing others time s with
  | done a => exact ⟨0, time, rfl⟩
  | act change next ih =>
    obtain ⟨waits, time', hnext⟩ := ih s others time (change s)
    refine ⟨waits, time', ?_⟩
    simp only [bind, beside, hnext, List.cons_append]
  | sleep millis next ih =>
    obtain ⟨waits, time', hnext⟩ := ih (fun n => others (n + 1)) (time + millis) (others 0 s)
    exact ⟨waits + 1, time', hnext⟩

/-! ## Results -/

/-- Whatever others do, the routine ends with a result that has `p`. -/
def Ends (p : α → Prop) : Routine σ α → Prop
  | done a => p a
  | act _ next => ∀ s, (next s).Ends p
  | sleep _ next => next.Ends p

theorem Ends.bind {p : α → Prop} {q : β → Prop} {r : Routine σ α} {k : α → Routine σ β} (h : r.Ends p)
    (hk : ∀ a, p a → (k a).Ends q) : (r.bind k).Ends q := by
  induction r with
  | done a => exact hk a h
  | act change next ih => exact fun s => ih s (h s)
  | sleep millis next ih => exact ih h

theorem ends_true (r : Routine σ α) : r.Ends fun _ => True := by
  induction r with
  | done a => trivial
  | act change next ih => exact ih
  | sleep millis next ih => exact ih

theorem Ends.result {p : α → Prop} {r : Routine σ α} (h : r.Ends p) (others : Nat → σ → σ) (time : Nat) (s : σ) :
    p (r.beside others time s).result := by
  induction r generalizing others time s with
  | done a => exact h
  | act change next ih => exact ih s (h s) others time (change s)
  | sleep millis next ih => exact ih h _ _ _

theorem Ends.zoom {p : α → Prop} {r : Routine τ α} {get : σ → τ} {set : τ → σ → σ} (h : r.Ends p) :
    (zoom get set r).Ends p := by
  induction r with
  | done a => exact h
  | act change next ih => exact fun s => ih (get s) (h (get s))
  | sleep millis next ih => exact ih h

/-! ## What a routine ensures -/

/-- What holds when a routine has ended: of its result, of the steps that it took, and of the state. -/
abbrev Post (σ α : Type) := α → List (TimedStep σ) → σ → Prop

/-- The routine, begun at `time` in the state `s`, keeps to its terms and ends with `post`, as long as others keep to
them as well. -/
def Ensures (t : Terms σ) : (post : Post σ α) → Routine σ α → (time : Nat) → σ → Prop
  | post, done a, _, s => post a [] s
  | post, act change next, time, s =>
    t.guarantee s (change s) ∧
      Ensures t (fun a steps => post a (⟨time, s, change s⟩ :: steps)) (next s) time (change s)
  | post, sleep millis next, time, s => ∀ s', t.rely s s' → Ensures t post next (time + millis) s'

/-- What others may do has no bearing on `post`. -/
def Post.Stable (t : Terms σ) (post : Post σ α) : Prop :=
  ∀ a steps s s', t.rely s s' → post a steps s → post a steps s'

variable {t t' t₁ t₂ : Terms σ} {post post' post₁ : Post σ α} {post₂ : Post σ β} {time : Nat} {s : σ}

/-- What a routine ensures holds of its runs. -/
theorem Ensures.beside {r : Routine σ α} (h : r.Ensures t post time s) {others : Nat → σ → σ}
    (hothers : ∀ n s, t.rely s (others n s)) :
    (∀ step ∈ (r.beside others time s).steps, t.guarantee step.before step.after) ∧
      post (r.beside others time s).result (r.beside others time s).steps (r.beside others time s).state := by
  induction r generalizing post others time s with
  | done a => exact ⟨nofun, h⟩
  | act change next ih =>
    obtain ⟨hsteps, hpost⟩ := ih s h.2 hothers
    exact ⟨List.forall_mem_cons.mpr ⟨h.1, hsteps⟩, hpost⟩
  | sleep millis next ih => exact ih (h _ (hothers 0 s)) fun n => hothers (n + 1)

theorem Ensures.mono {r : Routine σ α} (h : r.Ensures t post time s) (hrely : ∀ s s', t'.rely s s' → t.rely s s')
    (hguarantee : ∀ s s', t.guarantee s s' → t'.guarantee s s')
    (hpost : ∀ a steps s, post a steps s → post' a steps s) : r.Ensures t' post' time s := by
  induction r generalizing post post' time s with
  | done a => exact hpost a [] s h
  | act change next ih => exact ⟨hguarantee s _ h.1, ih s h.2 fun a steps s => hpost a _ s⟩
  | sleep millis next ih => exact fun s' hs' => ih (h s' (hrely s s' hs')) hpost

theorem Ensures.weaken {r : Routine σ α} (h : r.Ensures t post time s)
    (hpost : ∀ a steps s, post a steps s → post' a steps s) : r.Ensures t post' time s :=
  h.mono (fun _ _ => id) (fun _ _ => id) hpost

theorem Ensures.bind {post : Post σ β} {r : Routine σ α} {k : α → Routine σ β}
    (h : r.Ensures t (fun a steps s => ∀ time, (k a).Ensures t (fun b more => post b (steps ++ more)) time s) time s) :
    (r.bind k).Ensures t post time s := by
  induction r generalizing post time s with
  | done a => exact h time
  | act change next ih => exact ⟨h.1, ih s h.2⟩
  | sleep millis next ih => exact fun s' hs' => ih (h s' hs')

theorem Ensures.map {post : Post σ β} {r : Routine σ α} {f : α → β}
    (h : r.Ensures t (fun a => post (f a)) time s) : (r.bind fun a => done (f a)).Ensures t post time s := by
  refine Ensures.bind (h.weaken fun a steps s h time => ?_)
  show post (f a) (steps ++ []) s
  rwa [List.append_nil]

/-- What holds on the terms of another one holds in the end as well. -/
theorem Ensures.frame {r : Routine σ α} {J : σ → Prop} (h : r.Ensures t₁ post time s) (hfit : t₁.Fit t₂)
    (hJ : ∀ s s', t₂.rely s s' → J s → J s') (hs : J s) :
    r.Ensures (t₁.both t₂) (fun a steps s => post a steps s ∧ J s) time s := by
  induction r generalizing post time s with
  | done a => exact ⟨h, hs⟩
  | act change next ih => exact ⟨.inl h.1, ih s h.2 (hJ _ _ (hfit.1 _ _ h.1) hs)⟩
  | sleep millis next ih => exact fun s' hs' => ih (h s' hs'.1) (hJ _ _ hs'.2 hs)

/-- What a routine ensures of a part of the state, it ensures when it works on the whole. -/
theorem Ensures.zoom {t : Terms τ} {post : Post τ α} {r : Routine τ α} {get : σ → τ} {set : τ → σ → σ}
    (hset : ∀ x s, get (set x s) = x) (h : r.Ensures t post time (get s)) :
    (zoom get set r).Ensures (t.through get) (fun a steps s => post a (steps.map (·.map get)) (get s)) time s := by
  induction r generalizing post time s with
  | done a => exact h
  | act change next ih =>
    have hnext := h.2
    rw [← hset (change (get s)) s] at hnext
    refine ⟨?_, ih (get s) hnext⟩
    show t.guarantee (get s) (get (set (change (get s)) s))
    rw [hset]
    exact h.1
  | sleep millis next ih => exact fun s' hs' => ih (h (get s') hs')

/-! ## Routines at once -/

/-- Two routines ended, each with its own postcondition, and the steps are those of both. -/
def Post.both (post₁ : Post σ α) (post₂ : Post σ β) : Post σ (α × β) := fun found steps s =>
  ∃ steps₁ steps₂, steps.Perm (steps₁ ++ steps₂) ∧ post₁ found.1 steps₁ s ∧ post₂ found.2 steps₂ s

theorem Post.both_cons_left {found : α × β} {step : TimedStep σ} {steps : List (TimedStep σ)}
    (h : Post.both (fun a steps => post₁ a (step :: steps)) post₂ found steps s) :
    Post.both post₁ post₂ found (step :: steps) s := by
  obtain ⟨steps₁, steps₂, hperm, h₁, h₂⟩ := h
  exact ⟨step :: steps₁, steps₂, hperm.cons step, h₁, h₂⟩

theorem Post.both_cons_right {found : α × β} {step : TimedStep σ} {steps : List (TimedStep σ)}
    (h : Post.both post₁ (fun b steps => post₂ b (step :: steps)) found steps s) :
    Post.both post₁ post₂ found (step :: steps) s := by
  obtain ⟨steps₁, steps₂, hperm, h₁, h₂⟩ := h
  exact ⟨steps₁, step :: steps₂, (hperm.cons step).trans List.perm_middle.symm, h₁, h₂⟩

/-- The left routine wakes up when the right one has ended. -/
theorem ensures_left {left : Routine σ α} {b : β} (hfit : t₁.Fit t₂) (hstable₂ : post₂.Stable t₂)
    (hleft : left.Ensures t₁ post₁ time s) (hright : post₂ b [] s) :
    (left.bind fun a => done (a, b)).Ensures (t₁.both t₂) (Post.both post₁ post₂) time s := by
  refine Ensures.map ((hleft.frame hfit (hstable₂ b []) hright).weaken fun a steps s h => ?_)
  exact ⟨steps, [], by simp, h.1, h.2⟩

theorem ensures_right {right : Routine σ β} {a : α} (hfit : t₁.Fit t₂) (hstable₁ : post₁.Stable t₁)
    (hleft : post₁ a [] s) (hright : right.Ensures t₂ post₂ time s) :
    (right.bind fun b => done (a, b)).Ensures (t₁.both t₂) (Post.both post₁ post₂) time s := by
  rw [Terms.both_comm]
  refine Ensures.map ((hright.frame hfit.symm (hstable₁ a []) hleft).weaken fun b steps s h => ?_)
  exact ⟨[], steps, by simp, h.2, h.1⟩

theorem Ensures.whileAsleep {left : Routine σ α} {wake : Routine σ β → Routine σ (α × β)} {right : Routine σ β}
    {millis : Nat} (hfit : t₁.Fit t₂) (hstable₂ : post₂.Stable t₂)
    (hwake : ∀ {post₂ : Post σ β} {right : Routine σ β} {time : Nat} {s : σ}, post₂.Stable t₂ →
      left.Ensures t₁ post₁ time s → (∀ s', t₂.rely s s' → right.Ensures t₂ post₂ time s') →
        (wake right).Ensures (t₁.both t₂) (Post.both post₁ post₂) time s)
    (hleft : ∀ s', t₁.rely s s' → left.Ensures t₁ post₁ (time + millis) s')
    (hright : right.Ensures t₂ post₂ time s) :
    (left.whileAsleep wake millis right).Ensures (t₁.both t₂) (Post.both post₁ post₂) time s := by
  induction right generalizing post₂ millis time s with
  | done b =>
    unfold Routine.whileAsleep
    exact fun s' hs' => ensures_left hfit hstable₂ (hleft s' hs'.1) (hstable₂ b [] s s' hs'.2 hright)
  | act change next ih =>
    unfold Routine.whileAsleep
    refine ⟨.inr hright.1, ?_⟩
    -- The left routine is still asleep, and a step of the right one is among those it reckons with.
    refine (ih s (fun b steps => hstable₂ b _) (fun s' hs' => ?_) hright.2).weaken fun _ _ _ => Post.both_cons_right
    exact hleft s' (t₁.rely_trans (hfit.2 _ _ hright.1) hs')
  | sleep other next ih =>
    unfold Routine.whileAsleep
    -- The one that wakes first goes on, and the other one sleeps for the rest of its time.
    split
    · rename_i hle
      intro s' hs'
      refine hwake hstable₂ (hleft s' hs'.1) fun s₁ hs₁ s₂ hs₂ => ?_
      have hnext := hright s₂ (t₂.rely_trans hs'.2 (t₂.rely_trans hs₁ hs₂))
      rwa [Nat.add_assoc, Nat.add_sub_cancel' hle]
    · rename_i hle
      intro s' hs'
      refine ih hstable₂ (fun s'' hs'' => ?_) (hright s' hs'.2)
      have hlater := hleft s'' (t₁.rely_trans hs'.1 hs'')
      rwa [Nat.add_assoc, Nat.add_sub_cancel' (Nat.le_of_not_le hle)]

/-- Two routines at once on terms that fit together. -/
theorem Ensures.par {left : Routine σ α} {right : Routine σ β} (hfit : t₁.Fit t₂) (hstable₁ : post₁.Stable t₁)
    (hstable₂ : post₂.Stable t₂) (hleft : left.Ensures t₁ post₁ time s)
    (hright : ∀ s', t₂.rely s s' → right.Ensures t₂ post₂ time s') :
    (left.par right).Ensures (t₁.both t₂) (Post.both post₁ post₂) time s := by
  induction left generalizing post₁ post₂ right time s with
  | done a =>
    unfold Routine.par
    exact ensures_right hfit hstable₁ hleft (hright s (t₂.rely_refl s))
  | act change next ih =>
    unfold Routine.par
    refine ⟨.inl hleft.1, ?_⟩
    refine (ih s (fun a steps => hstable₁ a _) hstable₂ hleft.2 fun s' hs' => ?_).weaken
      fun _ _ _ => Post.both_cons_left
    exact hright s' (t₂.rely_trans (hfit.1 _ _ hleft.1) hs')
  | sleep millis next ih =>
    unfold Routine.par
    exact Ensures.whileAsleep hfit hstable₂ (ih hstable₁) hleft (hright s (t₂.rely_refl s))

theorem Ensures.owning {ι V : Type} {part : σ → ι → V} {own : Set ι} {es : List ε} {owns : ε → Set ι} {r : Routine σ α}
    (h : r.Ensures (.each es fun e => .owning part (owns e)) post time s) (hown : ∀ e ∈ es, owns e ⊆ own) :
    r.Ensures (.owning part own) post time s := by
  refine h.mono (fun s s' hs e he => hs.mono (hown e he)) ?_ fun _ _ _ => id
  rintro s s' ⟨e, he, hs⟩
  exact hs.mono (Set.compl_subset_compl.mpr (hown e he))

/-! ## Lists of routines -/

/-- Routines for several things ended, each with its own postcondition, and the steps are those of all of them. -/
inductive Post.Each (post : ε → Post σ α) (s : σ) : List ε → List α → List (TimedStep σ) → Prop where
  | nil : Each post s [] [] []
  | cons {e : ε} {a : α} {own rest steps : List (TimedStep σ)} {es : List ε} {as : List α} (first : post e a own s)
      (others : Each post s es as rest) (perm : steps.Perm (own ++ rest)) : Each post s (e :: es) (a :: as) steps

def Post.all (post : ε → Post σ α) (es : List ε) : Post σ (List α) := fun as steps s => Each post s es as steps

section

variable {es : List ε} {r : ε → Routine σ α} {terms : ε → Terms σ} {posts : ε → Post σ α}

theorem Post.Each.stable {as : List α} {steps : List (TimedStep σ)} {s' : σ} (h : Post.Each posts s es as steps)
    (hstable : ∀ e, (posts e).Stable (terms e)) (hs : (Terms.each es terms).rely s s') :
    Post.Each posts s' es as steps := by
  induction h with
  | nil => exact .nil
  | cons first _ perm ih =>
    obtain ⟨hfirst, hrest⟩ := List.forall_mem_cons.mp hs
    exact .cons (hstable _ _ _ _ _ hfirst first) (ih hrest) perm

/-- What the steps show of all is what those of each one show, put together. -/
theorem Post.Each.flatMap_perm {as : List α} {steps : List (TimedStep σ)} (h : Post.Each posts s es as steps)
    {shown : TimedStep σ → List γ} {of : ε → List γ}
    (hshown : ∀ e a own, posts e a own s → (own.flatMap shown).Perm (of e)) :
    (steps.flatMap shown).Perm (es.flatMap of) := by
  induction h with
  | nil => exact List.Perm.refl _
  | cons first _ perm ih =>
    refine (perm.flatMap_right shown).trans ?_
    rw [List.flatMap_append]
    exact (hshown _ _ _ first).append ih

/-- Routines at once on terms that fit together. -/
theorem ensures_all (hfit : es.Pairwise fun e e' => (terms e).Fit (terms e'))
    (hstable : ∀ e, (posts e).Stable (terms e))
    (h : ∀ e ∈ es, ∀ s', (terms e).rely s s' → (r e).Ensures (terms e) (posts e) time s') :
    (all (es.map r)).Ensures (.each es terms) (Post.all posts es) time s := by
  induction es generalizing s with
  | nil => exact .nil
  | cons e rest ih =>
    obtain ⟨hfirst, hfits⟩ := List.pairwise_cons.mp hfit
    obtain ⟨he, hrest⟩ := List.forall_mem_cons.mp h
    have hpar := Ensures.par (Terms.fit_each hfirst) (hstable e) (fun _ _ _ _ hs heach => heach.stable hstable hs)
      (he s ((terms e).rely_refl s)) fun s' hs' => ih hfits fun e' he' s'' hs'' =>
        hrest e' he' s'' ((terms e').rely_trans (hs' e' he') hs'')
    rw [← Terms.each_cons] at hpar
    refine Ensures.map (hpar.weaken ?_)
    rintro ⟨a, as⟩ steps s ⟨own, others, hperm, hpost, heach⟩
    exact .cons hpost heach hperm

/-- Routines one after the other on terms that fit together. -/
theorem ensures_sequence (hfit : es.Pairwise fun e e' => (terms e).Fit (terms e'))
    (hstable : ∀ e, (posts e).Stable (terms e))
    (h : ∀ e ∈ es, ∀ time s', (terms e).rely s s' → (r e).Ensures (terms e) (posts e) time s') :
    (sequence (es.map r)).Ensures (.each es terms) (Post.all posts es) time s := by
  induction es generalizing time s with
  | nil => exact .nil
  | cons e rest ih =>
    obtain ⟨hfirst, hfits⟩ := List.pairwise_cons.mp hfit
    obtain ⟨he, hrest⟩ := List.forall_mem_cons.mp h
    have hfit₁ : (terms e).Fit (.each rest terms) := Terms.fit_each hfirst
    -- While the first one runs, the others can still be begun.
    have hframe := (he time s ((terms e).rely_refl s)).frame hfit₁
      (J := fun s => ∀ e ∈ rest, ∀ time s', (terms e).rely s s' → (r e).Ensures (terms e) (posts e) time s')
      (fun s s' hs hlater e' he' time s'' hs'' => hlater e' he' time s'' ((terms e').rely_trans (hs e' he') hs'')) hrest
    rw [← Terms.each_cons] at hframe
    refine Ensures.bind (hframe.weaken fun a own s ⟨hpost, hlater⟩ time => ?_)
    have hothers : (sequence (rest.map r)).Ensures (.each rest terms) (Post.all posts rest) time s :=
      ih hfits hlater
    have hboth := hothers.frame hfit₁.symm (hstable e a own) hpost
    rw [Terms.both_comm, ← Terms.each_cons] at hboth
    refine Ensures.map (hboth.weaken fun as steps s ⟨heach, hpost⟩ => ?_)
    exact .cons hpost heach (List.Perm.refl _)

end

end Routine

end RecordScreens
