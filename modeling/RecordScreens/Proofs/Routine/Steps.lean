import RecordScreens.Proofs.Routine.Beside
import RecordScreens.Proofs.Routine.Bursts

/-!
# Steps of routines

What every step of a routine does, if all of them start from a state with a property.
Whatever runs beside the routine only has to leave that property in place, so this is
shown of routines and not of runs.
-/

namespace RecordScreens.Routine

variable {σ α β : Type} {I : σ → Prop} {P : σ → σ → Prop}

/-- Every step of the routine from a state with `I` is one of `P`. -/
def Steps (I : σ → Prop) (P : σ → σ → Prop) : Routine σ α → Prop
  | done _ => True
  | act change next => ∀ s, I s → P s (change s) ∧ (next s).Steps I P
  | sleep _ next => next.Steps I P

@[simp] theorem steps_done (a : α) : (done a : Routine σ α).Steps I P := trivial

theorem steps_act {change : σ → σ} {next : σ → Routine σ α} (h : ∀ s, I s → P s (change s))
    (hnext : ∀ s, I s → (next s).Steps I P) : (act change next).Steps I P :=
  fun s hs => ⟨h s hs, hnext s hs⟩

theorem steps_step {change : σ → α × σ} (h : ∀ s, I s → P s (change s).2) : (step change).Steps I P :=
  steps_act h fun _ _ => steps_done _

theorem steps_modify {change : σ → σ} (h : ∀ s, I s → P s (change s)) : (modify change).Steps I P :=
  steps_act h fun _ _ => steps_done _

theorem Steps.bind {r : Routine σ α} {k : α → Routine σ β} (h : r.Steps I P) (hk : ∀ a, (k a).Steps I P) :
    (r.bind k).Steps I P := by
  induction r with
  | done a => exact hk a
  | act change next ih => exact fun s hs => ⟨(h s hs).1, ih s (h s hs).2⟩
  | sleep millis next ih => exact ih h

theorem steps_sequence {rs : List (Routine σ α)} (h : ∀ r ∈ rs, r.Steps I P) : (sequence rs).Steps I P := by
  induction rs with
  | nil => exact steps_done _
  | cons r rest ih =>
    unfold sequence
    apply (h r List.mem_cons_self).bind
    intro a
    apply (ih fun r' hr' => h r' (List.mem_cons_of_mem r hr')).bind
    intro as
    exact steps_done _

/-! ## Routines side by side -/

theorem Steps.whileAsleep {left : Routine σ α} {wake : Routine σ β → Routine σ (α × β)} {right : Routine σ β}
    (hleft : left.Steps I P) (hwake : ∀ r, r.Steps I P → (wake r).Steps I P) (hright : right.Steps I P)
    (millis : Nat) : (left.whileAsleep wake millis right).Steps I P := by
  induction right generalizing millis with
  | done b =>
    unfold Routine.whileAsleep
    exact hleft.bind fun a => steps_done _
  | act change next ih =>
    unfold Routine.whileAsleep
    exact fun s hs => ⟨(hright s hs).1, ih s (hright s hs).2 millis⟩
  | sleep other next ih =>
    unfold Routine.whileAsleep
    -- The one that wakes first goes on.
    split
    · exact hwake _ hright
    · exact ih hright (millis - other)

theorem Steps.par {left : Routine σ α} {right : Routine σ β} (hleft : left.Steps I P) (hright : right.Steps I P) :
    (left.par right).Steps I P := by
  -- When the left routine sleeps, the right one goes on beside it, and what is left of either takes such steps as well.
  induction left generalizing right with
  | done a =>
    unfold Routine.par
    exact hright.bind fun b => steps_done _
  | act change next ih =>
    unfold Routine.par
    exact fun s hs => ⟨(hleft s hs).1, ih s (hleft s hs).2 hright⟩
  | sleep millis next ih =>
    unfold Routine.par
    have hnext : next.Steps I P := hleft
    exact hnext.whileAsleep (fun r hr => ih hnext hr) hright millis

theorem steps_all {rs : List (Routine σ α)} (h : ∀ r ∈ rs, r.Steps I P) : (all rs).Steps I P := by
  induction rs with
  | nil => exact steps_done _
  | cons r rest ih =>
    unfold all
    have hrest := ih fun r' hr' => h r' (List.mem_cons_of_mem r hr')
    exact ((h r List.mem_cons_self).par hrest).bind fun found => steps_done _

/-- Every step of a run is one of `P`, if others leave in place what the steps start from. -/
theorem Steps.beside {r : Routine σ α} (h : r.Steps I P) (hI : ∀ s s', I s → P s s' → I s') {others : Nat → σ → σ}
    (hothers : ∀ n s, I s → I (others n s)) (time : Nat) {s : σ} (hs : I s) :
    (∀ step ∈ (r.beside others time s).steps, P step.before step.after) ∧ I (r.beside others time s).state := by
  induction r generalizing others time s with
  | done a => exact ⟨nofun, hs⟩
  | act change next ih =>
    obtain ⟨hchange, hnext⟩ := h s hs
    obtain ⟨hsteps, hend⟩ := ih s hnext hothers time (hI s _ hs hchange)
    exact ⟨List.forall_mem_cons.mpr ⟨hchange, hsteps⟩, hend⟩
  | sleep millis next ih => exact ih h (fun n => hothers (n + 1)) (time + millis) (hothers 0 s hs)

/-! ## Invariants -/

/-- Every step of the routine from a state with `I` leads to one with `I`. -/
abbrev Preserves (I : σ → Prop) (r : Routine σ α) : Prop := r.Steps I fun _ s => I s

/-- What every step preserves and others leave in place, holds in the end besides what the routine ensures. -/
theorem Ensures.preserves {t : Terms σ} {post : Post σ α} {r : Routine σ α} {time : Nat} {s : σ}
    (h : r.Ensures t post time s) (hr : r.Preserves I) (hrely : ∀ s s', t.rely s s' → I s → I s') (hs : I s) :
    r.Ensures t (fun a steps s => post a steps s ∧ I s) time s := by
  induction r generalizing post time s with
  | done a => exact ⟨h, hs⟩
  | act change next ih => exact ⟨h.1, ih s h.2 (hr s hs).2 (hr s hs).1⟩
  | sleep millis next ih => exact fun s' hs' => ih (h s' hs') hr (hrely s s' hs' hs)

/-- What every step preserves, a burst preserves, and so does what is left. -/
theorem Preserves.advance {r : Routine σ α} (h : r.Preserves I) {s : σ} (hs : I s) :
    I (r.advance s).2 ∧ (r.advance s).1.Preserves I := by
  induction r generalizing s with
  | done a => exact ⟨hs, h⟩
  | act change next ih => exact ih s (h s hs).2 (h s hs).1
  | sleep millis next => exact ⟨hs, h⟩

theorem Preserves.wake {r : Routine σ α} (h : r.Preserves I) {s : σ} (hs : I s) :
    I (r.wake s).2 ∧ (r.wake s).1.Preserves I := by
  cases r with
  | done a => exact ⟨hs, h⟩
  | act change next => exact ⟨hs, h⟩
  | sleep millis next => exact Preserves.advance (r := next) h hs

/-- What every step preserves, a run preserves. -/
theorem Preserves.run {r : Routine σ α} (h : r.Preserves I) {s : σ} (hs : I s) : I (r.run s).2 := by
  induction r generalizing s with
  | done a => exact hs
  | act change next ih => exact ih s (h s hs).2 (h s hs).1
  | sleep millis next ih => exact ih h hs

end RecordScreens.Routine
