import RecordScreens.Proofs.Routine.Steps

/-!
# What routines leave alone

A part of the state that no step of a routine changes. It stays as it is whatever runs
beside the routine, so this is shown of the routine and not of its runs.
-/

namespace RecordScreens.Routine

variable {σ τ α β : Type} {f : σ → τ}

/-- No step of the routine changes what `f` shows of the state. -/
def Keeps (f : σ → τ) : Routine σ α → Prop
  | done _ => True
  | act change next => ∀ s, f (change s) = f s ∧ (next s).Keeps f
  | sleep _ next => next.Keeps f

theorem keeps_iff_steps {r : Routine σ α} : r.Keeps f ↔ r.Steps (fun _ => True) fun s s' => f s' = f s := by
  induction r with
  | done a => exact Iff.rfl
  | act change next ih =>
    unfold Keeps Steps
    simp only [ih, true_imp_iff]
  | sleep millis next ih => exact ih

@[simp] theorem keeps_done (a : α) : (done a : Routine σ α).Keeps f := trivial

theorem keeps_act {change : σ → σ} {next : σ → Routine σ α} (h : ∀ s, f (change s) = f s)
    (hnext : ∀ s, (next s).Keeps f) : (act change next).Keeps f :=
  fun s => ⟨h s, hnext s⟩

theorem keeps_modify {change : σ → σ} (h : ∀ s, f (change s) = f s) : (modify change).Keeps f :=
  keeps_act h fun _ => keeps_done _

theorem Keeps.bind {r : Routine σ α} {k : α → Routine σ β} (h : r.Keeps f) (hk : ∀ a, (k a).Keeps f) :
    (r.bind k).Keeps f :=
  keeps_iff_steps.mpr ((keeps_iff_steps.mp h).bind fun a => keeps_iff_steps.mp (hk a))

theorem keeps_all {rs : List (Routine σ α)} (h : ∀ r ∈ rs, r.Keeps f) : (all rs).Keeps f :=
  keeps_iff_steps.mpr (steps_all fun r hr => keeps_iff_steps.mp (h r hr))

/-- What a routine keeps of a part of the state shows that it keeps more of the whole. -/
theorem Keeps.zoom {ρ κ : Type} {g : τ → ρ} {f : σ → κ} {r : Routine τ α} {get : σ → τ} {set : τ → σ → σ}
    (h : r.Keeps g) (hset : ∀ s t, g t = g (get s) → f (set t s) = f s) : (Routine.zoom get set r).Keeps f := by
  induction r with
  | done a => exact keeps_done a
  | act change next ih => exact fun s => ⟨hset s _ (h (get s)).1, ih (get s) (h (get s)).2⟩
  | sleep millis next ih => exact ih h

/-- Whatever others do, no step of a run changes it. -/
theorem Keeps.beside {r : Routine σ α} (h : r.Keeps f) (others : Nat → σ → σ) (time : Nat) (s : σ) :
    ∀ step ∈ (r.beside others time s).steps, f step.after = f step.before :=
  ((keeps_iff_steps.mp h).beside (fun _ _ _ _ => trivial) (fun _ _ _ => trivial) time trivial).1

/-- What no step changes, no run changes. -/
theorem Keeps.run_eq {r : Routine σ α} (h : r.Keeps f) (s : σ) : f (r.run s).2 = f s := by
  induction r generalizing s with
  | done a => rfl
  | act change next ih =>
    unfold run
    rw [ih s (h s).2, (h s).1]
  | sleep millis next ih => exact ih h s

end RecordScreens.Routine
