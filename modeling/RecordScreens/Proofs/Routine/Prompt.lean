import RecordScreens.Routine

/-!
# Routines that never wait

A routine that never waits leaves no room for another one beside it, so such routines
run one after the other even if they are begun at once.
-/

namespace RecordScreens.Routine

variable {σ τ α β : Type}

/-- The routine never waits. -/
def Prompt : Routine σ α → Prop
  | done _ => True
  | act _ next => ∀ s, (next s).Prompt
  | sleep _ _ => False

@[simp] theorem prompt_done (a : α) : (done a : Routine σ α).Prompt := trivial

theorem prompt_act {change : σ → σ} {next : σ → Routine σ α} (h : ∀ s, (next s).Prompt) : (act change next).Prompt := h

@[simp] theorem prompt_step (f : σ → α × σ) : (step f).Prompt := fun _ => prompt_done _

@[simp] theorem prompt_modify (f : σ → σ) : (modify f).Prompt := fun _ => prompt_done _

theorem Prompt.bind {r : Routine σ α} {k : α → Routine σ β} (h : r.Prompt) (hk : ∀ a, (k a).Prompt) :
    (r.bind k).Prompt := by
  induction r with
  | done a => exact hk a
  | act change next ih => exact fun s => ih s (h s)
  | sleep millis next => exact h.elim

theorem prompt_sequence {rs : List (Routine σ α)} (h : ∀ r ∈ rs, r.Prompt) : (sequence rs).Prompt := by
  induction rs with
  | nil => exact prompt_done _
  | cons r rest ih =>
    obtain ⟨hr, hrest⟩ := List.forall_mem_cons.mp h
    exact hr.bind fun _ => (ih hrest).bind fun _ => prompt_done _

theorem Prompt.par {left : Routine σ α} {right : Routine σ β} (hleft : left.Prompt) (hright : right.Prompt) :
    (left.par right).Prompt := by
  induction left with
  | done a => exact hright.bind fun b => prompt_done _
  | act change next ih => exact fun s => ih s (hleft s)
  | sleep millis next => exact hleft.elim

theorem prompt_all {rs : List (Routine σ α)} (h : ∀ r ∈ rs, r.Prompt) : (all rs).Prompt := by
  induction rs with
  | nil => exact prompt_done _
  | cons r rest ih =>
    obtain ⟨hr, hrest⟩ := List.forall_mem_cons.mp h
    exact (hr.par (ih hrest)).bind fun _ => prompt_done _

theorem Prompt.zoom {r : Routine τ α} (h : r.Prompt) (get : σ → τ) (set : τ → σ → σ) : (zoom get set r).Prompt := by
  induction r with
  | done a => exact prompt_done _
  | act change next ih => exact fun s => ih (get s) (h (get s))
  | sleep millis next => exact h.elim

/-! ## Runs -/

theorem run_sequence (rs : List (Routine σ α)) (s : σ) :
    ((sequence rs).run s).2 = rs.foldl (fun s r => (r.run s).2) s := by
  induction rs generalizing s with
  | nil => rfl
  | cons r rest ih => simp only [sequence, run_bind, run_done, ih, List.foldl_cons]

/-- What runs beside a routine that never waits runs after it. -/
theorem Prompt.run_par {left : Routine σ α} (h : left.Prompt) (right : Routine σ β) (s : σ) :
    (left.par right).run s = (((left.run s).1, (right.run (left.run s).2).1), (right.run (left.run s).2).2) := by
  induction left generalizing s with
  | done a => simp only [Routine.par, run_bind, run_done]
  | act change next ih => exact ih s (h s) (change s)
  | sleep millis next => exact h.elim

theorem run_all {rs : List (Routine σ α)} (h : ∀ r ∈ rs, r.Prompt) (s : σ) :
    ((all rs).run s).2 = rs.foldl (fun s r => (r.run s).2) s := by
  induction rs generalizing s with
  | nil => rfl
  | cons r rest ih =>
    obtain ⟨hr, hrest⟩ := List.forall_mem_cons.mp h
    simp only [all, run_bind, run_done, hr.run_par, ih hrest, List.foldl_cons]

end RecordScreens.Routine
