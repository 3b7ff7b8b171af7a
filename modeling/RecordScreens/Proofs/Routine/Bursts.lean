import RecordScreens.Routine

/-!
# Bursts of routines

What a routine does between two of its waits. Nothing else happens in between, so every
way in which routines on one state can overlap is an order of their bursts.
-/

namespace RecordScreens.Routine

variable {σ α β : Type}

/-! ## Bursts -/

/-- Goes on until the routine waits or ends: what is left of it, and the state that it leaves. -/
def advance : Routine σ α → σ → Routine σ α × σ
  | done a, s => (done a, s)
  | act change next, s => advance (next s) (change s)
  | sleep millis next, s => (sleep millis next, s)

/-- Ends the wait of a routine. One that does not wait stays as it is. -/
def wake : Routine σ α → σ → Routine σ α × σ
  | sleep _ next, s => next.advance s
  | r, s => (r, s)

def waits : Routine σ α → Bool
  | sleep _ _ => true
  | _ => false

@[simp] theorem advance_done (a : α) (s : σ) : (done a : Routine σ α).advance s = (done a, s) := rfl

@[simp] theorem advance_act (change : σ → σ) (next : σ → Routine σ α) (s : σ) :
    (act change next).advance s = (next s).advance (change s) := rfl

@[simp] theorem wake_sleep (millis : Nat) (next : Routine σ α) (s : σ) :
    (sleep millis next).wake s = next.advance s := rfl

@[simp] theorem waits_done (a : α) : (done a : Routine σ α).waits = false := rfl

@[simp] theorem waits_sleep (millis : Nat) (next : Routine σ α) : (sleep millis next).waits = true := rfl

@[simp] theorem advance_step (f : σ → α × σ) (s : σ) : (step f).advance s = (done (f s).1, (f s).2) := rfl

@[simp] theorem advance_modify (f : σ → σ) (s : σ) : (modify f).advance s = (done (), f s) := rfl

/-- A burst ends where the routine ends or waits. -/
theorem advance_cases (r : Routine σ α) (s : σ) :
    (∃ a, (r.advance s).1 = done a) ∨ ∃ millis next, (r.advance s).1 = sleep millis next := by
  induction r generalizing s with
  | done a => exact .inl ⟨a, rfl⟩
  | act change next ih => exact ih s (change s)
  | sleep millis next => exact .inr ⟨millis, next, rfl⟩

/-- A burst of a sequence is one of its first part, and the start of the rest if that ends the first part. -/
theorem advance_bind (r : Routine σ α) (k : α → Routine σ β) (s : σ) :
    (r.bind k).advance s =
      match r.advance s with
      | (done a, s') => (k a).advance s'
      | (rest, s') => (rest.bind k, s') := by
  induction r generalizing s with
  | done a => rfl
  | act change next ih => exact ih s (change s)
  | sleep millis next => rfl

/-! ## Routines side by side -/

/-- What follows a routine and leaves the state alone does not show in its burst. -/
theorem advance_bind_of_id (r : Routine σ α) {k : α → Routine σ β} (hk : ∀ a s, ((k a).advance s).2 = s) (s : σ) :
    ((r.bind k).advance s).2 = (r.advance s).2 := by
  rw [advance_bind]
  rcases r.advance s with ⟨a | _ | _, s'⟩
  · exact hk a s'
  · rfl
  · rfl

theorem advance_whileAsleep (left : Routine σ α) (wake : Routine σ β → Routine σ (α × β)) (millis : Nat)
    (right : Routine σ β) (s : σ) : ((left.whileAsleep wake millis right).advance s).2 = (right.advance s).2 := by
  -- The left routine is asleep, so only the right one goes on until it waits as well.
  induction right generalizing millis s with
  | done b => rfl
  | act change next ih => exact ih s millis (change s)
  | sleep other next ih =>
    unfold whileAsleep
    split <;> rfl

/-- The first burst of two routines at once is that of the one and then that of the other. -/
theorem advance_par (left : Routine σ α) (right : Routine σ β) (s : σ) :
    ((left.par right).advance s).2 = (right.advance (left.advance s).2).2 := by
  -- The right routine begins when the left one first waits or ends.
  induction left generalizing s with
  | done a => exact advance_bind_of_id _ (fun _ _ => rfl) s
  | act change next ih => exact ih s (change s)
  | sleep millis next ih => exact advance_whileAsleep ..

/-- The first burst of routines at once is that of each of them, in order. -/
theorem advance_all (rs : List (Routine σ α)) (s : σ) :
    ((all rs).advance s).2 = rs.foldl (fun s r => (r.advance s).2) s := by
  induction rs generalizing s with
  | nil => rfl
  | cons r rest ih =>
    unfold all
    rw [advance_bind_of_id _ fun _ _ => rfl, advance_par, ih]
    rfl

end RecordScreens.Routine
