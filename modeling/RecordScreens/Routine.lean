/-!
# Routines

Work that changes a shared state in steps and may wait in between. Nothing else happens
during a step; while one routine waits, others may take steps. Time only passes while
every routine waits.
-/

namespace RecordScreens

/-- Work on a state of type `σ` that ends with a result. -/
inductive Routine (σ α : Type) where
  | done (a : α)
  /-- Changes the state, and goes on as the state before the change says. -/
  | act (change : σ → σ) (next : σ → Routine σ α)
  /-- Waits for some milliseconds. -/
  | sleep (millis : Nat) (next : Routine σ α)

namespace Routine

variable {σ τ α β : Type}

-- ---------------------------------------------------------------------------
-- Sequences
-- ---------------------------------------------------------------------------

/-- Goes on with the result of a routine. -/
def bind : Routine σ α → (α → Routine σ β) → Routine σ β
  | done a, k => k a
  | act change next, k => act change fun s => (next s).bind k
  | sleep millis next, k => sleep millis (next.bind k)

instance : Monad (Routine σ) where
  pure := done
  bind := bind

/-- One step with a result. -/
def step (f : σ → α × σ) : Routine σ α := act (fun s => (f s).2) fun s => done (f s).1

/-- Looks at the state. -/
def read (f : σ → α) : Routine σ α := act id fun s => done (f s)

/-- Changes the state. -/
def modify (f : σ → σ) : Routine σ Unit := act f fun _ => done ()

/-- Waits for some milliseconds. -/
def wait (millis : Nat) : Routine σ Unit := sleep millis (done ())

/-- Takes the routines one after the other. -/
def sequence : List (Routine σ α) → Routine σ (List α)
  | [] => done []
  | r :: rest => r.bind fun a => (sequence rest).bind fun as => done (a :: as)

@[simp] theorem pure_eq (a : α) : (pure a : Routine σ α) = done a := rfl

@[simp] theorem bind_eq (r : Routine σ α) (k : α → Routine σ β) : (r >>= k) = r.bind k := rfl

theorem bind_done (r : Routine σ α) : r.bind done = r := by
  induction r with
  | done a => rfl
  | act change next ih => simp only [bind, ih]
  | sleep millis next ih => simp only [bind, ih]

theorem bind_assoc {γ : Type} (r : Routine σ α) (f : α → Routine σ β) (g : β → Routine σ γ) :
    (r.bind f).bind g = r.bind fun a => (f a).bind g := by
  induction r with
  | done a => rfl
  | act change next ih => simp only [bind, ih]
  | sleep millis next ih => simp only [bind, ih]

-- ---------------------------------------------------------------------------
-- Routines side by side
-- ---------------------------------------------------------------------------

/-- Steps a second routine while the first one sleeps for `millis`; `wake` is what comes when it wakes. -/
def whileAsleep (left : Routine σ α) (wake : Routine σ β → Routine σ (α × β)) :
    Nat → Routine σ β → Routine σ (α × β)
  | millis, done b => sleep millis (left.bind fun a => done (a, b))
  | millis, act change next => act change fun s => whileAsleep left wake millis (next s)
  | millis, sleep other next =>
    if millis ≤ other then sleep millis (wake (sleep (other - millis) next))
    else sleep other (whileAsleep left wake (millis - other) next)

/-- Two routines at once. When both could take a step, the first one does. -/
def par : Routine σ α → Routine σ β → Routine σ (α × β)
  | done a, right => right.bind fun b => done (a, b)
  | act change next, right => act change fun s => par (next s) right
  | sleep millis left, right => whileAsleep left (par left) millis right

/-- Routines at once, with their results in order. -/
def all : List (Routine σ α) → Routine σ (List α)
  | [] => done []
  | r :: rest => (par r (all rest)).bind fun found => done (found.1 :: found.2)

-- ---------------------------------------------------------------------------
-- Routines that fail together
-- ---------------------------------------------------------------------------

section

variable {ε : Type}

/-- As `whileAsleep`, for routines that may fail: a failure of the second one wakes nobody. -/
def whileAsleepExcept (left : Routine σ (Except ε α))
    (wake : Routine σ (Except ε β) → Routine σ (Except ε (α × β))) :
    Nat → Routine σ (Except ε β) → Routine σ (Except ε (α × β))
  | _, done (.error e) => done (.error e)
  | millis, done (.ok b) => sleep millis (left.bind fun a => done (a.map fun a => (a, b)))
  | millis, act change next => act change fun s => whileAsleepExcept left wake millis (next s)
  | millis, sleep other next =>
    if millis ≤ other then sleep millis (wake (sleep (other - millis) next))
    else sleep other (whileAsleepExcept left wake (millis - other) next)

/-- Two routines at once. The first failure ends both, wherever the other one is. -/
def parExcept : Routine σ (Except ε α) → Routine σ (Except ε β) → Routine σ (Except ε (α × β))
  | done (.error e), _ => done (.error e)
  | done (.ok a), right => right.bind fun b => done (b.map fun b => (a, b))
  | act change next, right => act change fun s => parExcept (next s) right
  | sleep millis left, right => whileAsleepExcept left (parExcept left) millis right

/-- Routines at once until one of them fails, with their results in order. -/
def allExcept : List (Routine σ (Except ε α)) → Routine σ (Except ε (List α))
  | [] => done (.ok [])
  | r :: rest => (parExcept r (allExcept rest)).bind fun found => done (found.map fun found => found.1 :: found.2)

end

-- ---------------------------------------------------------------------------
-- Larger states
-- ---------------------------------------------------------------------------

/-- A routine on a part of a larger state. -/
def zoom (get : σ → τ) (set : τ → σ → σ) : Routine τ α → Routine σ α
  | done a => done a
  | act change next => act (fun s => set (change (get s)) s) fun s => zoom get set (next (get s))
  | sleep millis next => sleep millis (zoom get set next)

-- ---------------------------------------------------------------------------
-- Runs
-- ---------------------------------------------------------------------------

/-- The result of a routine on its own and the state that it leaves. -/
def run : Routine σ α → σ → α × σ
  | done a, s => (a, s)
  | act change next, s => run (next s) (change s)
  | sleep _ next, s => run next s

@[simp] theorem run_done (a : α) (s : σ) : (done a : Routine σ α).run s = (a, s) := rfl

theorem run_bind (r : Routine σ α) (k : α → Routine σ β) (s : σ) :
    (r.bind k).run s = (k (r.run s).1).run (r.run s).2 := by
  induction r generalizing s with
  | done a => rfl
  | act change next ih => simp only [bind, run, ih]
  | sleep millis next ih => simp only [bind, run, ih]

@[simp] theorem run_step (f : σ → α × σ) (s : σ) : (step f).run s = f s := rfl

end Routine

end RecordScreens
