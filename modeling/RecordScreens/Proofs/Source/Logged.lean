import RecordScreens.Source.Scripted

/-!
# Sources with a log

A source of any kind that keeps the calls that it took, each with its reply.
-/

namespace RecordScreens

/-- A call that a source took, and its reply. -/
structure TakenCall where
  call : SourceCall
  reply : Reply

/-- A source and the calls that it took, in order. -/
structure Logged (S : Type) where
  source : S
  taken : List TakenCall := []

namespace Logged

variable {S : Type}

/-- The source after a call with this reply. -/
def take (call : SourceCall) (answered : Reply × S) (s : Logged S) : Reply × Logged S :=
  (answered.1, { source := answered.2, taken := s.taken ++ [⟨call, answered.1⟩] })

instance [DataSource S] : DataSource (Logged S) where
  query key params s := s.take ⟨.query, key, params⟩ (DataSource.query key params s.source)
  mutate key params s := s.take ⟨.mutate, key, params⟩ (DataSource.mutate key params s.source)

/-- The mutations among the calls. -/
def mutations (s : Logged S) : List SourceCall := (s.taken.map (·.call)).filter (·.kind = .mutate)

end Logged

namespace Reply

variable {σ : Type}

/-- What a reply comes to for someone who waits no longer than `timeout`. -/
def answer (r : Reply) (key : String) (timeout : Nat) : Except QueryError Json :=
  match r.delay with
  | none => r.result
  | some delay => if delay ≤ timeout then r.result else .error (.timeout key timeout)

/-- How long one waits for a reply. -/
def wait? (r : Reply) (timeout : Nat) : Option Nat := r.delay.map (min · timeout)

theorem await_eq (r : Reply) (key : String) (timeout : Nat) :
    (r.await key timeout : Routine σ (Except QueryError Json)) =
      match r.wait? timeout with
      | none => .done (r.answer key timeout)
      | some millis => .sleep millis (.done (r.answer key timeout)) := by
  unfold await answer wait?
  cases r.delay with
  | none => rfl
  | some delay =>
    by_cases h : delay ≤ timeout
    · simp [h]
    · simp [h, Nat.min_eq_right (Nat.le_of_not_le h)]

end Reply

end RecordScreens
