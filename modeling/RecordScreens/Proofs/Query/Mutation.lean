import RecordScreens.Proofs.Query.Footprint

/-!
# What a mutation sends

A mutation is sent once, at the start. Whatever is fetched again after it only asks.
-/

namespace RecordScreens

namespace Logged

variable {S : Type} [DataSource S]

@[simp] theorem mutations_query (key : String) (params : Json) (s : Logged S) :
    (DataSource.query key params s).2.mutations = s.mutations := by
  show ((s.taken ++ _).map _).filter _ = _
  rw [List.map_append, List.filter_append]
  exact List.append_nil _

@[simp] theorem mutations_mutate (key : String) (params : Json) (s : Logged S) :
    (DataSource.mutate key params s).2.mutations = s.mutations ++ [⟨.mutate, key, params⟩] := by
  show ((s.taken ++ _).map _).filter _ = _
  rw [List.map_append, List.filter_append]
  rfl

end Logged

namespace Binder

variable {S : Type}

/-- The mutations that the source of a binder was sent. -/
def mutations (b : Binder (Logged S)) : List SourceCall := b.source.mutations

@[simp] theorem mutations_retain (b : Binder (Logged S)) (i : Nat) : (b.retain i).mutations = b.mutations := rfl

@[simp] theorem mutations_release (b : Binder (Logged S)) (i : Nat) : (b.release i).mutations = b.mutations := rfl

/-- What none of the changes shows in, all of them together do not show in. -/
theorem view_foldl {α τ : Type} (view : Binder S → τ) {change : Binder S → α → Binder S}
    (h : ∀ b a, view (change b a) = view b) (found : List α) (b : Binder S) :
    view (found.foldl change b) = view b := by
  induction found generalizing b with
  | nil => rfl
  | cons a rest ih => exact (ih (change b a)).trans (h b a)

/-- A routine that sends one mutation, in its first step, and no other. -/
def SendsOnce {α : Type} (call : SourceCall) (r : Routine (Binder (Logged S)) α) : Prop :=
  ∃ change next, r = .act change next ∧ (∀ b, (change b).mutations = b.mutations ++ [call]) ∧
    ∀ b, (next b).Keeps mutations

theorem SendsOnce.bind {α β : Type} {call : SourceCall} {r : Routine (Binder (Logged S)) α}
    {k : α → Routine (Binder (Logged S)) β} (h : SendsOnce call r) (hk : ∀ a, (k a).Keeps mutations) :
    SendsOnce call (r.bind k) := by
  obtain ⟨change, next, rfl, hchange, hnext⟩ := h
  exact ⟨change, fun b => (next b).bind k, rfl, hchange, fun b => (hnext b).bind hk⟩

/-- Run on its own, it adds its call to the mutations. -/
theorem SendsOnce.run_eq {α : Type} {call : SourceCall} {r : Routine (Binder (Logged S)) α}
    (h : SendsOnce call r) (b : Binder (Logged S)) : (r.run b).2.mutations = b.mutations ++ [call] := by
  obtain ⟨change, next, rfl, hchange, hnext⟩ := h
  rw [Routine.run, (hnext b).run_eq, hchange]

/-! ## Fetches -/

theorem keeps_await (key : String) (reply : Reply) :
    (await key reply : Routine (Binder (Logged S)) _).Keeps mutations := by
  rw [Routine.keeps_iff_steps]
  apply steps_await
  exact fun _ _ => rfl

variable [DataSource S]

/-- Fetches send no mutation. -/
theorem allows_mutations (i : Nat) :
    Allows i (fun _ => True) fun b b' : Binder (Logged S) => b'.mutations = b.mutations where
  none _ _ := rfl
  ask b key params _ := Logged.mutations_query key params b.source
  put _ _ _ := rfl

theorem keeps_refresh (i : Nat) (q : LiveQuery) (key : String) :
    (refresh i q key : Routine (Binder (Logged S)) _).Keeps mutations :=
  Routine.keeps_iff_steps.mpr ((allows_mutations i).refresh q key)

/-! ## Mutations -/

/-- Fetching again what depends on keys sends no mutation. -/
theorem keeps_invalidate (keys : List String) :
    (invalidate keys : Routine (Binder (Logged S)) _).Keeps mutations := by
  unfold invalidate
  apply Routine.keeps_act (fun b => view_foldl mutations (fun b _ => mutations_retain b _) _ b)
  intro b
  -- The queries are held while they are fetched again, which counts holders and asks nothing.
  refine (Routine.keeps_all fun r hr => ?_).bind fun _ => ?_
  · obtain ⟨⟨i, q, key⟩, -, rfl⟩ := List.mem_map.mp hr
    exact keeps_refresh i q key
  · refine (Routine.keeps_modify fun b => ?_).bind fun _ => Routine.keeps_done _
    exact view_foldl mutations (fun b _ => mutations_release b _) _ b

theorem sendsOnce_tell (key : String) (params : Json) :
    SendsOnce ⟨.mutate, key, params⟩ (Routine.step (tell key params) : Routine (Binder (Logged S)) _) :=
  ⟨_, _, rfl, fun b => Logged.mutations_mutate key params b.source, fun _ => Routine.keeps_done _⟩

/-- What follows the answer to a mutation. -/
def concluded (invalidates : List String) : Except QueryError Json → Routine (Binder S) (Except QueryError Json)
  | .error e => .done (.error e)
  | .ok v => if invalidates ≠ [] then (invalidate invalidates).bind fun _ => .done (.ok v) else .done (.ok v)

/-- What follows the answer sends no mutation. -/
theorem keeps_concluded (invalidates : List String) (answer : Except QueryError Json) :
    (concluded invalidates answer : Routine (Binder (Logged S)) _).Keeps mutations := by
  cases answer with
  | error e => exact Routine.keeps_done _
  | ok v =>
    simp only [concluded]
    split
    · exact (keeps_invalidate invalidates).bind fun _ => Routine.keeps_done _
    · exact Routine.keeps_done _

/-- A mutation is sent once, whatever becomes of it. -/
theorem sendsOnce_mutate (key : String) (params : Json) (invalidates : List String) :
    SendsOnce ⟨.mutate, key, params⟩ (mutate key params invalidates : Routine (Binder (Logged S)) _) := by
  -- The mutation is told in the first step; what follows waits for its answer and fetches again.
  apply (sendsOnce_tell key params).bind
  intro reply
  apply (keeps_await key reply).bind
  exact keeps_concluded invalidates

end Binder

end RecordScreens
