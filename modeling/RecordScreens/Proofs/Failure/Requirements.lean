import RecordScreens.Proofs.Failure.Checks
import RecordScreens.Proofs.Positions

/-!
# Requirements in order

A configuration is held to one requirement after the other, and its error tells of the first
one that is not met. A requirement is stated here without the check that it is for: when it is
met, and which error its violation calls for.
-/

namespace RecordScreens

/-- What is required of a configuration. -/
structure Requirement where
  met : Prop
  /-- Whether this is an error for its violation. -/
  calls : ConfigError → Prop

namespace Requirement

/-- A condition with one error for its violation. -/
def single (met : Prop) (fault : ConfigError) : Requirement where
  met
  calls e := e = fault

/-- No id stands twice; the error names the first one that stands before already. -/
def distinct (kind : String) (ids : List String) : Requirement where
  met := ids.Nodup
  calls e := ∃ before id after, ids = before ++ id :: after ∧ before.Nodup ∧ id ∈ before ∧ e = .duplicateId kind id

/-- A condition on all of a list; the error is about the first one that does not satisfy it. -/
def each {α : Type} (l : List α) (p : α → Prop) (fault : α → ConfigError) : Requirement where
  met := ∀ a ∈ l, p a
  calls e := ∃ before a after, l = before ++ a :: after ∧ (∀ b ∈ before, p b) ∧ ¬ p a ∧ e = fault a

end Requirement

/-- The error is one for the first requirement that is not met. -/
inductive FirstUnmet : List Requirement → ConfigError → Prop where
  | here {r : Requirement} {rest : List Requirement} {e : ConfigError} (hunmet : ¬ r.met) (he : r.calls e) :
      FirstUnmet (r :: rest) e
  | later {r : Requirement} {rest : List Requirement} {e : ConfigError} (hmet : r.met) (hrest : FirstUnmet rest e) :
      FirstUnmet (r :: rest) e

variable {α β : Type} {r : Requirement} {rs rs' : List Requirement} {e : ConfigError}

/-- There is a result if and only if all requirements are met, and else the error is one for the first that is not. -/
structure Builds (rs : List Requirement) (result : Except ConfigError α) : Prop where
  ok_iff : (∃ a, result = .ok a) ↔ ∀ r ∈ rs, r.met
  error_iff : ∀ e, result = .error e ↔ FirstUnmet rs e

/-- A check for requirements passes if and only if all are met, and else its error is one for the first that is not. -/
structure Checks (rs : List Requirement) (check : Except ConfigError Unit) : Prop where
  ok_iff : check = .ok () ↔ ∀ r ∈ rs, r.met
  error_iff : ∀ e, check = .error e ↔ FirstUnmet rs e

variable {check check' : Except ConfigError Unit}

theorem checks_iff_builds : Checks rs check ↔ Builds rs check := by
  have hpassed : check = .ok () ↔ ∃ u, check = .ok u := ⟨fun h => ⟨(), h⟩, fun ⟨(), h⟩ => h⟩
  exact ⟨fun h => ⟨hpassed.symm.trans h.ok_iff, h.error_iff⟩, fun h => ⟨hpassed.trans h.ok_iff, h.error_iff⟩⟩

theorem firstUnmet_append :
    FirstUnmet (rs ++ rs') e ↔ FirstUnmet rs e ∨ (∀ r ∈ rs, r.met) ∧ FirstUnmet rs' e := by
  induction rs with
  | nil => exact ⟨fun h => .inr ⟨nofun, h⟩, fun h => h.elim nofun And.right⟩
  | cons r rest ih =>
    rw [List.forall_mem_cons]
    constructor
    · rintro (⟨hunmet, he⟩ | ⟨hmet, h⟩)
      · exact .inl (.here hunmet he)
      · rcases ih.mp h with h | ⟨hall, h⟩
        · exact .inl (.later hmet h)
        · exact .inr ⟨⟨hmet, hall⟩, h⟩
    · rintro ((⟨hunmet, he⟩ | ⟨hmet, h⟩) | ⟨⟨hmet, hall⟩, h⟩)
      · exact .here hunmet he
      · exact .later hmet (ih.mpr (.inl h))
      · exact .later hmet (ih.mpr (.inr ⟨hall, h⟩))

theorem firstUnmet_singleton : FirstUnmet [r] e ↔ ¬ r.met ∧ r.calls e := by
  constructor
  · rintro (⟨hunmet, he⟩ | ⟨-, ⟨⟩⟩)
    exact ⟨hunmet, he⟩
  · rintro ⟨hunmet, he⟩
    exact .here hunmet he

/-! ## One after the other -/

theorem builds_ok (a : α) : Builds [] (.ok a) where
  ok_iff := ⟨fun _ => nofun, fun _ => ⟨a, rfl⟩⟩
  error_iff _ := ⟨nofun, nofun⟩

/-- What is made of a result is held to its requirements only if there is that result. -/
theorem Builds.bind {result : Except ConfigError α} {next : α → Except ConfigError β} (h : Builds rs result)
    (hnext : ∀ a, result = .ok a → Builds rs' (next a)) : Builds (rs ++ rs') (result.bind next) := by
  cases result with
  | ok a =>
    have hall : ∀ r ∈ rs, r.met := h.ok_iff.mp ⟨a, rfl⟩
    have hnone (e : ConfigError) : ¬ FirstUnmet rs e := fun hfirst => nomatch (h.error_iff e).mpr hfirst
    obtain ⟨hok, herror⟩ := hnext a rfl
    refine ⟨?_, fun e => ?_⟩
    · show (∃ b, next a = .ok b) ↔ _
      rw [hok, List.forall_mem_append]
      exact ⟨fun hrest => ⟨hall, hrest⟩, And.right⟩
    · show next a = .error e ↔ _
      rw [herror, firstUnmet_append]
      exact ⟨fun hrest => .inr ⟨hall, hrest⟩, fun hfirst => (hfirst.resolve_left (hnone e)).2⟩
  | error fault =>
    have hnot : ¬ ∀ r ∈ rs, r.met := fun hall => nomatch h.ok_iff.mpr hall
    have herror (e : ConfigError) : (Except.error fault : Except ConfigError β) = .error e ↔ FirstUnmet rs e := by
      rw [← h.error_iff, Except.error.injEq, Except.error.injEq]
    refine ⟨?_, fun e => ?_⟩
    · rw [List.forall_mem_append]
      exact ⟨nofun, fun hall => absurd hall.1 hnot⟩
    · show Except.error fault = .error e ↔ _
      rw [herror, firstUnmet_append]
      exact ⟨.inl, fun hfirst => hfirst.resolve_right fun hall => hnot hall.1⟩

theorem checks_nil : Checks [] (.ok ()) := checks_iff_builds.mpr (builds_ok ())

/-- The second check is only made if the first one passes. -/
theorem Checks.bind (h : Checks rs check) (h' : Checks rs' check') :
    Checks (rs ++ rs') (check.bind fun _ => check') :=
  checks_iff_builds.mpr ((checks_iff_builds.mp h).bind fun _ _ => checks_iff_builds.mp h')

/-- What is made after a check that passes. -/
theorem Checks.bind_builds {result : Except ConfigError β} (h : Checks rs check) (h' : Builds rs' result) :
    Builds (rs ++ rs') (check.bind fun _ => result) :=
  (checks_iff_builds.mp h).bind fun _ _ => h'

/-! ## Single checks -/

theorem checks_ensure {p : Prop} {holds : Bool} (hp : holds = true ↔ p) (fault : ConfigError) :
    Checks [.single p fault] (ConfigError.ensure fault holds) where
  ok_iff := by
    rw [ConfigError.ensure_eq_ok, hp, List.forall_mem_singleton]
    rfl
  error_iff e := by
    rw [firstUnmet_singleton]
    cases holds with
    | true => exact ⟨nofun, fun h => absurd (hp.mp rfl) h.1⟩
    | false =>
      constructor
      · rintro ⟨⟩
        exact ⟨fun hmet => Bool.false_ne_true (hp.mpr hmet), rfl⟩
      · rintro ⟨-, rfl⟩
        rfl

theorem builds_require (config field : String) (value : Option α) :
    Builds [.single (∃ a, value = some a) (.missingField config field)] (ConfigError.require config field value) where
  ok_iff := by
    simp only [ConfigError.require_eq_ok, List.forall_mem_singleton]
    rfl
  error_iff e := by
    rw [firstUnmet_singleton]
    cases value with
    | some a => exact ⟨nofun, fun h => absurd ⟨a, rfl⟩ h.1⟩
    | none =>
      constructor
      · rintro ⟨⟩
        exact ⟨nofun, rfl⟩
      · rintro ⟨-, rfl⟩
        rfl

section

variable {l : List α} {p : α → Prop} {holds : α → Bool} {fault : α → ConfigError}

theorem forM_cons (f : α → Except ConfigError Unit) (a : α) (l : List α) :
    (a :: l).forM f = (f a).bind fun _ => l.forM f := rfl

theorem forM_singleton (f : α → Except ConfigError Unit) (a : α) : [a].forM f = f a := by
  rw [forM_cons]
  cases f a <;> rfl

theorem forM_ensure_eq_ok (hp : ∀ a, holds a = true ↔ p a) :
    (l.forM fun a => ConfigError.ensure (fault a) (holds a)) = .ok () ↔ ∀ a ∈ l, p a := by
  induction l with
  | nil => exact ⟨fun _ => nofun, fun _ => rfl⟩
  | cons first rest ih =>
    rw [forM_cons, bind_eq_ok, List.forall_mem_cons, ← hp first]
    simp only [ConfigError.ensure_eq_ok, ih, exists_const]

/-- The check of a list fails at the first element that does not satisfy the condition. -/
theorem forM_ensure_eq_error (hp : ∀ a, holds a = true ↔ p a) :
    (l.forM fun a => ConfigError.ensure (fault a) (holds a)) = .error e ↔
      ∃ before a after, l = before ++ a :: after ∧ (∀ b ∈ before, p b) ∧ ¬ p a ∧ e = fault a := by
  induction l with
  | nil =>
    refine ⟨nofun, ?_⟩
    rintro ⟨before, a, after, hsplit, -⟩
    cases before <;> cases hsplit
  | cons first rest ih =>
    rw [forM_cons, exists_split_cons (p := fun before a => (∀ b ∈ before, p b) ∧ ¬ p a ∧ e = fault a)]
    simp only [List.forall_mem_cons]
    cases hfirst : holds first with
    | false =>
      have hnot : ¬ p first := by simp [← hp, hfirst]
      show Except.error (fault first) = Except.error e ↔ _
      simp [hnot, eq_comm]
    | true =>
      have hall : p first := (hp first).mp hfirst
      show (rest.forM fun a => ConfigError.ensure (fault a) (holds a)) = .error e ↔ _
      rw [ih]
      simp only [hall, not_true, true_and, false_and, and_false, false_or]

theorem checks_forM (hp : ∀ a, holds a = true ↔ p a) :
    Checks [.each l p fault] (l.forM fun a => ConfigError.ensure (fault a) (holds a)) where
  ok_iff := by
    rw [forM_ensure_eq_ok hp, List.forall_mem_singleton]
    rfl
  error_iff e := by
    rw [firstUnmet_singleton, forM_ensure_eq_error hp]
    refine ⟨fun h => ⟨?_, h⟩, And.right⟩
    obtain ⟨before, a, after, rfl, -, ha, -⟩ := h
    exact fun hall => ha (hall a (List.mem_append_right _ List.mem_cons_self))

end

theorem ensureUnique_go_eq_error {kind : String} {seen ids : List String} :
    ensureUnique.go kind seen ids = .error e ↔
      ∃ before id after, ids = before ++ id :: after ∧ (before.Nodup ∧ ∀ b ∈ before, b ∉ seen) ∧
        (id ∈ before ∨ id ∈ seen) ∧ e = .duplicateId kind id := by
  -- Each id that passes is among those that the next one has to differ from.
  induction ids generalizing seen with
  | nil =>
    refine ⟨nofun, ?_⟩
    rintro ⟨before, id, after, hsplit, -⟩
    cases before <;> cases hsplit
  | cons first rest ih =>
    unfold ensureUnique.go
    rw [exists_split_cons]
    split
    · rename_i hseen
      have hnone (before : List String) : ¬ ∀ b ∈ first :: before, b ∉ seen :=
        fun h => h first List.mem_cons_self hseen
      simp only [hnone, and_false, false_and, exists_false, or_false]
      simp [hseen, eq_comm]
    · rename_i hseen
      have hsame (before : List String) (id : String) :
          (before.Nodup ∧ ∀ b ∈ before, b ∉ first :: seen) ∧ (id ∈ before ∨ id ∈ first :: seen) ↔
            ((first :: before).Nodup ∧ ∀ b ∈ first :: before, b ∉ seen) ∧ (id ∈ first :: before ∨ id ∈ seen) := by
        grind
      simp only [ih, hseen, List.not_mem_nil, or_self, false_and, and_false, false_or, ← and_assoc, hsame]

theorem checks_ensureUnique (kind : String) (ids : List String) :
    Checks [.distinct kind ids] (ensureUnique kind ids) where
  ok_iff := by
    rw [ensureUnique_eq_ok, List.forall_mem_singleton]
    rfl
  error_iff e := by
    unfold ensureUnique
    rw [firstUnmet_singleton, ensureUnique_go_eq_error]
    constructor
    · rintro ⟨before, id, after, rfl, ⟨hnodup, -⟩, hid, rfl⟩
      have hbefore : id ∈ before := hid.resolve_right List.not_mem_nil
      refine ⟨fun hall => ?_, before, id, after, rfl, hnodup, hbefore, rfl⟩
      exact (List.nodup_append.mp hall).2.2 id hbefore id List.mem_cons_self rfl
    · rintro ⟨-, before, id, after, rfl, hnodup, hid, rfl⟩
      exact ⟨before, id, after, rfl, ⟨hnodup, fun _ _ => List.not_mem_nil⟩, .inl hid, rfl⟩

end RecordScreens
