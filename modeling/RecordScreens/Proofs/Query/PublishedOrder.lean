import RecordScreens.Proofs.Query.AggregateSession

/-!
# The order of published answers

The answers for a name of an aggregate are published in the order of their requests,
unless a name is fetched alone while its part of a fetch of the whole is still under way:
then the part, which is older, may be published last.
-/

namespace RecordScreens

open Binder Overlap Announcement

variable {S : Type}

namespace AggregateSession

/-! ## Bursts of fetches -/

theorem binder_foldl_ask {α : Type} {i : Nat} (task : α → AggregateTask) (r : α → Routine (Binder (Logged S)) Unit)
    (parts : List α) (s : AggregateSession S) :
    (parts.foldl (fun s part => s.ask i (task part) (r part)) s).overlap.binder =
      (parts.map r).foldl (fun b r => (r.advance b).2) s.overlap.binder := by
  induction parts generalizing s with
  | nil => rfl
  | cons part rest ih => exact ih _

section

variable [DataSource S] {i : Nat}

/-- The first burst of a fetch of the whole is the move of a session. -/
theorem binder_fetch (s : AggregateSession S) :
    (s.fetch i).overlap.binder = ((fetchAggregate i).advance s.overlap.binder).2 := by
  unfold fetch fetchAggregate
  rw [Routine.advance_act]
  cases hq : s.overlap.binder.aggregate? i with
  | none =>
    show s.overlap.binder = s.overlap.binder.updateAggregate i _
    unfold updateAggregate
    rw [hq]
  | some q =>
    -- The routine gathers the answers in the end, which leaves the binder of its first burst alone.
    refine (binder_foldl_ask _ _ q.queries (s.reset i)).trans ?_
    rw [← Routine.advance_all]
    exact (Routine.advance_bind_of_id _ (fun _ _ => rfl) _).symm

theorem refetchName_unknown {b : Binder (Logged S)} {name : String}
    (h : ((b.aggregate? i).bind fun q => Dict.get? q.queries name) = none) :
    (refetchName i name).advance b = (.done false, b) := by
  unfold refetchName
  rw [Routine.advance_act]
  cases hq : b.aggregate? i with
  | none => rfl
  | some q =>
    rw [hq, Option.bind_some] at h
    simp [h]

/-- The first burst of an invalidation is the move of a session. -/
theorem binder_refetch (names : List String) (s : AggregateSession S) :
    (s.refetch i names).overlap.binder = ((refetchNames i names).advance s.overlap.binder).2 := by
  -- What gathers the results of the names does not touch the binder.
  have hnames : ((refetchNames i names).advance s.overlap.binder).2 =
      ((Routine.sequence (names.map (refetchName i))).advance s.overlap.binder).2 :=
    Routine.advance_bind_of_id _ (fun _ _ => rfl) _
  rw [hnames]
  clear hnames
  induction names generalizing s with
  | nil => rfl
  | cons name rest ih =>
    unfold refetch
    rw [List.map_cons, Routine.sequence, Routine.advance_bind]
    cases hknown : (s.overlap.binder.aggregate? i).bind fun q => Dict.get? q.queries name with
    | none =>
      rw [refetchName_unknown hknown]
      simp only
      rw [ih, Routine.advance_bind_of_id _ fun _ _ => rfl]
    | some descriptor =>
      have hnewest : (s.ask i ⟨name, true, rest⟩ ((refetchName i name).bind fun _ => .done ())).overlap.newest? =
        some (started _ _ s.overlap.binder) := newest?_begin ..
      have hburst := Routine.advance_bind (refetchName i name) (fun _ => .done ()) s.overlap.binder
      have hbinder : (s.ask i ⟨name, true, rest⟩ ((refetchName i name).bind fun _ => .done ())).overlap.binder =
        (((refetchName i name).bind fun _ => .done ()).advance s.overlap.binder).2 := rfl
      -- The next name is fetched in the same burst only if the answer for this one is there at once.
      rcases hadvance : (refetchName i name).advance s.overlap.binder with ⟨a | ⟨change, next⟩ | ⟨millis, next⟩, b⟩
      · rw [hadvance] at hburst
        rw [hburst] at hbinder
        simp only [hnewest, started, hburst]
        refine (ih _).trans ?_
        rw [hbinder]
        exact (Routine.advance_bind_of_id _ (fun _ _ => rfl) _).symm
      · obtain ⟨a, hdone⟩ | ⟨millis, next', hwaits⟩ := Routine.advance_cases (refetchName i name) s.overlap.binder
        · rw [hadvance] at hdone
          cases hdone
        · rw [hadvance] at hwaits
          cases hwaits
      · rw [hadvance] at hburst
        rw [hburst] at hbinder
        simp only [hnewest, started, hburst]
        exact hbinder

end

/-! ## The order -/

def name? (s : AggregateSession S) (k : Nat) : Option String := (s.overlap.begun[k]?).map (·.label.name)

def alone? (s : AggregateSession S) (k : Nat) : Option Bool := (s.overlap.begun[k]?).map (·.label.alone)

/-- No request waits for its answer any more. -/
def Quiet (s : AggregateSession S) : Prop := ∀ f ∈ s.overlap.begun, f.rest.waits = false

instance (s : AggregateSession S) : Decidable s.Quiet := inferInstanceAs (Decidable (∀ f ∈ _, _))

/-- A request is the last one for its name. -/
def IsLast (s : AggregateSession S) (k : Nat) : Prop := ∀ j, s.name? j = s.name? k → j ≤ k

/-- After the answer to a request was published, none to an older request for the name is published any more; and
after a fetch of the whole has begun, none to a request from before. -/
def KeepsOrder (s : AggregateSession S) : Prop :=
  (∀ x y, Republished s.announced x y → s.name? x = s.name? y → ¬ y < x) ∧
  ∀ start y, Restarted s.announced start y → start ≤ y

/-- The answer to a fetch of a name alone was published before the one to a part of the whole. -/
def Relapses (s : AggregateSession S) (x y : Nat) : Prop :=
  Republished s.announced x y ∧ s.name? x = s.name? y ∧ s.alone? x = some true ∧ s.alone? y = some false

/-- What a name shows is the answer to the request in place `k`. -/
def Shows (s : AggregateSession S) (i timeout k : Nat) : Prop :=
  ∃ f answer q, s.overlap.begun[k]? = some f ∧ f.answer? timeout = some answer ∧
    s.overlap.binder.aggregate? i = some q ∧ Dict.get? q.result f.label.name = some (.ofResult answer)

section

variable {i timeout : Nat} {s : AggregateSession S} {t : AggregateTraffic}

theorem Tracks.exists_sends (h : Tracks i timeout s t) {k : Nat} (hk : k < t.requests.length) :
    ∃ f a, s.overlap.begun[k]? = some f ∧ t.requests[k]? = some a ∧ Sends i timeout f a := by
  have hf := List.getElem?_eq_getElem (h.length_eq ▸ hk)
  have ha := List.getElem?_eq_getElem hk
  exact ⟨_, _, hf, ha, h.sends hf ha⟩

theorem Tracks.name?_eq (h : Tracks i timeout s t) (k : Nat) : s.name? k = (t.requests[k]?).map (·.name) := by
  unfold name?
  rcases Nat.lt_or_ge k t.requests.length with hk | hk
  · obtain ⟨f, a, hf, ha, hfa⟩ := h.exists_sends hk
    rw [hf, ha, Option.map_some, Option.map_some, hfa.name_eq]
  · rw [List.getElem?_eq_none hk, List.getElem?_eq_none (h.length_eq ▸ hk)]
    rfl

theorem Tracks.alone?_eq (h : Tracks i timeout s t) (k : Nat) : s.alone? k = (t.requests[k]?).map (·.alone) := by
  unfold alone?
  rcases Nat.lt_or_ge k t.requests.length with hk | hk
  · obtain ⟨f, a, hf, ha, hfa⟩ := h.exists_sends hk
    rw [hf, ha, Option.map_some, Option.map_some, hfa.alone_eq]
  · rw [List.getElem?_eq_none hk, List.getElem?_eq_none (h.length_eq ▸ hk)]
    rfl

theorem Tracks.lt_iff (h : Tracks i timeout s t) {x y : Nat} (hxy : Republished s.announced x y)
    (hname : s.name? x = s.name? y) : y < x ↔ s.alone? x = some true ∧ s.alone? y = some false := by
  rw [h.announced_eq] at hxy
  obtain ⟨-, a, -, ha, -⟩ := h.exists_sends (h.inv.placed hxy.mem_left)
  obtain ⟨-, c, -, hc, -⟩ := h.exists_sends (h.inv.placed hxy.mem_right)
  rw [h.name?_eq, h.name?_eq, ha, hc] at hname
  rw [h.alone?_eq, h.alone?_eq, ha, hc]
  simpa using h.inv.republished hxy ha hc (Option.some.inj hname)

/-- A session keeps the order unless it relapses. -/
theorem Tracks.keepsOrder_iff (h : Tracks i timeout s t) : s.KeepsOrder ↔ ∀ x y, ¬ s.Relapses x y := by
  constructor
  · rintro ⟨hkeeps, -⟩ x y ⟨hxy, hname, hparts⟩
    exact hkeeps x y hxy hname ((h.lt_iff hxy hname).mpr hparts)
  · intro hnever
    refine ⟨fun x y hxy hname hlt => hnever x y ⟨hxy, hname, (h.lt_iff hxy hname).mp hlt⟩, ?_⟩
    intro start y hstart
    rw [h.announced_eq] at hstart
    exact h.inv.restarted hstart

theorem Stands.shows_last {queries : Dict QueryDescriptor} (h : Stands i timeout queries s t) (hquiet : s.Quiet)
    {k : Nat} (hk : k < s.overlap.begun.length) (hlast : s.IsLast k) :
    ∃ x, s.Shows i timeout x ∧ s.name? x = s.name? k ∧ (x = k ∨ s.Relapses k x) := by
  obtain ⟨f, a, hf, ha, hfa⟩ := h.exists_sends (h.length_eq ▸ hk)
  have harrived : k ∈ t.arrived := by
    apply Classical.byContradiction
    intro hopen
    have hwaits := (h.waits_iff hf).mpr hopen
    rw [hquiet f (List.mem_of_getElem? hf)] at hwaits
    cases hwaits
  have hlast' {j : Nat} {c : AggregateRequest} (hc : t.requests[j]? = some c) (hname : c.name = a.name) : j ≤ k := by
    refine hlast j ?_
    rw [h.name?_eq, h.name?_eq, hc, ha, Option.map_some, Option.map_some, hname]
  obtain ⟨x, c, hx, hname, hshown, hlater⟩ :=
    h.inv.shown_last ha hlast' (h.covers _ (h.declared ha)) harrived
  obtain ⟨g, -, hg, -, -⟩ := h.exists_sends (List.getElem?_eq_some_iff.mp hx).1
  have hgc := h.sends hg hx
  have hname' : s.name? k = s.name? x := by
    rw [h.name?_eq, h.name?_eq, hx, ha, Option.map_some, Option.map_some, hname]
  refine ⟨x, ⟨g, c.answer, t.query, hg, hgc.answer_eq, h.here, ?_⟩, hname'.symm, ?_⟩
  · rw [hgc.name_eq, hname]
    exact hshown
  · rcases hlater with heq | ⟨halone, hpart, hlater⟩
    · exact .inl heq
    · refine .inr ⟨h.announced_eq ▸ hlater, hname', ?_, ?_⟩
      · rw [h.alone?_eq, ha, Option.map_some, halone]
      · rw [h.alone?_eq, hx, Option.map_some, hpart]

end

/-- However the fetches of an aggregate overlap, the answers for each name are published in the order of their
requests if and only if none of them relapses. When nothing is under way any more, each name shows the answer to its
last request, or the one to the part of the whole to which it has relapsed. -/
theorem published_order [DataSource S] {b : Binder (Logged S)} {i : Nat} {queries : Dict QueryDescriptor}
    {entityId : Option String} (hb : b.aggregate? i = some (.ofQueries queries entityId))
    (hnames : (Dict.keys queries).Nodup) (moves : List (Move S i)) :
    let s := run moves { overlap := { binder := b } }
    (s.KeepsOrder ↔ ∀ x y, ¬ s.Relapses x y) ∧
    (∀ x y, Republished s.announced x y → s.name? x = s.name? y →
      (y < x ↔ s.alone? x = some true ∧ s.alone? y = some false)) ∧
    (s.Quiet → ∀ k < s.overlap.begun.length, s.IsLast k →
      ∃ x, s.Shows i b.timeout x ∧ s.name? x = s.name? k ∧ (x = k ∨ s.Relapses k x)) := by
  obtain ⟨t, h⟩ := (stands_initial hb).run hnames moves
  exact ⟨h.keepsOrder_iff, fun x y hxy hname => h.lt_iff hxy hname, fun hquiet k hk hlast =>
    h.shows_last hquiet hk hlast⟩

/-- An aggregate of one name, and a source whose first answer is slower than its second. -/
def overtaking : Binder (Logged Scripted) where
  source := { source := { script := [
    ("q", [{ delay := some 100, result := some (.ok (.string "old")) },
      { delay := some 10, result := some (.ok (.string "new")) }])] } }
  queries := [{ query := .aggregate (.ofQueries [("a", { queryKey := "q" })] none) }]

/-- A name that is fetched alone after its part of the whole was answered shows the newer answer. -/
theorem published_order_overtaking :
    let s := run (i := 0) [.fetch, .arrive 0, .invalidate "q", .arrive 1] { overlap := { binder := overtaking } }
    s.KeepsOrder ∧ s.Shows 0 5000 1 := by
  have hnever : ∀ x y, ¬ (run (i := 0) [.fetch, .arrive 0, .invalidate "q", .arrive 1]
      { overlap := { binder := overtaking } }).Relapses x y := by
    rintro x y ⟨⟨before, after, hannounced, hx⟩, -, hx', hy'⟩
    match before with
    | [] => cases hannounced
    | [_] => cases hannounced; cases hx
    | [_, _] => cases hannounced; cases hy'
    | _ :: _ :: _ :: rest =>
      have hlength : 3 = _ := congrArg List.length hannounced
      simp at hlength
  obtain ⟨hkeeps, -, hlast⟩ := published_order (i := 0) (b := overtaking) rfl (by decide)
    [.fetch, .arrive 0, .invalidate "q", .arrive 1]
  obtain ⟨x, hshows, -, rfl | hrelapses⟩ := hlast (by decide) 1 (by decide) fun j hj => match j with
    | 0 => Nat.zero_le 1
    | 1 => Nat.le_refl 1
    | _ + 2 => nomatch hj
  · exact ⟨hkeeps.mpr hnever, hshows⟩
  · exact absurd hrelapses (hnever 1 x)

/-- A name that is fetched alone while its part of the whole is under way may show the older answer in the end. -/
theorem relapses_overtaking :
    let s := run (i := 0) [.fetch, .refetch "a", .arrive 1, .arrive 0] { overlap := { binder := overtaking } }
    s.Quiet ∧ s.IsLast 1 ∧ ¬ s.KeepsOrder ∧ ¬ s.Shows 0 5000 1 := by
  refine ⟨?_, ?_, ?_, ?_⟩
  · decide
  · intro j hj
    match j with
    | 0 => exact Nat.zero_le 1
    | 1 => exact Nat.le_refl 1
    | _ + 2 => cases hj
  · rintro ⟨hkeeps, -⟩
    exact hkeeps 1 0 ⟨[.reset 0, .published 1], [], rfl, by decide⟩ rfl (by decide)
  · rintro ⟨f, answer, q, hf, hanswer, hq, hshown⟩
    cases hf
    cases hanswer
    cases hq
    revert hshown
    decide

end AggregateSession

end RecordScreens
