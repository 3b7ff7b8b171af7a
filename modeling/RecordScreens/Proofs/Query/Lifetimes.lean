import RecordScreens.Proofs.Query.Refetch
import RecordScreens.Proofs.Query.Refreshed

/-!
# Queries that come and go

Queries are made on a binder and dropped again, and in between anything may become of
what they know. A query is held from when it is made until it is dropped.
-/

namespace RecordScreens

/-- A query as it is asked for. -/
inductive NewQuery where
  | list (key : String) (fullForm? : Json → Option Json)
  | record (key id : String) (fullForm? : Json → Option Json)
  | aggregate (queries : List (String × QueryDescriptor)) (entityId : Option String)

/-- The query as it is handed out. -/
def NewQuery.query : NewQuery → LiveQuery
  | list key fullForm? => .list { key, fullForm? }
  | record key id fullForm? => .record { key, id, fullForm? }
  | aggregate queries entityId => .aggregate (.ofQueries (Dict.ofList queries) entityId)

theorem NewQuery.ordered (q : NewQuery) : q.query.Ordered := by
  cases q with
  | list => trivial
  | record => trivial
  | aggregate queries => exact Dict.sorted_ofList queries

theorem LiveQuery.Ordered.of_outline {q q' : LiveQuery} (h : q.Ordered) (houtline : q'.outline = q.outline) :
    q'.Ordered := by
  cases q' with
  | list => trivial
  | record => trivial
  | aggregate a =>
    obtain ⟨a', rfl, hqueries, -⟩ := outline_eq_aggregate houtline.symm
    show Dict.Sorted a.queries
    rw [← hqueries]
    exact h

namespace Binder

variable {S : Type}

/-- A change of a binder that makes no query and drops none. -/
structure Work (S : Type) where
  change : Binder S → Binder S
  outlines_eq : ∀ b, (change b).outlines = b.outlines
  held_eq : ∀ b, (change b).held = b.held

/-- What may happen to the queries of a binder. -/
inductive Event (S : Type) where
  | make (q : NewQuery)
  | drop (i : Nat)
  | work (w : Work S)

def Event.happen : Event S → Binder S → Binder S
  | make q, b => (b.register q.query).2
  | drop i, b => b.release i
  | work w, b => w.change b

def Event.made? : Event S → Option LiveQuery
  | make q => some q.query
  | _ => none

/-- The binder after a history. -/
def after (history : List (Event S)) (b : Binder S) : Binder S := history.foldl (fun b e => e.happen b) b

/-- The queries that were made in a history, each in its place. -/
def made (history : List (Event S)) : List LiveQuery := history.filterMap Event.made?

/-- The query in a place was made and has not been dropped since. -/
def Alive (history : List (Event S)) (i : Nat) : Prop :=
  ∃ earlier q later, history = earlier ++ .make q :: later ∧ (made earlier).length = i ∧ ∀ e ∈ later, e ≠ .drop i

variable {history : List (Event S)} {e : Event S} {i : Nat} {b : Binder S}

theorem made_concat : made (history ++ [e]) = made history ++ e.made?.toList := by
  cases e <;> simp [made, Event.made?]

/-- What is alive after one more event was so before and is not what the event drops, or it is what the event makes. -/
theorem alive_concat :
    Alive (history ++ [e]) i ↔ Alive history i ∧ e ≠ .drop i ∨ ∃ q, e = .make q ∧ i = (made history).length := by
  constructor
  · rintro ⟨earlier, q, later, hhistory, hlength, hkept⟩
    rcases List.eq_nil_or_concat later with rfl | ⟨later, last, rfl⟩
    · obtain ⟨rfl, hlast⟩ := List.append_inj' hhistory rfl
      exact .inr ⟨q, List.singleton_inj.mp hlast, hlength.symm⟩
    · have hsplit : history ++ [e] = (earlier ++ .make q :: later) ++ [last] := by simpa using hhistory
      obtain ⟨rfl, hlast⟩ := List.append_inj' hsplit rfl
      obtain rfl := List.singleton_inj.mp hlast
      refine .inl ⟨⟨earlier, q, later, rfl, hlength, fun e' he' => hkept e' (by simp [he'])⟩, hkept e (by simp)⟩
  · rintro (⟨⟨earlier, q, later, rfl, hlength, hkept⟩, hlast⟩ | ⟨q, rfl, rfl⟩)
    · refine ⟨earlier, q, later ++ [e], by simp, hlength, ?_⟩
      exact List.forall_mem_append.mpr ⟨hkept, List.forall_mem_singleton.mpr hlast⟩
    · exact ⟨history, q, [], rfl, rfl, nofun⟩

theorem Alive.lt (h : Alive history i) : i < (made history).length := by
  obtain ⟨earlier, q, later, rfl, rfl, -⟩ := h
  simp [made, Event.made?]

/-- A binder with the queries that were made, one holder for each that is alive and none for the others. -/
structure Lives (history : List (Event S)) (b : Binder S) : Prop where
  outlines_eq : b.outlines = (made history).map (·.outline)
  held_iff : ∀ {i n : Nat}, b.held[i]? = some n → n ≤ 1 ∧ (0 < n ↔ Alive history i)

theorem Lives.length_eq (h : Lives history b) : b.held.length = (made history).length := by
  have hlength : b.held.length = b.outlines.length := by simp [held, outlines]
  rw [hlength, h.outlines_eq, List.length_map]

theorem Lives.make (h : Lives history b) (q : NewQuery) :
    Lives (history ++ [.make q]) (b.register q.query).2 where
  outlines_eq := by
    rw [made_concat, List.map_append, ← h.outlines_eq]
    simp [outlines, register, Event.made?]
  held_iff {i n} hn := by
    rw [alive_concat]
    have hheld : (b.register q.query).2.held = b.held ++ [1] := by simp [held, register]
    rw [hheld] at hn
    rcases getElem?_concat_cases hn with hn | ⟨rfl, rfl⟩
    · have hlt : i < b.held.length := (List.getElem?_eq_some_iff.mp hn).1
      obtain ⟨hle, hiff⟩ := h.held_iff hn
      refine ⟨hle, hiff.trans ⟨fun halive => .inl ⟨halive, by simp⟩, ?_⟩⟩
      rintro (⟨halive, -⟩ | ⟨-, -, hi⟩)
      · exact halive
      · exact absurd hi (h.length_eq ▸ Nat.ne_of_lt hlt)
    · exact ⟨Nat.le_refl _, fun _ => .inr ⟨q, rfl, h.length_eq⟩, fun _ => Nat.one_pos⟩

theorem Lives.drop (h : Lives history b) (i : Nat) : Lives (history ++ [.drop i]) (b.release i) where
  outlines_eq := by
    rw [made_concat, outlines_release, h.outlines_eq]
    simp [Event.made?]
  held_iff {j n} hn := by
    rw [alive_concat]
    rw [held_release, List.getElem?_modify] at hn
    obtain ⟨m, hm, rfl⟩ := Option.map_eq_some_iff.mp hn
    obtain ⟨hle, hiff⟩ := h.held_iff hm
    -- There was one holder at most, so nobody is left where one was taken away.
    by_cases hij : i = j
    · subst hij
      have hnone : m - 1 = 0 := Nat.sub_eq_zero_of_le hle
      simp [hnone]
    · simpa [hij] using ⟨hle, hiff⟩

theorem Lives.work (h : Lives history b) (w : Work S) : Lives (history ++ [.work w]) (w.change b) where
  outlines_eq := by
    rw [made_concat, w.outlines_eq, h.outlines_eq]
    simp [Event.made?]
  held_iff {i n} hn := by
    rw [w.held_eq] at hn
    obtain ⟨hle, hiff⟩ := h.held_iff hn
    refine ⟨hle, hiff.trans ?_⟩
    rw [alive_concat]
    simp

/-- After any history, what was made is there, and what is alive is held. -/
theorem lives_after (history : List (Event S)) {b : Binder S} (hb : b.queries = []) :
    Lives history (after history b) := by
  induction history using List.reverseRecOn with
  | nil => exact ⟨by simp [after, outlines, made, hb], fun hn => by simp [after, held, hb] at hn⟩
  | append_singleton history e ih =>
    have hafter : after (history ++ [e]) b = e.happen (after history b) := by simp [after]
    rw [hafter]
    cases e with
    | make q => exact ih.make q
    | drop i => exact ih.drop i
    | work w => exact ih.work w

end Binder

end RecordScreens
