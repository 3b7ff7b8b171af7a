import RecordScreens.Listing.Screen
import RecordScreens.Proofs.Detail.Load
import RecordScreens.Proofs.Listing.Inputs
import RecordScreens.Proofs.Listing.Pages
import RecordScreens.Proofs.Query.LastFetch
import RecordScreens.Proofs.Query.Requests

/-!
# What list queries send

However the fetches of a list query overlap, and whatever the user of a list screen enters, each fetch sends one object
of parameters, and the list route of a store reads from it what the fetch was for.
-/

namespace RecordScreens

open Routine

variable {S R : Type}

/-! ## List queries -/

namespace ListQuery

open Overlap

variable {i : Nat} {o : Overlap S ListParams FetchOutcome}

/-- A fetch asks for the page that it is given, and a refetch for a page that was asked for before, or for the first
one. So all numbers are machine words if those of the given pages are. -/
theorem inWords_move [DataSource S] {m : Move S ListCall i} (hm : ∀ p, m = .begin (.fetch p) → p.InWords)
    (h : ∀ f ∈ o.begun, f.label.InWords) : ∀ f ∈ (o.move (fetching i) m).begun, f.label.InWords := by
  cases m with
  | begin call =>
    have hlabel : (call.params (o.newest?.map (·.label))).InWords := by
      cases call with
      | fetch p => exact hm p rfl
      | refetch =>
        cases hnewest : o.newest? with
        | none => exact ListParams.inWords_default
        | some f => exact h f (List.mem_of_getLast? hnewest)
    intro f hf
    rcases List.mem_append.mp hf with hf | hf
    · exact h f hf
    · obtain rfl := List.mem_singleton.mp hf
      exact hlabel
  | arrive k =>
    intro f hf
    change f ∈ (o.arrive k).begun at hf
    unfold arrive at hf
    split at hf
    · rename_i g hg
      -- The fetch whose answer arrives keeps its page.
      rcases List.mem_or_eq_of_mem_set hf with hf | rfl
      · exact h f hf
      · exact h g (List.mem_of_getElem? hg)
    · exact h f hf
  | elsewhere e => exact h

theorem inWords_run [DataSource S] {moves : List (Move S ListCall i)}
    (hmoves : ∀ p, .begin (.fetch p) ∈ moves → p.InWords) (h : ∀ f ∈ o.begun, f.label.InWords) :
    ∀ f ∈ (o.run (fetching i) moves).begun, f.label.InWords := by
  induction moves generalizing o with
  | nil => exact h
  | cons m rest ih =>
    refine ih (fun p hp => hmoves p (List.mem_cons_of_mem m hp)) (inWords_move ?_ h)
    rintro p rfl
    exact hmoves p List.mem_cons_self

end ListQuery

/-! ## List screens -/

/-- Others may do anything. -/
def Terms.free (σ : Type) : Terms σ where
  rely _ _ := True
  guarantee _ _ := True
  rely_refl _ := trivial
  rely_trans _ _ := trivial

namespace Binder

/-- A fetch of a list asks once, whatever others do. -/
theorem asks_fetchList [DataSource S] {b : Binder (Logged S)} {i : Nat} {q : ListQuery}
    (hq : b.slot? i = some (.list q)) (p : ListParams) (time : Nat) :
    (fetchList i p).Ensures (.free _) (Asked fun taken _ => ∃ reply, taken = [⟨⟨.query, q.key, p.toQuery⟩, reply⟩])
      time b := by
  unfold fetchList
  refine asked_act trivial rfl ?_
  simp only [id, list?_of_slot? hq]
  refine asked_act trivial rfl ?_
  refine asked_query trivial trivial fun time b' _ => ?_
  exact asked_act trivial (source_settleList ..) ⟨_, rfl⟩

end Binder

namespace ListScreen

/-- A screen asks for its page once, whatever others do. -/
theorem called_refresh [DataSource S] {s : ListScreen R} {e : Engine (Logged S)} {q : ListQuery}
    (hq : e.binder.list? s.query = some q) (others : Nat → Engine (Logged S) → Engine (Logged S)) (time : Nat) :
    ∃ reply, (s.refresh.beside others time e).steps.flatMap (·.called) =
      [⟨⟨.query, q.key, s.params.toQuery⟩, reply⟩] := by
  have hensures : (Engine.onBinder _).Ensures _ _ time e :=
    (Binder.asks_fetchList (Binder.slot?_of_list? hq) s.params time).zoom fun _ _ => rfl
  have hothers : ∀ n e, (Terms.free (Binder (Logged S))).rely e.binder (others n e).binder := fun _ _ => trivial
  obtain ⟨-, reply, hasked⟩ := hensures.beside hothers
  rw [List.flatMap_map] at hasked
  exact ⟨reply, hasked⟩

end ListScreen

/-! ## The law -/

/-- The two forms of parameters are one, and parameters whose numbers are machine words are read back from it, so that a
store answers with the stretch that they mean. Each fetch of a list query, in whatever way fetches overlap, sends such
parameters once and nothing else: those that it was given or, for a refetch, those of the fetch before. So does each
fetch of a list screen, whatever was entered and whatever else goes on, with the filters, the order and the page that it
shows. -/
theorem ListParams.read_as_sent [DataSource S] :
    (∀ p : ListParams, p.toQuery = p.encode) ∧
    (∀ p : ListParams, p.InWords → decode p.toQuery = some p ∧
      ∀ (s : Store) (key collection : String) (fields : List String),
        Dict.get? s.routes key = some (.list collection fields) →
        (s.call key p.toQuery).1 = .ok (Source.page fields p (s.records collection))) ∧
    (∀ (b : Binder (Logged S)) (i : Nat) (key : String) (fullForm? : Json → Option Json),
      b.list? i = some { key, fullForm? } → ∀ moves : List (Overlap.Move S ListCall i),
        (∀ p, .begin (.fetch p) ∈ moves → p.InWords) →
        ∀ f ∈ (Overlap.run (ListQuery.fetching i) moves { binder := b }).begun,
          f.label.InWords ∧ ∃ reply, f.asked = [⟨⟨.query, key, f.label.toQuery⟩, reply⟩]) ∧
    ∀ (s : ListScreen R) (e : Engine (Logged S)) (q : ListQuery), e.binder.list? s.query = some q →
      s.config.pageSize < Nat.pow 2 64 → s.page * s.config.pageSize < Nat.pow 2 64 →
      s.params.InWords ∧ ∀ (others : Nat → Engine (Logged S) → Engine (Logged S)) (time : Nat), ∃ reply,
        (s.refresh.beside others time e).steps.flatMap (·.called) = [⟨⟨.query, q.key, s.params.toQuery⟩, reply⟩] := by
  refine ⟨toQuery_eq_encode, fun p hwords => ?_, fun b i key fullForm? hq moves hmoves f hf => ?_,
    fun s e q hq hsize hoffset => ?_⟩
  · have hread : decode p.toQuery = some p := decode_toQuery hwords
    exact ⟨hread, fun s key collection fields hroute => Store.call_list hroute hread⟩
  · obtain ⟨q, hfollows⟩ := ListQuery.follows_run hq moves
    obtain ⟨-, reply, hasked, -⟩ := hfollows.lastWins.asks f hf
    exact ⟨ListQuery.inWords_run hmoves (fun _ h => absurd h List.not_mem_nil) f hf, reply, hasked⟩
  · exact ⟨ListScreen.inWords_params hsize hoffset, ListScreen.called_refresh hq⟩

/-- The open deals are asked for in descending order, without the first one of them, and then asked for again. A store
finds the other two, of three in all, and both queries say the same. -/
theorem ListParams.read_as_sent_deals :
    let p : ListParams := {
      filters := [("stage", .string "open")], sortBy := some "id", sortOrder := .desc, limit := some 2, offset := 1 }
    let deal (id : String) : Json := .object [("id", .string id), ("stage", .string "open")]
    let moves : List (Overlap.Move Scripted ListCall 0) := [.begin (.fetch p), .begin .refetch]
    decode p.toQuery = some p ∧
      (Store.call "deals" p.toQuery ListQuery.deals).1 =
        .ok (.object [("items", .array [deal "c", deal "a"]), ("total", .ofNat 3)]) ∧
      (Overlap.run (ListQuery.fetching 0) moves { binder := reordered }).begun.length = 2 ∧
      ∀ f ∈ (Overlap.run (ListQuery.fetching 0) moves { binder := reordered }).begun,
        f.asked.map (·.call) = [⟨.query, "page", p.encode⟩] := by
  intro p deal moves
  obtain ⟨hforms, hreads, hlists, -⟩ := ListParams.read_as_sent (S := Scripted) (R := Candidate)
  have hwords : p.InWords := by
    refine ⟨?_, by decide⟩
    rintro n ⟨⟩
    decide
  obtain ⟨hread, hstore⟩ := hreads p hwords
  have hpage : Source.page ["id"] p (ListQuery.deals.records "deals") =
      .object [("items", .array [deal "c", deal "a"]), ("total", .ofNat 3)] := by
    have hsorted : Source.sortByField "id" [deal "a", deal "c", deal "d"] = [deal "a", deal "c", deal "d"] :=
      List.mergeSort_of_pairwise (by decide +kernel)
    have hmatching : (ListQuery.deals.records "deals").filter (Source.matchesAll ["id"] p.filters) =
        [deal "a", deal "c", deal "d"] := by decide +kernel
    simp only [Source.page, Source.found, hmatching, p, hsorted]
    decide +kernel
  have hsent := hlists reordered 0 "page" some rfl moves fun p' hp' => by
    obtain rfl : p' = p := by simpa [moves] using hp'
    exact hwords
  refine ⟨hread, hpage ▸ hstore ListQuery.deals "deals" "deals" ["id"] rfl, rfl, ?_⟩
  intro f hf
  obtain ⟨-, reply, hasked⟩ := hsent f hf
  have hlabels : (Overlap.run (ListQuery.fetching 0) moves { binder := reordered }).begun.map (·.label) = [p, p] := rfl
  have hlabel : f.label = p := by simpa [hlabels] using List.mem_map_of_mem (f := (·.label)) hf
  rw [hasked, hlabel, hforms]
  rfl

end RecordScreens
