import RecordScreens.Source.Store

/-!
# What calls change in a store

Only a call that sets a status changes a collection, be it a query or a mutation: its
key is routed there, and its parameters have an id and a status.
-/

namespace RecordScreens.Store

variable {s t : Store} {collection key message id : String} {params status r : Json}

/-! ## Changes of a status -/

theorem setStatus_of_find? (hid : (params.get? "id").bind Json.asString? = some id)
    (hstatus : params.get? "status" = some status) (hr : find? (s.records collection) id = some r) :
    s.setStatus key collection params = .ok (withStatus status r,
      Dict.insert s.collections collection (updateFirst id (withStatus status) (s.records collection))) := by
  unfold setStatus
  rw [hid, hstatus]
  simp only [hr]
  rfl

/-! ## Calls -/

/-- Whether a call sets a status in a collection if it finds its record. -/
def Sets (s : Store) (collection key : String) (params : Json) : Prop :=
  Dict.get? s.routes key = some (.setStatus collection) ∧
    (∃ id, (params.get? "id").bind Json.asString? = some id) ∧ ∃ status, params.get? "status" = some status

theorem sets_congr (h : s.routes = t.routes) : s.Sets collection key params ↔ t.Sets collection key params := by
  unfold Sets
  rw [h]

@[simp] theorem routes_call : (call key params s).2.routes = s.routes := rfl

/-- All that a call can do: it changes the first value with an id, or nothing. -/
theorem call_cases (key : String) (params : Json) (s : Store) :
    (call key params s).2.collections = s.collections ∨
    ∃ collection id status r, Dict.get? s.routes key = some (.setStatus collection) ∧
      (params.get? "id").bind Json.asString? = some id ∧ params.get? "status" = some status ∧
      find? (s.records collection) id = some r ∧ (call key params s).1 = .ok (withStatus status r) ∧
      (call key params s).2.collections =
        Dict.insert s.collections collection (updateFirst id (withStatus status) (s.records collection)) := by
  simp only [call]
  cases hroute : Dict.get? s.routes key with
  | none => exact .inl rfl
  | some route =>
    cases route with
    | setStatus collection =>
      simp only [lookUp, collectionsAfter]
      cases hset : s.setStatus key collection params with
      | error e => exact .inl rfl
      | ok found =>
        unfold setStatus at hset
        split at hset
        · rename_i id status hid hstatus
          cases hr : find? (s.records collection) id with
          | none =>
            rw [hr] at hset
            cases hset
          | some r =>
            rw [hr] at hset
            cases hset
            exact .inr ⟨collection, id, status, r, rfl, hid, hstatus, hr, rfl, rfl⟩
        · cases hset
    | _ => exact .inl rfl

/-- A call that sets no status in a collection leaves it as it is. -/
theorem records_call (h : ¬ s.Sets collection key params) :
    (call key params s).2.records collection = s.records collection := by
  unfold records
  rcases call_cases key params s with hsame | ⟨other, id, status, r, hroute, hid, hstatus, -, -, hchanged⟩
  · rw [hsame]
  · have hother : other ≠ collection := by
      rintro rfl
      exact h ⟨hroute, ⟨id, hid⟩, status, hstatus⟩
    rw [hchanged, Dict.get?_insert_of_ne _ _ hother]

/-- A call that sets the status of a record that is there. -/
theorem call_setStatus (hroute : Dict.get? s.routes key = some (.setStatus collection))
    (hid : (params.get? "id").bind Json.asString? = some id) (hstatus : params.get? "status" = some status)
    (hr : find? (s.records collection) id = some r) :
    (call key params s).1 = .ok (withStatus status r) ∧
      (call key params s).2.records collection = updateFirst id (withStatus status) (s.records collection) := by
  have hset : s.setStatus key collection params = _ := setStatus_of_find? hid hstatus hr
  constructor
  · simp [call, hroute, lookUp, hset, Except.map]
  · simp [call, hroute, collectionsAfter, hset, records]

/-- A call that is to set the status of a record that is not there. -/
theorem call_setStatus_of_none (hroute : Dict.get? s.routes key = some (.setStatus collection))
    (hid : (params.get? "id").bind Json.asString? = some id) (hstatus : params.get? "status" = some status)
    (hr : find? (s.records collection) id = none) : (call key params s).1 = failed key (notFound id) := by
  have hset : s.setStatus key collection params = failed key (notFound id) := by
    unfold setStatus
    rw [hid, hstatus]
    simp only [hr]
    rfl
  simp only [call, hroute, lookUp, hset]
  rfl

/-- A status that cannot be set is a failure of the store, and no answer that is not read. -/
theorem source_of_setStatus {e : QueryError} (hroute : Dict.get? s.routes key = some (.setStatus collection))
    (h : (call key params s).1 = .error e) : ∃ message, e = .source key message := by
  simp only [call, hroute, lookUp] at h
  unfold setStatus at h
  split at h
  · rename_i id status hid hstatus
    cases hfound : find? (s.records collection) id with
    | none =>
      rw [hfound] at h
      cases h
      exact ⟨_, rfl⟩
    | some r =>
      rw [hfound] at h
      cases h
  · cases h
    exact ⟨_, rfl⟩

theorem call_fail (hroute : Dict.get? s.routes key = some (.fail message)) :
    (call key params s).1 = failed key message := by
  simp [call, hroute, lookUp]

/-! ## Failures -/

/-- A key that fails sets nothing any more, and the others are served as before. -/
theorem sets_of_sets_fail {failing : String} (h : (s.fail failing message).Sets collection key params) :
    s.Sets collection key params := by
  obtain ⟨hroute, hparams⟩ := h
  refine ⟨?_, hparams⟩
  by_cases hkey : failing = key
  · simp [fail, withRoute, hkey] at hroute
  · rwa [fail, withRoute, Dict.get?_insert_of_ne _ _ hkey] at hroute

/-! ## Calls that only read -/

variable {u : Store}

/-- The second store has the collections and routes of the first one, whatever it was asked in the meantime. -/
structure Same (s t : Store) : Prop where
  collections : t.collections = s.collections
  routes : t.routes = s.routes

theorem Same.refl (s : Store) : s.Same s := ⟨rfl, rfl⟩

theorem Same.trans (h : s.Same t) (h' : t.Same u) : s.Same u :=
  ⟨h'.collections.trans h.collections, h'.routes.trans h.routes⟩

theorem Same.call_eq (h : s.Same t) (key : String) (params : Json) : (call key params t).1 = (call key params s).1 := by
  obtain ⟨collections, routes, calls⟩ := s
  obtain ⟨collections', routes', calls'⟩ := t
  obtain ⟨rfl, rfl⟩ := h
  rfl

/-- A key that sets no status only reads. -/
def OnlyReads (s : Store) (key : String) : Prop := ∀ collection, Dict.get? s.routes key ≠ some (.setStatus collection)

theorem Same.call (h : s.OnlyReads key) (params : Json) : s.Same (call key params s).2 := by
  refine ⟨?_, rfl⟩
  rcases call_cases key params s with hsame | ⟨collection, _, _, _, hroute, -⟩
  · exact hsame
  · exact (h collection hroute).elim

theorem OnlyReads.of_same (h : s.OnlyReads key) (hsame : s.Same t) : t.OnlyReads key :=
  fun collection => hsame.routes ▸ h collection

end RecordScreens.Store
