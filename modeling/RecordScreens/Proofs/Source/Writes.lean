import RecordScreens.Proofs.Dict
import RecordScreens.Proofs.Source.Changes
import RecordScreens.Source.Scripted

/-!
# What is read back from a store

A store keeps a list of values for each collection and finds a value in it by its id,
which need not be there, need not be a string and may repeat. A change of status finds
the same value that a look-up by id finds, and leaves its id as it is. So the value that
it answers is found from then on, until the status is set again.
-/

namespace RecordScreens

/-- Sends a call to a source. -/
def SourceCall.send {S : Type} [DataSource S] (c : SourceCall) (s : S) : Reply × S :=
  match c.kind with
  | .query => DataSource.query c.key c.params s
  | .mutate => DataSource.mutate c.key c.params s

/-- The id that the parameters of a call name. -/
def SourceCall.recordId? (c : SourceCall) : Option String := (c.params.get? "id").bind Json.asString?

namespace Store

variable {s : Store} {collection id : String} {status r : Json} {records : List Json}

/-- The store after calls, one after the other. -/
def after (s : Store) (calls : List SourceCall) : Store := calls.foldl (fun s c => (c.send s).2) s

theorem send_eq (c : SourceCall) (s : Store) :
    c.send s = (⟨(call c.key c.params s).1, none⟩, (call c.key c.params s).2) := by
  unfold SourceCall.send
  cases c.kind <;> rfl

/-- Calls are logged in order, whatever they answer, and serve no key in another way. -/
theorem calls_after (s : Store) (calls : List SourceCall) :
    (s.after calls).calls = s.calls ++ calls.map (fun c => (c.key, c.params)) ∧ (s.after calls).routes = s.routes := by
  induction calls generalizing s with
  | nil => exact ⟨(List.append_nil _).symm, rfl⟩
  | cons c rest ih =>
    obtain ⟨hcalls, hroutes⟩ := ih (c.send s).2
    rw [send_eq] at hcalls hroutes
    refine ⟨?_, ?_⟩
    · simpa [after, send_eq, call] using hcalls
    · simpa [after, send_eq] using hroutes

/-! ## Changes in a list -/

theorem idOf?_withStatus (status r : Json) : idOf? (withStatus status r) = idOf? r := by
  cases r with
  | object members =>
    have hid : Dict.get? (Dict.insert members "status" status) "id" = Dict.get? members "id" :=
      Dict.get?_insert_of_ne _ _ (by decide)
    simp only [idOf?, withStatus, Json.get?, hid]
  | _ => rfl

/-- Only an object has an id. -/
theorem object_of_idOf? (h : idOf? r = some id) : ∃ members, r = .object members := by
  cases r with
  | object members => exact ⟨members, rfl⟩
  | _ => cases h

/-- The first value with an id splits the list, and it is the one that a change is about. -/
theorem updateFirst_of_find? (h : find? records id = some r) (change : Json → Json) :
    idOf? r = some id ∧ ∃ earlier later, records = earlier ++ r :: later ∧ (∀ r' ∈ earlier, idOf? r' ≠ some id) ∧
      updateFirst id change records = earlier ++ change r :: later := by
  induction records with
  | nil => cases h
  | cons first rest ih =>
    by_cases hid : idOf? first = some id
    · simp only [find?, List.find?_cons, hid, beq_self_eq_true, Option.some.injEq] at h
      subst h
      exact ⟨hid, [], rest, rfl, nofun, by simp [updateFirst, hid]⟩
    · have hfirst : (idOf? first == some id) = false := beq_false_of_ne hid
      simp only [find?, List.find?_cons, hfirst] at h
      obtain ⟨hr, earlier, later, rfl, hearlier, hupdate⟩ := ih h
      refine ⟨hr, first :: earlier, later, rfl, ?_, by simp [updateFirst, hid, hupdate]⟩
      rintro r' (_ | ⟨_, hr'⟩)
      · exact hid
      · exact hearlier r' hr'

theorem find?_append_cons {earlier later : List Json} (hearlier : ∀ r' ∈ earlier, idOf? r' ≠ some id)
    (hr : idOf? r = some id) : find? (earlier ++ r :: later) id = some r := by
  have hnone : earlier.find? (fun r' => idOf? r' == some id) = none :=
    List.find?_eq_none.mpr fun r' hr' => by simpa using hearlier r' hr'
  simp [find?, List.find?_append, hnone, hr]

theorem find?_isSome_iff : (∃ r, find? records id = some r) ↔ ∃ r ∈ records, idOf? r = some id := by
  rw [← Option.isSome_iff_exists, find?, List.find?_isSome]
  simp

theorem find?_updateFirst_of_ne {other : String} (h : other ≠ id) {change : Json → Json}
    (hchange : ∀ r, idOf? (change r) = idOf? r) (records : List Json) :
    find? (updateFirst other change records) id = find? records id := by
  induction records with
  | nil => rfl
  | cons first rest ih =>
    by_cases hid : idOf? first = some other
    · have hfirst : (idOf? first == some id) = false := beq_false_of_ne (by simp [hid, h])
      simp [updateFirst, hid, find?, hchange, h]
    · simp only [find?] at ih
      simp [updateFirst, hid, find?, List.find?_cons, ih]

/-! ## Calls -/

/-- A call that sets the status of the value with an id in a collection, if it is there. -/
def Writes (s : Store) (collection id : String) (c : SourceCall) : Prop :=
  Dict.get? s.routes c.key = some (.setStatus collection) ∧ c.recordId? = some id ∧
    ∃ status, c.params.get? "status" = some status

/-- Another call leaves what is found for the id. -/
theorem find?_send {c : SourceCall} (h : ¬ s.Writes collection id c) :
    find? ((c.send s).2.records collection) id = find? (s.records collection) id := by
  rw [send_eq, records, records]
  rcases call_cases c.key c.params s with hsame | ⟨other, id', status, r, hroute, hid, hstatus, -, -, hchanged⟩
  · rw [hsame]
  · rw [hchanged]
    by_cases hother : other = collection
    · subst hother
      have hne : id' ≠ id := fun heq => h ⟨hroute, heq ▸ hid, status, hstatus⟩
      rw [Dict.get?_insert_self, Option.getD_some, find?_updateFirst_of_ne hne (idOf?_withStatus status)]
      rfl
    · rw [Dict.get?_insert_of_ne _ _ hother]

theorem find?_after {calls : List SourceCall} (h : ∀ c ∈ calls, ¬ s.Writes collection id c) :
    find? ((s.after calls).records collection) id = find? (s.records collection) id := by
  induction calls generalizing s with
  | nil => rfl
  | cons c rest ih =>
    have hroutes : (c.send s).2.routes = s.routes := (calls_after s [c]).2
    have hrest : ∀ c' ∈ rest, ¬ (c.send s).2.Writes collection id c' := by
      intro c' hc' hwrites
      exact h c' (List.mem_cons_of_mem _ hc') ⟨hroutes ▸ hwrites.1, hwrites.2⟩
    exact (ih hrest).trans (find?_send (h c List.mem_cons_self))

/-- A look-up by id answers what is found. -/
theorem send_get {c : SourceCall} (hroute : Dict.get? s.routes c.key = some (.get collection))
    (hid : c.recordId? = some id) (hr : find? (s.records collection) id = some r) : (c.send s).1.result = .ok r := by
  have hid' : (c.params.get? "id").bind Json.asString? = some id := hid
  rw [send_eq]
  simp only [call, hroute, lookUp, hid']
  exact congrArg (orFail c.key (notFound id)) hr

theorem collections_of_error {c : SourceCall} {e : QueryError} (h : (c.send s).1.result = .error e) :
    (c.send s).2.collections = s.collections := by
  rw [send_eq] at h ⊢
  rcases call_cases c.key c.params s with hsame | ⟨collection, id, status, r, -, -, -, -, hok, -⟩
  · exact hsame
  · cases hok.symm.trans h

/-- All that a call does that sets a status: it fails, or it changes the first value with the id. -/
theorem send_setStatus {c : SourceCall} (hroute : Dict.get? s.routes c.key = some (.setStatus collection))
    (hid : c.recordId? = some id) (hstatus : c.params.get? "status" = some status) :
    (find? (s.records collection) id = none ∧ (c.send s).1.result = failed c.key (notFound id)) ∨
    ∃ r, find? (s.records collection) id = some r ∧ (c.send s).1.result = .ok (withStatus status r) ∧
      (c.send s).2.collections =
        Dict.insert s.collections collection (updateFirst id (withStatus status) (s.records collection)) := by
  have hid' : (c.params.get? "id").bind Json.asString? = some id := hid
  rw [send_eq]
  simp only [call, hroute, lookUp, collectionsAfter]
  cases hr : find? (s.records collection) id with
  | none =>
    have hset : s.setStatus c.key collection c.params = failed c.key (notFound id) := by
      unfold setStatus
      rw [hid', hstatus]
      exact congrArg (· >>= _) (congrArg (orFail c.key (notFound id)) hr)
    rw [hset]
    exact .inl ⟨rfl, rfl⟩
  | some r =>
    rw [setStatus_of_find? hid' hstatus hr]
    exact .inr ⟨r, rfl, rfl, rfl⟩

/-- A status that was set is the one of the first object with the id, and the answer is what is found for the id. -/
theorem send_setStatus_ok {c : SourceCall} {v : Json} (hroute : Dict.get? s.routes c.key = some (.setStatus collection))
    (hid : c.recordId? = some id) (hstatus : c.params.get? "status" = some status)
    (hok : (c.send s).1.result = .ok v) :
    ∃ earlier members later, s.records collection = earlier ++ .object members :: later ∧
      idOf? (.object members) = some id ∧ (∀ r ∈ earlier, idOf? r ≠ some id) ∧
      v = .object (Dict.insert members "status" status) ∧
      (c.send s).2.collections = Dict.insert s.collections collection (earlier ++ v :: later) ∧
      find? (earlier ++ v :: later) id = some v := by
  rcases send_setStatus hroute hid hstatus with ⟨-, hfailed⟩ | ⟨r, hr, hanswer, hcollections⟩
  · cases hfailed.symm.trans hok
  · obtain rfl : withStatus status r = v := Except.ok.inj (hanswer.symm.trans hok)
    obtain ⟨hrid, earlier, later, hsplit, hearlier, hupdate⟩ := updateFirst_of_find? hr (withStatus status)
    obtain ⟨members, rfl⟩ := object_of_idOf? hrid
    rw [hupdate] at hcollections
    exact ⟨earlier, members, later, hsplit, hrid, hearlier, rfl, hcollections,
      find?_append_cons hearlier ((idOf?_withStatus _ _).trans hrid)⟩

/-- In every run of calls, all of them are logged in order. A call that fails, or whose key sets no status, changes no
collection. One that sets a status succeeds if and only if its collection has a value with the id. It changes the
status of the first of them and nothing else, and answers what is found for the id until it is set again. -/
theorem reads_own_writes (s₀ : Store) (calls : List SourceCall) (c : SourceCall) :
    let s := s₀.after calls
    let s' := (c.send s).2
    let answer := (c.send s).1.result
    s'.calls = s₀.calls ++ (calls ++ [c]).map (fun c => (c.key, c.params)) ∧
    (∀ e, answer = .error e → s'.collections = s.collections) ∧
    (s.OnlyReads c.key → s'.collections = s.collections) ∧
    ∀ collection id status, Dict.get? s.routes c.key = some (.setStatus collection) → c.recordId? = some id →
      c.params.get? "status" = some status →
      ((∃ v, answer = .ok v) ↔ ∃ r ∈ s.records collection, idOf? r = some id) ∧
      ∀ v, answer = .ok v →
        (∃ earlier members members' later, s.records collection = earlier ++ .object members :: later ∧
          idOf? (.object members) = some id ∧ (∀ r ∈ earlier, idOf? r ≠ some id) ∧
          s'.records collection = earlier ++ .object members' :: later ∧ v = .object members' ∧
          Dict.get? members' "status" = some status ∧
          Dict.erase members' "status" = Dict.erase members "status") ∧
        (∀ other, other ≠ collection → Dict.get? s'.collections other = Dict.get? s.collections other) ∧
        ∀ later, (∀ c' ∈ later, ¬ s'.Writes collection id c') → ∀ read : SourceCall,
          Dict.get? s'.routes read.key = some (.get collection) → read.recordId? = some id →
          (read.send (s'.after later)).1.result = .ok v := by
  intro s s' answer
  have hlogged : s'.calls = s₀.calls ++ (calls ++ [c]).map (fun c => (c.key, c.params)) := by
    have hrun : s' = s₀.after (calls ++ [c]) := by simp [s', s, after]
    rw [hrun]
    exact (calls_after s₀ _).1
  refine ⟨hlogged, fun e => collections_of_error, fun hreads => ?_, fun collection id status hroute hid hstatus => ?_⟩
  · show (c.send s).2.collections = s.collections
    rw [send_eq]
    exact (Same.call hreads c.params).collections
  · refine ⟨?_, fun v hok => ?_⟩
    · rw [← find?_isSome_iff]
      rcases send_setStatus hroute hid hstatus with ⟨hnone, hfailed⟩ | ⟨r, hr, hok, -⟩
      · refine iff_of_false ?_ (by simp [hnone])
        rintro ⟨v, hok⟩
        cases hfailed.symm.trans hok
      · exact iff_of_true ⟨_, hok⟩ ⟨r, hr⟩
    · obtain ⟨earlier, members, later, hsplit, hrid, hearlier, hv, hcollections, hfound⟩ :=
        send_setStatus_ok hroute hid hstatus hok
      have hrecords : s'.records collection = earlier ++ v :: later := by
        show (Dict.get? (c.send s).2.collections collection).getD [] = _
        rw [hcollections, Dict.get?_insert_self, Option.getD_some]
      refine ⟨⟨earlier, members, _, later, hsplit, hrid, hearlier, hv ▸ hrecords, hv, Dict.get?_insert_self ..,
        Dict.erase_insert_self ..⟩, fun other hother => ?_, fun laterCalls hkept read hget hread => ?_⟩
      · show Dict.get? (c.send s).2.collections other = _
        rw [hcollections, Dict.get?_insert_of_ne _ _ (Ne.symm hother)]
      · refine send_get ?_ hread ((find?_after hkept).trans (hrecords ▸ hfound))
        rw [(calls_after s' laterCalls).2]
        exact hget

/-- A store in which an id repeats, and in which not every value has one. -/
def tickets : Store where
  collections := [("tickets", [.null, .object [("id", .ofNat 7)],
    .object [("id", .string "a"), ("title", .string "Ink")], .object [("id", .string "a"), ("status", .string "new")]])]
  routes := [("move", .setStatus "tickets"), ("ticket", .get "tickets")]

/-- The status of a ticket is set after a call that fails, and is read after another one that does. -/
theorem reads_own_writes_tickets :
    let s := tickets.after [⟨.query, "lost", .null⟩]
    let c : SourceCall := ⟨.mutate, "move", .object [("id", .string "a"), ("status", .string "done")]⟩
    let missed : SourceCall := ⟨.mutate, "move", .object [("id", .string "b"), ("status", .string "done")]⟩
    let v : Json := .object [("id", .string "a"), ("status", .string "done"), ("title", .string "Ink")]
    let s' := (c.send s).2
    Dict.get? s.routes c.key = some (.setStatus "tickets") ∧ c.recordId? = some "a" ∧
      c.params.get? "status" = some (.string "done") ∧ (c.send s).1.result = .ok v ∧
      ¬ s'.Writes "tickets" "a" missed ∧ s'.calls.length = 2 ∧
      ((SourceCall.mk .query "ticket" (.object [("id", .string "a")])).send (s'.after [missed])).1.result = .ok v := by
  intro s c missed v s'
  obtain ⟨hlog, -, -, hset⟩ := reads_own_writes tickets [⟨.query, "lost", .null⟩] c
  have hok : (c.send s).1.result = .ok v := rfl
  have hmissed : ¬ s'.Writes "tickets" "a" missed := fun hwrites => absurd hwrites.2.1 (by decide)
  obtain ⟨-, hread⟩ := hset "tickets" "a" (.string "done") rfl rfl rfl
  obtain ⟨-, -, hfound⟩ := hread v hok
  refine ⟨rfl, rfl, rfl, hok, hmissed, congrArg List.length hlog, hfound [missed] ?_ _ rfl rfl⟩
  rintro c' (_ | ⟨_, ⟨⟩⟩)
  exact hmissed

end Store

end RecordScreens
