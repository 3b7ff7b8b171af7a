import RecordScreens.Proofs.Positions
import RecordScreens.Proofs.Routine.Bursts
import RecordScreens.Proofs.Source.Logged
import RecordScreens.Query.Binder

/-!
# Overlapping work on a binder

Routines that are begun on one binder and whose waits end in any order. Between two of
their bursts anything else may happen to the binder that leaves the query in question
as it is.
-/

namespace RecordScreens

variable {S L α β : Type}

/-! ## Queries of a binder -/

def LiveQuery.asList? : LiveQuery → Option ListQuery
  | list q => some q
  | _ => none

def LiveQuery.asRecord? : LiveQuery → Option RecordQuery
  | record q => some q
  | _ => none

def LiveQuery.asAggregate? : LiveQuery → Option AggregateQuery
  | aggregate q => some q
  | _ => none

namespace Binder

/-- The query in a place, whoever holds it. -/
def slot? (b : Binder S) (i : Nat) : Option LiveQuery := (b.queries[i]?).map (·.query)

theorem list?_eq (b : Binder S) (i : Nat) : b.list? i = (b.slot? i).bind LiveQuery.asList? := by
  unfold list? slot?
  rcases b.queries[i]? with _ | ⟨⟨q⟩ | ⟨q⟩ | ⟨q⟩, holders⟩ <;> rfl

theorem record?_eq (b : Binder S) (i : Nat) : b.record? i = (b.slot? i).bind LiveQuery.asRecord? := by
  unfold record? slot?
  rcases b.queries[i]? with _ | ⟨⟨q⟩ | ⟨q⟩ | ⟨q⟩, holders⟩ <;> rfl

theorem aggregate?_eq (b : Binder S) (i : Nat) :
    b.aggregate? i = (b.slot? i).bind LiveQuery.asAggregate? := by
  unfold aggregate? slot?
  rcases b.queries[i]? with _ | ⟨⟨q⟩ | ⟨q⟩ | ⟨q⟩, holders⟩ <;> rfl

@[simp] theorem timeout_put (b : Binder S) (i : Nat) (q : LiveQuery) : (b.put i q).timeout = b.timeout := rfl

@[simp] theorem source_put (b : Binder S) (i : Nat) (q : LiveQuery) : (b.put i q).source = b.source := rfl

theorem slot?_put_self {b : Binder S} {i : Nat} {old : LiveQuery} (q : LiveQuery) (h : b.slot? i = some old) :
    (b.put i q).slot? i = some q := by
  obtain ⟨r, hr, -⟩ := Option.map_eq_some_iff.mp h
  simp [slot?, put, hr]

theorem slot?_put_of_ne {i j : Nat} (h : i ≠ j) (b : Binder S) (q : LiveQuery) :
    (b.put i q).slot? j = b.slot? j := by
  simp [slot?, put, h]

theorem put_put (b : Binder S) (i : Nat) (q q' : LiveQuery) : (b.put i q).put i q' = b.put i q' := by
  simp [put, List.modify_modify_eq, Function.comp_def]

/-- Putting a query where it is changes nothing. -/
theorem put_self {b : Binder S} {i : Nat} {q : LiveQuery} (h : b.slot? i = some q) : b.put i q = b := by
  obtain ⟨r, hr, rfl⟩ := Option.map_eq_some_iff.mp h
  -- The place is written with the query that is there, and no other one is touched.
  have hqueries : b.queries.modify i (fun r' => { r' with query := r.query }) = b.queries := by
    apply List.ext_getElem?
    intro j
    rw [List.getElem?_modify]
    by_cases hij : i = j
    · subst hij
      simp [hr]
    · simp [hij]
  unfold put
  rw [hqueries]

theorem slot?_register_self (b : Binder S) (q : LiveQuery) : (b.register q).2.slot? b.queries.length = some q := by
  simp [slot?, register]

theorem slot?_of_list? {b : Binder S} {i : Nat} {q : ListQuery} (h : b.list? i = some q) :
    b.slot? i = some (.list q) := by
  rw [list?_eq] at h
  obtain ⟨live, hlive, hq⟩ := Option.bind_eq_some_iff.mp h
  cases live with
  | list q' => cases hq; exact hlive
  | record q' => cases hq
  | aggregate q' => cases hq

theorem slot?_of_record? {b : Binder S} {i : Nat} {q : RecordQuery} (h : b.record? i = some q) :
    b.slot? i = some (.record q) := by
  rw [record?_eq] at h
  obtain ⟨live, hlive, hq⟩ := Option.bind_eq_some_iff.mp h
  cases live with
  | list q' => cases hq
  | record q' => cases hq; exact hlive
  | aggregate q' => cases hq

theorem slot?_of_aggregate? {b : Binder S} {i : Nat} {q : AggregateQuery} (h : b.aggregate? i = some q) :
    b.slot? i = some (.aggregate q) := by
  rw [aggregate?_eq] at h
  obtain ⟨live, hlive, hq⟩ := Option.bind_eq_some_iff.mp h
  cases live with
  | list q' => cases hq
  | record q' => cases hq
  | aggregate q' => cases hq; exact hlive

theorem list?_of_slot? {b : Binder S} {i : Nat} {q : ListQuery} (h : b.slot? i = some (.list q)) :
    b.list? i = some q := by
  rw [list?_eq, h]
  rfl

theorem record?_of_slot? {b : Binder S} {i : Nat} {q : RecordQuery} (h : b.slot? i = some (.record q)) :
    b.record? i = some q := by
  rw [record?_eq, h]
  rfl

theorem aggregate?_of_slot? {b : Binder S} {i : Nat} {a : AggregateQuery} (h : b.slot? i = some (.aggregate a)) :
    b.aggregate? i = some a := by
  rw [aggregate?_eq, h]
  rfl

theorem slot?_congr {b b' : Binder S} (h : b'.queries.map (·.query) = b.queries.map (·.query)) (i : Nat) :
    b'.slot? i = b.slot? i := by
  simp only [slot?, ← List.getElem?_map, h]

theorem slot?_retain (b : Binder S) (j i : Nat) : (b.retain j).slot? i = b.slot? i := by
  refine slot?_congr ?_ i
  apply map_modify_of_eq
  exact fun _ => rfl

theorem slot?_release (b : Binder S) (j i : Nat) : (b.release j).slot? i = b.slot? i := by
  refine slot?_congr ?_ i
  apply map_modify_of_eq
  exact fun _ => rfl

/-! ## Calls -/

section

variable [DataSource S]

/-- Asking a source with a log enters the call with its reply. -/
theorem taken_ask (key : String) (params : Json) (b : Binder (Logged S)) :
    (ask key params b).2.source.taken =
      b.source.taken ++ [⟨⟨.query, key, params⟩, (ask key params b).1⟩] := rfl

/-- The burst that begins a query: the source is asked, and then the reply is there or awaited. -/
theorem advance_query (key : String) (params : Json) (k : Except QueryError Json → Routine (Binder S) α)
    (b : Binder S) :
    ((query key params).bind k).advance b =
      match (ask key params b).1.wait? b.timeout with
      | none => (k ((ask key params b).1.answer key b.timeout)).advance (ask key params b).2
      | some millis =>
        (.sleep millis (k ((ask key params b).1.answer key b.timeout)), (ask key params b).2) := by
  have hawait : ((query key params).bind k).advance b =
      (((ask key params b).1.await key b.timeout).bind k).advance (ask key params b).2 := rfl
  rw [hawait, Reply.await_eq]
  cases (ask key params b).1.wait? b.timeout <;> rfl

end

/-- A change of a binder that leaves one of its queries as it is. -/
structure Elsewhere (S : Type) (i : Nat) where
  change : Binder S → Binder S
  slot?_eq : ∀ b, (change b).slot? i = b.slot? i
  timeout_eq : ∀ b, (change b).timeout = b.timeout

end Binder

/-! ## Routines under way -/

/-- A routine that was begun: the calls of the source in its first burst, and what is left of it. -/
structure Begun (S L α : Type) where
  label : L
  asked : List TakenCall
  rest : Routine (Binder (Logged S)) α

/-- The answer to the first call of a routine, for someone who waits no longer than `timeout`. -/
def Begun.answer? (f : Begun S L α) (timeout : Nat) : Option (Except QueryError Json) :=
  f.asked.head?.map fun taken => taken.reply.answer taken.call.key timeout

/-- A binder and the routines that were begun on it, in order. -/
structure Overlap (S L α : Type) where
  binder : Binder (Logged S)
  begun : List (Begun S L α) := []

namespace Overlap

/-- A routine as it stands after its first burst. -/
def started (label : L) (r : Routine (Binder (Logged S)) α) (b : Binder (Logged S)) : Begun S L α where
  label
  asked := (r.advance b).2.source.taken.drop b.source.taken.length
  rest := (r.advance b).1

/-- Begins a routine; its first burst takes place at once. -/
def begin (label : L) (r : Routine (Binder (Logged S)) α) (o : Overlap S L α) : Overlap S L α where
  binder := (r.advance o.binder).2
  begun := o.begun ++ [started label r o.binder]

/-- Ends the wait of the routine that was begun as number `k`, counted from zero. -/
def arrive (k : Nat) (o : Overlap S L α) : Overlap S L α :=
  match o.begun[k]? with
  | some f =>
    { binder := (f.rest.wake o.binder).2, begun := o.begun.set k { f with rest := (f.rest.wake o.binder).1 } }
  | none => o

/-- Something else happens to the binder. -/
def elsewhere {i : Nat} (e : Binder.Elsewhere (Logged S) i) (o : Overlap S L α) : Overlap S L α :=
  { o with binder := e.change o.binder }

/-- The routine that was begun last. -/
def newest? (o : Overlap S L α) : Option (Begun S L α) := o.begun.getLast?

@[simp] theorem length_begin (o : Overlap S L α) (label : L) (r : Routine (Binder (Logged S)) α) :
    (o.begin label r).begun.length = o.begun.length + 1 := by
  simp [Overlap.begin]

theorem getElem?_begin_cases {o : Overlap S L α} {label : L} {r : Routine (Binder (Logged S)) α} {k : Nat}
    {f : Begun S L α} (hf : (o.begin label r).begun[k]? = some f) :
    o.begun[k]? = some f ∨ k = o.begun.length ∧ f = started label r o.binder := by
  exact getElem?_concat_cases hf

@[simp] theorem newest?_begin (o : Overlap S L α) (label : L) (r : Routine (Binder (Logged S)) α) :
    (o.begin label r).newest? = some (started label r o.binder) :=
  List.getLast?_concat ..

theorem arrive_of_getElem? {o : Overlap S L α} {k : Nat} {f : Begun S L α} (hf : o.begun[k]? = some f) :
    o.arrive k =
      { binder := (f.rest.wake o.binder).2,
        begun := o.begun.set k { f with rest := (f.rest.wake o.binder).1 } } := by
  unfold arrive
  rw [hf]

theorem getElem?_arrive_self {o : Overlap S L α} {k : Nat} {f : Begun S L α} (hf : o.begun[k]? = some f) :
    (o.arrive k).begun[k]? = some { f with rest := (f.rest.wake o.binder).1 } := by
  rw [arrive_of_getElem? hf]
  exact List.getElem?_set_self (List.getElem?_eq_some_iff.mp hf).1

theorem getElem?_arrive_of_ne {o : Overlap S L α} {j k : Nat} (h : k ≠ j) :
    (o.arrive k).begun[j]? = o.begun[j]? := by
  unfold arrive
  split
  · exact List.getElem?_set_ne h
  · rfl

@[simp] theorem length_arrive (o : Overlap S L α) (k : Nat) : (o.arrive k).begun.length = o.begun.length := by
  unfold arrive
  split
  · exact List.length_set
  · rfl

theorem newest?_eq (o : Overlap S L α) : o.newest? = o.begun[o.begun.length - 1]? := List.getLast?_eq_getElem? ..

theorem newest?_arrive_self {o : Overlap S L α} {k : Nat} {f : Begun S L α} (hf : o.begun[k]? = some f)
    (hk : k + 1 = o.begun.length) :
    (o.arrive k).newest? = some { f with rest := (f.rest.wake o.binder).1 } := by
  rw [newest?_eq, length_arrive, ← hk, Nat.add_sub_cancel]
  exact getElem?_arrive_self hf

theorem newest?_arrive_of_lt {o : Overlap S L α} {k : Nat} (hk : k + 1 < o.begun.length) :
    (o.arrive k).newest? = o.newest? := by
  rw [newest?_eq, newest?_eq, length_arrive]
  -- The place of the newest routine is a later one than `k`.
  exact getElem?_arrive_of_ne (by omega)

/-- Only an end of a wait changes what is left of a routine. -/
theorem arrive_of_not_waits {o : Overlap S L α} {k : Nat} {f : Begun S L α} (hf : o.begun[k]? = some f)
    (hwaits : f.rest.waits = false) : o.arrive k = o := by
  have hwake : f.rest.wake o.binder = (f.rest, o.binder) := by
    cases hr : f.rest with
    | done a => rfl
    | act change next => rfl
    | sleep millis next => simp [hr] at hwaits
  -- What is left of the routine is written back as it was.
  rw [arrive_of_getElem? hf, hwake]
  have hset : o.begun.set k f = o.begun := by
    obtain ⟨hk, rfl⟩ := List.getElem?_eq_some_iff.mp hf
    exact List.set_getElem_self hk
  exact congrArg (fun begun => { o with begun }) hset

end Overlap

end RecordScreens
