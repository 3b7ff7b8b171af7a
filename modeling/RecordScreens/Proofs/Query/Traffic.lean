import RecordScreens.Proofs.Positions
import RecordScreens.Query.Aggregate

/-!
# Requests of an aggregate

A request for a name carries the numbers under which it was issued, and its answer is
published if they are the last ones still. This keeps the answers for a name in the
order of their requests, but for one case: the fetch of a name alone does not outdate
the request for this name that a fetch of the whole has sent before.
-/

namespace RecordScreens

/-! ## Requests -/

/-- A request for a name of an aggregate, with the answer that it gets in the end. -/
structure AggregateRequest where
  name : String
  /-- Whether it fetches the name alone and not as part of the whole. -/
  alone : Bool
  /-- The number of the last fetch of the whole when it was issued. -/
  whole : Nat
  /-- The number of the last fetch of the name alone then. -/
  number : Nat
  answer : Except QueryError Json

/-- A request for the same name as one before. -/
def AggregateRequest.Precedes (a c : AggregateRequest) : Prop :=
  a.whole ≤ c.whole ∧ a.number ≤ c.number ∧ if c.alone then a.number < c.number else a.whole < c.whole

namespace AggregateQuery

variable {q : AggregateQuery} {a : AggregateRequest} {name other : String}

theorem issuedFor_beginName (q : AggregateQuery) (name other : String) :
    (q.beginName name).issuedFor other = if name = other then q.issuedFor other + 1 else q.issuedFor other := by
  unfold beginName issuedFor
  rw [Dict.get?_insert]
  split
  · rename_i h
    rw [h]
    rfl
  · rfl

/-- The query once a request for a name is issued. -/
def asking (alone : Bool) (name : String) (q : AggregateQuery) : AggregateQuery :=
  if alone then q.beginName name else q

@[simp] theorem issued_asking (q : AggregateQuery) (alone : Bool) (name : String) :
    (q.asking alone name).issued = q.issued := by
  cases alone <;> rfl

@[simp] theorem watch_asking (q : AggregateQuery) (alone : Bool) (name : String) :
    (q.asking alone name).watch = q.watch := by
  cases alone <;> rfl

theorem issuedFor_asking (q : AggregateQuery) (alone : Bool) (name other : String) :
    (q.asking alone name).issuedFor other =
      if alone = true ∧ name = other then q.issuedFor other + 1 else q.issuedFor other := by
  cases alone with
  | false => simp [asking]
  | true => simp [asking, issuedFor_beginName]

theorem issuedFor_le_asking (q : AggregateQuery) (alone : Bool) (name other : String) :
    q.issuedFor other ≤ (q.asking alone name).issuedFor other := by
  rw [issuedFor_asking]
  split <;> omega

/-- The request that is issued for a name, in the numbers of the query then. -/
def request (alone : Bool) (name : String) (answer : Except QueryError Json) (q : AggregateQuery) :
    AggregateRequest where
  name
  alone
  whole := q.issued
  number := q.issuedFor name
  answer

/-- Takes in the answer to a request. -/
def takeIn (a : AggregateRequest) (q : AggregateQuery) : AggregateQuery :=
  if a.alone then q.settleName a.number a.whole a.name a.answer else q.settle a.whole a.name a.answer

/-- Whether the numbers of a request are the last ones still. -/
def Wants (q : AggregateQuery) (a : AggregateRequest) : Prop :=
  q.issued = a.whole ∧ (a.alone = true → q.issuedFor a.name = a.number)

instance (q : AggregateQuery) (a : AggregateRequest) : Decidable (q.Wants a) := inferInstanceAs (Decidable (_ ∧ _))

theorem takeIn_of_wants (h : q.Wants a) : q.takeIn a = q.publish a.name (.ofResult a.answer) := by
  obtain ⟨hwhole, hnumber⟩ := h
  unfold takeIn
  split
  · rename_i halone
    exact if_pos ⟨hnumber halone, hwhole⟩
  · exact if_pos hwhole

theorem takeIn_of_not_wants (h : ¬ q.Wants a) : q.takeIn a = q := by
  unfold takeIn
  split
  · rename_i halone
    exact if_neg fun hboth => h ⟨hboth.2, fun _ => hboth.1⟩
  · rename_i halone
    exact if_neg fun hwhole => h ⟨hwhole, fun htrue => absurd htrue halone⟩

/-- A new version tells that an answer was published. -/
theorem version_takeIn (q : AggregateQuery) (a : AggregateRequest) :
    (q.takeIn a).watch.version = if q.Wants a then q.watch.version + 1 else q.watch.version := by
  by_cases h : q.Wants a
  · rw [takeIn_of_wants h, if_pos h]
    rfl
  · rw [takeIn_of_not_wants h, if_neg h]

/-- A query for the same names with the same last fetch of the whole. -/
structure Like (q q' : AggregateQuery) : Prop where
  issued_eq : q.issued = q'.issued
  queries_eq : q.queries = q'.queries
  entityId_eq : q.entityId = q'.entityId

theorem Like.trans {q q' q'' : AggregateQuery} (h : q.Like q') (h' : q'.Like q'') : q.Like q'' :=
  ⟨h.issued_eq.trans h'.issued_eq, h.queries_eq.trans h'.queries_eq, h.entityId_eq.trans h'.entityId_eq⟩

theorem like_asking (q : AggregateQuery) (alone : Bool) (name : String) : (q.asking alone name).Like q := by
  cases alone <;> exact ⟨rfl, rfl, rfl⟩

theorem like_takeIn (q : AggregateQuery) (a : AggregateRequest) : (q.takeIn a).Like q := by
  by_cases h : q.Wants a
  · rw [takeIn_of_wants h]
    exact ⟨rfl, rfl, rfl⟩
  · rw [takeIn_of_not_wants h]
    exact ⟨rfl, rfl, rfl⟩

end AggregateQuery

/-! ## Announcements -/

/-- What an aggregate announces. Requests are given by their places. -/
inductive Announcement where
  /-- Nothing is known any more; the requests from this place on are still to be issued. -/
  | reset (start : Nat)
  /-- The answer to a request. -/
  | published (k : Nat)
  deriving DecidableEq

namespace Announcement

/-- What is there after one more announcement. -/
def after (found : List Nat) : Announcement → List Nat
  | reset _ => []
  | published k => found ++ [k]

/-- The requests whose answers were published since nothing was known. -/
def sinceReset (announced : List Announcement) : List Nat := announced.foldl after []

/-- The answer to `y` was published while the one to `x` was there, or a later one. -/
def Republished (announced : List Announcement) (x y : Nat) : Prop :=
  ∃ before after, announced = before ++ published y :: after ∧ x ∈ sinceReset before

/-- The answer to `y` was published at some time after nothing was known. -/
def Restarted (announced : List Announcement) (start y : Nat) : Prop :=
  ∃ before after, announced = before ++ reset start :: after ∧ published y ∈ after

variable {announced : List Announcement} {e : Announcement} {start x y k : Nat}

@[simp] theorem sinceReset_concat_reset (announced : List Announcement) (start : Nat) :
    sinceReset (announced ++ [reset start]) = [] := by
  simp [sinceReset, after]

@[simp] theorem sinceReset_concat_published (announced : List Announcement) (k : Nat) :
    sinceReset (announced ++ [published k]) = sinceReset announced ++ [k] := by
  simp [sinceReset, after]

theorem mem_foldl_after {found : List Nat} (h : k ∈ announced.foldl after found) :
    k ∈ found ∨ published k ∈ announced := by
  induction announced generalizing found with
  | nil => exact .inl h
  | cons e rest ih =>
    rcases ih h with hfound | hrest
    · cases e with
      | reset start => cases hfound
      | published j =>
        rcases List.mem_append.mp hfound with hfound | hj
        · exact .inl hfound
        · rw [List.mem_singleton.mp hj]
          exact .inr List.mem_cons_self
    · exact .inr (List.mem_cons_of_mem e hrest)

theorem mem_of_mem_sinceReset (h : k ∈ sinceReset announced) : published k ∈ announced := by
  rcases mem_foldl_after h with hnil | hmem
  · cases hnil
  · exact hmem

theorem Republished.mem_left (h : Republished announced x y) : published x ∈ announced := by
  obtain ⟨before, after, rfl, hx⟩ := h
  exact List.mem_append_left _ (mem_of_mem_sinceReset hx)

theorem Republished.mem_right (h : Republished announced x y) : published y ∈ announced := by
  obtain ⟨before, after, rfl, -⟩ := h
  exact List.mem_append_right _ List.mem_cons_self

theorem Republished.concat (h : Republished announced x y) (e : Announcement) :
    Republished (announced ++ [e]) x y := by
  obtain ⟨before, after, rfl, hx⟩ := h
  exact ⟨before, after ++ [e], by simp, hx⟩

theorem republished_concat_self (hx : x ∈ sinceReset announced) (y : Nat) :
    Republished (announced ++ [published y]) x y :=
  ⟨announced, [], rfl, hx⟩

theorem republished_concat_cases (h : Republished (announced ++ [e]) x y) :
    Republished announced x y ∨ e = published y ∧ x ∈ sinceReset announced := by
  obtain ⟨before, after, heq, hx⟩ := h
  -- The new announcement is the one to `y` itself, or it comes after that.
  rcases List.eq_nil_or_concat after with rfl | ⟨after', last, rfl⟩
  · obtain ⟨rfl, hlast⟩ := List.append_inj' heq rfl
    cases hlast
    exact .inr ⟨rfl, hx⟩
  · rw [List.concat_eq_append, ← List.cons_append, ← List.append_assoc] at heq
    obtain ⟨rfl, -⟩ := List.append_inj' heq rfl
    exact .inl ⟨before, after', rfl, hx⟩

theorem restarted_concat_cases (h : Restarted (announced ++ [e]) start y) :
    Restarted announced start y ∨ e = published y ∧ reset start ∈ announced := by
  obtain ⟨before, after, heq, hy⟩ := h
  rcases List.eq_nil_or_concat after with rfl | ⟨after', last, rfl⟩
  · cases hy
  · rw [List.concat_eq_append] at heq hy
    rw [← List.cons_append, ← List.append_assoc] at heq
    obtain ⟨rfl, hlast⟩ := List.append_inj' heq rfl
    rcases List.mem_append.mp hy with hy | hy
    · exact .inl ⟨before, after', rfl, hy⟩
    · cases hlast
      exact .inr ⟨(List.mem_singleton.mp hy).symm, by simp⟩

end Announcement

/-! ## Traffic -/

/-- An aggregate, the requests for its names as they were issued, those of them whose answers have arrived, and
what was announced. -/
structure AggregateTraffic where
  query : AggregateQuery
  requests : List AggregateRequest := []
  arrived : List Nat := []
  announced : List Announcement := []

namespace AggregateTraffic

open AggregateQuery Announcement

/-- A fetch of the whole begins; its requests follow. -/
def reset (t : AggregateTraffic) : AggregateTraffic :=
  { t with query := t.query.begin, announced := t.announced ++ [.reset t.requests.length] }

/-- A request for a name is issued. -/
def ask (alone : Bool) (name : String) (answer : Except QueryError Json) (t : AggregateTraffic) : AggregateTraffic :=
  { t with
    query := t.query.asking alone name
    requests := t.requests ++ [(t.query.asking alone name).request alone name answer] }

/-- The answer to the request in place `k` arrives. -/
def settle (k : Nat) (t : AggregateTraffic) : AggregateTraffic :=
  match t.requests[k]? with
  | some a =>
    if k ∈ t.arrived then t
    else
      { t with
        query := t.query.takeIn a
        arrived := k :: t.arrived
        announced := if t.query.Wants a then t.announced ++ [.published k] else t.announced }
  | none => t

/-- What holds of an aggregate and its requests, whatever was issued and has arrived. -/
structure Inv (t : AggregateTraffic) : Prop where
  whole_le : ∀ {k : Nat} {a : AggregateRequest}, t.requests[k]? = some a → a.whole ≤ t.query.issued
  number_le : ∀ {k : Nat} {a : AggregateRequest}, t.requests[k]? = some a → a.number ≤ t.query.issuedFor a.name
  ordered : ∀ {j k : Nat} {a c : AggregateRequest}, j < k → t.requests[j]? = some a → t.requests[k]? = some c →
    a.name = c.name → a.Precedes c
  numbered : ∀ name, t.query.issuedFor name = 0 ∨
    ∃ (k : Nat) (a : AggregateRequest), t.requests[k]? = some a ∧ a.name = name ∧ a.number = t.query.issuedFor name
  placed : ∀ {k : Nat}, .published k ∈ t.announced → k < t.requests.length
  answered : ∀ {k : Nat}, k ∈ t.arrived → k < t.requests.length
  current : ∀ {k : Nat} {a : AggregateRequest}, k ∈ sinceReset t.announced → t.requests[k]? = some a →
    a.whole = t.query.issued ∧ k ∈ t.arrived
  published : ∀ {k : Nat} {a : AggregateRequest}, t.requests[k]? = some a → k ∈ t.arrived → t.query.Wants a →
    k ∈ sinceReset t.announced
  /-- What is known of a name is the last answer that was published for it. -/
  shown : ∀ {k : Nat} {a : AggregateRequest}, k ∈ sinceReset t.announced → t.requests[k]? = some a →
    ∃ (x : Nat) (c : AggregateRequest), t.requests[x]? = some c ∧ c.name = a.name ∧
      Dict.get? t.query.result a.name = some (.ofResult c.answer) ∧ (x = k ∨ Republished t.announced k x)
  republished : ∀ {x y : Nat} {a c : AggregateRequest}, Republished t.announced x y → t.requests[x]? = some a →
    t.requests[y]? = some c → a.name = c.name → (y < x ↔ a.alone = true ∧ c.alone = false)
  start_le : ∀ {start : Nat}, .reset start ∈ t.announced → start ≤ t.requests.length
  outdated : ∀ {start k : Nat} {a : AggregateRequest}, .reset start ∈ t.announced → t.requests[k]? = some a →
    k < start → a.whole < t.query.issued
  restarted : ∀ {start y : Nat}, Restarted t.announced start y → start ≤ y

variable {t : AggregateTraffic} {name : String}

theorem inv_initial (queries : Dict QueryDescriptor) (entityId : Option String) :
    Inv { query := .ofQueries queries entityId } where
  whole_le h := by simp at h
  number_le h := by simp at h
  ordered _ h := by simp at h
  numbered _ := .inl rfl
  placed h := by cases h
  answered h := by cases h
  current h := by cases h
  published h := by simp at h
  shown h := by cases h
  republished h := by
    obtain ⟨before, after, heq, -⟩ := h
    simp at heq
  start_le h := by cases h
  outdated h := by cases h
  restarted h := by
    obtain ⟨before, after, heq, -⟩ := h
    simp at heq

theorem Inv.reset (h : t.Inv) : t.reset.Inv where
  whole_le hk := Nat.le_succ_of_le (h.whole_le hk)
  number_le hk := h.number_le hk
  ordered hjk hj hk hname := h.ordered hjk hj hk hname
  numbered := h.numbered
  placed hk := by
    rcases List.mem_append.mp hk with hk | hk
    · exact h.placed hk
    · simp at hk
  answered := h.answered
  current hk := by simp [AggregateTraffic.reset] at hk
  published hk _ hwants := by
    -- Every request is older than the fetch.
    have hle := h.whole_le hk
    have heq : t.query.issued + 1 = _ := hwants.1
    omega
  shown hk := by simp [AggregateTraffic.reset] at hk
  republished hxy hx hy hname := by
    rcases republished_concat_cases hxy with hxy | ⟨hreset, -⟩
    · exact h.republished hxy hx hy hname
    · cases hreset
  start_le hstart := by
    rcases List.mem_append.mp hstart with hstart | hstart
    · exact h.start_le hstart
    · cases List.mem_singleton.mp hstart
      exact Nat.le_refl _
  outdated _ hk _ := Nat.lt_succ_of_le (h.whole_le hk)
  restarted hstart := by
    rcases restarted_concat_cases hstart with hstart | ⟨hreset, -⟩
    · exact h.restarted hstart
    · cases hreset

theorem getElem?_ask_of_lt {alone : Bool} {answer : Except QueryError Json} {k : Nat} (h : k < t.requests.length) :
    (t.ask alone name answer).requests[k]? = t.requests[k]? :=
  List.getElem?_append_left h

theorem length_le_ask {alone : Bool} {answer : Except QueryError Json} :
    t.requests.length ≤ (t.ask alone name answer).requests.length := by
  simp [AggregateTraffic.ask]

/-- The new request has the last numbers, and one of them is new. -/
theorem Inv.precedes_request (h : t.Inv) {alone : Bool} {answer : Except QueryError Json} {j : Nat}
    {a : AggregateRequest} (hj : t.requests[j]? = some a) (hname : a.name = name)
    (hfirst : alone = false → a.whole < t.query.issued) :
    a.Precedes ((t.query.asking alone name).request alone name answer) := by
  have hwhole := h.whole_le hj
  have hnumber := h.number_le hj
  rw [hname] at hnumber
  unfold AggregateRequest.Precedes request
  simp only [issued_asking, issuedFor_asking]
  cases alone with
  | true => simp; omega
  | false =>
    have hnew := hfirst rfl
    simp; omega

/-- A request as part of the whole is the first one for its name since the fetch began. -/
theorem Inv.ask (h : t.Inv) {alone : Bool} (answer : Except QueryError Json)
    (hfirst : alone = false → ∀ {k : Nat} {a : AggregateRequest}, t.requests[k]? = some a → a.name = name →
      a.whole < t.query.issued) : (t.ask alone name answer).Inv where
  whole_le hk := by
    show _ ≤ (t.query.asking alone name).issued
    rcases getElem?_concat_cases hk with hk | ⟨-, rfl⟩
    · rw [issued_asking]
      exact h.whole_le hk
    · exact Nat.le_refl _
  number_le hk := by
    rcases getElem?_concat_cases hk with hk | ⟨-, rfl⟩
    · exact Nat.le_trans (h.number_le hk) (issuedFor_le_asking ..)
    · exact Nat.le_refl _
  ordered {j k a c} hjk hj hk hname := by
    have hlt : k < t.requests.length + 1 := by
      simpa [AggregateTraffic.ask] using (List.getElem?_eq_some_iff.mp hk).1
    rw [getElem?_ask_of_lt (by omega)] at hj
    rcases getElem?_concat_cases hk with hk | ⟨-, rfl⟩
    · exact h.ordered hjk hj hk hname
    · exact h.precedes_request hj hname fun hpart => hfirst hpart hj hname
  numbered other := by
    show (t.query.asking alone name).issuedFor other = 0 ∨ _
    -- Only the number of the name that is asked for alone changes, and the new request has it.
    by_cases hnew : alone = true ∧ name = other
    · obtain ⟨-, rfl⟩ := hnew
      exact .inr ⟨_, _, List.getElem?_concat_length, rfl, rfl⟩
    · have hsame : (t.query.asking alone name).issuedFor other = t.query.issuedFor other := by
        rw [issuedFor_asking, if_neg hnew]
      rcases h.numbered other with hzero | ⟨k, a, hk, hname, hnumber⟩
      · exact .inl (hsame.trans hzero)
      · exact .inr ⟨k, a, getElem?_concat_of_some hk, hname, hnumber.trans hsame.symm⟩
  placed hk := Nat.lt_of_lt_of_le (h.placed hk) length_le_ask
  answered hk := Nat.lt_of_lt_of_le (h.answered hk) length_le_ask
  current hk hget := by
    rw [getElem?_ask_of_lt (h.placed (mem_of_mem_sinceReset hk))] at hget
    obtain ⟨hwhole, harrived⟩ := h.current hk hget
    exact ⟨hwhole.trans (issued_asking ..).symm, harrived⟩
  published hk harrived hwants := by
    rw [getElem?_ask_of_lt (h.answered harrived)] at hk
    obtain ⟨hwhole, hnumber⟩ := hwants
    refine h.published hk harrived ⟨(issued_asking ..).symm.trans hwhole, fun halone => ?_⟩
    -- The number of a name only grows, and no request has a number that is still to come.
    have hgrown := issuedFor_le_asking t.query alone name
    exact Nat.le_antisymm (Nat.le_trans (hgrown _) (Nat.le_of_eq (hnumber halone))) (h.number_le hk)
  shown hk hget := by
    rw [getElem?_ask_of_lt (h.placed (mem_of_mem_sinceReset hk))] at hget
    obtain ⟨x, c, hx, hname, hshown, hlast⟩ := h.shown hk hget
    refine ⟨x, c, getElem?_concat_of_some hx, hname, ?_, hlast⟩
    have hresult : (t.query.asking alone name).result = t.query.result := congrArg Watch.value (watch_asking ..)
    exact (congrArg (Dict.get? · _) hresult).trans hshown
  republished hxy hx hy hname := by
    rw [getElem?_ask_of_lt (h.placed hxy.mem_left)] at hx
    rw [getElem?_ask_of_lt (h.placed hxy.mem_right)] at hy
    exact h.republished hxy hx hy hname
  start_le hstart := Nat.le_trans (h.start_le hstart) length_le_ask
  outdated hstart hk hlt := by
    show _ < (t.query.asking alone name).issued
    rw [getElem?_ask_of_lt (Nat.lt_of_lt_of_le hlt (h.start_le hstart))] at hk
    rw [issued_asking]
    exact h.outdated hstart hk hlt
  restarted := h.restarted

theorem settle_of_open {k : Nat} {a : AggregateRequest} (hk : t.requests[k]? = some a) (hopen : k ∉ t.arrived) :
    t.settle k = { t with
      query := t.query.takeIn a
      arrived := k :: t.arrived
      announced := if t.query.Wants a then t.announced ++ [.published k] else t.announced } := by
  unfold settle
  rw [hk]
  exact if_neg hopen

@[simp] theorem requests_settle (t : AggregateTraffic) (k : Nat) : (t.settle k).requests = t.requests := by
  unfold settle
  split
  · split <;> rfl
  · rfl

theorem like_settle (t : AggregateTraffic) (k : Nat) : (t.settle k).query.Like t.query := by
  unfold settle
  split
  · split
    · exact ⟨rfl, rfl, rfl⟩
    · exact like_takeIn ..
  · exact ⟨rfl, rfl, rfl⟩

/-- An answer that is published comes later than the published answers of all older requests, but for those of
fetches of the name alone if it is not one itself. -/
theorem Inv.lt_iff (h : t.Inv) {x y : Nat} {a c : AggregateRequest} (hx : t.requests[x]? = some a)
    (hy : t.requests[y]? = some c) (hname : a.name = c.name) (hwhole : a.whole = t.query.issued)
    (hwants : t.query.Wants c) (hne : x ≠ y) : y < x ↔ a.alone = true ∧ c.alone = false := by
  obtain ⟨hwhole', hnumber⟩ := hwants
  have hle := h.number_le hx
  rw [hname] at hle
  -- Of the two, the later one has a greater number of its kind, and the numbers of both are the last ones but for that
  -- of a part of the whole.
  rcases Nat.lt_or_gt_of_ne hne with hlt | hgt
  · have hbefore := h.ordered hlt hx hy hname
    unfold AggregateRequest.Precedes at hbefore
    cases halone : c.alone with
    | true => simp; omega
    | false => simp [halone] at hbefore; omega
  · have hbefore := h.ordered hgt hy hx hname.symm
    unfold AggregateRequest.Precedes at hbefore
    cases halone : a.alone with
    | true =>
      cases halone' : c.alone with
      | true => have := hnumber halone'; simp [halone] at hbefore; omega
      | false => simp; omega
    | false => simp [halone] at hbefore; omega

/-- What is known of a name after an answer was published. -/
theorem Inv.shown_publish (h : t.Inv) {j k : Nat} {a c : AggregateRequest} (hk : t.requests[k]? = some a)
    (hj : j ∈ sinceReset (t.announced ++ [.published k])) (hget : t.requests[j]? = some c) :
    ∃ (x : Nat) (d : AggregateRequest), t.requests[x]? = some d ∧ d.name = c.name ∧
      Dict.get? (t.query.publish a.name (.ofResult a.answer)).result c.name = some (.ofResult d.answer) ∧
      (x = j ∨ Republished (t.announced ++ [.published k]) j x) := by
  rw [sinceReset_concat_published] at hj
  by_cases hname : a.name = c.name
  · -- The answer that is published now is the one that is shown.
    refine ⟨k, a, hk, hname, by rw [← hname]; exact Dict.get?_insert_self .., ?_⟩
    rcases List.mem_append.mp hj with hj | hj
    · exact .inr (republished_concat_self hj k)
    · exact .inl (List.mem_singleton.mp hj).symm
  · -- Another name keeps what was shown of it.
    have hj' : j ∈ sinceReset t.announced := by
      rcases List.mem_append.mp hj with hj | hj
      · exact hj
      · cases List.mem_singleton.mp hj
        cases hk.symm.trans hget
        exact absurd rfl hname
    obtain ⟨x, d, hx, hname', hshown, hlast⟩ := h.shown hj' hget
    refine ⟨x, d, hx, hname', (Dict.get?_insert_of_ne _ _ hname).trans hshown, ?_⟩
    rcases hlast with rfl | hlast
    · exact .inl rfl
    · exact .inr (hlast.concat _)

/-- An answer is published. -/
theorem Inv.publish (h : t.Inv) {k : Nat} {a : AggregateRequest} (hk : t.requests[k]? = some a)
    (hopen : k ∉ t.arrived) (hwants : t.query.Wants a) :
    Inv { t with
      query := t.query.publish a.name (.ofResult a.answer)
      arrived := k :: t.arrived
      announced := t.announced ++ [.published k] } where
  whole_le := h.whole_le
  number_le := h.number_le
  ordered := h.ordered
  numbered := h.numbered
  placed hj := by
    rcases List.mem_append.mp hj with hj | hj
    · exact h.placed hj
    · cases List.mem_singleton.mp hj
      exact (List.getElem?_eq_some_iff.mp hk).1
  answered hj := by
    rcases List.mem_cons.mp hj with rfl | hj
    · exact (List.getElem?_eq_some_iff.mp hk).1
    · exact h.answered hj
  current {j c} hj hget := by
    rw [sinceReset_concat_published] at hj
    rcases List.mem_append.mp hj with hj | hj
    · obtain ⟨hwhole, harrived⟩ := h.current hj hget
      exact ⟨hwhole, List.mem_cons_of_mem k harrived⟩
    · cases List.mem_singleton.mp hj
      cases hk.symm.trans hget
      exact ⟨hwants.1.symm, List.mem_cons_self⟩
  published {j c} hget hj hwants' := by
    rw [sinceReset_concat_published]
    rcases List.mem_cons.mp hj with rfl | hj
    · exact List.mem_append_right _ (List.mem_singleton.mpr rfl)
    · exact List.mem_append_left _ (h.published hget hj hwants')
  shown hj hget := h.shown_publish hk hj hget
  republished {x y c d} hxy hx hy hname := by
    rcases republished_concat_cases hxy with hxy | ⟨hlast, hmem⟩
    · exact h.republished hxy hx hy hname
    · cases hlast
      cases hk.symm.trans hy
      -- An answer that is still there belongs to the last fetch of the whole, and it is another one than this.
      obtain ⟨hwhole, harrived⟩ := h.current hmem hx
      exact h.lt_iff hx hk hname hwhole hwants fun heq => hopen (heq ▸ harrived)
  start_le hstart := by
    rcases List.mem_append.mp hstart with hstart | hstart
    · exact h.start_le hstart
    · cases List.mem_singleton.mp hstart
  outdated hstart := by
    rcases List.mem_append.mp hstart with hstart | hstart
    · exact h.outdated hstart
    · cases List.mem_singleton.mp hstart
  restarted {start y} hstart := by
    rcases restarted_concat_cases hstart with hbefore | ⟨hlast, hreset⟩
    · exact h.restarted hbefore
    · cases hlast
      -- A request that is older than the reset has an old number.
      apply Nat.le_of_not_lt
      intro hlt
      have hwhole := h.outdated hreset hk hlt
      have heq := hwants.1
      omega

/-- An answer is dropped. -/
theorem Inv.drop (h : t.Inv) {k : Nat} {a : AggregateRequest} (hk : t.requests[k]? = some a)
    (hwants : ¬ t.query.Wants a) : Inv { t with arrived := k :: t.arrived } where
  whole_le := h.whole_le
  number_le := h.number_le
  ordered := h.ordered
  numbered := h.numbered
  placed := h.placed
  answered hj := by
    rcases List.mem_cons.mp hj with rfl | hj
    · exact (List.getElem?_eq_some_iff.mp hk).1
    · exact h.answered hj
  current hj hget := by
    obtain ⟨hwhole, harrived⟩ := h.current hj hget
    exact ⟨hwhole, List.mem_cons_of_mem k harrived⟩
  published hget hj hwants' := by
    -- The query is the same, so that the answer is not wanted now either.
    rcases List.mem_cons.mp hj with rfl | hj
    · cases hk.symm.trans hget
      exact absurd hwants' hwants
    · exact h.published hget hj hwants'
  shown := h.shown
  republished := h.republished
  start_le := h.start_le
  outdated := h.outdated
  restarted := h.restarted

theorem Inv.settle (h : t.Inv) (k : Nat) : (t.settle k).Inv := by
  cases hk : t.requests[k]? with
  | none =>
    have hsame : t.settle k = t := by unfold AggregateTraffic.settle; rw [hk]
    rw [hsame]
    exact h
  | some a =>
    by_cases hopen : k ∈ t.arrived
    · have hsame : t.settle k = t := by unfold AggregateTraffic.settle; rw [hk]; exact if_pos hopen
      rw [hsame]
      exact h
    · rw [settle_of_open hk hopen]
      by_cases hwants : t.query.Wants a
      · rw [takeIn_of_wants hwants, if_pos hwants]
        exact h.publish hk hopen hwants
      · rw [takeIn_of_not_wants hwants, if_neg hwants]
        exact h.drop hk hwants

/-! ## Quiet traffic -/

/-- Since the last fetch of the whole began, a request for the name was issued. -/
def Covers (t : AggregateTraffic) (name : String) : Prop :=
  t.query.issued = 0 ∨
    ∃ (k : Nat) (a : AggregateRequest), t.requests[k]? = some a ∧ a.name = name ∧ a.whole = t.query.issued

theorem Covers.grow {t' : AggregateTraffic} (h : t.Covers name) (hissued : t'.query.issued = t.query.issued)
    {more : List AggregateRequest} (hrequests : t'.requests = t.requests ++ more) : t'.Covers name := by
  unfold Covers
  rw [hissued, hrequests]
  rcases h with hzero | ⟨k, a, hk, hname, hwhole⟩
  · exact .inl hzero
  · refine .inr ⟨k, a, ?_, hname, hwhole⟩
    rw [List.getElem?_append_left (List.getElem?_eq_some_iff.mp hk).1]
    exact hk

/-- The last request for a name has the last numbers. -/
theorem Inv.wants_last (h : t.Inv) {k : Nat} {a : AggregateRequest} (hk : t.requests[k]? = some a)
    (hlast : ∀ {j : Nat} {c : AggregateRequest}, t.requests[j]? = some c → c.name = a.name → j ≤ k)
    (hcovers : t.Covers a.name) : t.query.Wants a := by
  have hbelow {j : Nat} {c : AggregateRequest} (hj : t.requests[j]? = some c) (hname : c.name = a.name) :
      c.whole ≤ a.whole ∧ c.number ≤ a.number := by
    rcases Nat.lt_or_eq_of_le (hlast hj hname) with hlt | rfl
    · have hbefore := h.ordered hlt hj hk hname
      exact ⟨hbefore.1, hbefore.2.1⟩
    · cases hk.symm.trans hj
      exact ⟨Nat.le_refl _, Nat.le_refl _⟩
  have hwhole := h.whole_le hk
  have hnumber := h.number_le hk
  -- Some request has the last number of each kind, and it is not later than this one.
  constructor
  · rcases hcovers with hzero | ⟨j, c, hj, hname, hc⟩
    · omega
    · have hle := (hbelow hj hname).1
      omega
  · intro _
    rcases h.numbered a.name with hzero | ⟨j, c, hj, hname, hc⟩
    · omega
    · have hle := (hbelow hj hname).2
      omega

/-- When all answers are there, a name shows the one to its last request, or the one to an older request of the
whole that was published after it. -/
theorem Inv.shown_last (h : t.Inv) {k : Nat} {a : AggregateRequest} (hk : t.requests[k]? = some a)
    (hlast : ∀ {j : Nat} {c : AggregateRequest}, t.requests[j]? = some c → c.name = a.name → j ≤ k)
    (hcovers : t.Covers a.name) (harrived : k ∈ t.arrived) :
    ∃ (x : Nat) (c : AggregateRequest), t.requests[x]? = some c ∧ c.name = a.name ∧
      Dict.get? t.query.result a.name = some (.ofResult c.answer) ∧
      (x = k ∨ a.alone = true ∧ c.alone = false ∧ Republished t.announced k x) := by
  have hpublished := h.published hk harrived (h.wants_last hk hlast hcovers)
  obtain ⟨x, c, hx, hname, hshown, hlater⟩ := h.shown hpublished hk
  refine ⟨x, c, hx, hname, hshown, ?_⟩
  by_cases hxk : x = k
  · exact .inl hxk
  · -- A later answer to an older request is that of a part of the whole.
    rcases hlater with heq | hlater
    · exact absurd heq hxk
    · have hlt : x < k := Nat.lt_of_le_of_ne (hlast hx hname) hxk
      obtain ⟨halone, hpart⟩ := (h.republished hlater hk hx hname.symm).mp hlt
      exact .inr ⟨halone, hpart, hlater⟩

end AggregateTraffic

end RecordScreens
