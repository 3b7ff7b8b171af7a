import RecordScreens.Proofs.Dialog.History
import RecordScreens.Proofs.Dialog.Lock

/-!
# How far a request goes

A publication hands its request to the subscribers of a channel in turn, and goes no further
than to the first one that does not come back.
-/

namespace RecordScreens

namespace DialogBus

variable {publish : Publish} {channel : String} {request : DialogRequest} {before later : List Subscriber}
  {s first : Subscriber} {halt : Halt} {bus bus' : DialogBus}

/-- A request goes to the first of some subscribers, and to the rest if all of these come back. -/
theorem deliver_append (publish : Publish) (request : DialogRequest) (before later : List Subscriber)
    (bus : DialogBus) : deliver publish request (before ++ later) bus =
      andThen (deliver publish request before bus) fun _ bus => deliver publish request later bus := by
  induction before generalizing bus with
  | nil => rfl
  | cons s rest ih =>
    simp only [List.cons_append, deliver]
    rcases react publish (s.receive request) bus with ⟨halt | done, bus'⟩
    · rfl
    · exact ih bus'

/-- A request is handed to some subscribers, which all come back, and then to one that does not. -/
def GivesUp (publish : Publish) (request : DialogRequest) (before : List Subscriber) (s : Subscriber) (halt : Halt)
    (bus : DialogBus) : Prop :=
  ∃ bus', deliver publish request before bus = (.ok (), bus') ∧
    (react publish (s.receive request) bus').1 = .error halt

theorem GivesUp.cons (hfirst : react publish (first.receive request) bus = (.ok (), bus'))
    (h : GivesUp publish request before s halt bus') : GivesUp publish request (first :: before) s halt bus := by
  obtain ⟨bus'', hbefore, hs⟩ := h
  refine ⟨bus'', ?_, hs⟩
  simp only [deliver, hfirst]
  exact hbefore

theorem andThen_error {α β : Type} {ran : Except Halt α × DialogBus} (h : ran.1 = .error halt)
    (next : α → DialogBus → Except Halt β × DialogBus) : (andThen ran next).1 = .error halt := by
  rcases ran with ⟨halt' | a, bus⟩
  · cases h
    rfl
  · cases h

theorem andThen_fst {α β : Type} {a : α} {ran : Except Halt α × DialogBus} (h : ran.1 = .ok a)
    (answer : Except Halt β) : (andThen ran fun _ bus => (answer, bus)).1 = answer := by
  rcases ran with ⟨halt | a', bus⟩
  · cases h
  · rfl

theorem andThen_snd {α β : Type} (ran : Except Halt α × DialogBus) (answer : Except Halt β) :
    (andThen ran fun _ bus => (answer, bus)).2 = ran.2 := by
  rcases ran with ⟨halt | a, bus⟩ <;> rfl

theorem GivesUp.deliver (h : GivesUp publish request before s halt bus) (later : List Subscriber) :
    (deliver publish request (before ++ s :: later) bus).1 = .error halt := by
  obtain ⟨bus', hbefore, hs⟩ := h
  rw [deliver_append, hbefore]
  exact andThen_error hs _

/-- Someone does not come back, unless all are done with the request. -/
theorem deliver_ok_or_givesUp (publish : Publish) (request : DialogRequest) (receivers : List Subscriber)
    (bus : DialogBus) :
    (deliver publish request receivers bus).1 = .ok () ∨
      ∃ before s later halt, receivers = before ++ s :: later ∧ GivesUp publish request before s halt bus := by
  induction receivers generalizing bus with
  | nil => exact .inl rfl
  | cons first rest ih =>
    rcases hfirst : react publish (first.receive request) bus with ⟨halt | done, bus'⟩
    · exact .inr ⟨[], first, rest, halt, rfl, bus, rfl, congrArg Prod.fst hfirst⟩
    · rcases ih bus' with hok | ⟨before, s, later, halt, rfl, hgives⟩
      · refine .inl ?_
        simp only [deliver, hfirst]
        exact hok
      · exact .inr ⟨first :: before, s, later, halt, rfl, hgives.cons hfirst⟩

/-- What a handler owned ends, unless somebody waits for himself. -/
theorem react_farewell (publish : Publish) (s : Subscriber) (bus : DialogBus) :
    (react publish s.farewell bus).1 = .ok () ∨ (react publish s.farewell bus).1 = .error .stuck := by
  unfold Subscriber.farewell
  induction s.owned generalizing bus with
  | nil => exact .inl rfl
  | cons id rest ih =>
    simp only [List.foldr_cons, react]
    split
    · exact .inr rfl
    · exact ih (bus.unsubscribe id)

theorem release_ok_or_stuck (publish : Publish) (receivers : List Subscriber) (bus : DialogBus) :
    (release publish receivers bus).1 = .ok () ∨ (release publish receivers bus).1 = .error .stuck := by
  induction receivers generalizing bus with
  | nil => exact .inl rfl
  | cons s rest ih =>
    unfold release
    split
    · rcases hfarewell : react publish s.farewell (bus.forgo s) with ⟨halt | done, bus'⟩
      · have hended := react_farewell publish s (bus.forgo s)
        rw [hfarewell] at hended
        obtain hdone | hstuck := hended
        · cases hdone
        · exact .inr hstuck
      · exact ih bus'
    · exact ih (bus.forgo s)

theorem publish_eq {depth : Nat} (hnesting : bus.nesting = depth + 1) (channel : String) (request : DialogRequest) :
    bus.publish channel request = publishBy (publishWithin depth) channel request bus := by
  unfold DialogBus.publish
  rw [hnesting]
  rfl

/-- A publication comes back with what its subscribers came back with, unless it gets stuck after that. -/
theorem publishBy_fst (publish : Publish) (channel : String) (request : DialogRequest) (bus : DialogBus) :
    let delivered := (deliver publish request (bus.on channel) (bus.keep (bus.on channel))).1
    (publishBy publish channel request bus).1 = delivered.map (fun _ => .to (bus.on channel).length) ∨
      (publishBy publish channel request bus).1 = .error .stuck := by
  intro delivered
  rcases publishBy_cases publish channel request bus with hran | hran <;> rw [hran]
  · exact .inl rfl
  · rcases release_ok_or_stuck publish (bus.on channel) _ with hdone | hstuck
    · exact .inl (andThen_fst hdone _)
    · exact .inr (andThen_error hstuck _)

/-- What a publication leaves is what its subscribers left, or that without what their handlers owned. -/
theorem publishBy_snd (publish : Publish) (channel : String) (request : DialogRequest) (bus : DialogBus) :
    let delivered := (deliver publish request (bus.on channel) (bus.keep (bus.on channel))).2
    (publishBy publish channel request bus).2 = delivered ∨
      (publishBy publish channel request bus).2 = (release publish (bus.on channel) delivered).2 := by
  intro delivered
  rcases publishBy_cases publish channel request bus with hran | hran <;> rw [hran]
  · exact .inl rfl
  · exact .inr (andThen_snd ..)

/-- Whoever publishes does not come back either if a subscriber does not. -/
theorem publish_of_givesUp {depth : Nat} (hnesting : bus.nesting = depth + 1)
    (hon : bus.on channel = before ++ s :: later)
    (h : GivesUp (publishWithin depth) request before s halt (bus.keep (bus.on channel))) :
    (bus.publish channel request).1 = .error halt ∨ (bus.publish channel request).1 = .error .stuck := by
  have hdelivered := h.deliver later
  rw [← hon] at hdelivered
  have hanswer := publishBy_fst (publishWithin depth) channel request bus
  simp only [hdelivered] at hanswer
  rw [publish_eq hnesting]
  exact hanswer

/-- Where all subscribers come back, so does the publication, unless it gets stuck after that. -/
theorem publish_of_calm {depth : Nat} (hnesting : bus.nesting = depth + 1)
    (h : ∀ before s later halt, bus.on channel = before ++ s :: later →
      ¬ GivesUp (publishWithin depth) request before s halt (bus.keep (bus.on channel))) :
    (bus.publish channel request).1 = .ok (.to (bus.on channel).length) ∨
      (bus.publish channel request).1 = .error .stuck := by
  have hdelivered := deliver_ok_or_givesUp (publishWithin depth) request (bus.on channel) (bus.keep (bus.on channel))
  have hanswer := publishBy_fst (publishWithin depth) channel request bus
  rw [publish_eq hnesting]
  rcases hdelivered with hok | ⟨before, s, later, halt, hon, hgives⟩
  · simp only [hok] at hanswer
    exact hanswer
  · exact absurd hgives (h before s later halt hon)

end DialogBus

namespace WatchedBus

open BusEvent

/-! ## What a publication leaves alone -/

/-- What happens from one bus to the other is added to no publication that had begun, except for the `outer` one. -/
structure Leaves (outer : Option Nat) (w w' : WatchedBus) : Prop where
  length_le : w.events.length ≤ w'.events.length
  ofPublication_eq : ∀ n < w.events.length, outer ≠ some n → ofPublication n w'.events = ofPublication n w.events

variable {outer : Option Nat} {w w' w'' : WatchedBus} {event : BusEvent} {α β : Type}
  {ran : Except Halt α × WatchedBus} {n : Nat} {request : DialogRequest}

theorem Leaves.refl (w : WatchedBus) : Leaves outer w w := ⟨Nat.le_refl _, fun _ _ _ => rfl⟩

theorem Leaves.trans (h : Leaves outer w w') (h' : Leaves outer w' w'') : Leaves outer w w'' where
  length_le := Nat.le_trans h.length_le h'.length_le
  ofPublication_eq n hn houter :=
    (h'.ofPublication_eq n (Nat.lt_of_lt_of_le hn h.length_le) houter).trans (h.ofPublication_eq n hn houter)

theorem Leaves.weaken (h : Leaves none w w') : Leaves outer w w' :=
  ⟨h.length_le, fun n hn _ => h.ofPublication_eq n hn nofun⟩

theorem leaves_add (event : BusEvent) (bus : DialogBus) (w : WatchedBus) :
    Leaves event.publication? w (w.add event bus) where
  length_le := by
    rw [events_add, List.length_append]
    omega
  ofPublication_eq n _ hevent := by
    have hnil : ofPublication n [event] = [] := ofPublication_eq_nil (List.forall_mem_singleton.mpr hevent)
    rw [events_add, ofPublication_append, hnil, List.append_nil]

theorem leaves_forgo (s : Subscriber) (w : WatchedBus) : Leaves outer w (w.forgo s) := ⟨Nat.le_refl _, fun _ _ _ => rfl⟩

theorem Leaves.andThen {next : α → WatchedBus → Except Halt β × WatchedBus} (h : Leaves outer w ran.2)
    (hnext : ∀ a w', Leaves outer w' (next a w').2) : Leaves outer w (andThen ran next).2 := by
  rcases ran with ⟨halt | a, w'⟩
  · exact h
  · exact h.trans (hnext a w')

section

variable {publish : Publish} (hpublish : ∀ channel request w, Leaves none w (publish channel request w).2)

include hpublish

theorem leaves_react (r : Reaction) (w : WatchedBus) : Leaves none w (react publish r w).2 := by
  induction r generalizing w with
  | finish => exact Leaves.refl w
  | panic => exact Leaves.refl w
  | note entry next ih => exact (leaves_add .other _ w).trans (ih _)
  | look next ih => exact ih _ w
  | count channel next ih => exact ih _ w
  | present host request next ih => exact (leaves_add .other _ w).trans (ih _)
  | publish channel request next ih => exact (hpublish channel request w).andThen ih
  | subscribe id channel receive owned next _ ih =>
    unfold react
    split
    · exact leaves_add (.subscribed _) _ w
    · exact (leaves_add (.subscribed _) _ w).trans (ih _)
  | unsubscribe id next ih =>
    unfold react
    split
    · exact leaves_add (.unsubscribed id) _ w
    · exact (leaves_add (.unsubscribed id) _ w).trans (ih _)

theorem leaves_call (n : Nat) (s : Subscriber) (request : DialogRequest) (w : WatchedBus) :
    Leaves (some n) w (react publish (s.receive request) (w.add (.called n s request) w.bus)).2 :=
  (leaves_add (.called n s request) w.bus w).trans (leaves_react hpublish _ _).weaken

theorem leaves_deliver (n : Nat) (request : DialogRequest) (receivers : List Subscriber) (w : WatchedBus) :
    Leaves (some n) w (deliver publish n request receivers w).2 := by
  induction receivers generalizing w with
  | nil => exact Leaves.refl w
  | cons s rest ih => exact (leaves_call hpublish n s request w).andThen fun _ => ih

theorem leaves_release (receivers : List Subscriber) (w : WatchedBus) :
    Leaves none w (release publish receivers w).2 := by
  induction receivers generalizing w with
  | nil => exact Leaves.refl w
  | cons s rest ih =>
    unfold release
    split
    · exact ((leaves_forgo s w).trans (leaves_react hpublish s.farewell (w.forgo s))).andThen fun _ => ih
    · exact (leaves_forgo s w).trans (ih (w.forgo s))

/-- What a publication adds to those that had begun. -/
theorem leaves_publishBy (channel : String) (request : DialogRequest) (w : WatchedBus) :
    Leaves none w (publishBy publish channel request w).2 := by
  let start := w.add (.begun channel request) (w.bus.keep (w.bus.on channel))
  have hstart : Leaves (some w.events.length) w start := (leaves_add (.begun channel request) _ w).weaken
  have hdelivered := hstart.trans (leaves_deliver hpublish w.events.length request (w.bus.on channel) start)
  have hran : Leaves (some w.events.length) w (publishBy publish channel request w).2 := by
    simp only [publishBy]
    generalize deliver publish w.events.length request (w.bus.on channel) start = delivered at hdelivered ⊢
    have hreleased : Leaves (some w.events.length) delivered.2 (release publish (w.bus.on channel) delivered.2).2 :=
      (leaves_release hpublish ..).weaken
    rcases delivered with ⟨(p | _ | _) | done, w'⟩
    · exact hdelivered.trans (hreleased.andThen fun _ => Leaves.refl)
    · exact hdelivered
    · exact hdelivered
    · exact hdelivered.trans (hreleased.andThen fun _ w'' => leaves_add (.returned _ _) w''.bus w'')
  refine ⟨hran.length_le, fun n hn _ => hran.ofPublication_eq n hn fun heq => ?_⟩
  cases heq
  exact absurd hn (Nat.lt_irrefl _)

end

theorem leaves_publishWithin (depth : Nat) (channel : String) (request : DialogRequest) (w : WatchedBus) :
    Leaves none w (publishWithin depth channel request w).2 := by
  induction depth generalizing channel request w with
  | zero => exact Leaves.refl w
  | succ depth ih => exact leaves_publishBy ih channel request w

/-! ## Who is called -/

/-- The events of a publication with some calls: it returns if it has its answer, and does nothing else. -/
def Returns (n : Nat) (calls : List BusEvent) (ran : Except Halt Delivery × WatchedBus) : Prop :=
  ofPublication n ran.2.events = calls ++
    match ran.1 with
    | .ok delivery => [returned n delivery]
    | .error _ => []

theorem returns_ok (released : Except Halt Unit × WatchedBus) (delivery : Delivery) :
    Returns n (ofPublication n released.2.events)
      (andThen released fun _ w => (.ok delivery, w.add (.returned n delivery) w.bus)) := by
  rcases released with ⟨halt | done, w⟩
  · exact (List.append_nil _).symm
  · simp [Returns, andThen, events_add, ofPublication, publication?]

theorem returns_error (released : Except Halt Unit × WatchedBus) (halt : Halt) :
    Returns n (ofPublication n released.2.events) (andThen released fun _ w => (.error halt, w)) := by
  rcases released with ⟨halt' | done, w⟩ <;> exact (List.append_nil _).symm

section

variable {publish : Publish} (hpublish : ∀ channel request w, Leaves none w (publish channel request w).2)

include hpublish

/-- A call adds itself to its publication, whatever the subscriber does. -/
theorem ofPublication_call (s : Subscriber) (request : DialogRequest) (hn : n < w.events.length) :
    ofPublication n (react publish (s.receive request) (w.add (.called n s request) w.bus)).2.events =
      ofPublication n w.events ++ [called n s request] := by
  have hlength : n < (w.add (.called n s request) w.bus).events.length := by
    rw [events_add, List.length_append]
    omega
  rw [(leaves_react hpublish _ _).ofPublication_eq n hlength nofun, events_add, ofPublication_append]
  simp [ofPublication, publication?]

/-- Where all come back, all are called. -/
theorem ofPublication_deliver_ok {receivers : List Subscriber} (hn : n < w.events.length)
    (hok : deliver publish n request receivers w = (.ok (), w')) :
    ofPublication n w'.events = ofPublication n w.events ++ receivers.map (called n · request) := by
  induction receivers generalizing w with
  | nil =>
    cases hok
    exact (List.append_nil _).symm
  | cons s rest ih =>
    have hlength := (leaves_call hpublish n s request w).length_le
    have hcall := ofPublication_call hpublish s request hn
    unfold deliver at hok
    rcases hreact : react publish (s.receive request) (w.add (.called n s request) w.bus) with ⟨halt | done, w''⟩
    · rw [hreact] at hok
      cases hok
    · rw [hreact] at hok hlength hcall
      rw [ih (Nat.lt_of_lt_of_le hn hlength) hok, hcall, List.append_assoc]
      rfl

/-- The one that does not come back is the last that is called. -/
theorem ofPublication_deliver_error {before : List Subscriber} {s : Subscriber} {halt : Halt} (later : List Subscriber)
    (hn : n < w.events.length) (hbefore : deliver publish n request before w = (.ok (), w'))
    (hs : (react publish (s.receive request) (w'.add (.called n s request) w'.bus)).1 = .error halt) :
    ofPublication n (deliver publish n request (before ++ s :: later) w).2.events =
      ofPublication n w.events ++ (before ++ [s]).map (called n · request) := by
  induction before generalizing w with
  | nil =>
    cases hbefore
    have hcall := ofPublication_call hpublish s request hn
    simp only [List.nil_append, deliver]
    rcases hreact : react publish (s.receive request) (w'.add (.called n s request) w'.bus) with ⟨halt' | done, w''⟩
    · rw [hreact] at hcall
      exact hcall
    · rw [hreact] at hs
      cases hs
  | cons first rest ih =>
    have hlength := (leaves_call hpublish n first request w).length_le
    have hcall := ofPublication_call hpublish first request hn
    unfold deliver at hbefore
    simp only [List.cons_append, deliver]
    rcases hreact : react publish (first.receive request) (w.add (.called n first request) w.bus) with ⟨_ | done, w''⟩
    · rw [hreact] at hbefore
      cases hbefore
    · rw [hreact] at hbefore hlength hcall
      simp only [andThen]
      rw [ih (Nat.lt_of_lt_of_le hn hlength) hbefore, hcall, List.append_assoc]
      rfl

/-- After its calls a publication has no events, unless it returns. -/
theorem returns_publishBy (channel : String) (request : DialogRequest) (w : WatchedBus) :
    let n := w.events.length
    let start := w.add (.begun channel request) (w.bus.keep (w.bus.on channel))
    Returns n (ofPublication n (deliver publish n request (w.bus.on channel) start).2.events)
      (publishBy publish channel request w) := by
  intro n start
  have hlength : n < (deliver publish n request (w.bus.on channel) start).2.events.length := by
    refine Nat.lt_of_lt_of_le ?_ (leaves_deliver hpublish n request (w.bus.on channel) start).length_le
    rw [events_add, List.length_append]
    exact Nat.lt_succ_self _
  have hreleased := (leaves_release hpublish (w.bus.on channel) _).ofPublication_eq n hlength nofun
  simp only [publishBy]
  generalize deliver publish n request (w.bus.on channel) start = delivered at hreleased ⊢
  rw [← hreleased]
  rcases delivered with ⟨(p | _ | _) | done, w'⟩
  · exact returns_error _ (.panic p)
  · exact hreleased.symm.trans (List.append_nil _).symm
  · exact hreleased.symm.trans (List.append_nil _).symm
  · exact returns_ok ..

end

/-! ## A publication on its own -/

/-- What a bus and those who are subscribed to it do when a request is published on it. -/
def published (channel : String) (request : DialogRequest) (bus : DialogBus) : Except Halt Delivery × WatchedBus :=
  publish channel request { bus }

variable {depth : Nat} {channel : String} {bus : DialogBus}

theorem forget_published : forget (published channel request bus) = bus.publish channel request := forget_publish ..

theorem published_fst : (published channel request bus).1 = (bus.publish channel request).1 :=
  congrArg Prod.fst forget_published

section

variable (hnesting : bus.nesting = depth + 1)

include hnesting

theorem published_eq : published channel request bus = publishBy (publishWithin depth) channel request { bus } := by
  unfold published publish
  rw [hnesting]
  rfl

/-- As long as everyone comes back, everyone is called who is subscribed, each once and in order. -/
theorem published_of_calm (h : ∀ before s later halt, bus.on channel = before ++ s :: later →
      ¬ DialogBus.GivesUp (DialogBus.publishWithin depth) request before s halt (bus.keep (bus.on channel))) :
    let receivers := bus.on channel
    let events := (published channel request bus).2.events
    (bus.publish channel request).1 = .ok (.to receivers.length) ∧
        ofPublication 0 events = receivers.map (called 0 · request) ++ [returned 0 (.to receivers.length)] ∨
      (bus.publish channel request).1 = .error .stuck ∧
        ofPublication 0 events = receivers.map (called 0 · request) := by
  intro receivers events
  let start := (⟨bus, []⟩ : WatchedBus).add (.begun channel request) (bus.keep receivers)
  have hplain : (DialogBus.deliver (DialogBus.publishWithin depth) request receivers (bus.keep receivers)).1 =
      .ok () := by
    refine (DialogBus.deliver_ok_or_givesUp ..).resolve_right ?_
    rintro ⟨before, s, later, halt, hon, hgives⟩
    exact h before s later halt hon hgives
  have hforget : forget (deliver (publishWithin depth) 0 request receivers start) =
      DialogBus.deliver (DialogBus.publishWithin depth) request receivers (bus.keep receivers) :=
    forget_deliver (forget_publishWithin depth) ..
  have hok : deliver (publishWithin depth) 0 request receivers start =
      (.ok (), (deliver (publishWithin depth) 0 request receivers start).2) :=
    Prod.ext ((congrArg Prod.fst hforget).trans hplain) rfl
  have hcalls := ofPublication_deliver_ok (leaves_publishWithin depth) Nat.zero_lt_one hok
  have hreturns : Returns 0 (receivers.map (called 0 · request)) (published channel request bus) := by
    have hrun : Returns 0 (ofPublication 0 (deliver (publishWithin depth) 0 request receivers start).2.events) _ :=
      returns_publishBy (leaves_publishWithin depth) channel request { bus }
    rw [hcalls] at hrun
    rw [published_eq hnesting]
    exact hrun
  unfold Returns at hreturns
  rw [published_fst] at hreturns
  exact (DialogBus.publish_of_calm hnesting h).imp (fun hback => ⟨hback, by rw [hreturns, hback]⟩) fun hstuck =>
    ⟨hstuck, by rw [hreturns, hstuck, List.append_nil]⟩

/-- Whoever does not come back is the last one that is called. -/
theorem published_of_givesUp {before later : List Subscriber} {s : Subscriber} {halt : Halt}
    (hon : bus.on channel = before ++ s :: later)
    (h : DialogBus.GivesUp (DialogBus.publishWithin depth) request before s halt (bus.keep (bus.on channel))) :
    ((bus.publish channel request).1 = .error halt ∨ (bus.publish channel request).1 = .error .stuck) ∧
      ofPublication 0 (published channel request bus).2.events = (before ++ [s]).map (called 0 · request) := by
  let start := (⟨bus, []⟩ : WatchedBus).add (.begun channel request) (bus.keep (bus.on channel))
  obtain ⟨bus', hbefore, hs⟩ := h
  have hforget : forget (deliver (publishWithin depth) 0 request before start) =
      DialogBus.deliver (DialogBus.publishWithin depth) request before (bus.keep (bus.on channel)) :=
    forget_deliver (forget_publishWithin depth) ..
  let w' := (deliver (publishWithin depth) 0 request before start).2
  obtain ⟨hresult, hbus⟩ : _ ∧ w'.bus = bus' := Prod.ext_iff.mp (hforget.trans hbefore)
  have hok : deliver (publishWithin depth) 0 request before start = (.ok (), w') := Prod.ext hresult rfl
  have hreact : forget (react (publishWithin depth) (s.receive request) (w'.add (.called 0 s request) w'.bus)) =
      DialogBus.react (DialogBus.publishWithin depth) (s.receive request) w'.bus :=
    forget_react (forget_publishWithin depth) ..
  have hs' : (react (publishWithin depth) (s.receive request) (w'.add (.called 0 s request) w'.bus)).1 =
      .error halt := by
    rw [← hs, ← hbus]
    exact congrArg Prod.fst hreact
  have hcalls := ofPublication_deliver_error (leaves_publishWithin depth) later Nat.zero_lt_one hok hs'
  have hanswer := DialogBus.publish_of_givesUp hnesting hon ⟨bus', hbefore, hs⟩
  have hrun : Returns 0 (ofPublication 0 (deliver (publishWithin depth) 0 request (bus.on channel) start).2.events) _ :=
    returns_publishBy (leaves_publishWithin depth) channel request { bus }
  rw [hon, hcalls, ← published_eq hnesting] at hrun
  unfold Returns at hrun
  rw [published_fst] at hrun
  refine ⟨hanswer, ?_⟩
  rcases hanswer with hanswer | hanswer <;> (rw [hanswer] at hrun; exact hrun.trans (List.append_nil _))

end

end WatchedBus

end RecordScreens
