import RecordScreens.Dialog.Bus
import RecordScreens.Proofs.Positions

/-!
# What happens on a bus

A run on a bus, written down event by event. Forgetting what was written leaves the run as
it is, and what was written tells who is subscribed.
-/

namespace RecordScreens

/-- What happens on a bus. A publication goes by the place of its beginning among the events. -/
inductive BusEvent where
  | subscribed (s : Subscriber)
  | unsubscribed (id : SubscriptionId)
  /-- A request is published. -/
  | begun (channel : String) (request : DialogRequest)
  /-- A subscriber is called with the request of a publication. -/
  | called (publication : Nat) (s : Subscriber) (request : DialogRequest)
  /-- A publication is over. -/
  | returned (publication : Nat) (delivery : Delivery)
  /-- Something else than what subscriptions are about. -/
  | other

namespace BusEvent

/-- The publication that an event belongs to. -/
def publication? : BusEvent → Option Nat
  | called n _ _ | returned n _ => some n
  | _ => none

/-- Whether an event ends a subscription. Another subscription with the same id does. -/
def ends (id : SubscriptionId) : BusEvent → Bool
  | subscribed s => s.id == id
  | unsubscribed id' => id' == id
  | _ => false

/-- The subscriptions that have begun and not ended since, in order. -/
def live : List BusEvent → List Subscriber
  | [] => []
  | subscribed s :: later => if later.any (ends s.id) then live later else s :: live later
  | _ :: later => live later

/-- The live subscriptions of a channel. -/
def liveOn (events : List BusEvent) (channel : String) : List Subscriber := (live events).filter (·.channel == channel)

/-- The events of a publication. -/
def ofPublication (n : Nat) (events : List BusEvent) : List BusEvent := events.filter (·.publication? == some n)

variable {events later : List BusEvent} {event : BusEvent} {n : Nat}

/-- What follows ends some subscriptions and begins others. -/
theorem live_append (events later : List BusEvent) :
    live (events ++ later) = (live events).filter (fun s => !later.any (ends s.id)) ++ live later := by
  induction events with
  | nil => rfl
  | cons event rest ih =>
    cases event with
    | subscribed s =>
      simp only [List.cons_append, live, List.any_append, Bool.or_eq_true]
      by_cases hrest : rest.any (ends s.id) = true
      · simp only [hrest, true_or, if_true, ih]
      · by_cases hlater : later.any (ends s.id) = true <;> simp [hrest, hlater, ih]
    | _ => exact ih

theorem live_concat_subscribed (events : List BusEvent) (s : Subscriber) :
    live (events ++ [subscribed s]) = (live events).filter (·.id != s.id) ++ [s] := by
  rw [live_append]
  refine congrArg (· ++ [s]) (List.filter_congr fun t _ => ?_)
  simp [ends, bne, BEq.comm]

theorem live_concat_unsubscribed (events : List BusEvent) (id : SubscriptionId) :
    live (events ++ [unsubscribed id]) = (live events).filter (·.id != id) := by
  have hlive : live [unsubscribed id] = [] := rfl
  rw [live_append, hlive, List.append_nil]
  refine List.filter_congr fun t _ => ?_
  simp [ends, bne, BEq.comm]

/-- Whether an event has nothing to do with who is subscribed. -/
def isAside : BusEvent → Bool
  | subscribed _ | unsubscribed _ => false
  | _ => true

theorem live_concat_of_isAside (h : event.isAside) : live (events ++ [event]) = live events := by
  have hends (id : SubscriptionId) : event.ends id = false := by
    cases event with
    | subscribed | unsubscribed => cases h
    | _ => rfl
  have hlive : live [event] = [] := by
    cases event with
    | subscribed | unsubscribed => cases h
    | _ => rfl
  simp [live_append, hends, hlive]

@[simp] theorem ofPublication_append (n : Nat) (events later : List BusEvent) :
    ofPublication n (events ++ later) = ofPublication n events ++ ofPublication n later := List.filter_append ..

theorem ofPublication_eq_nil (h : ∀ event ∈ events, event.publication? ≠ some n) : ofPublication n events = [] := by
  refine List.filter_eq_nil_iff.mpr fun event hevent => ?_
  simpa using h event hevent

end BusEvent

/-! ## Watched runs -/

/-- An event and the bus after it. -/
structure Moment where
  event : BusEvent
  bus : DialogBus

/-- A bus and what has happened on it. -/
structure WatchedBus where
  bus : DialogBus
  moments : List Moment := []

namespace WatchedBus

open BusEvent

/-- What has happened. -/
def events (w : WatchedBus) : List BusEvent := w.moments.map (·.event)

/-- Writes down an event that leaves the bus as given. -/
def add (event : BusEvent) (bus : DialogBus) (w : WatchedBus) : WatchedBus := ⟨bus, w.moments ++ [⟨event, bus⟩]⟩

/-- Goes on where code came back. -/
def andThen {α β : Type} (ran : Except Halt α × WatchedBus) (next : α → WatchedBus → Except Halt β × WatchedBus) :
    Except Halt β × WatchedBus :=
  match ran with
  | (.ok a, w) => next a w
  | (.error h, w) => (.error h, w)

abbrev Publish := String → DialogRequest → WatchedBus → Except Halt Delivery × WatchedBus

/-- Carries out what a subscriber does. -/
def react (publish : Publish) : Reaction → WatchedBus → Except Halt Unit × WatchedBus
  | .finish, w => (.ok (), w)
  | .panic p, w => (.error (.panic p), w)
  | .note entry next, w => react publish next (w.add .other { w.bus with notes := w.bus.notes ++ [entry] })
  | .look next, w => react publish (next w.bus.notes) w
  | .count channel next, w => react publish (next (w.bus.subscriberCount channel)) w
  | .present host request next, w => react publish next (w.add .other (w.bus.present host (some request)))
  | .publish channel request next, w =>
    andThen (publish channel request w) fun delivery w => react publish (next delivery) w
  | .subscribe id channel receive owned next, w =>
    let subscribed := w.add (.subscribed ⟨id, channel, receive, owned, w.bus.issued⟩)
      (w.bus.subscribe id channel receive owned)
    if w.bus.jams id then (.error .stuck, subscribed) else react publish next subscribed
  | .unsubscribe id next, w =>
    let unsubscribed := w.add (.unsubscribed id) (w.bus.unsubscribe id)
    if w.bus.jams id then (.error .stuck, unsubscribed) else react publish next unsubscribed

/-- Calls subscribers in turn, for a publication. -/
def deliver (publish : Publish) (n : Nat) (request : DialogRequest) :
    List Subscriber → WatchedBus → Except Halt Unit × WatchedBus
  | [], w => (.ok (), w)
  | s :: rest, w =>
    andThen (react publish (s.receive request) (w.add (.called n s request) w.bus)) fun _ w =>
      deliver publish n request rest w

/-- Keeps a handler no longer, which is no event. -/
def forgo (s : Subscriber) (w : WatchedBus) : WatchedBus := { w with bus := w.bus.forgo s }

/-- Keeps some handlers no longer. -/
def release (publish : Publish) : List Subscriber → WatchedBus → Except Halt Unit × WatchedBus
  | [], w => (.ok (), w)
  | s :: rest, w =>
    if (w.bus.forgo s).isGone s then
      andThen (react publish s.farewell (w.forgo s)) fun _ w => release publish rest w
    else release publish rest (w.forgo s)

/-- Publishes to those who are subscribed now. -/
def publishBy (publish : Publish) : Publish := fun channel request w =>
  let n := w.events.length
  let receivers := w.bus.on channel
  let delivery : Delivery := .to receivers.length
  match deliver publish n request receivers (w.add (.begun channel request) (w.bus.keep receivers)) with
  | (.ok (), w) =>
    andThen (release publish receivers w) fun _ w => (.ok delivery, w.add (.returned n delivery) w.bus)
  | (.error (.panic p), w) => andThen (release publish receivers w) fun _ w => (.error (.panic p), w)
  | (.error h, w) => (.error h, w)

def publishWithin : Nat → Publish
  | 0 => fun _ _ w => (.error .overflow, w)
  | depth + 1 => publishBy (publishWithin depth)

def publish : Publish := fun channel request w => publishWithin w.bus.nesting channel request w

/-! ## Forgetting -/

/-- A run without what was written down. -/
def forget {α : Type} (ran : Except Halt α × WatchedBus) : Except Halt α × DialogBus := (ran.1, ran.2.bus)

theorem forget_andThen {α β : Type} (ran : Except Halt α × WatchedBus)
    {next : α → WatchedBus → Except Halt β × WatchedBus} {plain : α → DialogBus → Except Halt β × DialogBus}
    (h : ∀ a w, forget (next a w) = plain a w.bus) :
    forget (andThen ran next) = DialogBus.andThen (forget ran) plain := by
  rcases ran with ⟨halt | a, w⟩
  · rfl
  · exact h a w

section

variable {publish : Publish} {plain : DialogBus.Publish}
  (hpublish : ∀ channel request w, forget (publish channel request w) = plain channel request w.bus)

include hpublish

theorem forget_react (r : Reaction) (w : WatchedBus) : forget (react publish r w) = DialogBus.react plain r w.bus := by
  induction r generalizing w with
  | finish => rfl
  | panic => rfl
  | note entry next ih => exact ih _
  | look next ih => exact ih _ _
  | count channel next ih => exact ih _ _
  | present host request next ih => exact ih _
  | publish channel request next ih =>
    simp only [react, DialogBus.react, ← hpublish]
    exact forget_andThen _ ih
  | subscribe id channel receive owned next _ ih =>
    simp only [react, DialogBus.react]
    split
    · rfl
    · exact ih _
  | unsubscribe id next ih =>
    simp only [react, DialogBus.react]
    split
    · rfl
    · exact ih _

theorem forget_deliver (n : Nat) (request : DialogRequest) (receivers : List Subscriber) (w : WatchedBus) :
    forget (deliver publish n request receivers w) = DialogBus.deliver plain request receivers w.bus := by
  induction receivers generalizing w with
  | nil => rfl
  | cons s rest ih =>
    have hreact : forget (react publish (s.receive request) (w.add (.called n s request) w.bus)) =
        DialogBus.react plain (s.receive request) w.bus := forget_react hpublish ..
    simp only [deliver, DialogBus.deliver, ← hreact]
    exact forget_andThen _ fun _ => ih

theorem forget_release (receivers : List Subscriber) (w : WatchedBus) :
    forget (release publish receivers w) = DialogBus.release plain receivers w.bus := by
  induction receivers generalizing w with
  | nil => rfl
  | cons s rest ih =>
    have hreact : forget (react publish s.farewell (w.forgo s)) = DialogBus.react plain s.farewell (w.bus.forgo s) :=
      forget_react hpublish ..
    simp only [release, DialogBus.release, ← hreact]
    split
    · exact forget_andThen _ fun _ => ih
    · exact ih (w.forgo s)

theorem forget_publishBy (channel : String) (request : DialogRequest) (w : WatchedBus) :
    forget (publishBy publish channel request w) = DialogBus.publishBy plain channel request w.bus := by
  have hdeliver : forget (deliver publish w.events.length request (w.bus.on channel)
      (w.add (.begun channel request) (w.bus.keep (w.bus.on channel)))) =
        DialogBus.deliver plain request (w.bus.on channel) (w.bus.keep (w.bus.on channel)) := forget_deliver hpublish ..
  have hrelease (w' : WatchedBus) : forget (release publish (w.bus.on channel) w') =
      DialogBus.release plain (w.bus.on channel) w'.bus := forget_release hpublish ..
  simp only [publishBy, DialogBus.publishBy, ← hdeliver]
  rcases deliver publish w.events.length request (w.bus.on channel)
    (w.add (.begun channel request) (w.bus.keep (w.bus.on channel))) with ⟨(p | _ | _) | done, w'⟩
  · simp only [forget, ← hrelease]
    exact forget_andThen _ fun _ _ => rfl
  · rfl
  · rfl
  · simp only [forget, ← hrelease]
    exact forget_andThen _ fun _ _ => rfl

end

theorem forget_publishWithin (depth : Nat) (channel : String) (request : DialogRequest) (w : WatchedBus) :
    forget (publishWithin depth channel request w) = DialogBus.publishWithin depth channel request w.bus := by
  induction depth generalizing channel request w with
  | zero => rfl
  | succ depth ih => exact forget_publishBy ih channel request w

theorem forget_publish (channel : String) (request : DialogRequest) (w : WatchedBus) :
    forget (publish channel request w) = DialogBus.publish channel request w.bus :=
  forget_publishWithin w.bus.nesting channel request w

/-! ## Faithful histories -/

/-- The bus agrees with what was written down, now and after each event, and events of a publication come after its
beginning. -/
structure Faithful (w : WatchedBus) : Prop where
  now : w.bus.subscribers = live w.events
  always : ∀ before m later, w.moments = before ++ m :: later →
    m.bus.subscribers = live (before.map (·.event) ++ [m.event])
  numbered : ∀ before event later, w.events = before ++ event :: later →
    ∀ n, event.publication? = some n → n < before.length

variable {w : WatchedBus} {event : BusEvent} {bus : DialogBus}

theorem events_add : (w.add event bus).events = w.events ++ [event] := List.map_append

theorem faithful_start (h : bus.subscribers = []) : Faithful { bus } where
  now := h
  always before m later heq := by simp at heq
  numbered before event later heq := by simp [events] at heq

theorem Faithful.add (h : w.Faithful) (hbus : bus.subscribers = live (w.events ++ [event]))
    (hnumber : ∀ n, event.publication? = some n → n < w.events.length) : (w.add event bus).Faithful where
  now := by rw [events_add]; exact hbus
  always before m later heq := by
    rcases append_eq_append_cons heq with ⟨rest, hmoments, -⟩ | ⟨rest, rfl, hlast⟩
    · exact h.always before m rest hmoments
    · obtain ⟨rfl, rfl, rfl⟩ := singleton_eq_append_cons hlast
      rw [List.append_nil]
      exact hbus
  numbered before event' later heq := by
    rw [events_add] at heq
    rcases append_eq_append_cons heq with ⟨rest, hevents, -⟩ | ⟨rest, rfl, hlast⟩
    · exact h.numbered before event' rest hevents
    · obtain ⟨rfl, rfl, rfl⟩ := singleton_eq_append_cons hlast
      rw [List.append_nil]
      exact hnumber

theorem Faithful.add_aside (h : w.Faithful) (hevent : event.isAside) (hbus : bus.subscribers = w.bus.subscribers)
    (hnumber : ∀ n, event.publication? = some n → n < w.events.length) : (w.add event bus).Faithful :=
  h.add (by rw [hbus, h.now, live_concat_of_isAside hevent]) hnumber

theorem Faithful.subscribe (h : w.Faithful) (id : SubscriptionId) (channel : String)
    (receive : DialogRequest → Reaction) (owned : List SubscriptionId) :
    (w.add (.subscribed ⟨id, channel, receive, owned, w.bus.issued⟩)
      (w.bus.subscribe id channel receive owned)).Faithful := by
  refine h.add ?_ nofun
  rw [live_concat_subscribed, ← h.now]
  rfl

theorem Faithful.unsubscribe (h : w.Faithful) (id : SubscriptionId) :
    (w.add (.unsubscribed id) (w.bus.unsubscribe id)).Faithful := by
  refine h.add ?_ nofun
  rw [live_concat_unsubscribed, ← h.now]
  rfl

theorem Faithful.forgo (h : w.Faithful) (s : Subscriber) : (w.forgo s).Faithful := ⟨h.now, h.always, h.numbered⟩

end WatchedBus

/-! ## Waiting for oneself -/

/-- After some events, one that ends a subscription whose handler goes away at once, as no publication keeps it, and
owns another subscription that is live. Who does this waits for himself. -/
def Moment.Jams (past : List BusEvent) (m : Moment) : Prop :=
  ∃ s ∈ BusEvent.live past, m.event.ends s.id ∧ s.serial ∉ m.bus.kept ∧
    ∃ other ∈ BusEvent.live past, other.id ∈ s.owned ∧ other.id ≠ s.id

/-- At none of some moments does anybody wait for himself. -/
def Moment.NoneJams (moments : List Moment) : Prop :=
  ∀ before m later, moments = before ++ m :: later → ¬ m.Jams (before.map (·.event))

namespace WatchedBus

open BusEvent

variable {w : WatchedBus} {event : BusEvent} {bus : DialogBus}

/-- Nobody has waited for himself. -/
def Free (w : WatchedBus) : Prop := Moment.NoneJams w.moments

/-- At the last moment somebody waited for himself, and at none before. -/
def Jammed (w : WatchedBus) : Prop :=
  ∃ before m, w.moments = before ++ [m] ∧ m.Jams (before.map (·.event)) ∧ Moment.NoneJams before

/-- Somebody waits for himself just when the bus gets stuck. -/
theorem Faithful.jams_iff (h : w.Faithful) {id : SubscriptionId} (hevent : ∀ other, event.ends other = (id == other))
    (hkept : bus.kept = w.bus.kept) : (Moment.mk event bus).Jams w.events ↔ w.bus.jams id := by
  simp only [Moment.Jams, DialogBus.jams, DialogBus.owns, DialogBus.isSubscribed, DialogBus.unsubscribe, ← h.now,
    hevent, hkept, List.any_eq_true, List.mem_filter, Bool.and_eq_true, beq_iff_eq, bne_iff_ne, Bool.not_eq_true',
    List.contains_eq_mem, decide_eq_false_iff_not]
  constructor
  · rintro ⟨s, hs, rfl, hkept, other, hother, howned, hne⟩
    exact ⟨s, hs, ⟨rfl, hkept⟩, other.id, howned, other, ⟨hother, hne⟩, rfl⟩
  · rintro ⟨s, hs, ⟨rfl, hkept⟩, _, howned, other, ⟨hother, hne⟩, rfl⟩
    exact ⟨s, hs, rfl, hkept, other, hother, howned, hne⟩

theorem not_jams_of_isAside {past : List BusEvent} (hevent : event.isAside) : ¬ (Moment.mk event bus).Jams past := by
  rintro ⟨s, -, hends, -⟩
  cases event <;> cases hevent <;> cases hends

theorem Free.add (h : w.Free) (hevent : ¬ (Moment.mk event bus).Jams w.events) : (w.add event bus).Free := by
  intro before m later heq
  rcases append_eq_append_cons heq with ⟨rest, hmoments, -⟩ | ⟨rest, rfl, hlast⟩
  · exact h before m rest hmoments
  · obtain ⟨rfl, rfl, rfl⟩ := singleton_eq_append_cons hlast
    rwa [List.append_nil]

theorem Free.jammed (h : w.Free) (hevent : (Moment.mk event bus).Jams w.events) : (w.add event bus).Jammed :=
  ⟨w.moments, ⟨event, bus⟩, rfl, hevent, h⟩

end WatchedBus

end RecordScreens
