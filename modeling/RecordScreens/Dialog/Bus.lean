import RecordScreens.Dialog.Request
import RecordScreens.Failure.Action
import RecordScreens.Query.State
import RecordScreens.Text.Quoted

/-!
# Dialog bus

Channels on which dialog requests are published. A request goes to those who were
subscribed when it was published, in the order in which they subscribed. A subscriber
may in turn publish, subscribe and unsubscribe.

Subscriptions begin and end under a lock. The handler of a subscriber goes away with its
subscription, or after the last publication that keeps it, and the subscriptions that it owns
end with it. Each of these takes the lock in turn. So who ends a subscription whose handler
goes away under the lock and owns another one waits for himself.
-/

namespace RecordScreens

/-- What became of a published request. -/
inductive Delivery where
  /-- It went to this many subscribers. -/
  | delivered (subscribers : Nat)
  /-- Nobody was subscribed. -/
  | dropped
  deriving DecidableEq, Repr

/-- What became of a request that went to so many subscribers. -/
def Delivery.to : Nat → Delivery
  | 0 => .dropped
  | n + 1 => .delivered (n + 1)

/-- What identifies a subscription. -/
inductive SubscriptionId where
  | named (name : String)
  /-- The subscription of a dialog host. -/
  | host (number : Nat)
  deriving DecidableEq, Repr

/-- What a subscriber does with a request, step by step. -/
inductive Reaction where
  | finish
  /-- Gives up, and with it whoever published the request. -/
  | panic (p : Panic)
  /-- Leaves a note for whoever reads the bus. -/
  | note (entry : Json) (next : Reaction)
  /-- Goes on as the notes say that were left so far. -/
  | look (next : List Json → Reaction)
  /-- Goes on as the number of subscribers of a channel says. -/
  | count (channel : String) (next : Nat → Reaction)
  /-- Lets a host show the request. -/
  | present (host : Nat) (request : DialogRequest) (next : Reaction)
  | publish (channel : String) (request : DialogRequest) (next : Delivery → Reaction)
  /-- The new handler owns some subscriptions. -/
  | subscribe (id : SubscriptionId) (channel : String) (receive : DialogRequest → Reaction)
      (owned : List SubscriptionId) (next : Reaction)
  | unsubscribe (id : SubscriptionId) (next : Reaction)

/-- Who is subscribed to a channel, and what it does with a request. -/
structure Subscriber where
  id : SubscriptionId
  channel : String
  receive : DialogRequest → Reaction
  /-- The subscriptions that its handler owns, in the order in which they end with it. -/
  owned : List SubscriptionId := []
  /-- Tells it from others that have had its id. -/
  serial : Nat := 0

/-- What happens when the handler of a subscriber goes away: what it owns ends. -/
def Subscriber.farewell (s : Subscriber) : Reaction := s.owned.foldr .unsubscribe .finish

/-- Subscribers in order, the dialogs that hosts show, and the notes that were left. -/
structure DialogBus where
  subscribers : List Subscriber := []
  hosts : List (Watch (Option DialogRequest)) := []
  notes : List Json := []
  /-- How deep subscribers may publish while they receive. -/
  nesting : Nat := 1000
  /-- How many have subscribed so far. -/
  issued : Nat := 0
  /-- The serial numbers of those whose handlers are kept by publications under way. -/
  kept : List Nat := []

namespace DialogBus

/-! ## Subscriptions -/

/-- The subscribers of a channel. -/
def on (bus : DialogBus) (channel : String) : List Subscriber := bus.subscribers.filter (·.channel == channel)

/-- How many are subscribed to a channel. -/
def subscriberCount (bus : DialogBus) (channel : String) : Nat := (bus.on channel).length

/-- Whether there is a subscription with this id. -/
def isSubscribed (bus : DialogBus) (id : SubscriptionId) : Bool := bus.subscribers.any (·.id == id)

/-- Ends a subscription. -/
def unsubscribe (id : SubscriptionId) (bus : DialogBus) : DialogBus :=
  { bus with subscribers := bus.subscribers.filter (·.id != id) }

/-- Adds a subscription at the end; another one with the same id ends. -/
def subscribe (id : SubscriptionId) (channel : String) (receive : DialogRequest → Reaction) (bus : DialogBus)
    (owned : List SubscriptionId := []) : DialogBus :=
  let bus := bus.unsubscribe id
  { bus with
    subscribers := bus.subscribers ++ [{ id, channel, receive, owned, serial := bus.issued }]
    issued := bus.issued + 1 }

/-! ## Handlers -/

/-- Whether the handler of a subscriber owns a subscription that has not ended. -/
def owns (bus : DialogBus) (s : Subscriber) : Bool := s.owned.any bus.isSubscribed

/-- Whether who ends a subscription gets stuck: its handler goes away under the lock, as no publication keeps it, and
what it owns would have to end under the lock too. -/
def jams (bus : DialogBus) (id : SubscriptionId) : Bool :=
  bus.subscribers.any fun s => s.id == id && !bus.kept.contains s.serial && (bus.unsubscribe id).owns s

/-- Keeps the handlers of some subscribers, whether they stay subscribed or not. -/
def keep (receivers : List Subscriber) (bus : DialogBus) : DialogBus :=
  { bus with kept := receivers.map (·.serial) ++ bus.kept }

/-- Keeps a handler no longer. -/
def forgo (s : Subscriber) (bus : DialogBus) : DialogBus := { bus with kept := bus.kept.erase s.serial }

/-- Whether nobody has the handler of a subscriber any more. -/
def isGone (bus : DialogBus) (s : Subscriber) : Bool :=
  !bus.kept.contains s.serial && !bus.subscribers.any (·.serial == s.serial)

/-! ## Hosts -/

/-- What a host shows. -/
def current (bus : DialogBus) (host : Nat) : Option DialogRequest := (bus.hosts[host]?).bind (·.value)

/-- Whether a host shows a dialog with this id. -/
def isOpen (bus : DialogBus) (host : Nat) (dialogId : String) : Bool :=
  (bus.current host).any (·.dialogId == dialogId)

/-- How often it was announced what a host shows. -/
def version (bus : DialogBus) (host : Nat) : Nat := ((bus.hosts[host]?).map (·.version)).getD 0

/-- Lets a host show a request, or nothing. -/
def present (host : Nat) (request : Option DialogRequest) (bus : DialogBus) : DialogBus :=
  { bus with hosts := bus.hosts.modify host (·.send request) }

/-- Adds a host, which shows the last request on its channel until it is closed. -/
def attach (channel : String) (bus : DialogBus) : Nat × DialogBus :=
  let host := bus.hosts.length
  let bus : DialogBus := { bus with hosts := bus.hosts ++ [{ value := none }] }
  (host, bus.subscribe (.host host) channel fun request => .present host request .finish)

/-- Closes whatever dialog a host shows. -/
def close (host : Nat) (bus : DialogBus) : DialogBus := bus.present host none

/-! ## Publishing -/

/-- How a request is published, in the hands of whoever reacts to one. -/
abbrev Publish := String → DialogRequest → DialogBus → Except Halt Delivery × DialogBus

/-- Goes on where code came back. -/
def andThen {α β : Type} (ran : Except Halt α × DialogBus) (next : α → DialogBus → Except Halt β × DialogBus) :
    Except Halt β × DialogBus :=
  match ran with
  | (.ok a, bus) => next a bus
  | (.error h, bus) => (.error h, bus)

/-- Carries out what a subscriber does. -/
def react (publish : Publish) : Reaction → DialogBus → Except Halt Unit × DialogBus
  | .finish, bus => (.ok (), bus)
  | .panic p, bus => (.error (.panic p), bus)
  | .note entry next, bus => react publish next { bus with notes := bus.notes ++ [entry] }
  | .look next, bus => react publish (next bus.notes) bus
  | .count channel next, bus => react publish (next (bus.subscriberCount channel)) bus
  | .present host request next, bus => react publish next (bus.present host (some request))
  | .publish channel request next, bus =>
    andThen (publish channel request bus) fun delivery bus => react publish (next delivery) bus
  | .subscribe id channel receive owned next, bus =>
    let subscribed := bus.subscribe id channel receive owned
    if bus.jams id then (.error .stuck, subscribed) else react publish next subscribed
  | .unsubscribe id next, bus =>
    if bus.jams id then (.error .stuck, bus.unsubscribe id) else react publish next (bus.unsubscribe id)

/-- Hands a request to subscribers in turn, until one of them does not come back. -/
def deliver (publish : Publish) (request : DialogRequest) :
    List Subscriber → DialogBus → Except Halt Unit × DialogBus
  | [], bus => (.ok (), bus)
  | s :: rest, bus => andThen (react publish (s.receive request) bus) fun _ bus => deliver publish request rest bus

/-- Keeps some handlers no longer. Those that nobody has any more go away, and what they own ends. -/
def release (publish : Publish) : List Subscriber → DialogBus → Except Halt Unit × DialogBus
  | [], bus => (.ok (), bus)
  | s :: rest, bus =>
    if (bus.forgo s).isGone s then
      andThen (react publish s.farewell (bus.forgo s)) fun _ bus => release publish rest bus
    else release publish rest (bus.forgo s)

/-- Publishes to those who are subscribed now, by means of `publish` for what they publish in turn. Their handlers are
kept until it has its answer. -/
def publishBy (publish : Publish) : Publish := fun channel request bus =>
  let receivers := bus.on channel
  match deliver publish request receivers (bus.keep receivers) with
  | (.ok (), bus) => andThen (release publish receivers bus) fun _ bus => (.ok (.to receivers.length), bus)
  | (.error (.panic p), bus) => andThen (release publish receivers bus) fun _ bus => (.error (.panic p), bus)
  | (.error h, bus) => (.error h, bus)

/-- Publishing that goes at most so deep. -/
def publishWithin : Nat → Publish
  | 0 => fun _ _ bus => (.error .overflow, bus)
  | depth + 1 => publishBy (publishWithin depth)

/-- Publishes a request on a channel. -/
def publish : Publish := fun channel request bus => publishWithin bus.nesting channel request bus

/-! ## Diagnostics -/

/-- The channels with subscribers, in the order in which they got their first one. -/
def channels (bus : DialogBus) : List String := (bus.subscribers.map (·.channel)).eraseDups

/-- The form in which a diagnostic shows a bus. -/
def diagnostic (bus : DialogBus) : String :=
  let counts := bus.channels.map fun c => Text.quoted c ++ ": " ++ toString (bus.subscriberCount c)
  Text.fieldsText "DialogBus" [("subscribers", "\x7b" ++ String.intercalate ", " counts ++ "\x7d")]

end DialogBus

end RecordScreens
