import RecordScreens.Proofs.Dialog.Lock
import RecordScreens.Proofs.Dialog.Reached

/-!
# What hosts show

Hosts are subscribed beside plain subscribers, and all of them come and go. A host shows the
last request that reached it, unless it was closed since. A request reaches a host if everyone
comes back who was subscribed to the channel before it.
-/

namespace RecordScreens

/-! ## Plain subscribers -/

/-- Code that neither publishes nor lets a host show anything. It gives up only if it may, and only then it brings in
handlers that own subscriptions, for which somebody might wait for himself. -/
def Reaction.Plain (mayHalt : Bool) : Reaction → Prop
  | finish => True
  | panic _ => mayHalt = true
  | note _ next => next.Plain mayHalt
  | look next => ∀ notes, (next notes).Plain mayHalt
  | count _ next => ∀ n, (next n).Plain mayHalt
  | present _ _ _ => False
  | publish _ _ _ => False
  | subscribe id _ receive owned next =>
    (∃ name, id = .named name) ∧ (mayHalt = false → owned = []) ∧ (∀ request, (receive request).Plain mayHalt) ∧
      next.Plain mayHalt
  | unsubscribe _ next => next.Plain mayHalt

namespace Subscriber

/-- A subscriber that is no host, and plain whatever it is called with. -/
structure Plain (mayHalt : Bool) (s : Subscriber) : Prop where
  named : ∃ name, s.id = .named name
  owned_eq : mayHalt = false → s.owned = []
  receive : ∀ request, (s.receive request).Plain mayHalt

/-- The subscription of a host. -/
def ofHost (host : Nat) (channel : String) (serial : Nat) : Subscriber where
  id := .host host
  channel := channel
  receive request := .present host request .finish
  serial := serial

/-- A plain subscriber, or one of so many hosts. -/
def Known (mayHalt : Bool) (hosts : Nat) (s : Subscriber) : Prop :=
  s.Plain mayHalt ∨ ∃ host channel serial, host < hosts ∧ s = .ofHost host channel serial

theorem Known.owned_eq {hosts : Nat} {s : Subscriber} (h : s.Known false hosts) : s.owned = [] := by
  rcases h with h | ⟨host, channel, serial, -, rfl⟩
  · exact h.owned_eq rfl
  · rfl

/-- To end what a handler owned is plain. -/
theorem farewell_plain (mayHalt : Bool) (s : Subscriber) : s.farewell.Plain mayHalt := by
  unfold farewell
  induction s.owned with
  | nil => exact trivial
  | cons id rest ih => exact ih

end Subscriber

/-! ## Operations -/

/-- What is done on a bus from outside, where the subscribers are plain ones and hosts. -/
inductive BusOp where
  | publish (channel : String) (request : DialogRequest)
  | attach (channel : String)
  /-- The handler owns some subscriptions. -/
  | subscribe (name channel : String) (receive : DialogRequest → Reaction) (owned : List SubscriptionId := [])
  | drop (id : SubscriptionId)
  | close (host : Nat)

namespace BusOp

/-- Does one thing. A publication in which somebody does not come back ends with that. -/
def perform : BusOp → DialogBus → DialogBus
  | publish channel request, bus => (bus.publish channel request).2
  | attach channel, bus => (bus.attach channel).2
  | subscribe name channel receive owned, bus => bus.subscribe (.named name) channel receive owned
  | drop id, bus => bus.unsubscribe id
  | close host, bus => bus.close host

/-- Who is subscribed from outside is plain. -/
def Plain (mayHalt : Bool) : BusOp → Prop
  | subscribe _ _ receive owned => (mayHalt = false → owned = []) ∧ ∀ request, (receive request).Plain mayHalt
  | _ => True

end BusOp

namespace DialogBus

/-- The bus after one thing after the other. -/
def after (bus : DialogBus) (ops : List BusOp) : DialogBus := ops.foldl (fun bus op => op.perform bus) bus

/-- A request that is handed to some subscribers gets to the one with an id: everyone before it comes back. -/
def GetsTo (publish : Publish) (request : DialogRequest) (receivers : List Subscriber) (id : SubscriptionId)
    (bus : DialogBus) : Prop :=
  ∃ before s later, receivers = before ++ s :: later ∧ s.id = id ∧ (deliver publish request before bus).1 = .ok ()

/-- A request that is published to some subscribers reaches the one with an id. Their handlers are kept meanwhile. -/
def Reaches (publish : Publish) (request : DialogRequest) (receivers : List Subscriber) (id : SubscriptionId)
    (bus : DialogBus) : Prop := GetsTo publish request receivers id (bus.keep receivers)

/-- What an operation lets a host show. -/
def Sets (depth host : Nat) (bus : DialogBus) (shown : Option DialogRequest) : BusOp → Prop
  | .publish channel request =>
    shown = some request ∧ Reaches (publishWithin depth) request (bus.on channel) (.host host) bus
  | .close closed => shown = none ∧ closed = host
  | _ => False

/-- No operation lets the host show anything else. -/
def Quiet (depth host : Nat) (bus : DialogBus) (ops : List BusOp) : Prop :=
  ∀ earlier op later, ops = earlier ++ op :: later → ∀ shown, ¬ (bus.after earlier).Sets depth host shown op

variable {mayHalt : Bool} {depth host : Nat} {bus bus' bus'' : DialogBus} {publish : Publish}
  {request : DialogRequest} {channel : String} {op : BusOp} {ops later : List BusOp} {shown : Option DialogRequest}

theorem after_append (bus : DialogBus) (ops later : List BusOp) :
    bus.after (ops ++ later) = (bus.after ops).after later := List.foldl_append

/-! ## Who comes in -/

/-- On the way from one bus to another, only plain subscribers and new hosts come in. -/
structure Carries (mayHalt : Bool) (bus bus' : DialogBus) : Prop where
  nesting_eq : bus'.nesting = bus.nesting
  hosts_le : bus.hosts.length ≤ bus'.hosts.length
  new : ∀ s ∈ bus'.subscribers, s ∈ bus.subscribers ∨ s.Plain mayHalt ∨
    ∃ n channel serial, bus.hosts.length ≤ n ∧ n < bus'.hosts.length ∧ s = .ofHost n channel serial

theorem Carries.refl (bus : DialogBus) : Carries mayHalt bus bus := ⟨rfl, Nat.le_refl _, fun _ => .inl⟩

theorem Carries.trans (h : Carries mayHalt bus bus') (h' : Carries mayHalt bus' bus'') :
    Carries mayHalt bus bus'' where
  nesting_eq := h'.nesting_eq.trans h.nesting_eq
  hosts_le := Nat.le_trans h.hosts_le h'.hosts_le
  new s hs := by
    rcases h'.new s hs with hs | hs | ⟨n, channel, serial, hle, hlt, hs⟩
    · rcases h.new s hs with hs | hs | ⟨n, channel, serial, hle, hlt, hs⟩
      · exact .inl hs
      · exact .inr (.inl hs)
      · exact .inr (.inr ⟨n, channel, serial, hle, Nat.lt_of_lt_of_le hlt h'.hosts_le, hs⟩)
    · exact .inr (.inl hs)
    · exact .inr (.inr ⟨n, channel, serial, Nat.le_trans h.hosts_le hle, hlt, hs⟩)

/-- What handlers are kept does not matter to who comes in. -/
theorem carries_keep (receivers : List Subscriber) (bus : DialogBus) : Carries mayHalt bus (bus.keep receivers) :=
  ⟨rfl, Nat.le_refl _, fun _ => .inl⟩

theorem carries_forgo (s : Subscriber) (bus : DialogBus) : Carries mayHalt bus (bus.forgo s) :=
  ⟨rfl, Nat.le_refl _, fun _ => .inl⟩

theorem carries_unsubscribe (id : SubscriptionId) (bus : DialogBus) : Carries mayHalt bus (bus.unsubscribe id) :=
  ⟨rfl, Nat.le_refl _, fun _ hs => .inl (List.mem_of_mem_filter hs)⟩

theorem carries_subscribe {s : Subscriber} (hs : s.Plain mayHalt) (bus : DialogBus) :
    Carries mayHalt bus (bus.subscribe s.id s.channel s.receive s.owned) where
  nesting_eq := rfl
  hosts_le := Nat.le_refl _
  new t ht := by
    rcases List.mem_append.mp ht with ht | ht
    · exact .inl (List.mem_of_mem_filter ht)
    · cases List.mem_singleton.mp ht
      exact .inr (.inl ⟨hs.named, hs.owned_eq, hs.receive⟩)

theorem carries_attach (channel : String) (bus : DialogBus) : Carries mayHalt bus (bus.attach channel).2 where
  nesting_eq := rfl
  hosts_le := by simp [attach, subscribe, unsubscribe]
  new s hs := by
    rcases List.mem_append.mp hs with hs | hs
    · exact .inl (List.mem_of_mem_filter hs)
    · refine .inr (.inr ⟨bus.hosts.length, channel, bus.issued, Nat.le_refl _, ?_, List.mem_singleton.mp hs⟩)
      simp [attach, subscribe, unsubscribe]

theorem carries_present (host : Nat) (shown : Option DialogRequest) (bus : DialogBus) :
    Carries mayHalt bus (bus.present host shown) where
  nesting_eq := rfl
  hosts_le := by simp [present]
  new s hs := .inl hs

/-- A bus on which everyone is known. -/
structure Ordinary (mayHalt : Bool) (depth : Nat) (bus : DialogBus) : Prop where
  nesting_eq : bus.nesting = depth + 1
  known : ∀ s ∈ bus.subscribers, s.Known mayHalt bus.hosts.length

theorem Ordinary.of_carries (h : Ordinary mayHalt depth bus) (hcarries : Carries mayHalt bus bus') :
    Ordinary mayHalt depth bus' where
  nesting_eq := hcarries.nesting_eq.trans h.nesting_eq
  known s hs := by
    rcases hcarries.new s hs with hs | hs | ⟨n, channel, serial, -, hlt, hs⟩
    · refine (h.known s hs).imp id ?_
      rintro ⟨n, channel, serial, hlt, hs⟩
      exact ⟨n, channel, serial, Nat.lt_of_lt_of_le hlt hcarries.hosts_le, hs⟩
    · exact .inl hs
    · exact .inr ⟨n, channel, serial, hlt, hs⟩

/-- Where nobody may, nobody waits for himself. -/
theorem Ordinary.jams_eq_false (h : Ordinary false depth bus) (id : SubscriptionId) : bus.jams id = false :=
  DialogBus.jams_eq_false (fun s hs => (h.known s hs).owned_eq) id

/-- A host that is subscribed later was so before. -/
theorem Carries.mem_of_host (h : Carries mayHalt bus bus') {s : Subscriber} (hs : s ∈ bus'.subscribers)
    (hid : s.id = .host host) (hhost : host < bus.hosts.length) : s ∈ bus.subscribers := by
  rcases h.new s hs with hs | ⟨⟨name, hname⟩, -⟩ | ⟨n, channel, serial, hle, -, rfl⟩
  · exact hs
  · cases hname.symm.trans hid
  · cases hid
    omega

/-! ## What is shown -/

theorem current_present (closed : Nat) (shown : Option DialogRequest) (hhost : host < bus.hosts.length) :
    (bus.present closed shown).current host = if closed = host then shown else bus.current host := by
  unfold present current
  by_cases hclosed : closed = host
  · subst hclosed
    simp [hhost, Watch.send]
  · simp [hclosed]

/-- A run in which only plain subscribers come in, and which leaves what hosts show. It comes back where it has to. -/
structure Modest (mayHalt : Bool) (bus : DialogBus) (ran : Except Halt Unit × DialogBus) : Prop where
  carries : Carries mayHalt bus ran.2
  hosts_eq : ran.2.hosts = bus.hosts
  ok_of_calm : mayHalt = false → ran.1 = .ok ()

theorem Modest.refl (bus : DialogBus) : Modest mayHalt bus (.ok (), bus) := ⟨Carries.refl bus, rfl, fun _ => rfl⟩

theorem Modest.of_step {ran : Except Halt Unit × DialogBus} (hcarries : Carries mayHalt bus bus')
    (hhosts : bus'.hosts = bus.hosts) (h : Modest mayHalt bus' ran) : Modest mayHalt bus ran :=
  ⟨hcarries.trans h.carries, h.hosts_eq.trans hhosts, h.ok_of_calm⟩

/-- Who ends a subscription gets stuck or goes on. -/
theorem Modest.of_end {ran : Except Halt Unit × DialogBus} (h : Ordinary mayHalt depth bus) (id : SubscriptionId)
    (hcarries : Carries mayHalt bus bus') (hhosts : bus'.hosts = bus.hosts) (hnext : Modest mayHalt bus' ran) :
    Modest mayHalt bus (if bus.jams id then (.error .stuck, bus') else ran) := by
  split
  · next hjams =>
    refine ⟨hcarries, hhosts, ?_⟩
    rintro rfl
    exact absurd hjams (by simp [h.jams_eq_false id])
  · exact hnext.of_step hcarries hhosts

/-- What plain code does. -/
theorem modest_react (publish : Publish) {r : Reaction} (hr : r.Plain mayHalt) (h : Ordinary mayHalt depth bus) :
    Modest mayHalt bus (react publish r bus) := by
  induction r generalizing bus with
  | finish => exact Modest.refl bus
  | panic p => exact ⟨Carries.refl bus, rfl, fun hcalm => by cases hcalm.symm.trans hr⟩
  | note entry next ih =>
    let noted : DialogBus := { bus with notes := bus.notes ++ [entry] }
    have hnoted : Carries mayHalt bus noted := ⟨rfl, Nat.le_refl _, fun _ => .inl⟩
    exact (ih hr (h.of_carries hnoted)).of_step hnoted rfl
  | look next ih => exact ih _ (hr _) h
  | count channel next ih => exact ih _ (hr _) h
  | present host request next => cases hr
  | publish channel request next => cases hr
  | subscribe id channel receive owned next _ ih =>
    obtain ⟨hid, howned, hreceive, hnext⟩ := hr
    have hs : Subscriber.Plain mayHalt { id, channel, receive, owned } := ⟨hid, howned, hreceive⟩
    have hcarries := carries_subscribe hs bus
    exact Modest.of_end h id hcarries rfl (ih hnext (h.of_carries hcarries))
  | unsubscribe id next ih =>
    have hcarries : Carries mayHalt bus (bus.unsubscribe id) := carries_unsubscribe id bus
    exact Modest.of_end h id hcarries rfl (ih hr (h.of_carries hcarries))

/-- What handlers owned ends. -/
theorem modest_release (publish : Publish) (receivers : List Subscriber) (h : Ordinary mayHalt depth bus) :
    Modest mayHalt bus (release publish receivers bus) := by
  induction receivers generalizing bus with
  | nil => exact Modest.refl bus
  | cons s rest ih =>
    have hforgone : Ordinary mayHalt depth (bus.forgo s) := h.of_carries (carries_forgo s bus)
    unfold release
    split
    · have hfarewell := modest_react publish (s.farewell_plain mayHalt) hforgone
      refine Modest.of_step (carries_forgo s bus) rfl ?_
      rcases hran : react publish s.farewell (bus.forgo s) with ⟨halt | done, bus'⟩ <;> rw [hran] at hfarewell
      · exact hfarewell
      · exact (ih (hforgone.of_carries hfarewell.carries)).of_step hfarewell.carries hfarewell.hosts_eq
    · exact (ih hforgone).of_step (carries_forgo s bus) rfl

/-- What a call does: nobody fails to come back but a plain subscriber that may, and nobody lets a host show the request
but the host. -/
structure Received (mayHalt : Bool) (request : DialogRequest) (s : Subscriber) (bus : DialogBus)
    (ran : Except Halt Unit × DialogBus) : Prop where
  carries : Carries mayHalt bus ran.2
  hosts_length : ran.2.hosts.length = bus.hosts.length
  ok_of_calm : mayHalt = false → ran.1 = .ok ()
  ok_of_host : ∀ host, s.id = .host host → ran.1 = .ok ()
  current : ∀ host < bus.hosts.length,
    ran.2.current host = if s.id = .host host then some request else bus.current host

theorem received (publish : Publish) (request : DialogRequest) {s : Subscriber} (h : Ordinary mayHalt depth bus)
    (hs : s.Known mayHalt bus.hosts.length) :
    Received mayHalt request s bus (react publish (s.receive request) bus) := by
  rcases hs with hplain | ⟨n, channel, serial, -, rfl⟩
  · obtain ⟨name, hname⟩ := hplain.named
    obtain ⟨hcarries, hhosts, hcalm⟩ := modest_react publish (hplain.receive request) h
    refine ⟨hcarries, congrArg List.length hhosts, hcalm, fun host hid => ?_, fun host _ => ?_⟩
    · cases hname.symm.trans hid
    · simp only [hname, reduceCtorEq, if_false, DialogBus.current, hhosts]
  · refine ⟨carries_present n _ bus, by simp [Subscriber.ofHost, react, present], fun _ => rfl, fun _ _ => rfl,
      fun host hhost => (current_present n _ hhost).trans ?_⟩
    simp [Subscriber.ofHost]

theorem getsTo_cons_iff {first : Subscriber} {rest : List Subscriber} {id : SubscriptionId} :
    GetsTo publish request (first :: rest) id bus ↔ first.id = id ∨
      ∃ bus', react publish (first.receive request) bus = (.ok (), bus') ∧ GetsTo publish request rest id bus' := by
  have hsplit := exists_split_cons (c := first) (l := rest)
    (p := fun before s => s.id = id ∧ (deliver publish request before bus).1 = .ok ())
  refine hsplit.trans (or_congr (and_iff_left rfl) ?_)
  simp only [deliver]
  rcases react publish (first.receive request) bus with ⟨halt | done, bus'⟩
  · simp [andThen]
  · simp [andThen, GetsTo]

/-- Handing a request to everyone lets those hosts show it that it gets to. -/
theorem deliver_known (publish : Publish) (request : DialogRequest) {receivers : List Subscriber}
    (h : Ordinary mayHalt depth bus) (hknown : ∀ s ∈ receivers, s.Known mayHalt bus.hosts.length) :
    let ran := deliver publish request receivers bus
    Carries mayHalt bus ran.2 ∧ (mayHalt = false → ran.1 = .ok ()) ∧ ∀ host < bus.hosts.length,
      (GetsTo publish request receivers (.host host) bus → ran.2.current host = some request) ∧
        (¬ GetsTo publish request receivers (.host host) bus → ran.2.current host = bus.current host) := by
  induction receivers generalizing bus with
  | nil =>
    refine ⟨Carries.refl bus, fun _ => rfl, fun host _ => ⟨?_, fun _ => rfl⟩⟩
    rintro ⟨before, s, later, hsplit, -⟩
    simp at hsplit
  | cons first rest ih =>
    have hfirst := received publish request h (hknown first List.mem_cons_self)
    simp only [getsTo_cons_iff, deliver]
    rcases hran : react publish (first.receive request) bus with ⟨halt | done, bus'⟩ <;> rw [hran] at hfirst
    · -- Who does not come back is no host.
      have hid (host : Nat) (heq : first.id = .host host) : False := by
        cases hfirst.ok_of_host host heq
      refine ⟨hfirst.carries, hfirst.ok_of_calm, fun host hhost => ⟨?_, fun _ => ?_⟩⟩
      · rintro (heq | ⟨bus'', hok, -⟩)
        · exact (hid host heq).elim
        · cases hok
      · exact (hfirst.current host hhost).trans (if_neg (hid host))
    · have hlength : bus'.hosts.length = bus.hosts.length := hfirst.hosts_length
      have hrest : ∀ s ∈ rest, s.Known mayHalt bus'.hosts.length := by
        rw [hlength]
        exact fun s hs => hknown s (List.mem_cons_of_mem _ hs)
      obtain ⟨hcarries, hcalm, hcurrent⟩ := ih (h.of_carries hfirst.carries) hrest
      refine ⟨hfirst.carries.trans hcarries, hcalm, fun host hhost => ?_⟩
      obtain ⟨hreached, hmissed⟩ := hcurrent host (hlength ▸ hhost)
      have hshown := hfirst.current host hhost
      by_cases hgets : GetsTo publish request rest (.host host) bus'
      · exact ⟨fun _ => hreached hgets, fun hnot => (hnot (.inr ⟨bus', rfl, hgets⟩)).elim⟩
      · refine ⟨?_, fun hnot => ?_⟩
        · rintro (heq | ⟨bus'', hok, hgets'⟩)
          · exact (hmissed hgets).trans (hshown.trans (if_pos heq))
          · cases hok
            exact absurd hgets' hgets
        · exact (hmissed hgets).trans (hshown.trans (if_neg fun heq => hnot (.inl heq)))

theorem Ordinary.known_on (h : Ordinary mayHalt depth bus) (channel : String) :
    ∀ s ∈ bus.on channel, s.Known mayHalt bus.hosts.length :=
  fun s hs => h.known s (List.mem_of_mem_filter hs)

/-- Publishing a request lets those hosts show it that it reaches. -/
theorem Ordinary.publish_known (h : Ordinary mayHalt depth bus) (channel : String) (request : DialogRequest) :
    let bus' := (bus.publish channel request).2
    Carries mayHalt bus bus' ∧ ∀ host < bus.hosts.length,
      (Reaches (publishWithin depth) request (bus.on channel) (.host host) bus → bus'.current host = some request) ∧
        (¬ Reaches (publishWithin depth) request (bus.on channel) (.host host) bus →
          bus'.current host = bus.current host) := by
  have hkept : Carries mayHalt bus (bus.keep (bus.on channel)) := carries_keep _ bus
  obtain ⟨hcarries, -, hcurrent⟩ :=
    deliver_known (publishWithin depth) request (h.of_carries hkept) (h.known_on channel)
  have hdelivered := hkept.trans hcarries
  have hreleased := modest_release (publishWithin depth) (bus.on channel) (h.of_carries hdelivered)
  rw [publish_eq h.nesting_eq]
  rcases publishBy_snd (publishWithin depth) channel request bus with hbus | hbus <;> simp only [hbus]
  · exact ⟨hdelivered, hcurrent⟩
  · refine ⟨hdelivered.trans hreleased.carries, fun host hhost => ?_⟩
    simp only [DialogBus.current, hreleased.hosts_eq]
    exact hcurrent host hhost

theorem Ordinary.carries_perform (h : Ordinary mayHalt depth bus) (hop : op.Plain mayHalt) :
    Carries mayHalt bus (op.perform bus) := by
  cases op with
  | publish channel request => exact (h.publish_known channel request).1
  | attach channel => exact carries_attach channel bus
  | subscribe name channel receive owned =>
    have hs : Subscriber.Plain mayHalt { id := .named name, channel, receive, owned } := ⟨⟨name, rfl⟩, hop.1, hop.2⟩
    exact carries_subscribe hs bus
  | drop id => exact carries_unsubscribe id bus
  | close host => exact carries_present host none bus

theorem Ordinary.carries_after (h : Ordinary mayHalt depth bus) (hops : ∀ op ∈ ops, op.Plain mayHalt) :
    Carries mayHalt bus (bus.after ops) := by
  induction ops generalizing bus with
  | nil => exact Carries.refl bus
  | cons op rest ih =>
    have hop := h.carries_perform (hops op List.mem_cons_self)
    exact hop.trans (ih (h.of_carries hop) fun op' hop' => hops op' (List.mem_cons_of_mem _ hop'))

/-- A host that was attached to a channel, on a bus on which everyone is known. -/
structure Attached (mayHalt : Bool) (depth host : Nat) (channel : String) (bus : DialogBus) : Prop where
  ordinary : Ordinary mayHalt depth bus
  host_lt : host < bus.hosts.length
  eq_ofHost : ∀ s ∈ bus.subscribers, s.id = .host host → ∃ serial, s = .ofHost host channel serial

theorem Ordinary.attach (h : Ordinary mayHalt depth bus) (channel : String) :
    Attached mayHalt depth bus.hosts.length channel (bus.attach channel).2 where
  ordinary := h.of_carries (carries_attach channel bus)
  host_lt := by simp [DialogBus.attach, subscribe, unsubscribe]
  eq_ofHost s hs hid := by
    rcases List.mem_append.mp hs with hs | hs
    · obtain ⟨-, hne⟩ := List.mem_filter.mp hs
      simp [hid] at hne
    · exact ⟨bus.issued, List.mem_singleton.mp hs⟩

namespace Attached

theorem after (h : Attached mayHalt depth host channel bus) (hops : ∀ op ∈ ops, op.Plain mayHalt) :
    Attached mayHalt depth host channel (bus.after ops) where
  ordinary := h.ordinary.of_carries (h.ordinary.carries_after hops)
  host_lt := Nat.lt_of_lt_of_le h.host_lt (h.ordinary.carries_after hops).hosts_le
  eq_ofHost s hs hid := h.eq_ofHost s ((h.ordinary.carries_after hops).mem_of_host hs hid h.host_lt) hid

end Attached

end DialogBus

end RecordScreens
