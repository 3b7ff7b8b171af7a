import RecordScreens.Dialog.Bus

/-!
# The lock of a bus

Subscriptions begin and end under a lock. Nobody waits for himself on a bus on which no handler
owns a subscription.
-/

namespace RecordScreens

/-- No handler that is brought in owns a subscription. -/
def Reaction.Unowned : Reaction → Prop
  | finish => True
  | panic _ => True
  | note _ next => next.Unowned
  | look next => ∀ notes, (next notes).Unowned
  | count _ next => ∀ n, (next n).Unowned
  | present _ _ next => next.Unowned
  | publish _ _ next => ∀ delivery, (next delivery).Unowned
  | subscribe _ _ receive owned next => owned = [] ∧ (∀ request, (receive request).Unowned) ∧ next.Unowned
  | unsubscribe _ next => next.Unowned

/-- The handler of a subscriber owns nothing, nor do those that it brings in. -/
structure Subscriber.Unowned (s : Subscriber) : Prop where
  owned_eq : s.owned = []
  receive : ∀ request, (s.receive request).Unowned

namespace DialogBus

/-- No handler owns a subscription, now or later. -/
def Unowned (bus : DialogBus) : Prop := ∀ s ∈ bus.subscribers, s.Unowned

variable {bus : DialogBus} {publish : Publish} {α β : Type}

theorem jams_eq_false (h : ∀ s ∈ bus.subscribers, s.owned = []) (id : SubscriptionId) : bus.jams id = false := by
  refine List.any_eq_false.mpr fun s hs => ?_
  simp [owns, h s hs]

theorem Unowned.unsubscribe (h : bus.Unowned) (id : SubscriptionId) : (bus.unsubscribe id).Unowned :=
  fun s hs => h s (List.mem_filter.mp hs).1

theorem Unowned.subscribe (h : bus.Unowned) (id : SubscriptionId) (channel : String)
    {receive : DialogRequest → Reaction} (hreceive : ∀ request, (receive request).Unowned) :
    (bus.subscribe id channel receive).Unowned := by
  intro s hs
  rcases List.mem_append.mp hs with hs | hs
  · exact h.unsubscribe id s hs
  · cases List.mem_singleton.mp hs
    exact ⟨rfl, hreceive⟩

/-- A publication comes to what its subscribers came to, at once or when it has let their handlers go. -/
theorem publishBy_cases (publish : Publish) (channel : String) (request : DialogRequest) (bus : DialogBus) :
    let receivers := bus.on channel
    let delivered := deliver publish request receivers (bus.keep receivers)
    let answer : Except Halt Delivery := delivered.1.map fun _ => .to receivers.length
    publishBy publish channel request bus = (answer, delivered.2) ∨
      publishBy publish channel request bus =
        andThen (release publish receivers delivered.2) fun _ bus => (answer, bus) := by
  simp only [publishBy]
  rcases deliver publish request (bus.on channel) (bus.keep (bus.on channel)) with ⟨(p | _ | _) | done, bus'⟩
  · exact .inr rfl
  · exact .inl rfl
  · exact .inl rfl
  · exact .inr rfl

/-- A run that does not get stuck, and after which no handler owns a subscription either. -/
structure Passes (ran : Except Halt α × DialogBus) : Prop where
  not_stuck : ran.1 ≠ .error .stuck
  unowned : ran.2.Unowned

theorem Passes.andThen {ran : Except Halt α × DialogBus} {next : α → DialogBus → Except Halt β × DialogBus}
    (h : Passes ran) (hnext : ∀ a bus, bus.Unowned → Passes (next a bus)) : Passes (DialogBus.andThen ran next) := by
  rcases ran with ⟨halt | a, bus⟩
  · exact ⟨fun hstuck => h.not_stuck (by cases hstuck; rfl), h.unowned⟩
  · exact hnext a bus h.unowned

/-- Ways of publishing that get stuck on no bus on which no handler owns a subscription. -/
def Publish.Free (publish : Publish) : Prop :=
  ∀ channel request bus, bus.Unowned → Passes (publish channel request bus)

section

variable (hpublish : Publish.Free publish)

include hpublish

theorem passes_react {r : Reaction} (hr : r.Unowned) (h : bus.Unowned) : Passes (react publish r bus) := by
  induction r generalizing bus with
  | finish => exact ⟨nofun, h⟩
  | panic => exact ⟨nofun, h⟩
  | note entry next ih => exact ih hr h
  | look next ih => exact ih _ (hr _) h
  | count channel next ih => exact ih _ (hr _) h
  | present host request next ih => exact ih hr h
  | publish channel request next ih =>
    exact (hpublish channel request bus h).andThen fun delivery bus' h' => ih delivery (hr delivery) h'
  | subscribe id channel receive owned next _ ih =>
    obtain ⟨rfl, hreceive, hnext⟩ := hr
    have hfree := jams_eq_false (fun s hs => (h s hs).owned_eq) id
    simp only [react, hfree, Bool.false_eq_true, if_false]
    exact ih hnext (h.subscribe id channel hreceive)
  | unsubscribe id next ih =>
    have hfree := jams_eq_false (fun s hs => (h s hs).owned_eq) id
    simp only [react, hfree, Bool.false_eq_true, if_false]
    exact ih hr (h.unsubscribe id)

theorem passes_deliver (request : DialogRequest) {receivers : List Subscriber} (hreceivers : ∀ s ∈ receivers, s.Unowned)
    (h : bus.Unowned) : Passes (deliver publish request receivers bus) := by
  induction receivers generalizing bus with
  | nil => exact ⟨nofun, h⟩
  | cons s rest ih =>
    obtain ⟨hs, hrest⟩ := List.forall_mem_cons.mp hreceivers
    exact (passes_react hpublish (hs.receive request) h).andThen fun _ _ h' => ih hrest h'

omit hpublish in
theorem passes_release (publish : Publish) {receivers : List Subscriber} (hreceivers : ∀ s ∈ receivers, s.Unowned)
    (h : bus.Unowned) : Passes (release publish receivers bus) := by
  induction receivers generalizing bus with
  | nil => exact ⟨nofun, h⟩
  | cons s rest ih =>
    obtain ⟨hs, hrest⟩ := List.forall_mem_cons.mp hreceivers
    have hforgone : (bus.forgo s).Unowned := h
    unfold release
    split
    · have hfarewell : react publish s.farewell (bus.forgo s) = (.ok (), bus.forgo s) := by
        unfold Subscriber.farewell
        rw [hs.owned_eq]
        rfl
      rw [hfarewell]
      exact ih hrest hforgone
    · exact ih hrest hforgone

theorem free_publishBy : Publish.Free (publishBy publish) := by
  intro channel request bus h
  have hreceivers : ∀ s ∈ bus.on channel, s.Unowned := fun s hs => h s (List.mem_filter.mp hs).1
  let delivered := deliver publish request (bus.on channel) (bus.keep (bus.on channel))
  obtain ⟨hstuck, hunowned⟩ : Passes delivered := passes_deliver hpublish request hreceivers h
  have hanswer : delivered.1.map (fun _ => Delivery.to (bus.on channel).length) ≠ .error .stuck := by
    rcases hdone : delivered.1 with halt | done
    · rw [hdone] at hstuck
      exact fun heq => hstuck (congrArg Except.error (Except.error.inj heq))
    · exact fun heq => by cases heq
  rcases publishBy_cases publish channel request bus with hran | hran <;> rw [hran]
  · exact ⟨hanswer, hunowned⟩
  · exact (passes_release publish hreceivers hunowned).andThen fun _ _ h' => ⟨hanswer, h'⟩

end

theorem free_publishWithin (depth : Nat) : Publish.Free (publishWithin depth) := by
  induction depth with
  | zero => exact fun _ _ _ h => ⟨nofun, h⟩
  | succ depth ih => exact free_publishBy ih

theorem free_publish : Publish.Free DialogBus.publish := fun channel request bus h =>
  free_publishWithin bus.nesting channel request bus h

end DialogBus

end RecordScreens
