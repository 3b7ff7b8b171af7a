import RecordScreens.Proofs.Dialog.History
import RecordScreens.Proofs.Dialog.Lock

/-!
# Who hears of a request

A publication calls those who were subscribed when it began, whatever they do meanwhile. It
comes back, unless somebody waits for himself: a handler goes away under the lock, and owns a
subscription that ends with it.
-/

namespace RecordScreens

/-- Nobody gives up, in whatever is done. -/
def Reaction.Calm : Reaction → Prop
  | finish => True
  | panic _ => False
  | note _ next => next.Calm
  | look next => ∀ notes, (next notes).Calm
  | count _ next => ∀ n, (next n).Calm
  | present _ _ next => next.Calm
  | publish _ _ next => ∀ delivery, (next delivery).Calm
  | subscribe _ _ receive _ next => (∀ request, (receive request).Calm) ∧ next.Calm
  | unsubscribe _ next => next.Calm

/-- Calm whatever it is called with. -/
def Subscriber.Calm (s : Subscriber) : Prop := ∀ request, (s.receive request).Calm

/-- To end what a handler owned is calm. -/
theorem Subscriber.farewell_calm (s : Subscriber) : s.farewell.Calm := by
  unfold farewell
  induction s.owned with
  | nil => exact trivial
  | cons id rest ih => exact ih

namespace BusEvent

/-! ## Publications -/

/-- What a publication does that begins after some events: it calls each of the live subscribers in order, and says how
many there were. -/
def course (past : List BusEvent) (channel : String) (request : DialogRequest) : List BusEvent :=
  (liveOn past channel).map (called past.length · request) ++
    [returned past.length (.to (liveOn past channel).length)]

/-- What was done of a plan: the whole of it, or a first part. -/
def Follows (whole : Bool) (done plan : List BusEvent) : Prop :=
  match whole with
  | true => done = plan
  | false => done <+: plan

/-- Events in which the publications that began there take their courses, or a first part of them. Apart from theirs,
only events of the `outer` publication are there. -/
structure Courses (whole : Bool) (outer : Option Nat) (past events : List BusEvent) : Prop where
  own : ∀ event ∈ events, ∀ n, event.publication? = some n → outer = some n ∨ past.length ≤ n
  follows : ∀ before channel request later, events = before ++ begun channel request :: later →
    Follows whole (ofPublication (past ++ before).length later) (course (past ++ before) channel request)

/-- Whether an event is about a publication. -/
def isPublishing : BusEvent → Bool
  | begun _ _ | called _ _ _ | returned _ _ => true
  | _ => false

variable {whole : Bool} {done plan : List BusEvent} {outer : Option Nat} {past events later : List BusEvent}
  {event : BusEvent} {n : Nat} {channel : String} {request : DialogRequest}

theorem Follows.partly (h : Follows true done plan) (whole : Bool) : Follows whole done plan := by
  cases h
  cases whole with
  | true => exact rfl
  | false => exact List.prefix_rfl

theorem Follows.isPrefix (h : Follows whole done plan) : done <+: plan := by
  cases whole with
  | true => exact h ▸ List.prefix_rfl
  | false => exact h

theorem Follows.cons (h : Follows whole done plan) (event : BusEvent) :
    Follows whole (event :: done) (event :: plan) := by
  cases whole with
  | true => exact congrArg (event :: ·) h
  | false => exact List.cons_prefix_cons.mpr ⟨rfl, h⟩

theorem courses_nil : Courses whole outer past [] where
  own := nofun
  follows _ channel request _ h := by simp at h

theorem courses_singleton (hbegun : ∀ channel request, event ≠ begun channel request)
    (hown : ∀ n, event.publication? = some n → outer = some n) : Courses whole outer past [event] where
  own := List.forall_mem_singleton.mpr fun n hn => .inl (hown n hn)
  follows _ channel request _ h := absurd (singleton_eq_append_cons h).2.1 (hbegun channel request)

theorem Courses.partly (h : Courses true outer past events) (whole : Bool) : Courses whole outer past events where
  own := h.own
  follows before channel request later heq := (h.follows before channel request later heq).partly whole

theorem Courses.weaken (h : Courses whole none past events) : Courses whole outer past events where
  own event hevent n hn := .inr ((h.own event hevent n hn).resolve_left nofun)
  follows := h.follows

/-- The events of other publications are not those of one that began before them. -/
theorem Courses.ofPublication_eq_nil (h : Courses whole outer past events) (hn : n < past.length)
    (houter : outer ≠ some n) : ofPublication n events = [] := by
  refine BusEvent.ofPublication_eq_nil fun event hevent heq => ?_
  rcases h.own event hevent n heq with hn' | hn'
  · exact houter hn'
  · omega

theorem Courses.append (houter : ∀ n, outer = some n → n < past.length) (h : Courses whole outer past events)
    (hlater : Courses whole outer (past ++ events) later) : Courses whole outer past (events ++ later) where
  own event hevent n hn := by
    rcases List.mem_append.mp hevent with hevent | hevent
    · exact h.own event hevent n hn
    · refine (hlater.own event hevent n hn).imp id fun hle => ?_
      rw [List.length_append] at hle
      omega
  follows before channel request rest heq := by
    rcases append_eq_append_cons heq with ⟨rest', rfl, rfl⟩ | ⟨before', rfl, rfl⟩
    · -- What comes later belongs to publications that began later, or to the outer one.
      have hnil : ofPublication (past ++ before).length later = [] := by
        refine hlater.ofPublication_eq_nil ?_ fun hn => ?_
        · simp only [List.length_append, List.length_cons]
          omega
        · have := houter _ hn
          rw [List.length_append] at this
          omega
      rw [ofPublication_append, hnil, List.append_nil]
      exact h.follows before channel request rest' rfl
    · rw [← List.append_assoc]
      exact hlater.follows before' channel request rest rfl

theorem Courses.trans (h : Courses true none past events) (hlater : Courses whole none (past ++ events) later) :
    Courses whole none past (events ++ later) := (h.partly whole).append nofun hlater

/-- A publication and what happens during it. -/
theorem Courses.publication (h : Courses whole (some past.length) (past ++ [begun channel request]) events)
    (hfollows : Follows whole (ofPublication past.length events) (course past channel request)) :
    Courses whole none past (begun channel request :: events) where
  own event hevent n hn := by
    refine .inr ?_
    rcases List.mem_cons.mp hevent with rfl | hevent
    · cases hn
    · rcases h.own event hevent n hn with hn | hle
      · cases hn
        exact Nat.le_refl _
      · rw [List.length_append] at hle
        omega
  follows before channel' request' later heq := by
    cases before with
    | nil =>
      cases heq
      rwa [List.append_nil]
    | cons event before =>
      obtain ⟨rfl, rfl⟩ : begun channel request = event ∧ _ := List.cons_eq_cons.mp heq
      have hcourse := h.follows before channel' request' later rfl
      rwa [List.append_assoc] at hcourse

/-! ## Calls -/

/-- Events in which some subscribers are called for a publication, each once and in order, or the first ones of them. -/
structure Calls (whole : Bool) (n : Nat) (request : DialogRequest) (receivers : List Subscriber)
    (past events : List BusEvent) : Prop where
  courses : Courses whole (some n) past events
  calls : Follows whole (ofPublication n events) (receivers.map (called n · request))

variable {s : Subscriber} {receivers : List Subscriber}

theorem calls_nil : Calls true n request [] past [] := ⟨courses_nil, rfl⟩

/-- Between its calls a publication has no events. -/
theorem ofPublication_called (hn : n < past.length) (h : Courses whole none (past ++ [called n s request]) events) :
    ofPublication n (called n s request :: events) = [called n s request] := by
  have hnil : ofPublication n events = [] := by
    refine h.ofPublication_eq_nil ?_ nofun
    rw [List.length_append]
    omega
  rw [← List.singleton_append, ofPublication_append, hnil, List.append_nil]
  simp [ofPublication, publication?]

theorem Courses.called (hn : n < past.length) (h : Courses whole none (past ++ [called n s request]) events) :
    Courses whole (some n) past (called n s request :: events) := by
  have hcall : Courses whole (some n) past [BusEvent.called n s request] :=
    courses_singleton (fun _ _ => nofun) fun n' hn' => hn'
  refine hcall.append (fun n' hn' => ?_) h.weaken
  cases hn'
  exact hn

/-- The first subscriber is called, and does not come back. -/
theorem Courses.calls_first (hn : n < past.length)
    (h : Courses false none (past ++ [BusEvent.called n s request]) events) :
    Calls false n request (s :: receivers) past (BusEvent.called n s request :: events) where
  courses := h.called hn
  calls := by
    rw [ofPublication_called hn h]
    exact List.cons_prefix_cons.mpr ⟨rfl, List.nil_prefix⟩

/-- The first subscriber is called, and then the others. -/
theorem Courses.cons_calls (hn : n < past.length) (h : Courses true none (past ++ [BusEvent.called n s request]) events)
    (hrest : Calls whole n request receivers (past ++ [BusEvent.called n s request] ++ events) later) :
    Calls whole n request (s :: receivers) past (BusEvent.called n s request :: (events ++ later)) := by
  have hlater : Courses whole (some n) (past ++ BusEvent.called n s request :: events) later := by
    have hcourses := hrest.courses
    rwa [List.append_assoc, List.singleton_append] at hcourses
  rw [← List.cons_append]
  refine ⟨((h.called hn).partly whole).append (fun n' hn' => ?_) hlater, ?_⟩
  · cases hn'
    exact hn
  · rw [ofPublication_append, ofPublication_called hn h]
    exact hrest.calls.cons _

/-- What else happens for a publication once it has called everyone. -/
theorem Calls.append_courses (h : Calls true n request receivers past events) (hn : n < past.length)
    (hlater : Courses whole none (past ++ events) later) :
    Calls whole n request receivers past (events ++ later) where
  courses := by
    refine (h.courses.partly whole).append (fun n' hn' => ?_) hlater.weaken
    cases hn'
    exact hn
  calls := by
    have hnil : ofPublication n later = [] := by
      refine hlater.ofPublication_eq_nil ?_ nofun
      rw [List.length_append]
      omega
    rw [ofPublication_append, hnil, List.append_nil]
    exact h.calls.partly whole

/-- A publication has taken its course once it has called those who were subscribed when it began. -/
theorem Calls.courses_returned
    (h : Calls true past.length request (liveOn past channel) (past ++ [begun channel request]) events) :
    Courses true none past (begun channel request ::
      (events ++ [returned past.length (.to (liveOn past channel).length)])) := by
  have hreturned : Courses true (some past.length) (past ++ [begun channel request] ++ events)
      [returned past.length (.to (liveOn past channel).length)] :=
    courses_singleton (fun _ _ => nofun) fun _ hn => hn
  refine Courses.publication (h.courses.append (fun n hn => ?_) hreturned) ?_
  · cases hn
    rw [List.length_append]
    exact Nat.lt_succ_self _
  · have hcalls : ofPublication past.length events = (liveOn past channel).map (called past.length · request) := h.calls
    rw [ofPublication_append, hcalls]
    exact congrArg (_ ++ ·) (by simp [ofPublication, publication?])

/-- A publication that does not come back has called some of those who were subscribed when it began. -/
theorem Calls.courses_begun
    (h : Calls false past.length request (liveOn past channel) (past ++ [begun channel request]) events) :
    Courses false none past (begun channel request :: events) :=
  h.courses.publication (h.calls.isPrefix.trans (List.prefix_append _ _))

end BusEvent

namespace WatchedBus

open BusEvent

/-! ## Runs in which nobody gives up -/

/-- The bus agrees with what was written down, nobody has waited for himself, and everyone who is subscribed is calm. -/
structure Sound (w : WatchedBus) : Prop where
  faithful : w.Faithful
  free : w.Free
  calm : ∀ s ∈ w.bus.subscribers, s.Calm

/-- How a run may end that began after some events. What it has written down is good as a whole where it came back, and
as a first part where it got stuck. -/
inductive Proceeds {α : Type} (good : Bool → List BusEvent → List BusEvent → Prop) (past : List BusEvent) :
    Except Halt α × WatchedBus → Prop
  | back {a w added} : w.events = past ++ added → w.Sound → good true past added → Proceeds good past (.ok a, w)
  | stuck {w added} : w.events = past ++ added → w.Faithful → w.Jammed → good false past added →
      Proceeds good past (.error .stuck, w)
  | overflow {w} : Proceeds good past (.error .overflow, w)

variable {α β : Type} {good good₁ good₂ : Bool → List BusEvent → List BusEvent → Prop} {past : List BusEvent}
  {w : WatchedBus} {ran : Except Halt α × WatchedBus} {event : BusEvent} {bus : DialogBus}

/-- One event, and then a run from there. -/
theorem Proceeds.of_add (h : Proceeds good₁ (past ++ [event]) ran)
    (hgood : ∀ whole added, good₁ whole (past ++ [event]) added → good whole past (event :: added)) :
    Proceeds good past ran := by
  have hcons (added : List BusEvent) : past ++ [event] ++ added = past ++ event :: added := by
    rw [List.append_assoc, List.singleton_append]
  cases h with
  | back hevents hsound hadded => exact .back (hevents.trans (hcons _)) hsound (hgood true _ hadded)
  | stuck hevents hfaithful hjammed hadded =>
    exact .stuck (hevents.trans (hcons _)) hfaithful hjammed (hgood false _ hadded)
  | overflow => exact .overflow

/-- One run, and then another one from there. -/
theorem Proceeds.andThen {next : α → WatchedBus → Except Halt β × WatchedBus} (h : Proceeds good₁ past ran)
    (hnext : ∀ a w, w.Sound → past.length ≤ w.events.length → Proceeds good₂ w.events (next a w))
    (hgood : ∀ whole added later, good₁ true past added → good₂ whole (past ++ added) later →
      good whole past (added ++ later))
    (hstuck : ∀ added, good₁ false past added → good false past added) :
    Proceeds good past (WatchedBus.andThen ran next) := by
  cases h with
  | @back a w added hevents hsound hadded =>
    have hlength : past.length ≤ w.events.length := by
      rw [hevents, List.length_append]
      omega
    have hrun := hnext a w hsound hlength
    rw [hevents] at hrun
    change Proceeds good past (next a w)
    generalize next a w = ran at hrun ⊢
    cases hrun with
    | back hevents' hsound' hlater =>
      exact .back (hevents'.trans (List.append_assoc ..)) hsound' (hgood true _ _ hadded hlater)
    | stuck hevents' hfaithful hjammed hlater =>
      exact .stuck (hevents'.trans (List.append_assoc ..)) hfaithful hjammed (hgood false _ _ hadded hlater)
    | overflow => exact .overflow
  | stuck hevents hfaithful hjammed hadded => exact .stuck hevents hfaithful hjammed (hstuck _ hadded)
  | overflow => exact .overflow

/-- What a run shows that is not nested too deeply. -/
theorem Proceeds.ends (h : Proceeds good past ran) (hdeep : ran.1 ≠ .error .overflow) :
    ∃ whole added, ran.2.events = past ++ added ∧ good whole past added ∧ ran.2.Faithful ∧
      ((∃ a, ran.1 = .ok a) ∧ ran.2.Free ∧ whole = true ∨ ran.1 = .error .stuck ∧ ran.2.Jammed) := by
  cases h with
  | back hevents hsound hgood =>
    exact ⟨true, _, hevents, hgood, hsound.faithful, .inl ⟨⟨_, rfl⟩, hsound.free, rfl⟩⟩
  | stuck hevents hfaithful hjammed hgood => exact ⟨false, _, hevents, hgood, hfaithful, .inr ⟨rfl, hjammed⟩⟩
  | overflow => exact absurd rfl hdeep

theorem Proceeds.ne_panic (h : Proceeds good past ran) (p : Panic) : ran.1 ≠ .error (.panic p) := by
  cases h <;> nofun

theorem Sound.add_aside (h : w.Sound) (hevent : event.isAside) (hbus : bus.subscribers = w.bus.subscribers)
    (hnumber : ∀ n, event.publication? = some n → n < w.events.length) : (w.add event bus).Sound where
  faithful := h.faithful.add_aside hevent hbus hnumber
  free := h.free.add (not_jams_of_isAside hevent)
  calm s hs := h.calm s (hbus ▸ hs)

theorem Sound.add_other (h : w.Sound) (hbus : bus.subscribers = w.bus.subscribers) : (w.add .other bus).Sound :=
  h.add_aside rfl hbus nofun

theorem Sound.forgo (h : w.Sound) (s : Subscriber) : (w.forgo s).Sound := ⟨h.faithful.forgo s, h.free, h.calm⟩

/-- Whatever was stated of two runs, one after the other, where it is the courses that publications take. -/
theorem Proceeds.trans {next : α → WatchedBus → Except Halt β × WatchedBus} (h : Proceeds (Courses · none) past ran)
    (hnext : ∀ a w, w.Sound → Proceeds (Courses · none) w.events (next a w)) :
    Proceeds (Courses · none) past (WatchedBus.andThen ran next) :=
  h.andThen (fun a w hw _ => hnext a w hw) (fun _ _ _ hadded hlater => hadded.trans hlater) fun _ hadded => hadded

/-- One event that has nothing to do with publications, and then a run from there. -/
theorem Proceeds.of_event (h : Proceeds (Courses · none) (w.add event bus).events ran)
    (hevent : event.isPublishing = false) : Proceeds (Courses · none) w.events ran := by
  have hcourses : Courses true none w.events [event] := by
    refine courses_singleton ?_ fun n hn => ?_
    · rintro channel request rfl
      cases hevent
    · cases event <;> cases hevent <;> cases hn
  rw [events_add] at h
  exact h.of_add fun _ added hadded => hcourses.trans hadded

/-- An event that ends a subscription. Who waits for himself there gets stuck, and otherwise the run goes on. -/
theorem Proceeds.of_end {id : SubscriptionId} (hw : w.Sound) (hadd : (w.add event bus).Faithful)
    (hcalm : ∀ s ∈ bus.subscribers, s.Calm) (hkept : bus.kept = w.bus.kept)
    (hends : ∀ other, event.ends other = (id == other)) (hevent : event.isPublishing = false)
    (hrun : (w.add event bus).Sound → Proceeds (Courses · none) (w.add event bus).events ran) :
    Proceeds (Courses · none) w.events (if w.bus.jams id then (.error .stuck, w.add event bus) else ran) := by
  have hjams := hw.faithful.jams_iff hends hkept
  have hall : Proceeds (Courses · none) (w.add event bus).events
      (if w.bus.jams id then (.error .stuck, w.add event bus) else ran) := by
    split
    · next hstuck =>
      exact .stuck (List.append_nil _).symm hadd (hw.free.jammed (hjams.mpr hstuck)) courses_nil
    · next hfree => exact hrun ⟨hadd, hw.free.add fun hm => hfree (hjams.mp hm), hcalm⟩
  exact hall.of_event hevent

/-- Ways of publishing after which every publication has taken its course. -/
def Publish.Settles (publish : Publish) : Prop :=
  ∀ channel request w, w.Sound → Proceeds (Courses · none) w.events (publish channel request w)

section

variable {publish : Publish} (hpublish : publish.Settles)

include hpublish

theorem react_proceeds {r : Reaction} (hr : r.Calm) (hw : w.Sound) :
    Proceeds (Courses · none) w.events (react publish r w) := by
  induction r generalizing w with
  | finish => exact .back (List.append_nil _).symm hw courses_nil
  | panic => cases hr
  | note entry next ih =>
    have hnoted : (w.add .other { w.bus with notes := w.bus.notes ++ [entry] }).Sound := hw.add_other rfl
    exact (ih hr hnoted).of_event rfl
  | look next ih => exact ih _ (hr _) hw
  | count channel next ih => exact ih _ (hr _) hw
  | present host request next ih =>
    have hpresented : (w.add .other (w.bus.present host (some request))).Sound := hw.add_other rfl
    exact (ih hr hpresented).of_event rfl
  | publish channel request next ih =>
    exact (hpublish channel request w hw).trans fun delivery w' hw' => ih delivery (hr delivery) hw'
  | subscribe id channel receive owned next _ ih =>
    refine Proceeds.of_end hw (hw.faithful.subscribe id channel receive owned) (fun s hs => ?_) rfl (fun _ => rfl) rfl
      (ih hr.2)
    rcases List.mem_append.mp hs with hs | hs
    · exact hw.calm s (List.mem_of_mem_filter hs)
    · cases List.mem_singleton.mp hs
      exact hr.1
  | unsubscribe id next ih =>
    exact Proceeds.of_end hw (hw.faithful.unsubscribe id) (fun s hs => hw.calm s (List.mem_of_mem_filter hs)) rfl
      (fun _ => rfl) rfl (ih hr)

theorem deliver_proceeds {n : Nat} {request : DialogRequest} {receivers : List Subscriber}
    (hreceivers : ∀ s ∈ receivers, s.Calm) (hw : w.Sound) (hn : n < w.events.length) :
    Proceeds (Calls · n request receivers) w.events (deliver publish n request receivers w) := by
  induction receivers generalizing w with
  | nil => exact .back (List.append_nil _).symm hw calls_nil
  | cons s rest ih =>
    have hcalled : (w.add (.called n s request) w.bus).Sound := by
      refine hw.add_aside rfl rfl fun n' hn' => ?_
      cases hn'
      exact hn
    have hreact := react_proceeds hpublish (hreceivers s List.mem_cons_self request) hcalled
    rw [events_add] at hreact
    have hrest (_ : Unit) (w' : WatchedBus) (hw' : w'.Sound)
        (hlength : (w.events ++ [called n s request]).length ≤ w'.events.length) :
        Proceeds (Calls · n request rest) w'.events (deliver publish n request rest w') := by
      refine ih (fun s hs => hreceivers s (List.mem_cons_of_mem _ hs)) hw' (Nat.lt_of_lt_of_le hn ?_)
      rw [List.length_append] at hlength
      omega
    have hall : Proceeds (fun whole _ added => Calls whole n request (s :: rest) w.events (called n s request :: added))
        (w.events ++ [called n s request]) (deliver publish n request (s :: rest) w) :=
      hreact.andThen hrest (fun _ _ _ hfirst hlater => hfirst.cons_calls hn hlater) fun _ hfirst =>
        hfirst.calls_first hn
    exact hall.of_add fun _ _ hadded => hadded

theorem release_proceeds (receivers : List Subscriber) (hw : w.Sound) :
    Proceeds (Courses · none) w.events (release publish receivers w) := by
  induction receivers generalizing w with
  | nil => exact .back (List.append_nil _).symm hw courses_nil
  | cons s rest ih =>
    unfold release
    split
    · have hfarewell : Proceeds (Courses · none) w.events (react publish s.farewell (w.forgo s)) :=
        react_proceeds hpublish s.farewell_calm (hw.forgo s)
      exact hfarewell.trans fun _ w' hw' => ih hw'
    · exact ih (hw.forgo s)

omit hpublish in
/-- How a publication goes on whose subscribers do not give up. -/
theorem publishBy_eq_andThen {channel : String} {request : DialogRequest}
    (h : ∀ p, (deliver publish w.events.length request (w.bus.on channel)
      (w.add (begun channel request) (w.bus.keep (w.bus.on channel)))).1 ≠ .error (.panic p)) :
    publishBy publish channel request w =
      WatchedBus.andThen (WatchedBus.andThen (deliver publish w.events.length request (w.bus.on channel)
        (w.add (begun channel request) (w.bus.keep (w.bus.on channel)))) fun _ w' =>
          release publish (w.bus.on channel) w') fun _ w' =>
            (.ok (.to (w.bus.on channel).length),
              w'.add (returned w.events.length (.to (w.bus.on channel).length)) w'.bus) := by
  simp only [publishBy]
  generalize deliver publish w.events.length request (w.bus.on channel)
    (w.add (begun channel request) (w.bus.keep (w.bus.on channel))) = delivered at h ⊢
  rcases delivered with ⟨(p | _ | _) | done, w'⟩
  · exact absurd rfl (h p)
  · rfl
  · rfl
  · rfl

/-- A publication calls those who are subscribed when it begins. -/
theorem settles_publishBy : (publishBy publish).Settles := by
  intro channel request w hw
  let receivers := w.bus.on channel
  let delivery : Delivery := .to receivers.length
  let start := w.add (begun channel request) (w.bus.keep receivers)
  have hon : receivers = liveOn w.events channel := congrArg (List.filter _) hw.faithful.now
  have hstart : start.Sound := hw.add_aside rfl rfl nofun
  have hn : w.events.length < (w.events ++ [begun channel request]).length := by
    rw [List.length_append]
    exact Nat.lt_succ_self _
  have hdeliver : Proceeds (Calls · w.events.length request receivers) start.events
      (deliver publish w.events.length request receivers start) :=
    deliver_proceeds hpublish (fun s hs => hw.calm s (List.mem_of_mem_filter hs)) hstart (events_add ▸ hn)
  rw [events_add] at hdeliver
  -- What handlers owned ends before the publication is over.
  have hreleased : Proceeds (Calls · w.events.length request receivers) (w.events ++ [begun channel request])
      (WatchedBus.andThen (deliver publish w.events.length request receivers start) fun _ w' =>
        release publish receivers w') :=
    hdeliver.andThen (fun _ w' hw' _ => release_proceeds hpublish receivers hw')
      (fun _ _ _ hcalls hlater => hcalls.append_courses hn hlater) fun _ hcalls => hcalls
  have hreturned (_ : Unit) (w' : WatchedBus) (hw' : w'.Sound)
      (hlength : (w.events ++ [begun channel request]).length ≤ w'.events.length) :
      Proceeds (fun _ _ added => added = [returned w.events.length delivery]) w'.events
        (Except.ok delivery, w'.add (returned w.events.length delivery) w'.bus) := by
    refine .back events_add (hw'.add_aside rfl rfl fun n hn' => ?_) rfl
    cases hn'
    exact Nat.lt_of_lt_of_le hn hlength
  have hall : Proceeds (fun whole _ added => Courses whole none w.events (begun channel request :: added))
      (w.events ++ [begun channel request]) (publishBy publish channel request w) := by
    rw [publishBy_eq_andThen hdeliver.ne_panic]
    refine hreleased.andThen hreturned (fun whole calls later hcalls hlater => ?_) fun calls hcalls => ?_
    · simp only [hlater, delivery, hon] at hcalls ⊢
      exact hcalls.courses_returned.partly whole
    · rw [hon] at hcalls
      exact hcalls.courses_begun
  exact hall.of_add fun _ _ hadded => hadded

end

theorem settles_publishWithin (depth : Nat) : (publishWithin depth).Settles := by
  induction depth with
  | zero => exact fun _ _ _ _ => .overflow
  | succ depth ih => exact settles_publishBy ih

theorem settles_publish : publish.Settles := fun channel request w hw =>
  settles_publishWithin w.bus.nesting channel request w hw

end WatchedBus

/-! ## Runs -/

namespace DialogBus

open BusEvent WatchedBus

/-- A run on a bus, watched from its start. -/
def watched (program : Reaction) (bus : DialogBus) : Except Halt Unit × WatchedBus :=
  WatchedBus.react WatchedBus.publish program { bus }

/-- On a bus that nobody has subscribed to yet, whatever is done and whatever subscribers do when they are called, as
long as nobody gives up and publications are not nested too deeply: the run comes back, unless somebody waits for
himself, and then it ends there; it comes back if no handler owns a subscription; each publication calls the
subscriptions of its channel that were live when it began, each once and in order, and says how many, all of this if the
run comes back and a first part of it if the run gets stuck; and at each moment the bus has as many subscribers as there
are live subscriptions. -/
theorem publications_reach_live (program : Reaction) (bus : DialogBus) (hbus : bus.subscribers = [])
    (hcalm : program.Calm) (hdeep : (react publish program bus).1 ≠ .error .overflow) :
    let ran := react publish program bus
    let final := (watched program bus).2
    ran.2 = final.bus ∧
    (ran.1 = .ok () ∧ final.Free ∨ ran.1 = .error .stuck ∧ final.Jammed) ∧
    (program.Unowned → ran.1 = .ok ()) ∧
    (∀ before channel request later, final.events = before ++ begun channel request :: later →
      ofPublication before.length final.events <+: course before channel request ∧
      (ran.1 = .ok () → ofPublication before.length final.events = course before channel request)) ∧
    ∀ before m later, final.moments = before ++ m :: later → ∀ channel,
      m.bus.subscriberCount channel = (liveOn (before.map (·.event) ++ [m.event]) channel).length := by
  intro ran final
  have hstart : Sound { bus } := ⟨faithful_start hbus, fun before m later heq => by simp at heq, by simp [hbus]⟩
  have hforget : (watched program bus).1 = ran.1 ∧ final.bus = ran.2 :=
    Prod.ext_iff.mp (forget_react forget_publish program { bus })
  have hrun : Proceeds (Courses · none) [] (watched program bus) := react_proceeds settles_publish hcalm hstart
  obtain ⟨whole, added, hevents, hcourses, hfaithful, hend⟩ := hrun.ends (hforget.1 ▸ hdeep)
  rw [hforget.1] at hend
  have hend' : ran.1 = .ok () ∧ final.Free ∨ ran.1 = .error .stuck ∧ final.Jammed :=
    hend.imp (fun ⟨⟨_, hback⟩, hfree, _⟩ => ⟨hback, hfree⟩) id
  refine ⟨hforget.2.symm, hend', fun hunowned => ?_, fun before channel request later heq => ?_,
    fun before m later heq channel => ?_⟩
  · have hpasses : Passes ran := passes_react free_publish hunowned (by simp [Unowned, hbus])
    exact (hend'.resolve_right fun hstuck => hpasses.not_stuck hstuck.1).1
  · have hearlier : ofPublication before.length before = [] := by
      refine ofPublication_eq_nil fun event hevent hn => ?_
      obtain ⟨earlier, between, rfl⟩ := List.append_of_mem hevent
      have hsplit : final.events = earlier ++ event :: (between ++ begun channel request :: later) := by
        rw [heq, List.append_assoc, List.cons_append]
      have hlt := hfaithful.numbered earlier event _ hsplit _ hn
      rw [List.length_append] at hlt
      omega
    have hlater : Follows whole (ofPublication before.length final.events) (course before channel request) := by
      rw [heq, ofPublication_append, hearlier]
      exact hcourses.follows before channel request later (hevents.symm.trans heq)
    refine ⟨hlater.isPrefix, fun hback => ?_⟩
    rcases hend with ⟨-, -, rfl⟩ | ⟨hstuck, -⟩
    · exact hlater
    · cases hback.symm.trans hstuck
  · have halways := hfaithful.always before m later heq
    unfold subscriberCount on liveOn
    rw [halways]

def third : Subscriber := { id := .named "third", channel := "deals", receive := fun _ => .finish, serial := 2 }

def second : Subscriber := { id := .named "second", channel := "deals", receive := fun _ => .finish, serial := 1 }

/-- A subscriber that ends its own subscription and another one, brings in a third, and publishes on its own channel. -/
def first : Subscriber where
  id := .named "first"
  channel := "deals"
  receive _ :=
    .unsubscribe (.named "first") <| .unsubscribe second.id <| .subscribe third.id "deals" third.receive [] <|
      .publish "deals" { dialogId := "again", entityId := "d1" } fun _ => .finish

def reshuffle : Reaction :=
  .subscribe first.id "deals" first.receive [] <| .subscribe second.id "deals" second.receive [] <|
    .publish "deals" { dialogId := "edit", entityId := "d1" } fun _ => .finish

/-- The second one is still called with the request that both were subscribed to, and the third one only with the
other. -/
theorem publications_reach_live_reshuffle :
    let final := (watched reshuffle {}).2
    let edit : DialogRequest := { dialogId := "edit", entityId := "d1" }
    let again : DialogRequest := { dialogId := "again", entityId := "d1" }
    react publish reshuffle {} = (.ok (), final.bus) ∧
    ofPublication 2 final.events = [called 2 first edit, called 2 second edit, returned 2 (.delivered 2)] ∧
    ofPublication 7 final.events = [called 7 third again, returned 7 (.delivered 1)] ∧
    final.bus.subscriberCount "deals" = 1 := by
  intro final edit again
  have hevents : final.events = [subscribed first, subscribed second, begun "deals" edit, called 2 first edit,
    unsubscribed first.id, unsubscribed second.id, subscribed third, begun "deals" again, called 7 third again,
    returned 7 (.delivered 1), called 2 second edit, returned 2 (.delivered 2)] := rfl
  have hcalm : reshuffle.Calm :=
    ⟨fun _ => ⟨fun _ => trivial, fun _ => trivial⟩, fun _ => trivial, fun _ => trivial⟩
  have hback : (react publish reshuffle {}).1 = .ok () := rfl
  obtain ⟨hbus, -, -, hcourse, -⟩ := publications_reach_live reshuffle {} rfl hcalm (by rw [hback]; nofun)
  exact ⟨Prod.ext hback hbus, (hcourse [subscribed first, subscribed second] "deals" edit _ rfl).2 hback,
    (hcourse (final.events.take 7) "deals" again _ rfl).2 hback, rfl⟩

/-- Who ends a subscription whose handler owns another one waits for himself. -/
example : (react publish (.subscribe (.named "menu") "deals" (fun _ => .finish) [] <|
    .subscribe (.named "page") "deals" (fun _ => .finish) [.named "menu"] <|
    .unsubscribe (.named "page") .finish) {}).1 = .error .stuck := rfl

/-- A subscriber whose handler owns a subscription, the handler of which owns another one. -/
def page : Subscriber where
  id := .named "page"
  channel := "deals"
  receive _ := .finish
  owned := [.named "menu"]
  serial := 2

/-- A subscriber that ends the subscription of another one. -/
def closer : Subscriber where
  id := .named "closer"
  channel := "deals"
  receive _ := .unsubscribe page.id .finish
  serial := 3

def closing : Reaction :=
  .subscribe (.named "entry") "entries" (fun _ => .finish) [] <|
  .subscribe (.named "menu") "menus" (fun _ => .finish) [.named "entry"] <|
  .subscribe page.id page.channel page.receive page.owned <|
  .subscribe closer.id closer.channel closer.receive closer.owned <|
    .publish "deals" { dialogId := "edit", entityId := "d1" } fun _ => .finish

/-- Everyone has been called and has come back, and the publication does not: the handler of the first one goes away
with it, and what that one owned ends under the lock. -/
theorem publication_does_not_return :
    let events := (watched closing {}).2.events
    let edit : DialogRequest := { dialogId := "edit", entityId := "d1" }
    closing.Calm ∧ (react publish closing {}).1 = .error .stuck ∧
    course (events.take 4) "deals" edit = [called 4 page edit, called 4 closer edit, returned 4 (.delivered 2)] ∧
    ofPublication 4 events = [called 4 page edit, called 4 closer edit] := by
  intro events edit
  refine ⟨⟨fun _ => trivial, fun _ => trivial, fun _ => trivial, fun _ => trivial, fun _ => trivial⟩, rfl, rfl, rfl⟩

end DialogBus

end RecordScreens
