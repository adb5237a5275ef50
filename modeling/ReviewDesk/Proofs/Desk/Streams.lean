import ReviewDesk.Desk.Step
import ReviewDesk.Proofs.Outside

/-!
The streams of the bus and the listener that holds one of them. Whoever does not take from a stream
can only add to it or end it (`Bus.Grows`); the calls of the loops do not touch the bus at all.
`Listener.change_step` says all that one step of the listener can do to its stream and to the two
signals.
-/

set_option autoImplicit false
set_option relaxedAutoImplicit false

namespace ReviewDesk

namespace Subscription

/-- What becomes of a stream while nobody takes from it. -/
structure Grows (sub sub' : Subscription) : Prop where
  held : sub'.held = sub.held
  channel : sub'.channel = sub.channel
  attached : sub'.attached → sub.attached
  waiting : ∀ delivery ∈ sub.waiting, delivery ∈ sub'.waiting

theorem Grows.refl (sub : Subscription) : sub.Grows sub := ⟨rfl, rfl, id, fun _ h ↦ h⟩

theorem Grows.trans {sub sub' sub'' : Subscription} (h : sub.Grows sub') (h' : sub'.Grows sub'') :
    sub.Grows sub'' where
  held := h'.held.trans h.held
  channel := h'.channel.trans h.channel
  attached := fun hattached ↦ h.attached (h'.attached hattached)
  waiting := fun delivery hdelivery ↦ h'.waiting delivery (h.waiting delivery hdelivery)

theorem grows_send (sub : Subscription) (delivery : Delivery) : sub.Grows (sub.send delivery) := by
  unfold send
  split
  · exact ⟨rfl, rfl, id, fun other hother ↦ List.mem_append_left _ hother⟩
  · exact .refl sub

theorem grows_finish (sub : Subscription) : sub.Grows sub.finish :=
  ⟨rfl, rfl, Bool.noConfusion, fun _ h ↦ h⟩

theorem mem_send {sub : Subscription} (hlive : sub.isLive) (delivery : Delivery) :
    delivery ∈ (sub.send delivery).waiting := by
  rw [send, if_pos hlive]
  exact List.mem_append_right _ List.mem_cons_self

end Subscription

namespace Bus

/-- What becomes of the streams while nobody takes from them. -/
def Grows (bus bus' : Bus) : Prop :=
  ∀ (i : Nat) (sub : Subscription), bus.subscriptions[i]? = some sub →
    ∃ sub', bus'.subscriptions[i]? = some sub' ∧ sub.Grows sub'

theorem Grows.refl (bus : Bus) : bus.Grows bus := fun _ sub hsub ↦ ⟨sub, hsub, .refl sub⟩

theorem grows_of_map {bus bus' : Bus} {change : Subscription → Subscription}
    (h : bus'.subscriptions = bus.subscriptions.map change)
    (hchange : ∀ sub : Subscription, sub.Grows (change sub)) : bus.Grows bus' := by
  intro i sub hsub
  refine ⟨change sub, ?_, hchange sub⟩
  rw [h, List.getElem?_map, hsub, Option.map_some]

theorem grows_publish (bus : Bus) (channel payload : String) :
    bus.Grows (bus.publish channel payload) := by
  apply grows_of_map rfl
  intro sub
  split
  · exact sub.grows_send _
  · exact .refl sub

theorem grows_dropAll (bus : Bus) : bus.Grows bus.dropAll :=
  grows_of_map rfl Subscription.grows_finish

theorem grows_breakAll (bus : Bus) (reason : String) : bus.Grows (bus.breakAll reason) :=
  grows_of_map rfl fun sub ↦ (sub.grows_send _).trans (Subscription.grows_finish _)

theorem subscribe_cases (bus : Bus) (channel : String) :
    ((∃ error, (bus.subscribe channel).1 = .error error) ∧
        (bus.subscribe channel).2.subscriptions = bus.subscriptions) ∨
      ((bus.subscribe channel).1 = .ok bus.subscriptions.length ∧
        (bus.subscribe channel).2.subscriptions = bus.subscriptions ++ [{ channel := channel }]) := by
  unfold subscribe
  dsimp only
  split
  · exact Or.inl ⟨⟨_, rfl⟩, rfl⟩
  · exact Or.inr ⟨rfl, rfl⟩

theorem grows_subscribe (bus : Bus) (channel : String) : bus.Grows (bus.subscribe channel).2 := by
  intro i sub hsub
  refine ⟨sub, ?_, .refl sub⟩
  rcases subscribe_cases bus channel with ⟨-, heq⟩ | ⟨-, heq⟩
  · rwa [heq]
  · rw [heq, List.getElem?_append_left (List.getElem?_eq_some_iff.mp hsub).1, hsub]

/-- What is published on the channel of a stream that is still fed waits in it. -/
theorem mem_waiting_publish {bus : Bus} {channel payload : String} {i : Nat} {sub : Subscription}
    (h : (bus.publish channel payload).subscriptions[i]? = some sub)
    (hchannel : sub.channel = channel) (hlive : sub.isLive) :
    .publication ⟨channel, payload⟩ ∈ sub.waiting := by
  have hmap : (bus.publish channel payload).subscriptions = bus.subscriptions.map fun s ↦
      if s.channel = channel then s.send (.publication ⟨channel, payload⟩) else s := rfl
  rw [hmap, List.getElem?_map] at h
  obtain ⟨before, -, rfl⟩ := Option.map_eq_some_iff.mp h
  by_cases hsame : before.channel = channel
  · rw [if_pos hsame] at hlive ⊢
    by_cases hbefore : before.isLive
    · exact Subscription.mem_send hbefore _
    · rw [Subscription.send, if_neg hbefore] at hlive
      exact absurd hlive hbefore
  · rw [if_neg hsame] at hchannel
    exact absurd hchannel hsame

end Bus

namespace Store

theorem enqueue_of_none {store : Store} {item : Item}
    (h : Notice.dispatch? item.kind.ledgerName item.id.text = none) :
    store.enqueue item = store.insert item := by
  rw [enqueue, h]

theorem enqueue_of_some {store : Store} {item : Item} {payload : String}
    (h : Notice.dispatch? item.kind.ledgerName item.id.text = some payload) :
    store.enqueue item = (store.insert item).publish store.noticeChannel payload := by
  rw [enqueue, h]
  rfl

theorem bus_fetch (store : Store) (kind : Kind) (limit : Nat) :
    (store.fetch kind limit).2.bus = store.bus := by
  unfold fetch
  split <;> rfl

theorem noticeChannel_fetch (store : Store) (kind : Kind) (limit : Nat) :
    (store.fetch kind limit).2.noticeChannel = store.noticeChannel := by
  unfold fetch
  split <;> rfl

theorem bus_claim (store : Store) (kind : Kind) (id : ItemId) (target : MessageRef) :
    (store.claim kind id target).2.bus = store.bus := by
  by_cases h : store.IsOpen kind id
  · rw [claim_of_isOpen target h]
  · rw [claim_of_not_isOpen target h]

theorem noticeChannel_claim (store : Store) (kind : Kind) (id : ItemId) (target : MessageRef) :
    (store.claim kind id target).2.noticeChannel = store.noticeChannel := by
  by_cases h : store.IsOpen kind id
  · rw [claim_of_isOpen target h]
  · rw [claim_of_not_isOpen target h]

end Store

namespace Outside

theorem bus_answer (o : Outside) (call : Call) : (o.answer call).2.store.bus = o.store.bus := by
  rcases store_answer o call with heq | ⟨kind, limit, heq⟩ | ⟨kind, item, target, heq⟩
  · rw [heq]
  · rw [heq, Store.bus_fetch]
  · rw [heq, Store.bus_claim]

theorem noticeChannel_answer (o : Outside) (call : Call) :
    (o.answer call).2.store.noticeChannel = o.store.noticeChannel := by
  rcases store_answer o call with heq | ⟨kind, limit, heq⟩ | ⟨kind, item, target, heq⟩
  · rw [heq]
  · rw [heq, Store.noticeChannel_fetch]
  · rw [heq, Store.noticeChannel_claim]

theorem noticeChannel_run {α : Type} (p : Procedure α) (o : Outside) :
    (p.run o).2.store.noticeChannel = o.store.noticeChannel := by
  induction p generalizing o with
  | done a => rfl
  | ask call next ih =>
    have hrun : (Procedure.ask call next).run o =
        (next (o.answer call).1).run (o.answer call).2 := rfl
    rw [hrun, ih, noticeChannel_answer]

end Outside

namespace Desk

/-- The signal that a topic is for. -/
def wakeFor (d : Desk) : Notice.Topic → Wake
  | .dispatch => d.dispatchWake
  | .accessSync => d.accessWake

def raiseFor (d : Desk) : Notice.Topic → Desk
  | .dispatch => d.raiseDispatch
  | .accessSync => d.raiseAccess

theorem raised_raiseFor_self (d : Desk) (topic : Notice.Topic) :
    ((d.raiseFor topic).wakeFor topic).raised := by
  cases topic <;> rfl

theorem raised_raiseFor {d : Desk} {topic : Notice.Topic} (h : (d.wakeFor topic).raised)
    (other : Notice.Topic) : ((d.raiseFor other).wakeFor topic).raised := by
  cases other <;> cases topic <;> first | exact h | rfl

theorem listener_raiseFor (d : Desk) (topic : Notice.Topic) :
    (d.raiseFor topic).listener = d.listener := by
  cases topic <;> rfl

theorem clock_raiseFor (d : Desk) (topic : Notice.Topic) : (d.raiseFor topic).clock = d.clock := by
  cases topic <;> rfl

theorem outside_raiseFor (d : Desk) (topic : Notice.Topic) :
    (d.raiseFor topic).outside = d.outside := by
  cases topic <;> rfl

def stream? (d : Desk) (i : Nat) : Option Subscription := d.outside.store.bus.subscriptions[i]?

end Desk

namespace Listener

/-- All that a step of the listener can do. -/
inductive Change (d d' : Desk) : Prop where
  /-- The listener holds no stream. -/
  | away (phase : ∀ i, d'.listener.phase ≠ .session i)
  /-- It has opened a stream, and woken both loops. -/
  | joined {i : Nat} (phase : d'.listener.phase = .session i)
      (opened : d'.stream? i = some { channel := d.listener.channel })
      (raised : ∀ topic, (d'.wakeFor topic).raised)
  /-- It has taken one notice out of its stream, and woken the loop that the notice is for. -/
  | heard {i : Nat} {sub : Subscription} {message : Publication} {rest : List Delivery}
      (before : d.listener.phase = .session i) (phase : d'.listener.phase = .session i)
      (held : d.stream? i = some sub) (waiting : sub.waiting = .publication message :: rest)
      (left : d'.stream? i = some { sub with waiting := rest })
      (raised : (d'.wakeFor (Notice.topic (Text.trim message.payload))).raised)
      (kept : ∀ topic, (d.wakeFor topic).raised → (d'.wakeFor topic).raised)
  | same (same : d' = d)

theorem change_retreat (d₀ d : Desk) (marker : String) : Change d₀ (retreat d marker) :=
  .away fun _ h ↦ by cases h

theorem change_attempt (d : Desk) : Change d (attempt d) := by
  unfold attempt
  split
  · exact .away fun _ h ↦ by cases h
  · rcases hsubscribe : d.outside.store.subscribe d.listener.channel with ⟨result, store⟩
    cases result with
    | error error => exact change_retreat d _ _
    | ok i =>
      have hresult : (d.outside.store.bus.subscribe d.listener.channel).1 = .ok i :=
        congrArg Prod.fst hsubscribe
      have hstore : store.bus = (d.outside.store.bus.subscribe d.listener.channel).2 :=
        (congrArg (fun result ↦ result.2.bus) hsubscribe).symm
      have hopened : store.bus.subscriptions[i]? = some { channel := d.listener.channel } := by
        rcases Bus.subscribe_cases d.outside.store.bus d.listener.channel with
          ⟨⟨error, herror⟩, -⟩ | ⟨hok, hsubscriptions⟩
        · rw [hresult] at herror
          cases herror
        · rw [hresult, Except.ok.injEq] at hok
          rw [hstore, hsubscriptions, hok, List.getElem?_concat_length]
      refine .joined rfl hopened fun topic ↦ ?_
      cases topic <;> rfl

theorem hear_eq (d : Desk) (payload : String) :
    hear d payload =
      (d.report (.noticed (Text.trim payload))).raiseFor (Notice.topic (Text.trim payload)) := by
  unfold hear
  dsimp only
  cases Notice.topic (Text.trim payload) <;> rfl

theorem step_session {d : Desk} {i : Nat} (hphase : d.listener.phase = .session i)
    (hstop : d.stop.resolves = false) :
    step d =
      match (d.outside.store.bus.take i).1 with
      | .delivery (.publication message) =>
        hear (d.modifyBus fun _ ↦ (d.outside.store.bus.take i).2) message.payload
      | .delivery (.broken _) | .ended =>
        lose (d.modifyBus fun _ ↦ (d.outside.store.bus.take i).2) i
      | .nothingYet => d.modifyBus fun _ ↦ (d.outside.store.bus.take i).2 := by
  unfold step
  rcases htake : d.outside.store.bus.take i with ⟨taken, bus⟩
  cases taken with
  | delivery content =>
    cases content <;> simp only [hphase, hstop, htake, Bool.false_eq_true, if_false]
  | nothingYet => simp only [hphase, hstop, htake, Bool.false_eq_true, if_false]
  | ended => simp only [hphase, hstop, htake, Bool.false_eq_true, if_false]

/-- A step in a session that no stop ends. -/
theorem change_session {d : Desk} {i : Nat} (hphase : d.listener.phase = .session i)
    (hstop : d.stop.resolves = false) : Change d (step d) := by
  rw [step_session hphase hstop]
  cases hsub : d.outside.store.bus.subscriptions[i]? with
  | none =>
    rw [Bus.take, hsub]
    exact change_retreat d _ _
  | some sub =>
    cases hwaiting : sub.waiting with
    | nil =>
      have htake : d.outside.store.bus.take i =
          (if sub.isLive then .nothingYet else .ended, d.outside.store.bus) := by
        rw [Bus.take, hsub]
        simp only [hwaiting]
      rw [htake]
      by_cases hlive : sub.isLive
      · rw [if_pos hlive]
        exact .same rfl
      · rw [if_neg hlive]
        exact change_retreat d _ _
    | cons content rest =>
      have htake : d.outside.store.bus.take i =
          (.delivery content, d.outside.store.bus.modify i fun s ↦ { s with waiting := rest }) := by
        rw [Bus.take, hsub]
        simp only [hwaiting]
      rw [htake]
      cases content with
      | broken error => exact change_retreat d _ _
      | publication message =>
        dsimp only
        rw [hear_eq]
        refine .heard hphase ?_ hsub hwaiting ?_ (Desk.raised_raiseFor_self _ _) fun topic h ↦ ?_
        · rw [Desk.listener_raiseFor]
          exact hphase
        · rw [Desk.stream?, Desk.outside_raiseFor]
          change (d.outside.store.bus.subscriptions.modify i _)[i]? = _
          rw [List.getElem?_modify_eq, hsub]
          rfl
        · refine Desk.raised_raiseFor ?_ _
          cases topic <;> exact h

theorem change_step (d : Desk) : Change d (step d) := by
  unfold step
  cases hphase : d.listener.phase with
  | starting =>
    dsimp only
    split
    · exact .away fun _ h ↦ by cases h
    · exact change_attempt d
  | connecting limit =>
    dsimp only
    split
    · exact change_retreat d d _
    · exact .same rfl
  | session i =>
    by_cases hstop : d.stop.resolves
    · dsimp only
      rw [if_pos hstop]
      exact .away fun _ h ↦ by cases h
    · rw [Bool.not_eq_true] at hstop
      have hchange := change_session hphase hstop
      rw [step, hphase] at hchange
      exact hchange
  | backoff limit =>
    dsimp only
    split
    · exact .away fun _ h ↦ by cases h
    · split
      · exact .away fun _ h ↦ by cases h
      · exact .same rfl
  | ended => exact .same rfl

/-- What a step of the listener leaves as it is. -/
structure Frame (d d' : Desk) : Prop where
  channel : d'.listener.channel = d.listener.channel
  noticeChannel : d'.outside.store.noticeChannel = d.outside.store.noticeChannel
  dispatch : d'.dispatch = d.dispatch
  access : d'.access = d.access
  stop : d'.stop = d.stop

theorem frame_attempt (d : Desk) : Frame d (attempt d) := by
  unfold attempt
  split
  · exact ⟨rfl, rfl, rfl, rfl, rfl⟩
  · rcases hsubscribe : d.outside.store.subscribe d.listener.channel with ⟨result, store⟩
    have hname : store.noticeChannel = d.outside.store.noticeChannel :=
      (congrArg (fun result ↦ result.2.noticeChannel) hsubscribe).symm
    cases result with
    | error error => exact ⟨rfl, hname, rfl, rfl, rfl⟩
    | ok i => exact ⟨rfl, hname, rfl, rfl, rfl⟩

/-- Neither the listener's channel nor the one that producers announce on ever changes, and the
other loops go on by themselves. -/
theorem frame_step (d : Desk) : Frame d (step d) := by
  cases hphase : d.listener.phase with
  | starting =>
    rw [step, hphase]
    dsimp only
    split
    · exact ⟨rfl, rfl, rfl, rfl, rfl⟩
    · exact frame_attempt d
  | connecting limit =>
    rw [step, hphase]
    dsimp only
    split <;> exact ⟨rfl, rfl, rfl, rfl, rfl⟩
  | session i =>
    by_cases hstop : d.stop.resolves
    · rw [step, hphase]
      dsimp only
      rw [if_pos hstop]
      exact ⟨rfl, rfl, rfl, rfl, rfl⟩
    · rw [Bool.not_eq_true] at hstop
      rw [step_session hphase hstop]
      split
      · rw [hear_eq]
        cases Notice.topic (Text.trim _) <;> exact ⟨rfl, rfl, rfl, rfl, rfl⟩
      · exact ⟨rfl, rfl, rfl, rfl, rfl⟩
      · exact ⟨rfl, rfl, rfl, rfl, rfl⟩
      · exact ⟨rfl, rfl, rfl, rfl, rfl⟩
  | backoff limit =>
    rw [step, hphase]
    dsimp only
    split
    · exact ⟨rfl, rfl, rfl, rfl, rfl⟩
    · split <;> exact ⟨rfl, rfl, rfl, rfl, rfl⟩
  | ended =>
    rw [step, hphase]
    exact ⟨rfl, rfl, rfl, rfl, rfl⟩

end Listener

end ReviewDesk
