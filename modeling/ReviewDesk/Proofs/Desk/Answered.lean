import ReviewDesk.Proofs.Desk.Shift
import ReviewDesk.Proofs.Notice.Topic

/-!
No announcement is lost. While the listener holds a stream, every announcement so far has been
answered by a pass that began after it, or the signal for its loop is up, or a notice on it waits in
the stream; a stream that has been ended owes nothing, since opening the next one wakes both loops
(`Wired`). So once nothing waits and the signal is down, the pass has begun (`Wired.answered`).
-/

set_option autoImplicit false
set_option relaxedAutoImplicit false

namespace ReviewDesk

/-- Every announcement on a topic, and so the latest, is followed by the beginning of a pass. -/
def Answered (topic : Notice.Topic) (marks : List Mark) : Prop :=
  ∀ before after, marks = before ++ .announced topic :: after → .begun topic ∈ after

theorem snoc_eq_append_cons {marks before after : List Mark} {mark other : Mark}
    (h : marks ++ [mark] = before ++ other :: after) :
    (after = [] ∧ mark = other) ∨
      ∃ after', after = after' ++ [mark] ∧ marks = before ++ other :: after' := by
  rcases List.eq_nil_or_concat after with rfl | ⟨after', last, rfl⟩
  · obtain ⟨-, hlast⟩ := List.append_inj' h rfl
    exact Or.inl ⟨rfl, List.singleton_inj.mp hlast⟩
  · have hassoc : marks ++ [mark] = (before ++ other :: after') ++ [last] := by
      rw [h, List.concat_eq_append, List.append_assoc, List.cons_append]
    obtain ⟨hmarks, hlast⟩ := List.append_inj' hassoc rfl
    rw [List.concat_eq_append, ← List.singleton_inj.mp hlast]
    exact Or.inr ⟨after', rfl, hmarks⟩

/-- A mark that announces nothing on a topic leaves it answered. -/
theorem Answered.snoc {topic : Notice.Topic} {marks : List Mark} (h : Answered topic marks)
    {mark : Mark} (hne : mark ≠ .announced topic) : Answered topic (marks ++ [mark]) := by
  intro before after heq
  rcases snoc_eq_append_cons heq with ⟨-, hmark⟩ | ⟨after', rfl, hmarks⟩
  · exact absurd hmark hne
  · exact List.mem_append_left _ (h before after' hmarks)

theorem answered_snoc_begun (topic : Notice.Topic) (marks : List Mark) :
    Answered topic (marks ++ [.begun topic]) := by
  intro before after heq
  rcases snoc_eq_append_cons heq with ⟨-, hmark⟩ | ⟨after', rfl, -⟩
  · cases hmark
  · exact List.mem_append_right _ List.mem_cons_self

namespace Subscription

/-- A stream owes nothing on a topic: it has been ended, or a notice on the topic waits in it. -/
def Brings (sub : Subscription) (topic : Notice.Topic) : Prop :=
  sub.attached → ∃ message : Publication, .publication message ∈ sub.waiting ∧
    Notice.topic (Text.trim message.payload) = topic

theorem Grows.brings {sub sub' : Subscription} (h : sub.Grows sub') {topic : Notice.Topic}
    (hbrings : sub.Brings topic) : sub'.Brings topic := by
  intro hattached
  obtain ⟨message, hmessage, htopic⟩ := hbrings (h.attached hattached)
  exact ⟨message, h.waiting _ hmessage, htopic⟩

end Subscription

namespace Shift

/-- A topic has been answered, or the signal for its loop is up. -/
def Settled (s : Shift) (topic : Notice.Topic) : Prop :=
  Answered topic s.marks ∨ (s.desk.wakeFor topic).raised

/-- The invariant of a desk whose listener listens where producers announce. -/
structure Wired (s : Shift) : Prop where
  name : s.desk.listener.channel = s.desk.outside.store.noticeChannel
  session : ∀ i, s.desk.listener.phase = .session i → ∃ sub, s.desk.stream? i = some sub ∧
    sub.held = true ∧ sub.channel = s.desk.listener.channel ∧
    ∀ topic, s.Settled topic ∨ sub.Brings topic

theorem wired_of_starting {s : Shift} (phase : s.desk.listener.phase = .starting)
    (name : s.desk.listener.channel = s.desk.outside.store.noticeChannel) : Wired s := by
  constructor
  · exact name
  · intro i hsession
    rw [phase] at hsession
    cases hsession

/-- Whatever leaves the listener alone keeps the invariant if it settles a topic or puts a notice on
it into the stream wherever it unsettles it. -/
theorem Wired.of_grows {s s' : Shift} (h : Wired s)
    (listener : s'.desk.listener = s.desk.listener)
    (name : s'.desk.outside.store.noticeChannel = s.desk.outside.store.noticeChannel)
    (grows : s.desk.outside.store.bus.Grows s'.desk.outside.store.bus)
    (settled : ∀ topic, (s.Settled topic → s'.Settled topic) ∨
      ∀ i sub, s'.desk.stream? i = some sub → sub.held = true →
        sub.channel = s.desk.outside.store.noticeChannel → sub.Brings topic) : Wired s' := by
  refine ⟨by rw [listener, name, h.name], fun i hsession ↦ ?_⟩
  rw [listener] at hsession ⊢
  obtain ⟨sub, hsub, hheld, hchannel, htopics⟩ := h.session i hsession
  obtain ⟨sub', hsub', hgrows⟩ := grows i sub hsub
  have hheld' : sub'.held = true := hgrows.held.trans hheld
  have hchannel' : sub'.channel = s.desk.listener.channel := hgrows.channel.trans hchannel
  refine ⟨sub', hsub', hheld', hchannel', fun topic ↦ ?_⟩
  rcases settled topic with hsettled | hbrings
  · exact (htopics topic).imp hsettled hgrows.brings
  · exact Or.inr (hbrings i sub' hsub' hheld' (hchannel'.trans h.name))

/-- The special case that nothing is announced and no pass begins. -/
theorem Wired.of_same {s s' : Shift} (h : Wired s)
    (listener : s'.desk.listener = s.desk.listener)
    (name : s'.desk.outside.store.noticeChannel = s.desk.outside.store.noticeChannel)
    (grows : s.desk.outside.store.bus.Grows s'.desk.outside.store.bus)
    (marks : s'.marks = s.marks) (dispatch : s'.desk.dispatchWake = s.desk.dispatchWake)
    (access : s'.desk.accessWake = s.desk.accessWake) : Wired s' := by
  apply h.of_grows listener name grows
  intro topic
  left
  intro hsettled
  rw [Settled, marks]
  apply hsettled.imp id
  intro hraised
  cases topic with
  | dispatch => rwa [Desk.wakeFor, dispatch]
  | accessSync => rwa [Desk.wakeFor, access]

/-- Publishing a notice where the listener listens brings it the topic of the notice. -/
theorem brings_publish {bus : Bus} {channel payload : String} {i : Nat} {sub : Subscription}
    (h : (bus.publish channel payload).subscriptions[i]? = some sub) (hheld : sub.held = true)
    (hchannel : sub.channel = channel) : sub.Brings (Notice.topic (Text.trim payload)) := by
  intro hattached
  have hlive : sub.isLive = true := by rw [Subscription.isLive, hattached, hheld, Bool.and_true]
  exact ⟨⟨channel, payload⟩, Bus.mem_waiting_publish h hchannel hlive, rfl⟩

/-! ### Producers -/

theorem wired_announce {s s' : Shift} (h : Wired s) {payload : String} {topic : Notice.Topic}
    (htopic : Notice.topic (Text.trim payload) = topic)
    (listener : s'.desk.listener = s.desk.listener)
    (name : s'.desk.outside.store.noticeChannel = s.desk.outside.store.noticeChannel)
    (bus : s'.desk.outside.store.bus =
      s.desk.outside.store.bus.publish s.desk.outside.store.noticeChannel payload)
    (wakes : ∀ topic, s'.desk.wakeFor topic = s.desk.wakeFor topic)
    (marks : s'.marks = s.marks ++ [.announced topic]) : Wired s' := by
  apply h.of_grows listener name (bus ▸ Bus.grows_publish _ _ _)
  intro other
  by_cases heq : other = topic
  · subst heq
    right
    intro i sub hsub hheld hchannel
    rw [Desk.stream?, bus] at hsub
    exact htopic ▸ brings_publish hsub hheld hchannel
  · left
    rintro (hanswered | hraised)
    · have hne : Mark.announced topic ≠ .announced other := by
        intro hmark
        exact heq (Mark.announced.inj hmark).symm
      exact Or.inl (marks ▸ hanswered.snoc hne)
    · exact Or.inr (by rwa [wakes])

theorem wired_enqueue {s : Shift} (h : Wired s) (item : Item) : Wired (s.step (.enqueue item)) := by
  have hnotice := Notice.dispatch?_eq item.kind item.id.text
  by_cases hblank : (Text.trim item.id.text).isEmpty
  · rw [if_pos hblank] at hnotice
    have hstep : s.step (.enqueue item) = { s with desk := s.desk.modifyStore (·.insert item) } := by
      rw [step, markOf, if_pos hblank, List.append_nil, Desk.modifyStore,
        Store.enqueue_of_none hnotice]
      rfl
    rw [hstep]
    exact h.of_same rfl rfl (.refl _) rfl rfl rfl
  · rw [if_neg hblank] at hnotice
    obtain ⟨payload, hpayload⟩ : ∃ payload,
        Notice.dispatch? item.kind.ledgerName item.id.text = some payload := ⟨_, hnotice⟩
    have hstep : s.step (.enqueue item) =
        { s with
          desk := s.desk.modifyStore fun store ↦
            (store.insert item).publish store.noticeChannel payload
          marks := s.marks ++ [.announced .dispatch] } := by
      rw [step, markOf, if_neg hblank, Desk.modifyStore, Store.enqueue_of_some hpayload]
      rfl
    rw [hstep]
    exact wired_announce h (Notice.topic_of_dispatch? hpayload) rfl rfl rfl (fun _ ↦ rfl) rfl

theorem wired_announceAccess {s : Shift} (h : Wired s) (reason : String) :
    Wired (s.step (.announceAccess reason)) :=
  wired_announce h (Notice.topic_accessSync reason) rfl rfl rfl (fun _ ↦ rfl) rfl

/-! ### The dispatch loop and the access loop -/

/-- The beginning of a pass settles its topic, even if it takes the signal down, and unsettles no
other. -/
theorem wired_begin {s s' : Shift} (h : Wired s) {topic : Notice.Topic}
    (listener : s'.desk.listener = s.desk.listener) (outside : s'.desk.outside = s.desk.outside)
    (wakes : ∀ other ≠ topic, s'.desk.wakeFor other = s.desk.wakeFor other)
    (marks : s'.marks = s.marks ++ [.begun topic]) : Wired s' := by
  have hgrows : s.desk.outside.store.bus.Grows s'.desk.outside.store.bus := by
    rw [outside]
    exact .refl _
  apply h.of_grows listener (by rw [outside]) hgrows
  intro other
  left
  intro hsettled
  rw [Settled, marks]
  by_cases heq : other = topic
  · rw [heq]
    exact Or.inl (answered_snoc_begun topic s.marks)
  · rw [wakes other heq]
    exact hsettled.imp (fun hanswered ↦ hanswered.snoc Mark.noConfusion) id

theorem wired_beginDispatch {s : Shift} (h : Wired s) : Wired s.beginDispatch := by
  refine wired_begin h rfl rfl (fun other hother ↦ ?_) rfl
  cases other with
  | dispatch => exact absurd rfl hother
  | accessSync => rfl

theorem wired_beginAccess {s : Shift} (h : Wired s) (asked : Bool) :
    Wired (s.beginAccess asked) :=
  wired_begin h rfl rfl (fun _ _ ↦ rfl) rfl

theorem wired_beginAccess_of_raised {s : Shift} (h : Wired s) :
    Wired ({ s with desk.accessWake := s.desk.accessWake.clear }.beginAccess false) := by
  refine wired_begin h rfl rfl (fun other hother ↦ ?_) rfl
  cases other with
  | dispatch => rfl
  | accessSync => exact absurd rfl hother

theorem wired_answer {s s' : Shift} (h : Wired s) {call : Call}
    (desk : s'.desk = { s.desk with outside := (s.desk.outside.answer call).2 })
    (marks : s'.marks = s.marks) : Wired s' := by
  have hgrows : s.desk.outside.store.bus.Grows (s.desk.outside.answer call).2.store.bus := by
    rw [Outside.bus_answer]
    exact .refl _
  exact h.of_same (by rw [desk]) (by rw [desk, Outside.noticeChannel_answer]) (desk ▸ hgrows) marks
    (by rw [desk]) (by rw [desk])

theorem wired_dispatchTurn {s : Shift} (h : Wired s) : Wired s.dispatchTurn := by
  unfold dispatchTurn
  split
  · exact wired_answer h rfl rfl
  · rename_i result hdone
    cases result with
    | ok report => exact h.of_same rfl rfl (.refl _) rfl rfl rfl
    | error failure => exact h.of_same rfl rfl (.refl _) rfl rfl rfl
  · split
    · exact wired_beginDispatch h
    · rename_i hopens
      obtain ⟨phase, asleep, hstep⟩ := step_of_not_opensDispatch hopens
      rw [hstep]
      exact h.of_same rfl rfl (.refl _) rfl rfl rfl

theorem wired_accessTurn {s : Shift} (h : Wired s) : Wired s.accessTurn := by
  unfold accessTurn
  split
  · exact wired_answer h rfl rfl
  · rename_i asked result tracked hdone
    cases asked <;> cases result <;> exact h.of_same rfl rfl (.refl _) rfl rfl rfl
  · exact wired_answer h rfl rfl
  · exact h.of_same rfl rfl (.refl _) rfl rfl rfl
  · split
    · split
      · exact wired_beginAccess_of_raised h
      · split
        · refine wired_beginAccess ?_ true
          exact h.of_same rfl rfl (.refl _) rfl rfl rfl
        · exact h.of_same rfl rfl (.refl _) rfl rfl rfl
        · exact h
    · rename_i hgoes
      rw [step_of_not_goes hgoes]
      split
      · exact h.of_same rfl rfl (.refl _) rfl rfl rfl
      · exact h.of_same rfl rfl (.refl _) rfl rfl rfl

/-! ### The listener -/

theorem wired_listenerTurn {s : Shift} (h : Wired s) : Wired (s.turn .listener) := by
  obtain ⟨hchannel, hname, -, -, -⟩ := Listener.frame_step s.desk
  have hwired : (Listener.step s.desk).listener.channel =
      (Listener.step s.desk).outside.store.noticeChannel := by rw [hchannel, hname, h.name]
  rw [turn]
  cases Listener.change_step s.desk with
  | away phase => exact ⟨hwired, fun i hsession ↦ absurd hsession (phase i)⟩
  | joined phase opened raised =>
    refine ⟨hwired, fun i hsession ↦ ?_⟩
    obtain rfl := Listener.Phase.session.inj (phase.symm.trans hsession)
    exact ⟨_, opened, rfl, hchannel.symm, fun topic ↦ Or.inl (Or.inr (raised topic))⟩
  | @heard i sub message rest before phase held waiting left raised kept =>
    refine ⟨hwired, fun i hsession ↦ ?_⟩
    obtain rfl := Listener.Phase.session.inj (phase.symm.trans hsession)
    obtain ⟨sub, hsub, hheld, hsame, htopics⟩ := h.session _ before
    obtain rfl := Option.some.inj (held.symm.trans hsub)
    refine ⟨_, left, hheld, hsame.trans hchannel.symm, fun topic ↦ ?_⟩
    by_cases hheard : Notice.topic (Text.trim message.payload) = topic
    · exact Or.inl (Or.inr (hheard ▸ raised))
    · rcases htopics topic with hsettled | hbrings
      · exact Or.inl (hsettled.imp id (kept topic))
      · -- Whatever brought the topic stands behind the notice that was taken.
        right
        intro hattached
        obtain ⟨other, hother, htopic⟩ := hbrings hattached
        rw [waiting] at hother
        rcases List.mem_cons.mp hother with heq | hrest
        · obtain rfl := Delivery.publication.inj heq
          exact absurd htopic hheard
        · exact ⟨other, hrest, htopic⟩
  | same same =>
    rwa [same]

theorem wired_step {s : Shift} (h : Wired s) (event : Event) : Wired (s.step event) := by
  cases event with
  | enqueue item => exact wired_enqueue h item
  | announceAccess reason => exact wired_announceAccess h reason
  | publish channel payload =>
    exact h.of_same rfl rfl (Bus.grows_publish _ channel payload) rfl rfl rfl
  | dropAll => exact h.of_same rfl rfl (Bus.grows_dropAll _) rfl rfl rfl
  | breakAll reason => exact h.of_same rfl rfl (Bus.grows_breakAll _ reason) rfl rfl rfl
  | failSubscribes count => exact h.of_same rfl rfl (.refl _) rfl rfl rfl
  | subscribe channel => exact h.of_same rfl rfl (Bus.grows_subscribe _ channel) rfl rfl rfl
  | adjust change => exact h.of_same rfl rfl (.refl _) rfl rfl rfl
  | command asked =>
    rw [step, command]
    split
    · exact h.of_same rfl rfl (.refl _) rfl rfl rfl
    · exact h.of_same rfl rfl (.refl _) rfl rfl rfl
  | raise topic =>
    have houtside := Desk.outside_raiseFor s.desk topic
    refine h.of_grows (Desk.listener_raiseFor s.desk topic) (by rw [step, houtside])
      (houtside ▸ .refl _) fun other ↦ Or.inl fun hsettled ↦ ?_
    exact hsettled.imp id fun hraised ↦ Desk.raised_raiseFor hraised topic
  | elapse time => exact h.of_same rfl rfl (.refl _) rfl rfl rfl
  | trigger => exact h.of_same rfl rfl (.refl _) rfl rfl rfl
  | dropOwner => exact h.of_same rfl rfl (.refl _) rfl rfl rfl
  | turn loop =>
    cases loop with
    | listener => exact wired_listenerTurn h
    | dispatch => exact wired_dispatchTurn h
    | access => exact wired_accessTurn h

theorem wired_run {s : Shift} (h : Wired s) (events : List Event) : Wired (s.run events) := by
  induction events generalizing s with
  | nil => exact h
  | cons event events ih => exact ih (wired_step h event)

/-- Once nothing waits in a stream that is still fed and the signal for a loop is down, a pass of that
loop has begun since the latest announcement for it. -/
theorem Wired.answered {s : Shift} (h : Wired s) {i : Nat} {sub : Subscription}
    (phase : s.desk.listener.phase = .session i) (held : s.desk.stream? i = some sub)
    (attached : sub.attached) (waiting : sub.waiting = []) {topic : Notice.Topic}
    (down : (s.desk.wakeFor topic).raised = false) : Answered topic s.marks := by
  obtain ⟨sub', hsub, -, -, htopics⟩ := h.session i phase
  obtain rfl := Option.some.inj (held.symm.trans hsub)
  rcases htopics topic with (hanswered | hraised) | hbrings
  · exact hanswered
  · rw [down] at hraised
    cases hraised
  · obtain ⟨message, hmessage, -⟩ := hbrings attached
    rw [waiting] at hmessage
    cases hmessage

/-! ### A desk that has been started -/

theorem outside_recordAccess (d : Desk) (asked : Bool) (result : Except Failure AccessReport) :
    (recordAccess d asked result).outside = d.outside := by
  cases result <;> cases asked <;> rfl

theorem wired_of_start {settings : Settings} {outside : Outside} {d : Desk}
    (h : Desk.start settings outside = .ok d)
    (name : outside.store.noticeChannel = settings.noticeChannel) (marks : List Mark) :
    Wired { desk := d, marks := marks } := by
  rw [Desk.start] at h
  split at h
  · cases h
  · obtain rfl := Except.ok.inj h
    refine wired_of_starting rfl ?_
    dsimp only
    rw [accessTick_eq, outside_recordAccess, Outside.noticeChannel_run]
    exact name.symm

/-- No announcement to a running desk is lost. Whatever was announced before its start, whatever
happens afterwards and in whatever order, when the listener is in a session, its stream is still fed,
nothing waits in it and the signal for a loop is down, then the latest pass of that loop has begun
after the latest announcement for it. -/
theorem answered_of_start {settings : Settings} {outside : Outside} {d : Desk}
    (start : Desk.start settings outside = .ok d)
    (name : outside.store.noticeChannel = settings.noticeChannel) (marks : List Mark)
    (events : List Event) {s : Shift} (run : Shift.run { desk := d, marks := marks } events = s)
    {i : Nat} {sub : Subscription} (phase : s.desk.listener.phase = .session i)
    (held : s.desk.stream? i = some sub) (attached : sub.attached) (waiting : sub.waiting = []) :
    (s.desk.dispatchWake.raised = false → Answered .dispatch s.marks) ∧
      (s.desk.accessWake.raised = false → Answered .accessSync s.marks) := by
  have hwired : Wired s := by
    rw [← run]
    exact wired_run (wired_of_start start name marks) events
  constructor
  · intro down
    have hdown : (s.desk.wakeFor .dispatch).raised = false := down
    exact hwired.answered phase held attached waiting hdown
  · intro down
    have hdown : (s.desk.wakeFor .accessSync).raised = false := down
    exact hwired.answered phase held attached waiting hdown

/-- A deposit, and a store where it has yet to be put. -/
def early : Item where
  id := ⟨"d1"⟩
  kind := .deposit
  createdAt := ⟨0, 0⟩
  seed := 1

def bare : Outside where
  store := { noticeChannel := "reviews" }

/-- An item is announced before there is a stream, and new rights while there is one. -/
def overture : List Event :=
  [.enqueue early, .turn .listener, .announceAccess "rights", .turn .dispatch, .turn .listener,
    .turn .access]

/-- The desk over the bare store, as it starts. -/
def fresh : Desk :=
  { (Desk.serving "reviews" {} bare).accessTick.2 with
    listener := ⟨"reviews", 5000, .starting⟩
    dispatch := ⟨20, 15000, .starting⟩ }

theorem answered_overture : ∃ s sub, Desk.start { noticeChannel := "reviews" } bare = .ok fresh ∧
    Shift.run { desk := fresh } overture = s ∧ s.desk.listener.phase = .session 0 ∧
    s.desk.stream? 0 = some sub ∧ sub.attached ∧ sub.waiting = [] ∧
    s.desk.dispatchWake.raised = false ∧ s.desk.accessWake.raised = false ∧
    Answered .dispatch s.marks ∧ Answered .accessSync s.marks := by
  have start : Desk.start { noticeChannel := "reviews" } bare = .ok fresh := rfl
  obtain ⟨sub, held, attached, waiting⟩ : ∃ sub,
      (Shift.run { desk := fresh } overture).desk.stream? 0 = some sub ∧ sub.attached ∧
        sub.waiting = [] := ⟨_, rfl, rfl, rfl⟩
  obtain ⟨hdispatch, haccess⟩ :=
    answered_of_start start rfl [] overture rfl rfl held attached waiting
  exact ⟨_, sub, start, rfl, rfl, held, attached, waiting, rfl, rfl, hdispatch rfl, haccess rfl⟩

end Shift

end ReviewDesk
