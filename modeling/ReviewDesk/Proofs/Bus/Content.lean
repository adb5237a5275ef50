import Mathlib.Data.List.Basic
import Mathlib.Data.List.Induction
import Mathlib.Data.List.TakeWhile
import ReviewDesk.Store

/-!
What the streams of the bus hold, over any sequence of subscribes, notices, ends and readings. The
content of a stream can be told from what has happened since it was opened (`Opening.content`): the
notices on its channel up to the first end, in order, and then the error if it was broken. Whatever
was read from it is the beginning of that, and the next reading gives the entry that follows, or the
end (`exact_read`). Streams are ended all at once and let go one by one, and the live ones are those
to which neither has happened.
-/

set_option autoImplicit false
set_option relaxedAutoImplicit false

namespace ReviewDesk

namespace Bus

/-! ### What happens to a bus -/

inductive Event where
  | subscribe (channel : String)
  /-- So many of the next subscribes fail. -/
  | failSubscribes (count : Nat)
  | publish (channel payload : String)
  | enqueue (item : Item)
  | announceAccess (reason : String)
  | dropAll
  | breakAll (reason : String)
  /-- The holder of a stream takes from it. -/
  | take (i : Nat)
  /-- The holder of a stream lets go of it. -/
  | release (i : Nat)

/-- A store whose bus is read, with all that has been taken out of the streams so far. -/
structure Reading where
  store : Store
  /-- What was taken, with the number of the stream. -/
  taken : List (Nat × Delivery) := []

namespace Reading

/-- What taking from a stream adds to the record. -/
def entry (i : Nat) : Taken → List (Nat × Delivery)
  | .delivery content => [(i, content)]
  | .nothingYet | .ended => []

def happen (r : Reading) : Event → Reading
  | .subscribe channel => { r with store := (r.store.subscribe channel).2 }
  | .failSubscribes count => { r with store.bus.subscribeFaults := count }
  | .publish channel payload => { r with store := r.store.publish channel payload }
  | .enqueue item => { r with store := r.store.enqueue item }
  | .announceAccess reason => { r with store := r.store.announceAccess reason }
  | .dropAll => { r with store.bus := r.store.bus.dropAll }
  | .breakAll reason => { r with store.bus := r.store.bus.breakAll reason }
  | .take i =>
    { store := { r.store with bus := (r.store.bus.take i).2 }
      taken := r.taken ++ entry i (r.store.bus.take i).1 }
  | .release i => { r with store.bus := r.store.bus.release i }

/-- What was taken out of one stream. -/
def takenFrom (r : Reading) (i : Nat) : List Delivery := (r.taken.filter (·.1 = i)).map (·.2)

end Reading

/-- A bus on which nobody had subscribed, after some events. Producers announce on the channel
`name`. -/
def read (name : String) (events : List Event) : Reading :=
  events.foldl Reading.happen { store := { noticeChannel := name } }

theorem read_snoc (name : String) (events : List Event) (event : Event) :
    read name (events ++ [event]) = (read name events).happen event :=
  List.foldl_append

/-! ### What can be told from the events -/

namespace Event

/-- The notice that is put on the bus. -/
def notice? (name : String) : Event → Option Publication
  | .publish channel payload => some ⟨channel, payload⟩
  | .enqueue item => (Notice.dispatch? item.kind.ledgerName item.id.text).map (⟨name, ·⟩)
  | .announceAccess reason => some ⟨name, Notice.accessSync reason⟩
  | _ => none

/-- If all streams are ended, what they hold before the end. -/
def ending? : Event → Option (List Delivery)
  | .dropAll => some []
  | .breakAll reason => some [.broken (.connection reason)]
  | _ => none

def releases (i : Nat) : Event → Bool
  | .release j => j = i
  | _ => false

/-- How many subscribes are still to fail afterwards. -/
def faultsAfter (faults : Nat) : Event → Nat
  | .subscribe _ => faults - 1
  | .failSubscribes count => count
  | _ => faults

/-- The channel of the stream that is opened. -/
def opens? (faults : Nat) : Event → Option String
  | .subscribe channel => if 0 < faults then none else some channel
  | _ => none

/-- What a stream on a channel gets, as long as it has not ended. -/
def adds (name channel : String) (event : Event) : List Delivery :=
  ((event.notice? name).toList.filter (·.channel = channel)).map .publication ++
    event.ending?.getD []

theorem notice?_of_ending? {event : Event} (name : String) {last : List Delivery}
    (h : event.ending? = some last) : event.notice? name = none := by
  cases event with
  | dropAll => rfl
  | breakAll reason => rfl
  | _ => cases h

end Event

/-- How many subscribes are still to fail. -/
def faultsLeft (events : List Event) : Nat := events.foldl Event.faultsAfter 0

/-- A stream as far as it can be told from the events: its channel, and all that has happened since
it was opened. -/
structure Opening where
  channel : String
  since : List Event

namespace Opening

def isEnded (o : Opening) : Bool := o.since.any fun event ↦ event.ending?.isSome

def isReleased (o : Opening) (i : Nat) : Bool := o.since.any (·.releases i)

/-- The notices on the channel of a stream, from its opening to the first end. -/
def notices (name : String) (o : Opening) : List Publication :=
  ((o.since.takeWhile fun event ↦ event.ending?.isNone).filterMap (·.notice? name)).filter
    (·.channel = o.channel)

/-- All that a stream holds from its opening to its end: the notices, and the error if it was
broken. -/
def content (name : String) (o : Opening) : List Delivery :=
  (o.notices name).map .publication ++ (o.since.findSome? Event.ending?).getD []

/-- What there is to take when so much has been taken. -/
def next (name : String) (o : Opening) (count : Nat) : Taken :=
  match (o.content name)[count]? with
  | some delivery => .delivery delivery
  | none => if o.isEnded then .ended else .nothingYet

def snoc (o : Opening) (event : Event) : Opening := { o with since := o.since ++ [event] }

section Snoc

variable (o : Opening) (event : Event)

theorem isEnded_snoc : (o.snoc event).isEnded = (o.isEnded || event.ending?.isSome) := by
  simp [isEnded, snoc]

theorem isReleased_snoc (i : Nat) :
    (o.snoc event).isReleased i = (o.isReleased i || event.releases i) := by
  simp [isReleased, snoc]

/-- What happens after the end of a stream does not change its content. -/
theorem content_snoc_of_isEnded (name : String) (ended : o.isEnded) :
    (o.snoc event).content name = o.content name := by
  obtain ⟨first, hfirst, hsome⟩ := List.any_eq_true.mp ended
  have hlead : (o.since ++ [event]).takeWhile (fun event ↦ event.ending?.isNone) =
      o.since.takeWhile fun event ↦ event.ending?.isNone := by
    rw [List.takeWhile_append, if_neg]
    intro hlength
    have hnone := List.takeWhile_eq_self_iff.mp ((List.takeWhile_prefix _).eq_of_length hlength)
    rw [Option.isSome_iff_ne_none] at hsome
    exact hsome (Option.isNone_iff_eq_none.mp (hnone first hfirst))
  obtain ⟨last, hlast⟩ := Option.isSome_iff_exists.mp
    (List.findSome?_isSome_iff.mpr ⟨first, hfirst, hsome⟩)
  rw [content, notices, snoc, hlead, List.findSome?_append, hlast, content, notices, hlast]
  rfl

theorem content_snoc_of_not_isEnded (name : String) (unended : o.isEnded = false) :
    (o.snoc event).content name = o.content name ++ event.adds name o.channel := by
  have hnone : ∀ earlier ∈ o.since, earlier.ending? = none := by
    intro earlier hearlier
    simpa using List.any_eq_false.mp unended earlier hearlier
  have hlead : o.since.takeWhile (fun event ↦ event.ending?.isNone) = o.since := by
    rw [List.takeWhile_eq_self_iff]
    intro earlier hearlier
    rw [hnone earlier hearlier, Option.isNone_none]
  have hlead' : (o.since ++ [event]).takeWhile (fun event ↦ event.ending?.isNone) =
      o.since ++ [event].takeWhile fun event ↦ event.ending?.isNone := by
    rw [List.takeWhile_append, hlead, if_pos rfl]
  have hend : o.since.findSome? Event.ending? = none := List.findSome?_eq_none_iff.mpr hnone
  have hlast : ([event].takeWhile fun event ↦ event.ending?.isNone).filterMap (·.notice? name) =
      (event.notice? name).toList := by
    cases hending : event.ending? with
    | none => cases hnotice : event.notice? name <;> simp [hending, hnotice]
    | some last => simp [hending, Event.notice?_of_ending? name hending]
  rw [content, notices, snoc, hlead', List.filterMap_append, hlast, List.filter_append,
    List.findSome?_append, hend, content, notices, hlead, hend, Event.adds]
  simp

theorem content_snoc (name : String) :
    (o.snoc event).content name =
      o.content name ++ if o.isEnded then [] else event.adds name o.channel := by
  by_cases hended : o.isEnded
  · rw [content_snoc_of_isEnded o event name hended, if_pos hended, List.append_nil]
  · rw [if_neg hended]
    rw [Bool.not_eq_true] at hended
    exact content_snoc_of_not_isEnded o event name hended

end Snoc

end Opening

/-- The streams that are opened, in order, when so many of the first subscribes fail. -/
def openings (faults : Nat) : List Event → List Opening
  | [] => []
  | event :: rest =>
    ((event.opens? faults).map (Opening.mk · rest)).toList ++
      openings (event.faultsAfter faults) rest

theorem openings_snoc (faults : Nat) (events : List Event) (event : Event) :
    openings faults (events ++ [event]) =
      (openings faults events).map (·.snoc event) ++
        ((event.opens? (events.foldl Event.faultsAfter faults)).map (Opening.mk · [])).toList := by
  induction events generalizing faults with
  | nil => simp [openings]
  | cons first rest ih =>
    have hfirst : ((first.opens? faults).map (Opening.mk · (rest ++ [event]))).toList =
        ((first.opens? faults).map (Opening.mk · rest)).toList.map (·.snoc event) := by
      cases first.opens? faults <;> rfl
    rw [List.cons_append, openings, ih, hfirst, openings, List.map_append, List.append_assoc]
    rfl

end Bus

/-! ### What happens to one stream -/

namespace Subscription

/-- What becomes of a stream that its holder leaves alone. -/
def hear (name : String) (sub : Subscription) (event : Bus.Event) : Subscription :=
  { sub with
    waiting := sub.waiting ++ if sub.isLive then event.adds name sub.channel else []
    attached := sub.attached && event.ending?.isNone }

/-- What becomes of the stream with the number `i`. -/
def touch (name : String) (i : Nat) (sub : Subscription) (event : Bus.Event) : Subscription :=
  match event with
  | .take j => if j = i then { sub with waiting := sub.waiting.tail } else sub
  | .release j => if j = i then { sub with held := false, waiting := [] } else sub
  | event => sub.hear name event

/-- What is taken out of the stream with the number `i`. -/
def yields (i : Nat) (sub : Subscription) : Bus.Event → List Delivery
  | .take j => if j = i then sub.waiting.head?.toList else []
  | _ => []

theorem hear_of_idle {name : String} {event : Bus.Event} (notice : event.notice? name = none)
    (ending : event.ending? = none) (sub : Subscription) : sub.hear name event = sub := by
  simp [hear, Bus.Event.adds, notice, ending]

theorem hear_of_notice {name : String} {event : Bus.Event} {message : Publication}
    (notice : event.notice? name = some message) (ending : event.ending? = none)
    (sub : Subscription) :
    sub.hear name event =
      if sub.channel = message.channel then sub.send (.publication message) else sub := by
  by_cases hchannel : sub.channel = message.channel
  · rw [if_pos hchannel]
    cases hlive : sub.isLive <;>
      simp [hear, send, Bus.Event.adds, notice, ending, hlive, hchannel.symm]
  · rw [if_neg hchannel]
    simp [hear, Bus.Event.adds, notice, ending, Ne.symm hchannel]

theorem hear_dropAll (name : String) (sub : Subscription) :
    sub.hear name .dropAll = sub.finish := by
  simp [hear, finish, Bus.Event.adds, Bus.Event.notice?, Bus.Event.ending?]

theorem hear_breakAll (name : String) (sub : Subscription) (reason : String) :
    sub.hear name (.breakAll reason) = (sub.send (.broken (.connection reason))).finish := by
  cases hlive : sub.isLive <;>
    simp [hear, finish, send, Bus.Event.adds, Bus.Event.notice?, Bus.Event.ending?, hlive]

end Subscription

namespace Bus

/-- A stream, and what was taken out of it, are as they can be told from the events. -/
structure Carries (name : String) (i : Nat) (o : Opening) (had : List Delivery)
    (sub : Subscription) : Prop where
  channel : sub.channel = o.channel
  attached : sub.attached = !o.isEnded
  held : sub.held = !o.isReleased i
  taken : had <+: o.content name
  whole : sub.held → had ++ sub.waiting = o.content name
  lost : sub.held = false → sub.waiting = []

theorem carries_new (name channel : String) (i : Nat) :
    Carries name i ⟨channel, []⟩ [] { channel := channel } :=
  ⟨rfl, rfl, rfl, List.nil_prefix, fun _ ↦ rfl, fun h ↦ by cases h⟩

namespace Carries

variable {name : String} {i : Nat} {o : Opening} {had : List Delivery} {sub : Subscription}

theorem hear (h : Carries name i o had sub) {event : Event} (kept : event.releases i = false) :
    Carries name i (o.snoc event) had (sub.hear name event) where
  channel := h.channel
  attached := by
    rw [Opening.isEnded_snoc, Bool.not_or, ← h.attached, Option.not_isSome]
    rfl
  held := by
    rw [Opening.isReleased_snoc, kept, Bool.or_false]
    exact h.held
  taken := by
    rw [Opening.content_snoc]
    exact h.taken.trans (List.prefix_append _ _)
  whole := by
    intro hheld
    have hheld' : sub.held := hheld
    have hlive : sub.isLive = !o.isEnded := by
      rw [Subscription.isLive, hheld', Bool.and_true, h.attached]
    rw [Opening.content_snoc, ← h.whole hheld', List.append_assoc, Subscription.hear, hlive,
      h.channel]
    cases o.isEnded <;> rfl
  lost := by
    intro hheld
    have hheld' : sub.held = false := hheld
    have hlive : sub.isLive = false := by rw [Subscription.isLive, hheld', Bool.and_false]
    rw [Subscription.hear, hlive, h.lost hheld']
    rfl

/-- The holder takes the oldest delivery. -/
theorem take (h : Carries name i o had sub) :
    Carries name i o (had ++ sub.waiting.head?.toList)
      { sub with waiting := sub.waiting.tail } := by
  have hsplit : sub.waiting.head?.toList ++ sub.waiting.tail = sub.waiting := by
    cases sub.waiting <;> rfl
  refine ⟨h.channel, h.attached, h.held, ?_, fun hheld ↦ ?_, fun hheld ↦ ?_⟩
  · cases hheld : sub.held with
    | false =>
      rw [h.lost hheld, List.head?_nil, Option.toList_none, List.append_nil]
      exact h.taken
    | true =>
      have hwhole := h.whole hheld
      rw [← hsplit, ← List.append_assoc] at hwhole
      exact ⟨_, hwhole⟩
  · rw [List.append_assoc, hsplit]
    exact h.whole hheld
  · rw [h.lost hheld]
    rfl

theorem release (h : Carries name i o had sub) :
    Carries name i (o.snoc (.release i)) had { sub with held := false, waiting := [] } := by
  have hcontent : (o.snoc (.release i)).content name = o.content name := by
    rw [Opening.content_snoc]
    cases o.isEnded <;> exact List.append_nil _
  refine ⟨h.channel, ?_, ?_, hcontent ▸ h.taken, fun hheld ↦ (by cases hheld), fun _ ↦ rfl⟩
  · rw [Opening.isEnded_snoc]
    exact h.attached.trans (by simp [Event.ending?])
  · simp [Opening.isReleased_snoc, Event.releases]

theorem touch (h : Carries name i o had sub) (event : Event) :
    Carries name i (o.snoc event) (had ++ sub.yields i event) (sub.touch name i event) := by
  have hidle {event : Event} (notice : event.notice? name = none) (ending : event.ending? = none)
      (kept : event.releases i = false) : Carries name i (o.snoc event) had sub := by
    have hhear := h.hear kept
    rwa [Subscription.hear_of_idle notice ending] at hhear
  cases event with
  | take j =>
    have hsame : Carries name i (o.snoc (.take j)) had sub := hidle rfl rfl rfl
    by_cases heq : j = i
    · simp only [Subscription.yields, Subscription.touch, if_pos heq]
      exact hsame.take
    · simp only [Subscription.yields, Subscription.touch, if_neg heq, List.append_nil]
      exact hsame
  | release j =>
    simp only [Subscription.yields, Subscription.touch, List.append_nil]
    by_cases heq : j = i
    · rw [if_pos heq, heq]
      exact h.release
    · rw [if_neg heq]
      exact hidle rfl rfl (by simpa [Event.releases] using heq)
  | _ =>
    simp only [Subscription.yields, List.append_nil]
    exact h.hear rfl

end Carries

/-! ### What happens to all of them -/

section Take

variable {bus : Bus} {i : Nat}

theorem take_of_none (h : bus.subscriptions[i]? = none) : bus.take i = (.ended, bus) := by
  rw [take, h]

theorem modify_of_some {sub : Subscription} (h : bus.subscriptions[i]? = some sub)
    (change : Subscription → Subscription) :
    bus.modify i change = { bus with subscriptions := bus.subscriptions.set i (change sub) } := by
  rw [modify, List.modify_eq_set_getElem?, h]
  rfl

theorem take_of_some {sub : Subscription} (h : bus.subscriptions[i]? = some sub) :
    bus.take i =
      (sub.waiting.head?.elim (if sub.isLive then .nothingYet else .ended) .delivery,
        bus.modify i fun sub ↦ { sub with waiting := sub.waiting.tail }) := by
  cases hwaiting : sub.waiting with
  | nil =>
    have hsame : { sub with waiting := sub.waiting.tail } = sub := by
      rw [hwaiting, List.tail_nil, ← hwaiting]
    have hset : bus.subscriptions.set i sub = bus.subscriptions := by
      obtain ⟨hlength, rfl⟩ := List.getElem?_eq_some_iff.mp h
      exact List.set_getElem_self hlength
    rw [modify_of_some h, hsame, hset]
    simp only [take, h, hwaiting]
    rfl
  | cons content rest =>
    simp only [take, h, hwaiting, modify_of_some h]
    rfl

end Take

section Hear

variable (name : String) (bus : Bus)

theorem map_hear_of_idle {event : Event} (notice : event.notice? name = none)
    (ending : event.ending? = none) :
    bus.subscriptions.map (·.hear name event) = bus.subscriptions := by
  simp only [Subscription.hear_of_idle notice ending, List.map_id']

theorem subscriptions_publish {event : Event} (message : Publication)
    (notice : event.notice? name = some message) (ending : event.ending? = none) :
    (bus.publish message.channel message.payload).subscriptions =
      bus.subscriptions.map (·.hear name event) := by
  simp only [Subscription.hear_of_notice notice ending]
  rfl

theorem subscriptions_enqueue (store : Store) (item : Item) :
    (store.enqueue item).bus.subscriptions =
      store.bus.subscriptions.map (·.hear store.noticeChannel (.enqueue item)) := by
  rw [Store.enqueue]
  cases hnotice : Notice.dispatch? item.kind.ledgerName item.id.text with
  | none =>
    refine (map_hear_of_idle _ _ ?_ rfl).symm
    rw [Event.notice?, hnotice, Option.map_none]
  | some payload =>
    refine subscriptions_publish _ _ ⟨store.noticeChannel, payload⟩ ?_ rfl
    rw [Event.notice?, hnotice, Option.map_some]

theorem subscriptions_dropAll :
    bus.dropAll.subscriptions = bus.subscriptions.map (·.hear name .dropAll) := by
  simp only [Subscription.hear_dropAll]
  rfl

theorem subscriptions_breakAll (reason : String) :
    (bus.breakAll reason).subscriptions =
      bus.subscriptions.map (·.hear name (.breakAll reason)) := by
  simp only [Subscription.hear_breakAll]
  rfl

end Hear

namespace Reading

variable (r : Reading)

def streams (r : Reading) : List Subscription := r.store.bus.subscriptions

/-- The streams that are there when a subscribe on a channel has been answered. -/
theorem streams_subscribe (channel : String) :
    (r.happen (.subscribe channel)).streams =
      r.streams ++ (((Event.subscribe channel).opens? r.store.bus.subscribeFaults).map
        fun channel ↦ ({ channel := channel } : Subscription)).toList := by
  by_cases hfaults : 0 < r.store.bus.subscribeFaults
  · simp [streams, happen, Store.subscribe, Bus.subscribe, Event.opens?, hfaults]
  · simp [streams, happen, Store.subscribe, Bus.subscribe, Event.opens?, hfaults]

theorem streams_take (j : Nat) :
    (r.happen (.take j)).streams =
      r.streams.modify j fun sub ↦ { sub with waiting := sub.waiting.tail } := by
  cases hsub : r.store.bus.subscriptions[j]? with
  | none =>
    rw [streams, happen, take_of_none hsub, List.modify_eq_set_getElem?, streams, hsub]
    rfl
  | some sub =>
    rw [streams, happen, take_of_some hsub]
    rfl

/-- An event does to each stream what it does to this stream alone. -/
theorem streams_happen (event : Event) :
    (r.happen event).streams =
      r.streams.mapIdx (fun i sub ↦ sub.touch r.store.noticeChannel i event) ++
        ((event.opens? r.store.bus.subscribeFaults).map
          fun channel ↦ ({ channel := channel } : Subscription)).toList := by
  have hhear {event : Event} {subs : List Subscription}
      (h : subs = r.streams.map (·.hear r.store.noticeChannel event))
      (htouch : ∀ (sub : Subscription) (i : Nat),
        sub.touch r.store.noticeChannel i event = sub.hear r.store.noticeChannel event) :
      subs = r.streams.mapIdx fun i sub ↦ sub.touch r.store.noticeChannel i event := by
    rw [h, eq_comm, List.mapIdx_eq_iff]
    intro i
    simp only [List.getElem?_map, htouch]
  have hmodify (j : Nat) (change : Subscription → Subscription) :
      r.streams.modify j change =
        r.streams.mapIdx fun i sub ↦ if j = i then change sub else sub := by
    rw [eq_comm, List.mapIdx_eq_iff]
    exact List.getElem?_modify change j r.streams
  cases event with
  | subscribe channel =>
    rw [streams_subscribe, ← hhear (map_hear_of_idle _ _ rfl rfl).symm fun _ _ ↦ rfl]
    rfl
  | take j =>
    rw [streams_take, hmodify]
    exact (List.append_nil _).symm
  | release j => exact (hmodify j _).trans (List.append_nil _).symm
  | failSubscribes count =>
    exact (hhear (map_hear_of_idle _ _ rfl rfl).symm fun _ _ ↦ rfl).trans (List.append_nil _).symm
  | publish channel payload =>
    exact (hhear (subscriptions_publish _ _ ⟨channel, payload⟩ rfl rfl) fun _ _ ↦ rfl).trans
      (List.append_nil _).symm
  | enqueue item =>
    have hstreams : (r.happen (.enqueue item)).streams =
        (r.store.enqueue item).bus.subscriptions := by rw [streams, happen]
    have hopens : (Event.enqueue item).opens? r.store.bus.subscribeFaults = none := rfl
    rw [hstreams, hopens, Option.map_none, Option.toList_none, List.append_nil]
    exact hhear (subscriptions_enqueue r.store item) fun _ _ ↦ rfl
  | announceAccess reason =>
    exact (hhear (subscriptions_publish _ _ ⟨_, Notice.accessSync reason⟩ rfl rfl)
      fun _ _ ↦ rfl).trans (List.append_nil _).symm
  | dropAll =>
    exact (hhear (subscriptions_dropAll _ _) fun _ _ ↦ rfl).trans (List.append_nil _).symm
  | breakAll reason =>
    exact (hhear (subscriptions_breakAll _ _ reason) fun _ _ ↦ rfl).trans (List.append_nil _).symm

/-- Nobody takes from a stream but with an event of its own. -/
theorem takenFrom_happen (event : Event) (i : Nat) :
    (r.happen event).takenFrom i =
      r.takenFrom i ++ r.streams[i]?.elim [] fun sub ↦ sub.yields i event := by
  cases event with
  | take j =>
    have hentry : (r.happen (.take j)).takenFrom i =
        r.takenFrom i ++ ((entry j (r.store.bus.take j).1).filter (·.1 = i)).map (·.2) := by
      rw [takenFrom, happen, List.filter_append, List.map_append, takenFrom]
    rw [hentry, List.append_cancel_left_eq, streams]
    by_cases heq : j = i
    · subst heq
      cases hsub : r.store.bus.subscriptions[j]? with
      | none =>
        rw [take_of_none hsub]
        rfl
      | some sub =>
        rw [take_of_some hsub]
        cases hwaiting : sub.waiting with
        | nil => cases sub.isLive <;> simp [hwaiting, entry, Subscription.yields]
        | cons content rest => simp [hwaiting, entry, Subscription.yields]
    · have hforeign (taken : Taken) : (entry j taken).filter (·.1 = i) = [] := by
        cases taken <;> simp [entry, heq]
      rw [hforeign, List.map_nil]
      cases r.store.bus.subscriptions[i]? with
      | none => rfl
      | some sub => simp [Subscription.yields, heq]
  | enqueue item =>
    have htaken : (r.happen (.enqueue item)).taken = r.taken := by rw [happen]
    rw [takenFrom, htaken]
    cases r.streams[i]? <;> exact (List.append_nil _).symm
  | _ =>
    cases r.streams[i]? <;> exact (List.append_nil _).symm

theorem noticeChannel_happen (event : Event) :
    (r.happen event).store.noticeChannel = r.store.noticeChannel := by
  cases event with
  | enqueue item =>
    rw [happen, Store.enqueue]
    dsimp only
    split <;> rfl
  | _ => rfl

theorem faults_happen (event : Event) :
    (r.happen event).store.bus.subscribeFaults =
      event.faultsAfter r.store.bus.subscribeFaults := by
  cases event with
  | enqueue item =>
    rw [happen, Store.enqueue]
    dsimp only
    split <;> rfl
  | subscribe channel =>
    rw [happen, Store.subscribe, Bus.subscribe, Event.faultsAfter]
    dsimp only
    split
    · rfl
    · rename_i hnone
      exact (by omega : r.store.bus.subscribeFaults = r.store.bus.subscribeFaults - 1)
  | take j =>
    cases hsub : r.store.bus.subscriptions[j]? with
    | none =>
      rw [happen, take_of_none hsub]
      rfl
    | some sub =>
      rw [happen, take_of_some hsub]
      rfl
  | _ => rfl

end Reading

/-! ### The whole bus -/

/-- The invariant of a bus that is read. -/
structure Kept (name : String) (events : List Event) (r : Reading) : Prop where
  announces : r.store.noticeChannel = name
  faults : r.store.bus.subscribeFaults = faultsLeft events
  length : r.streams.length = (openings 0 events).length
  carries : ∀ (i : Nat) (o : Opening) (sub : Subscription), (openings 0 events)[i]? = some o →
    r.streams[i]? = some sub → Carries name i o (r.takenFrom i) sub
  untouched : ∀ i, r.streams.length ≤ i → r.takenFrom i = []

section Kept

variable {name : String} {events : List Event} {r : Reading} (h : Kept name events r)
include h

theorem Kept.happen (event : Event) : Kept name (events ++ [event]) (r.happen event) := by
  have hopens : event.opens? r.store.bus.subscribeFaults =
      event.opens? (events.foldl Event.faultsAfter 0) := by rw [h.faults, faultsLeft]
  have hstreams := r.streams_happen event
  have hopenings := openings_snoc 0 events event
  rw [h.announces, hopens] at hstreams
  refine ⟨(r.noticeChannel_happen event).trans h.announces, ?_, ?_, fun i o sub ho hsub ↦ ?_,
    fun i hi ↦ ?_⟩
  · rw [r.faults_happen, h.faults, faultsLeft, faultsLeft, List.foldl_append]
    rfl
  · rw [hstreams, hopenings, List.length_append, List.length_append, List.length_mapIdx,
      List.length_map, h.length, Option.length_toList, Option.length_toList, Option.isSome_map,
      Option.isSome_map]
  · rw [hopenings, List.getElem?_append, List.length_map, ← h.length] at ho
    rw [hstreams, List.getElem?_append, List.length_mapIdx] at hsub
    rw [r.takenFrom_happen]
    by_cases hi : i < r.streams.length
    · rw [if_pos hi, List.getElem?_map] at ho
      rw [if_pos hi, List.getElem?_mapIdx] at hsub
      obtain ⟨o, hopened, rfl⟩ := Option.map_eq_some_iff.mp ho
      obtain ⟨sub, hbefore, rfl⟩ := Option.map_eq_some_iff.mp hsub
      rw [hbefore]
      exact (h.carries i o sub hopened hbefore).touch event
    · -- The stream has just been opened.
      rw [if_neg hi] at ho hsub
      have hnone : r.streams[i]? = none := List.getElem?_eq_none_iff.mpr (Nat.le_of_not_lt hi)
      rw [hnone, Option.elim_none, List.append_nil, h.untouched i (Nat.le_of_not_lt hi)]
      cases hchannel : event.opens? (events.foldl Event.faultsAfter 0) with
      | none => simp [hchannel] at ho
      | some channel =>
        rw [hchannel, Option.map_some, Option.toList_some] at ho hsub
        obtain rfl := List.mem_singleton.mp (List.mem_of_getElem? ho)
        obtain rfl := List.mem_singleton.mp (List.mem_of_getElem? hsub)
        exact carries_new name channel i
  · rw [hstreams, List.length_append, List.length_mapIdx] at hi
    have hlength : r.streams.length ≤ i := by omega
    rw [r.takenFrom_happen, h.untouched i hlength, List.getElem?_eq_none_iff.mpr hlength]
    rfl

theorem Kept.exists_carries {i : Nat} {o : Opening} (ho : (openings 0 events)[i]? = some o) :
    ∃ sub, r.streams[i]? = some sub ∧ Carries name i o (r.takenFrom i) sub := by
  have hi : i < r.streams.length := by
    rw [h.length]
    exact (List.getElem?_eq_some_iff.mp ho).1
  have hsub := List.getElem?_eq_getElem hi
  exact ⟨r.streams[i], hsub, h.carries i o _ ho hsub⟩

/-- Counting the streams that are live is counting the openings after which nothing has ended or
released them. -/
theorem Kept.liveCount_eq (channel : String) :
    r.store.bus.liveCount channel = (openings 0 events).zipIdx.countP fun entry ↦
      entry.1.channel = channel && !entry.1.isEnded && !entry.1.isReleased entry.2 := by
  have hmap : r.streams.map (fun sub ↦ sub.isLive && sub.channel == channel) =
      (openings 0 events).zipIdx.map fun entry ↦
        entry.1.channel = channel && !entry.1.isEnded && !entry.1.isReleased entry.2 := by
    apply List.ext_getElem (by rw [List.length_map, List.length_map, List.length_zipIdx, h.length])
    intro i hi hi'
    rw [List.length_map] at hi
    rw [List.length_map, List.length_zipIdx] at hi'
    have hcarries := h.carries i _ _ (List.getElem?_eq_getElem hi') (List.getElem?_eq_getElem hi)
    simp only [List.getElem_map, List.getElem_zipIdx, Nat.zero_add, Subscription.isLive,
      hcarries.attached, hcarries.held, hcarries.channel]
    rw [Bool.and_comm, Bool.and_assoc]
    rfl
  have hcount := congrArg (List.countP id) hmap
  rw [List.countP_map, List.countP_map] at hcount
  exact hcount

end Kept

theorem kept_read (name : String) (events : List Event) : Kept name events (read name events) := by
  induction events using List.reverseRecOn with
  | nil => exact ⟨rfl, rfl, rfl, fun i o sub ho ↦ by simp [openings] at ho, fun _ _ ↦ rfl⟩
  | append_singleton events event ih =>
    rw [read_snoc]
    exact ih.happen event

/-- What is taken next of a stream that its holder keeps. -/
theorem Carries.take_eq {name : String} {i : Nat} {o : Opening} {had : List Delivery}
    {sub : Subscription} (h : Carries name i o had sub) (kept : o.isReleased i = false)
    {bus : Bus} (hsub : bus.subscriptions[i]? = some sub) :
    (bus.take i).1 = o.next name had.length := by
  have hheld : sub.held = true := by rw [h.held, kept, Bool.not_false]
  have hlive : sub.isLive = !o.isEnded := by
    rw [Subscription.isLive, hheld, Bool.and_true, h.attached]
  rw [take_of_some hsub, Opening.next, ← h.whole hheld, List.getElem?_append_right (Nat.le_refl _),
    Nat.sub_self, hlive]
  cases sub.waiting with
  | nil => cases o.isEnded <;> rfl
  | cons content rest => rfl

/-- The streams of a bus are as they can be told from what has happened. -/
structure Exact (name : String) (events : List Event) (r : Reading) : Prop where
  /-- A subscribe fails as long as faults are left, and opens the next stream otherwise. -/
  subscribe : ∀ channel, (r.store.subscribe channel).1 =
    if 0 < faultsLeft events then .error (.connection "injected subscribe failure")
    else .ok (openings 0 events).length
  /-- A subscribe that fails registers nothing. -/
  refused : ∀ channel error, (r.store.subscribe channel).1 = .error error →
    (r.store.subscribe channel).2.bus.subscriptions = r.store.bus.subscriptions
  opened : r.store.bus.subscriptions.length = (openings 0 events).length
  /-- What was taken out of a stream is the beginning of its content. -/
  taken : ∀ i o, (openings 0 events)[i]? = some o → r.takenFrom i <+: o.content name
  /-- As long as its holder keeps a stream, what was not taken still waits in it. -/
  waiting : ∀ i o, (openings 0 events)[i]? = some o → o.isReleased i = false →
    ∃ sub, r.store.bus.subscriptions[i]? = some sub ∧
      r.takenFrom i ++ sub.waiting = o.content name
  /-- Taking gives the next entry of the content, and then the end if the stream was ended. -/
  next : ∀ i o, (openings 0 events)[i]? = some o → o.isReleased i = false →
    (r.store.bus.take i).1 = o.next name (r.takenFrom i).length
  liveCount : ∀ channel, r.store.bus.liveCount channel =
    (openings 0 events).zipIdx.countP fun entry ↦
      entry.1.channel = channel && !entry.1.isEnded && !entry.1.isReleased entry.2

theorem exact_read (name : String) (events : List Event) :
    Exact name events (read name events) := by
  have hkept := kept_read name events
  refine ⟨fun channel ↦ ?_, fun channel error herror ↦ ?_, hkept.length, fun i o ho ↦ ?_,
    fun i o ho kept ↦ ?_, fun i o ho kept ↦ ?_, hkept.liveCount_eq⟩
  · rw [← hkept.faults, ← hkept.length, Store.subscribe, Bus.subscribe]
    dsimp only
    split <;> rfl
  · rw [Store.subscribe, Bus.subscribe] at herror ⊢
    dsimp only at herror ⊢
    split
    · rfl
    · rename_i hnone
      rw [if_neg hnone] at herror
      cases herror
  · obtain ⟨sub, -, hcarries⟩ := hkept.exists_carries ho
    exact hcarries.taken
  · obtain ⟨sub, hsub, hcarries⟩ := hkept.exists_carries ho
    exact ⟨sub, hsub, hcarries.whole (by rw [hcarries.held, kept, Bool.not_false])⟩
  · obtain ⟨sub, hsub, hcarries⟩ := hkept.exists_carries ho
    exact hcarries.take_eq kept hsub

end Bus

end ReviewDesk
