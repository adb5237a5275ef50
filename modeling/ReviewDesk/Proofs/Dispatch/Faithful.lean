import ReviewDesk.Desk.Service
import ReviewDesk.Proofs.Dispatch.Ticks
import ReviewDesk.Proofs.Onset

/-!
What one scheduler leaves behind when it alone claims. Every delivery posts an item that has not
been posted before and claims it with that post (`Kept.deliver`), so through any history of ticks
what is posted, what is claimed and what is stored go on telling the same story, and every post went
to the channel that its kind had in the tick that made it (`faithful_run`).
-/

set_option autoImplicit false
set_option relaxedAutoImplicit false

namespace ReviewDesk.Dispatch

/-- The items of a store and the posts of a platform tell the same story. -/
structure Faithful (shelf : Shelf) (posts : List (MessageRef × Post)) : Prop where
  /-- No item is posted twice. -/
  once : (posts.map (·.2.item)).Nodup
  numbered : (posts.map (·.1.message)).Nodup
  claimed_iff : ∀ id, (shelf.target? id).isSome ↔ id ∈ posts.map (·.2.item)
  /-- A posted item is claimed with its post, and posting it as it is stored would show the same. -/
  recorded : ∀ entry ∈ posts, ∃ item, shelf.get? entry.2.item = some item ∧
    item.target = some entry.1 ∧ Post.ofItem item = entry.2

/-- The invariant of all ticks: besides, the next message has a number of its own. -/
structure Kept (shelf : Shelf) (posts : List (MessageRef × Post)) (next : Nat) : Prop extends
    Faithful shelf posts where
  below : ∀ entry ∈ posts, entry.1.message < next

namespace Kept

variable {shelf : Shelf} {posts : List (MessageRef × Post)} {next : Nat} (h : Kept shelf posts next)
include h

theorem not_mem_of_target? {id : ItemId} (hnone : shelf.target? id = none) :
    id ∉ posts.map (·.2.item) := by
  rw [← h.claimed_iff, hnone]
  exact Bool.false_ne_true

/-- A new item, put in unclaimed, changes nothing about the others. -/
theorem put {item : Item} (fresh : shelf.get? item.id = none) (unclaimed : item.target = none) :
    Kept (shelf.put item) posts next := by
  have hnew : item.id ∉ posts.map (·.2.item) :=
    h.not_mem_of_target? (by rw [Shelf.target?, fresh, Option.bind_none])
  refine ⟨⟨h.once, h.numbered, fun id ↦ ?_, fun entry hentry ↦ ?_⟩, h.below⟩
  · rw [Shelf.target?_put]
    split
    · next hid =>
      rw [hid, unclaimed]
      exact iff_of_false Bool.false_ne_true hnew
    · exact h.claimed_iff id
  · obtain ⟨stored, hget, hstored⟩ := h.recorded entry hentry
    have hne : entry.2.item ≠ item.id := fun hid ↦ hnew (hid ▸ List.mem_map_of_mem hentry)
    exact ⟨stored, by rw [Shelf.get?_put, if_neg hne, hget], hstored⟩

/-- A delivery posts what was never posted, under a number that was never used. -/
theorem deliver {item : Item} (held : shelf.get? item.id = some item)
    (unclaimed : item.target = none) (channel : ChannelId) :
    Kept (shelf.setTarget item.id ⟨channel, next⟩)
      (posts ++ [(⟨channel, next⟩, Post.ofItem item)]) (next + 1) := by
  have hnew : item.id ∉ posts.map (·.2.item) :=
    h.not_mem_of_target? (by rw [Shelf.target?, held, Option.bind_some, unclaimed])
  refine ⟨⟨?_, ?_, fun id ↦ ?_, ?_⟩, ?_⟩
  · rw [List.map_append, List.nodup_append]
    refine ⟨h.once, List.nodup_singleton _, fun id hid last hlast heq ↦ hnew ?_⟩
    obtain rfl : last = item.id := List.mem_singleton.mp hlast
    exact heq ▸ hid
  · rw [List.map_append, List.nodup_append]
    refine ⟨h.numbered, List.nodup_singleton _, fun number hnumber last hlast heq ↦ ?_⟩
    obtain ⟨entry, hentry, rfl⟩ := List.mem_map.mp hnumber
    obtain rfl : last = (next : Int) := List.mem_singleton.mp hlast
    exact absurd heq (Int.ne_of_lt (h.below entry hentry))
  · rw [List.map_append, List.mem_append, List.map_singleton, List.mem_singleton]
    by_cases hid : id = item.id
    · rw [hid, Shelf.target?_setTarget_self _ held]
      exact iff_of_true rfl (Or.inr rfl)
    · rw [Shelf.target?_setTarget_of_ne _ hid, h.claimed_iff]
      exact ⟨Or.inl, fun hmem ↦ hmem.resolve_right hid⟩
  · refine List.forall_mem_append.mpr ⟨fun entry hentry ↦ ?_, List.forall_mem_singleton.mpr ?_⟩
    · obtain ⟨stored, hget, hstored⟩ := h.recorded entry hentry
      have hne : stored.id ≠ item.id := by
        rw [(Shelf.get?_eq_some_iff.mp hget).2]
        exact fun hid ↦ hnew (hid ▸ List.mem_map_of_mem hentry)
      exact ⟨stored, by rw [Shelf.get?_setTarget, hget, Option.map_some, Shelf.mark_of_ne hne],
        hstored⟩
    · refine ⟨{ item with target := some ⟨channel, next⟩ }, ?_, rfl, rfl⟩
      change (shelf.setTarget item.id ⟨channel, next⟩).get? item.id = _
      rw [Shelf.get?_setTarget, held, Option.map_some, Shelf.mark_self]
  · refine List.forall_mem_append.mpr ⟨fun entry hentry ↦ ?_, List.forall_mem_singleton.mpr ?_⟩
    · have hbelow := h.below entry hentry
      omega
    · change (next : Int) < (next + 1 : Nat)
      omega

end Kept

theorem kept_of_delivers {o o' : Outside} (h : Delivers o o')
    (hkept : Kept o.store.shelf o.platform.posts o.platform.nextMessage) :
    Kept o'.store.shelf o'.platform.posts o'.platform.nextMessage := by
  induction h with
  | refl => exact hkept
  | deliver _ held unclaimed _ ih => exact ih.deliver held unclaimed _
  | fault _ ih => exact ih

theorem kept_happen {d : Desk} (plain : d.outside.Plain) {event : Event} (hadmits : Admits d event)
    (h : Kept d.outside.store.shelf d.outside.platform.posts d.outside.platform.nextMessage) :
    Kept (happen d event).outside.store.shelf (happen d event).outside.platform.posts
      (happen d event).outside.platform.nextMessage := by
  cases event with
  | insert item =>
    obtain ⟨fresh, unclaimed⟩ := hadmits item rfl
    exact h.put fresh unclaimed
  | enqueue item =>
    obtain ⟨fresh, unclaimed⟩ := hadmits item rfl
    change Kept (d.outside.store.enqueue item).shelf _ _
    rw [Store.shelf_enqueue]
    exact h.put fresh unclaimed
  | setChannel kind channel => exact h
  | failPost item text => exact h
  | failFetches count => exact h
  | tick => exact kept_of_delivers (delivers_tick plain) h

/-- A delivery posts to the channel of the kind. -/
theorem addressed_of_delivers {o o' : Outside} (h : Delivers o o') {entry : MessageRef × Post}
    (hentry : entry ∈ o'.platform.posts) :
    entry ∈ o.platform.posts ∨ o.store.channel? entry.2.kind = some entry.1.channel := by
  induction h with
  | refl => exact Or.inl hentry
  | deliver before _ _ configured ih =>
    rcases List.mem_append.mp hentry with hentry | hlast
    · exact ih hentry
    · rw [List.mem_singleton.mp hlast, ← before.channel?]
      exact Or.inr configured
  | fault _ ih => exact ih hentry

theorem addressed_of_happen {d : Desk} (plain : d.outside.Plain) {event : Event}
    {entry : MessageRef × Post} (hnew : entry ∉ d.outside.platform.posts)
    (hentry : entry ∈ (happen d event).outside.platform.posts) :
    event = .tick ∧ d.outside.store.channel? entry.2.kind = some entry.1.channel := by
  cases event with
  | insert item => exact absurd hentry hnew
  | enqueue item => exact absurd hentry hnew
  | setChannel kind channel => exact absurd hentry hnew
  | failPost item text => exact absurd hentry hnew
  | failFetches count => exact absurd hentry hnew
  | tick => exact ⟨rfl, (addressed_of_delivers (delivers_tick plain) hentry).resolve_left hnew⟩

/-- A post was made in one of the ticks, and went to the channel that its kind had at that time. -/
def MadeIn (d : Desk) (events : List Event) (entry : MessageRef × Post) : Prop :=
  ∃ before after, events = before ++ .tick :: after ∧
    entry ∉ (run d before).outside.platform.posts ∧
    entry ∈ (run d (before ++ [.tick])).outside.platform.posts ∧
    (run d before).outside.store.channel? entry.2.kind = some entry.1.channel

/-- Nothing stands between the desk and what it calls, nothing is posted and nothing is claimed. -/
structure Untouched (d : Desk) : Prop where
  plain : d.outside.Plain
  unposted : d.outside.platform.posts = []
  unclaimed : ∀ item ∈ d.outside.store.shelf.items, item.target = none

theorem kept_of_untouched {d : Desk} (h : Untouched d) :
    Kept d.outside.store.shelf d.outside.platform.posts d.outside.platform.nextMessage := by
  rw [h.unposted]
  refine ⟨⟨List.nodup_nil, List.nodup_nil, fun id ↦ ?_, fun entry hentry ↦ by cases hentry⟩,
    fun entry hentry ↦ by cases hentry⟩
  refine iff_of_false ?_ List.not_mem_nil
  rw [Shelf.target?]
  cases hget : d.outside.store.shelf.get? id with
  | none => exact Bool.false_ne_true
  | some item =>
    rw [Option.bind_some, h.unclaimed item (Shelf.get?_eq_some_iff.mp hget).1]
    exact Bool.false_ne_true

theorem kept_run {d : Desk} (plain : d.outside.Plain)
    (h : Kept d.outside.store.shelf d.outside.platform.posts d.outside.platform.nextMessage)
    {events : List Event} (hadmits : AdmitsAll d events) :
    Kept (run d events).outside.store.shelf (run d events).outside.platform.posts
      (run d events).outside.platform.nextMessage := by
  induction events generalizing d with
  | nil => exact h
  | cons event events ih =>
    exact ih (plain_happen plain event) (kept_happen plain hadmits.1 h) hadmits.2

theorem faithful_run {d : Desk} (h : Untouched d) {events : List Event}
    (hadmits : AdmitsAll d events) :
    Faithful (run d events).outside.store.shelf (run d events).outside.platform.posts ∧
      ∀ entry ∈ (run d events).outside.platform.posts, MadeIn d events entry := by
  refine ⟨(kept_run h.plain (kept_of_untouched h) hadmits).toFaithful, fun entry hentry ↦ ?_⟩
  have hstart : entry ∉ d.outside.platform.posts := by
    rw [h.unposted]
    exact List.not_mem_nil
  obtain ⟨before, event, after, heq, hbefore, hsince⟩ :=
    exists_onset happen (p := fun d ↦ entry ∈ d.outside.platform.posts) hstart hentry
  have hmade : entry ∈ (run d (before ++ [event])).outside.platform.posts :=
    hsince [] List.nil_prefix
  rw [run_snoc] at hmade
  obtain ⟨rfl, hchannel⟩ := addressed_of_happen (plain_run h.plain before) hbefore hmade
  exact ⟨before, after, heq, hbefore, by rwa [run_snoc], hchannel⟩

/-- A deposit with something to show. -/
def slip : Item where
  id := ⟨"d1"⟩
  kind := .deposit
  createdAt := ⟨0, 0⟩
  seed := 1
  attachment := { bytes := [1] }

/-- A scheduler that takes up to two items of a kind at a time, over an empty store. -/
def vacant : Desk :=
  { Desk.idle "reviews" { store := { noticeChannel := "reviews" } } with
    dispatch := ⟨2, 0, .ended⟩ }

/-- One fetch fails, one post is refused, and the channel of deposits moves. -/
def troubles : List Event :=
  [.enqueue slip, .insert { slip with id := ⟨"k1"⟩, kind := .kyc },
    .setChannel .deposit (some ⟨-1⟩), .setChannel .kyc (some ⟨-2⟩),
    .failPost ⟨"k1"⟩ "file too big", .failFetches 1, .tick, .tick,
    .setChannel .deposit (some ⟨-3⟩), .insert { slip with id := ⟨"d2"⟩ }, .tick]

theorem faithful_troubles :
    Untouched vacant ∧ AdmitsAll vacant troubles ∧
      (run vacant troubles).outside.platform.posts.map (fun entry ↦ (entry.2.item, entry.1)) =
        [(⟨"d1"⟩, ⟨⟨-1⟩, 1⟩), (⟨"d2"⟩, ⟨⟨-3⟩, 2⟩)] ∧
      Faithful (run vacant troubles).outside.store.shelf
        (run vacant troubles).outside.platform.posts ∧
      ∀ entry ∈ (run vacant troubles).outside.platform.posts, MadeIn vacant troubles entry := by
  have huntouched : Untouched vacant := ⟨⟨rfl, rfl⟩, rfl, fun item hitem ↦ by cases hitem⟩
  have hadmits : AdmitsAll vacant troubles := by
    simp only [troubles, AdmitsAll, Admits, Event.put?, Option.some.injEq, forall_eq',
      ← Option.isNone_iff_eq_none, reduceCtorEq, false_implies, implies_true, true_and, and_true]
    decide +kernel
  exact ⟨huntouched, hadmits, by decide +kernel, faithful_run huntouched hadmits⟩

end ReviewDesk.Dispatch
