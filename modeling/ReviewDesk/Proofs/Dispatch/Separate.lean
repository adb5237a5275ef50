import ReviewDesk.Desk.Service
import ReviewDesk.Proofs.Dispatch.Shares
import ReviewDesk.Proofs.Shelf.Oldest

/-!
The two kinds side by side. The scene of a kind is all that a scheduler goes by when it serves the
kind: its channel, its items but for the numbers of messages, and those of its posts that are
refused. Every event changes the scene in a way of its own or not at all (`scene_happen`), and what
a tick does for the kind follows from the scene (`sight_eq`). So two runs that look the same to one
kind serve it in the same way, whatever they hold of the other (`transcript_eq_of_scene`).
-/

set_option autoImplicit false
set_option relaxedAutoImplicit false

namespace ReviewDesk.Dispatch

open Outside

/-- All that a scheduler goes by when it serves a kind. -/
structure Scene where
  channel : Option ChannelId
  items : ItemId → Option Item
  refused : ItemId → Bool

section Owner

-- Which kind an identifier belongs to, so that no identifier is used by both.
variable (owner : ItemId → Kind)

def scene (kind : Kind) (o : Outside) : Scene where
  channel := o.store.channel? kind
  items := o.view kind
  refused id := owner id = kind && o.platform.postFaults.any (·.1 = id)

/-- What an event is to a kind: nothing, if it concerns only the other. How an item is announced, what
number its message has and why its post is refused makes no difference. -/
def about (kind : Kind) : Event → Option Event
  | .insert item | .enqueue item => if item.kind = kind then some (.insert item.veil) else none
  | .setChannel other channel => if other = kind then some (.setChannel kind channel) else none
  | .failPost id _ => if owner id = kind then some (.failPost id "") else none
  | .failFetches _ => none
  | .tick => some .tick

/-- Nothing fails but posts, nobody claims besides, and each item belongs to its kind. -/
structure Tidy (o : Outside) : Prop where
  plain : o.Plain
  faultless : o.store.fetchFaults = 0
  owned : ∀ item ∈ o.store.shelf.items, item.kind = owner item.id

/-- An event makes no fetch fail and puts in only an item that belongs to its kind. -/
def Fits : Event → Prop
  | .insert item | .enqueue item => item.kind = owner item.id
  | .failFetches count => count = 0
  | _ => True

instance : DecidablePred (Fits owner)
  | .insert item | .enqueue item => inferInstanceAs (Decidable (item.kind = owner item.id))
  | .failFetches count => inferInstanceAs (Decidable (count = 0))
  | .setChannel _ _ | .failPost _ _ | .tick => instDecidableTrue

end Owner

/-- What an event does to the scene of the kind that it concerns. -/
def Scene.after (s : Scene) : Event → Scene
  | .insert item => { s with items := fun id ↦ if id = item.id then some item.veil else s.items id }
  | .setChannel _ channel => { s with channel := channel }
  | .failPost id _ => { s with refused := fun other ↦ other = id || s.refused other }
  | _ => s

/-- What there is to see of a tick for somebody who looks at one kind: what it posts, how it leaves
the items, and how many it reports as sent. -/
structure Sight where
  posted : List (ChannelId × Post)
  held : ItemId → Option Item
  sent : Option Nat

def sight (kind : Kind) (d : Desk) : Sight where
  posted := (d.dispatchTick.2.outside.postsOf kind).drop (d.outside.postsOf kind).length
  held := d.dispatchTick.2.outside.view kind
  sent := d.dispatchTick.1.map (·.sent.get kind)

/-- What there is to see of the ticks of a run. -/
def transcript (kind : Kind) : Desk → List Event → List Sight
  | _, [] => []
  | d, .tick :: events => sight kind d :: transcript kind (happen d .tick) events
  | d, event :: events => transcript kind (happen d event) events

variable {owner : ItemId → Kind} {kind : Kind} {o o' : Outside} {d d' : Desk}

/-! ### A tick follows the scene -/

theorem mem_pending_iff_view {item : Item} : item ∈ o.store.shelf.pending kind ↔
    o.view kind item.id = some item ∧ item.target = none := by
  rw [view_eq_some_iff, Shelf.mem_pending, Item.isClaimed, Option.isSome_eq_false_iff,
    Option.isNone_iff_eq_none]
  constructor
  · rintro ⟨hmem, hkind, hnone⟩
    exact ⟨⟨item, hmem, rfl, hkind, Item.veil_of_unclaimed hnone⟩, hnone⟩
  · rintro ⟨⟨stored, hmem, -, hkind, rfl⟩, hnone⟩
    have hfree : stored.target = none := Option.map_eq_none_iff.mp hnone
    rw [Item.veil_of_unclaimed hfree]
    exact ⟨hmem, hkind, hfree⟩

theorem pending_eq_of_view (h : o.view kind = o'.view kind) :
    o.store.shelf.pending kind = o'.store.shelf.pending kind := by
  apply Shelf.pending_eq_of_mem_iff
  intro item
  rw [mem_pending_iff_view, mem_pending_iff_view, h]

theorem publishable_eq (o : Outside) (item : Item) : o.publishable item =
    (!item.id.isEmpty && !item.attachment.isEmpty &&
      !o.platform.postFaults.any (·.1 = item.id)) := by
  have hfault : (o.platform.postFaults.find? (·.1 = item.id)).isNone =
      !o.platform.postFaults.any (·.1 = item.id) := by
    rw [Bool.eq_iff_iff]
    simp
  rw [publishable, hfault]

theorem share_eq_of_scene (owned : ∀ item ∈ o.store.shelf.items, item.kind = owner item.id)
    (h : scene owner kind o = scene owner kind o') (limit : Nat) :
    share limit o kind = share limit o' kind := by
  have hchannel : o.store.channel? kind = o'.store.channel? kind := congrArg Scene.channel h
  have hpending := pending_eq_of_view (congrArg Scene.items h)
  have hbatch : batch limit o kind = batch limit o' kind := by
    rw [batch, batch, hchannel, hpending]
  rw [share, share, ← hbatch]
  apply List.filter_congr
  intro item hitem
  obtain ⟨hmem, hkind⟩ := mem_items_of_mem_batch hitem
  have howner : owner item.id = kind := (owned item hmem).symm.trans hkind
  have hrefused := congrFun (congrArg Scene.refused h) item.id
  simp only [scene, howner, decide_true, Bool.true_and] at hrefused
  rw [publishable_eq, publishable_eq, hrefused]

theorem deliveries_eq_of_scene (owned : ∀ item ∈ o.store.shelf.items, item.kind = owner item.id)
    (h : scene owner kind o = scene owner kind o') (limit : Nat) :
    deliveries limit o kind = deliveries limit o' kind := by
  have hchannel : o.store.channel? kind = o'.store.channel? kind := congrArg Scene.channel h
  rw [deliveries, deliveries, hchannel, share_eq_of_scene owned h]

theorem frame_dispatchTick (tidy : Tidy owner d.outside) :
    d.dispatchTick.2.outside.frame = d.outside.frame := by
  rw [outside_dispatchTick, run_pass tidy.plain tidy.faultless]
  exact frame_foldl_account _ _ _

/-- What a tick shows of a kind: it posts the share of the kind, claims it and reports it. -/
theorem sight_eq (tidy : Tidy owner d.outside) (kind : Kind) :
    sight kind d =
      { posted := deliveries (max d.dispatch.batchLimit 1) d.outside kind
        held := fun id ↦
          if id ∈ (share (max d.dispatch.batchLimit 1) d.outside kind).map Item.id then
            (d.outside.view kind id).map (Item.claimedIn (d.outside.store.channel? kind))
          else d.outside.view kind id
        sent := some (share (max d.dispatch.batchLimit 1) d.outside kind).length } := by
  obtain ⟨report, hreport, hserves⟩ := exists_serves_tick tidy.plain tidy.faultless
  obtain ⟨hview, hposts, hsent⟩ := hserves kind
  have hnone : ({} : Report).sent.get kind = 0 := by cases kind <;> rfl
  dsimp only at hview hposts hsent
  rw [hnone, Nat.zero_add] at hsent
  rw [sight, hposts, List.drop_left, hreport, Option.map_some, hsent, funext hview]

theorem sight_eq_of_scene (tidy : Tidy owner d.outside) (tidy' : Tidy owner d'.outside)
    (limit : d.dispatch.batchLimit = d'.dispatch.batchLimit)
    (h : scene owner kind d.outside = scene owner kind d'.outside) :
    sight kind d = sight kind d' := by
  have hchannel : d.outside.store.channel? kind = d'.outside.store.channel? kind :=
    congrArg Scene.channel h
  have hview : d.outside.view kind = d'.outside.view kind := congrArg Scene.items h
  rw [sight_eq tidy, sight_eq tidy', deliveries_eq_of_scene tidy.owned h,
    share_eq_of_scene tidy.owned h, limit, hview, hchannel]

/-- A tick changes nothing of the scene but the items that it serves. -/
theorem scene_tick (tidy : Tidy owner d.outside) :
    scene owner kind d.dispatchTick.2.outside =
      { scene owner kind d.outside with items := (sight kind d).held } := by
  have hframe := frame_dispatchTick tidy
  have hfaults : d.dispatchTick.2.outside.frame.platform.postFaults =
      d.outside.frame.platform.postFaults := by rw [hframe]
  have hfaults' : d.dispatchTick.2.outside.platform.postFaults =
      d.outside.platform.postFaults := hfaults
  rw [scene, scene, channel?_of_frame hframe, hfaults', sight]

theorem tidy_tick (tidy : Tidy owner d.outside) : Tidy owner d.dispatchTick.2.outside := by
  have hframe := frame_dispatchTick tidy
  refine ⟨plain_of_frame hframe tidy.plain,
    (fetchFaults_of_frame hframe).trans tidy.faultless, fun item hitem ↦ ?_⟩
  have hget := get?_of_frame hframe item.id
  rw [Shelf.get?_of_mem hitem, Option.map_some, eq_comm, Option.map_eq_some_iff] at hget
  obtain ⟨before, hbefore, hbare⟩ := hget
  have hkind : before.bare.kind = item.bare.kind := congrArg Item.kind hbare
  have hid : before.bare.id = item.bare.id := congrArg Item.id hbare
  change before.kind = item.kind at hkind
  change before.id = item.id at hid
  rw [← hkind, ← hid]
  exact tidy.owned before (Shelf.get?_eq_some_iff.mp hbefore).1

/-! ### The other events -/

section Put

variable (bus : Bus) {item : Item} (howner : item.kind = owner item.id)
include howner

/-- An item of the other kind that is put in changes nothing, as it takes the place of no item of
this kind. -/
theorem view_put (owned : ∀ item ∈ o.store.shelf.items, item.kind = owner item.id) (kind : Kind) :
    Outside.view { o with store := { o.store.insert item with bus := bus } } kind =
      if item.kind = kind then
        fun id ↦ if id = item.id then some item.veil else o.view kind id
      else o.view kind := by
  funext id
  have hput : Outside.view { o with store := { o.store.insert item with bus := bus } } kind id =
      if id = item.id then (some item.veil).filter (·.kind = kind) else o.view kind id := by
    rw [view, Store.insert, Shelf.get?_put, view]
    split <;> rfl
  rw [hput]
  by_cases hkind : item.kind = kind
  · have hveil : (some item.veil).filter (·.kind = kind) = some item.veil :=
      Option.filter_some_pos (decide_eq_true hkind)
    rw [if_pos hkind, hveil]
  · have hveil : (some item.veil).filter (·.kind = kind) = none :=
      Option.filter_some_neg (decide_eq_false hkind)
    rw [if_neg hkind, hveil, ite_eq_right_iff]
    rintro rfl
    symm
    rw [Option.eq_none_iff_forall_not_mem]
    intro other hother
    obtain ⟨stored, hmem, hid, hstored, -⟩ := view_eq_some_iff.mp hother
    rw [owned stored hmem, hid, ← howner] at hstored
    exact hkind hstored

theorem scene_put (tidy : Tidy owner o) (kind : Kind) :
    scene owner kind { o with store := { o.store.insert item with bus := bus } } =
      match about owner kind (.insert item) with
      | some change => (scene owner kind o).after change
      | none => scene owner kind o := by
  rw [scene, view_put bus howner tidy.owned, about]
  by_cases hkind : item.kind = kind
  · simp only [if_pos hkind, Scene.after, Item.veil_veil]
    rfl
  · simp only [if_neg hkind]
    rfl

theorem tidy_put (tidy : Tidy owner o) :
    Tidy owner { o with store := { o.store.insert item with bus := bus } } := by
  refine ⟨tidy.plain.with_store _, tidy.faultless, fun stored hstored ↦ ?_⟩
  rcases List.mem_append.mp hstored with hstored | hstored
  · exact tidy.owned stored (List.mem_filter.mp hstored).1
  · rw [List.mem_singleton.mp hstored]
    exact howner

end Put

theorem scene_happen (tidy : Tidy owner d.outside) {event : Event} (fits : Fits owner event)
    (hne : event ≠ .tick) (kind : Kind) :
    scene owner kind (happen d event).outside =
      match about owner kind event with
      | some change => (scene owner kind d.outside).after change
      | none => scene owner kind d.outside := by
  cases event with
  | insert item => exact scene_put d.outside.store.bus fits tidy kind
  | enqueue item =>
    obtain ⟨bus, henqueue⟩ := d.outside.store.exists_enqueue_eq item
    rw [happen, Desk.modifyStore, henqueue]
    exact scene_put bus fits tidy kind
  | setChannel other channel =>
    have hchannel : (happen d (.setChannel other channel)).outside.store.channel? kind =
        if kind = other then channel else d.outside.store.channel? kind :=
      PerKind.get_set _ _ _ _
    rw [scene, hchannel, about]
    by_cases hkind : other = kind
    · rw [if_pos hkind.symm, if_pos hkind]
      rfl
    · rw [if_neg (Ne.symm hkind), if_neg hkind]
      rfl
  | failPost id text =>
    have hscene : scene owner kind (happen d (.failPost id text)).outside =
        { scene owner kind d.outside with
          refused := fun other ↦ owner other = kind &&
            (id = other || d.outside.platform.postFaults.any (·.1 = other)) } := rfl
    rw [hscene, about]
    by_cases howner : owner id = kind
    · rw [if_pos howner]
      refine congrArg (fun refused ↦ { scene owner kind d.outside with refused := refused }) ?_
      funext other
      by_cases hid : other = id
      · simp [hid, howner]
      · simp [hid, Ne.symm hid, scene]
    · rw [if_neg howner]
      refine congrArg (fun refused ↦ { scene owner kind d.outside with refused := refused }) ?_
      funext other
      by_cases hid : id = other
      · simp [← hid, howner]
      · simp [hid]
  | failFetches count => rfl
  | tick => exact absurd rfl hne

theorem tidy_happen (tidy : Tidy owner d.outside) {event : Event} (fits : Fits owner event) :
    Tidy owner (happen d event).outside := by
  cases event with
  | insert item => exact tidy_put d.outside.store.bus fits tidy
  | enqueue item =>
    obtain ⟨bus, henqueue⟩ := d.outside.store.exists_enqueue_eq item
    rw [happen, Desk.modifyStore, henqueue]
    exact tidy_put bus fits tidy
  | setChannel other channel => exact ⟨tidy.plain.with_store _, tidy.faultless, tidy.owned⟩
  | failPost id text => exact ⟨tidy.plain.with_platform _, tidy.faultless, tidy.owned⟩
  | failFetches count => exact ⟨tidy.plain.with_store _, fits, tidy.owned⟩
  | tick => exact tidy_tick tidy

theorem batchLimit_happen (d : Desk) (event : Event) :
    (happen d event).dispatch.batchLimit = d.dispatch.batchLimit := by
  cases event with
  | tick =>
    unfold happen Desk.dispatchTick
    dsimp only
    split <;> rfl
  | _ => rfl

/-- What an event is to a kind is an event of the same sort, and is to the kind what it is. -/
theorem about_spec {event change : Event} (h : about owner kind event = some change)
    (fits : Fits owner event) :
    Fits owner change ∧ about owner kind change = some change ∧ (change = .tick → event = .tick) := by
  cases event with
  | insert item | enqueue item =>
    rw [about] at h
    split at h
    · next hkind =>
      cases h
      refine ⟨fits, ?_, fun htick ↦ by cases htick⟩
      rw [about, Item.kind_veil, Item.veil_veil, if_pos hkind]
    · cases h
  | setChannel other channel =>
    rw [about] at h
    split at h
    · cases h
      exact ⟨trivial, if_pos rfl, fun htick ↦ by cases htick⟩
    · cases h
  | failPost id text =>
    rw [about] at h
    split at h
    · next howner =>
      cases h
      exact ⟨trivial, if_pos howner, fun htick ↦ by cases htick⟩
    · cases h
  | failFetches count => cases h
  | tick =>
    cases h
    exact ⟨trivial, rfl, fun _ ↦ rfl⟩

/-! ### Runs -/

theorem transcript_cons {event : Event} (hne : event ≠ .tick) (kind : Kind) (d : Desk)
    (events : List Event) :
    transcript kind d (event :: events) = transcript kind (happen d event) events := by
  cases event with
  | tick => exact absurd rfl hne
  | _ => rfl

/-- What a run shows of a kind is what is shown by the run of those events that concern the kind,
from anywhere that looks the same to it. -/
theorem transcript_filterMap (tidy : Tidy owner d.outside) (tidy' : Tidy owner d'.outside)
    (limit : d.dispatch.batchLimit = d'.dispatch.batchLimit)
    (h : scene owner kind d.outside = scene owner kind d'.outside) {events : List Event}
    (fits : ∀ event ∈ events, Fits owner event) :
    transcript kind d events = transcript kind d' (events.filterMap (about owner kind)) := by
  induction events generalizing d d' with
  | nil => rfl
  | cons event events ih =>
    obtain ⟨hfits, hrest⟩ := List.forall_mem_cons.mp fits
    have hlimit : (happen d event).dispatch.batchLimit = d'.dispatch.batchLimit :=
      (batchLimit_happen d event).trans limit
    by_cases htick : event = .tick
    · subst htick
      have hsight := sight_eq_of_scene tidy tidy' limit h
      have hevents : (.tick :: events).filterMap (about owner kind) =
          .tick :: events.filterMap (about owner kind) := List.filterMap_cons_some rfl
      rw [hevents, transcript, transcript, hsight]
      refine congrArg _ (ih (tidy_tick tidy) (tidy_tick tidy') ?_ ?_ hrest)
      · exact hlimit.trans (batchLimit_happen d' .tick).symm
      · rw [happen, happen, scene_tick tidy, scene_tick tidy', h, hsight]
    · have hscene := scene_happen tidy hfits htick kind
      rw [transcript_cons htick]
      cases habout : about owner kind event with
      | none =>
        rw [habout] at hscene
        rw [List.filterMap_cons_none habout]
        exact ih (tidy_happen tidy hfits) tidy' hlimit (hscene.trans h) hrest
      | some change =>
        obtain ⟨hfits', hself, hne⟩ := about_spec habout hfits
        have hscene' := scene_happen tidy' hfits' (mt hne htick) kind
        rw [habout] at hscene
        rw [hself] at hscene'
        rw [List.filterMap_cons_some habout, transcript_cons (mt hne htick)]
        refine ih (tidy_happen tidy hfits) (tidy_happen tidy' hfits') ?_ ?_ hrest
        · exact hlimit.trans (batchLimit_happen d' change).symm
        · rw [hscene, hscene', h]

/-- Two runs of a scheduler that look the same to one kind, at the start and in what happens, show
the same of it in every tick: whatever they hold of the other kind, they post the same to the same
channels in the same order, leave the same items claimed and report as many. -/
theorem transcript_eq_of_scene {events events' : List Event}
    (limit : d.dispatch.batchLimit = d'.dispatch.batchLimit)
    (tidy : Tidy owner d.outside) (tidy' : Tidy owner d'.outside)
    (fits : ∀ event ∈ events, Fits owner event) (fits' : ∀ event ∈ events', Fits owner event)
    (hstart : scene owner kind d.outside = scene owner kind d'.outside)
    (hevents : events.filterMap (about owner kind) = events'.filterMap (about owner kind)) :
    transcript kind d events = transcript kind d' events' :=
  calc transcript kind d events
    _ = transcript kind d' (events.filterMap (about owner kind)) :=
      transcript_filterMap tidy tidy' limit hstart fits
    _ = transcript kind d' (events'.filterMap (about owner kind)) := by rw [hevents]
    _ = transcript kind d' events' := (transcript_filterMap tidy' tidy' rfl rfl fits').symm

def paper (id : String) (kind : Kind) : Item where
  id := ⟨id⟩
  kind := kind
  createdAt := ⟨0, 0⟩
  seed := 1
  attachment := { bytes := [1] }

/-- The identifiers that begin with a k are those of identity checks. -/
def byLetter (id : ItemId) : Kind := if id.text.toList.head? = some 'k' then .kyc else .deposit

/-- A scheduler that takes one item of a kind at a time, with a channel for identity checks. -/
def narrow (deposits : Option ChannelId) : Desk :=
  { Desk.idle "reviews"
      { store := { noticeChannel := "reviews", channels := ⟨deposits, some ⟨-2⟩⟩ } } with
    dispatch := ⟨1, 0, .ended⟩ }

def quiet : List Event :=
  [.insert (paper "k1" .kyc), .tick, .failPost ⟨"k2"⟩ "file too big", .insert (paper "k2" .kyc), .tick]

/-- The same to identity checks as `quiet`, among deposits that come and are refused. -/
def busy : List Event :=
  [.enqueue (paper "d1" .deposit), .enqueue (paper "k1" .kyc), .tick, .failPost ⟨"d2"⟩ "file too big",
    .insert (paper "d2" .deposit), .failPost ⟨"k2"⟩ "no such chat", .insert (paper "k2" .kyc),
    .setChannel .deposit none, .tick]

theorem transcript_quiet_eq_busy :
    (busy.filterMap (about byLetter .kyc)).length = 5 ∧
      (transcript .kyc (narrow none) quiet).map (fun sight ↦
          (sight.posted.map fun entry ↦ (entry.1, entry.2.item), sight.sent)) =
        [([(⟨-2⟩, ⟨"k1"⟩)], some 1), ([], some 0)] ∧
      (∀ event ∈ quiet ++ busy, Fits byLetter event) ∧
      transcript .kyc (narrow none) quiet = transcript .kyc (narrow (some ⟨-1⟩)) busy := by
  have htidy : ∀ deposits, Tidy byLetter (narrow deposits).outside := fun deposits ↦
    ⟨⟨rfl, rfl⟩, rfl, fun item hitem ↦ by cases hitem⟩
  have hfits : ∀ event ∈ quiet ++ busy, Fits byLetter event := by decide
  obtain ⟨hquiet, hbusy⟩ := List.forall_mem_append.mp hfits
  exact ⟨by decide +kernel, by decide +kernel, hfits,
    transcript_eq_of_scene rfl (htidy none) (htidy _) hquiet hbusy rfl rfl⟩

end ReviewDesk.Dispatch
