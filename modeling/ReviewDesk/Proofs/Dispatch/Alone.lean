import Mathlib.Data.List.Nodup
import ReviewDesk.Dispatch.Pass
import ReviewDesk.Proofs.Conversation
import ReviewDesk.Proofs.Outside
import ReviewDesk.Proofs.Shelf.Order

/-!
A dispatch pass that nothing comes between. Offering an item that can be posted delivers it, which
means that it is posted and claimed (`run_offer_of_publishable`), and offering any other changes
nothing. A whole pass delivers, for each kind with a channel, those of the oldest pending items that
can be posted (`run_pass`), and leaves everything else as it is (`frame_passed`).
-/

set_option autoImplicit false
set_option relaxedAutoImplicit false

namespace ReviewDesk

/-! ### The frame of a pass -/

namespace Item

/-- An item but for its claim. -/
def bare (item : Item) : Item := { item with target := none }

end Item

namespace Shelf

/-- A shelf but for the claims. -/
def bare (shelf : Shelf) : Shelf where
  items := shelf.items.map Item.bare
  distinct := List.pairwise_map.mpr shelf.distinct

theorem ext_items {shelf shelf' : Shelf} (h : shelf.items = shelf'.items) : shelf = shelf' := by
  cases shelf
  cases shelf'
  congr

theorem bare_mark (target : MessageRef) (id : ItemId) (item : Item) :
    (mark target id item).bare = item.bare := by
  unfold mark
  split <;> rfl

@[simp] theorem bare_setTarget (shelf : Shelf) (id : ItemId) (target : MessageRef) :
    (shelf.setTarget id target).bare = shelf.bare := by
  apply ext_items
  change (shelf.items.map (mark target id)).map Item.bare = shelf.items.map Item.bare
  rw [List.map_map]
  exact List.map_congr_left fun item _ ↦ bare_mark target id item

theorem get?_bare (shelf : Shelf) (id : ItemId) :
    shelf.bare.get? id = (shelf.get? id).map Item.bare := by
  rw [get?, bare, List.find?_map]
  rfl

/-- An item of a shelf is claimed exactly if it is not among the pending ones of its kind. -/
theorem isSome_target?_iff {shelf : Shelf} {id : ItemId} {item : Item}
    (h : shelf.get? id = some item) :
    (shelf.target? id).isSome ↔ id ∉ (shelf.pending item.kind).map Item.id := by
  obtain ⟨hmem, rfl⟩ := get?_eq_some_iff.mp h
  rw [target?, h, Option.bind_some, List.mem_map]
  constructor
  · rintro hclaimed ⟨other, hother, hid⟩
    obtain ⟨hother, -, hpending⟩ := mem_pending.mp hother
    rw [eq_of_id_eq hother hmem hid, Item.isClaimed, hclaimed] at hpending
    cases hpending
  · intro hnone
    by_contra hclaimed
    refine hnone ⟨item, mem_pending.mpr ⟨hmem, rfl, ?_⟩, rfl⟩
    rwa [Bool.not_eq_true] at hclaimed

end Shelf

namespace Outside

/-- All that a pass leaves as it is: everything but the claims and the posts. -/
def frame (o : Outside) : Outside :=
  { o with
    store := { o.store with shelf := o.store.shelf.bare, claimCalls := 0 }
    platform := { o.platform with nextMessage := 0, posts := [] } }

section Frame

variable {o o' : Outside} (h : o'.frame = o.frame)
include h

theorem plain_of_frame (plain : o.Plain) : o'.Plain := by
  have houtages : o'.frame.outages = o.frame.outages := by rw [h]
  have hrivals : o'.frame.rivals = o.frame.rivals := by rw [h]
  exact ⟨houtages.trans plain.outages, hrivals.trans plain.rivals⟩

theorem fetchFaults_of_frame : o'.store.fetchFaults = o.store.fetchFaults := by
  have hfaults : o'.frame.store.fetchFaults = o.frame.store.fetchFaults := by rw [h]
  exact hfaults

theorem channel?_of_frame (kind : Kind) : o'.store.channel? kind = o.store.channel? kind := by
  have hchannel : o'.frame.store.channel? kind = o.frame.store.channel? kind := by rw [h]
  exact hchannel

theorem get?_of_frame (id : ItemId) :
    (o'.store.shelf.get? id).map Item.bare = (o.store.shelf.get? id).map Item.bare := by
  have hget : o'.frame.store.get? id = o.frame.store.get? id := by rw [h]
  rw [← Shelf.get?_bare, ← Shelf.get?_bare]
  exact hget

end Frame

/-! ### Delivering an item -/

/-- An item can be posted: it has an identifier and something to show, and the platform takes it. -/
def publishable (o : Outside) (item : Item) : Bool :=
  !item.id.isEmpty && !item.attachment.isEmpty &&
    (o.platform.postFaults.find? (·.1 = item.id)).isNone

theorem publishable_of_frame {o o' : Outside} (h : o'.frame = o.frame) :
    o'.publishable = o.publishable := by
  have hfaults : o'.frame.platform.postFaults = o.frame.platform.postFaults := by rw [h]
  have hfaults' : o'.platform.postFaults = o.platform.postFaults := hfaults
  funext item
  rw [publishable, publishable, hfaults']

/-- The next message in a channel. -/
def nextTarget (o : Outside) (channel : ChannelId) : MessageRef :=
  ⟨channel, o.platform.nextMessage⟩

/-- Posts an item and claims it. -/
def deliver (channel : ChannelId) (o : Outside) (item : Item) : Outside :=
  { o with
    store :=
      { o.store with
        claimCalls := o.store.claimCalls + 1
        shelf := o.store.shelf.setTarget item.id (o.nextTarget channel) }
    platform :=
      { o.platform with
        nextMessage := o.platform.nextMessage + 1
        posts := o.platform.posts ++ [(o.nextTarget channel, Post.ofItem item)] } }

def deliverAll (channel : ChannelId) (o : Outside) (items : List Item) : Outside :=
  items.foldl (deliver channel) o

@[simp] theorem frame_deliver (channel : ChannelId) (o : Outside) (item : Item) :
    (deliver channel o item).frame = o.frame := by
  simp [frame, deliver]

@[simp] theorem frame_deliverAll (channel : ChannelId) (o : Outside) (items : List Item) :
    (deliverAll channel o items).frame = o.frame := by
  induction items generalizing o with
  | nil => rfl
  | cons item items ih =>
    rw [deliverAll, List.foldl_cons, ← deliverAll, ih, frame_deliver]

theorem pending_deliver (channel : ChannelId) (o : Outside) (item : Item) (kind : Kind) :
    (deliver channel o item).store.shelf.pending kind =
      (o.store.shelf.pending kind).filter (·.id ≠ item.id) :=
  Shelf.pending_setTarget o.store.shelf item.id (o.nextTarget channel) kind

theorem pending_deliverAll (channel : ChannelId) (o : Outside) (items : List Item) (kind : Kind) :
    (deliverAll channel o items).store.shelf.pending kind =
      (o.store.shelf.pending kind).filter fun other ↦ other.id ∉ items.map Item.id := by
  induction items generalizing o with
  | nil => simp [deliverAll]
  | cons item items ih =>
    rw [deliverAll, List.foldl_cons, ← deliverAll, ih, pending_deliver, List.filter_filter]
    apply List.filter_congr
    intro other _
    by_cases hid : other.id = item.id <;> simp [hid]

theorem isOpen_deliver {o : Outside} {kind : Kind} {id : ItemId} (h : o.store.IsOpen kind id)
    (channel : ChannelId) {item : Item} (hne : id ≠ item.id) :
    (deliver channel o item).store.IsOpen kind id := by
  obtain ⟨stored, hget, hkind, hnone⟩ := h
  have hget' : o.store.shelf.get? id = some stored := hget
  refine ⟨stored, ?_, hkind, hnone⟩
  have hid : stored.id ≠ item.id := by
    rw [(Shelf.get?_eq_some_iff.mp hget').2]
    exact hne
  change (o.store.shelf.setTarget item.id (o.nextTarget channel)).get? id = some stored
  rw [Shelf.get?_setTarget, hget', Option.map_some, Shelf.mark_of_ne hid]

end Outside

/-! ### The calls of a pass -/

namespace Dispatch

open Outside

section Alone

variable {o : Outside} (plain : o.Plain)
include plain

/-- What becomes of an unclaimed item when it is offered. -/
def fate (o : Outside) (item : Item) : Fate :=
  if item.id.isEmpty ∨ item.attachment.isEmpty then .skipped
  else if o.publishable item then .sent
  else .failed

theorem run_offer_of_publishable {item : Item} (hpublishable : o.publishable item)
    (hopen : o.store.IsOpen item.kind item.id) (channel : ChannelId) :
    (offer channel item).run o = (fate o item, deliver channel o item) := by
  have hparts := hpublishable
  simp only [publishable, Bool.and_eq_true, Bool.not_eq_true', Option.isNone_iff_eq_none]
    at hparts
  obtain ⟨⟨hid, hattachment⟩, hfault⟩ := hparts
  have hposted : o.platform.publish channel (Post.ofItem item) =
      (.ok (o.nextTarget channel), (deliver channel o item).platform) := by
    have hfault' : o.platform.postFaults.find? (·.1 = (Post.ofItem item).item) = none := hfault
    rw [Platform.publish, hfault']
    rfl
  have hfate : fate o item = .sent := by simp [fate, hid, hattachment, hpublishable]
  have hplain : Outside.Plain { o with platform := (deliver channel o item).platform } :=
    ⟨plain.outages, plain.rivals⟩
  rw [offer, if_neg (by simp [hid, hattachment]), Procedure.run, answer_publish plain, hposted]
  simp only [Procedure.run]
  rw [answer_claim hplain, Store.claim_of_isOpen _ hopen, hfate]
  rfl

theorem run_offer_of_not_publishable {item : Item} (hpublishable : o.publishable item = false)
    (channel : ChannelId) : (offer channel item).run o = (fate o item, o) := by
  unfold offer
  by_cases hempty : item.id.isEmpty ∨ item.attachment.isEmpty
  · rw [if_pos hempty, fate, if_pos hempty]
    rfl
  · have hfault : ∃ fault,
        o.platform.postFaults.find? (·.1 = (Post.ofItem item).item) = some fault := by
      rw [not_or, Bool.not_eq_true, Bool.not_eq_true] at hempty
      rw [publishable, hempty.1, hempty.2, Bool.not_false, Bool.true_and, Bool.true_and,
        Option.isNone_eq_false_iff] at hpublishable
      exact Option.isSome_iff_exists.mp hpublishable
    obtain ⟨fault, hfault⟩ := hfault
    have hrefused : o.platform.publish channel (Post.ofItem item) =
        (.error (.api fault.2), o.platform) := by
      rw [Platform.publish, hfault]
    rw [if_neg hempty, Procedure.run, answer_publish plain, hrefused, fate, if_neg hempty,
      hpublishable]
    rfl

omit plain in
theorem fate_of_frame {o o' : Outside} (h : o'.frame = o.frame) : fate o' = fate o := by
  funext item
  rw [fate, fate, publishable_of_frame h]

/-- A report after unclaimed items have been offered. -/
def tally (kind : Kind) (o : Outside) (report : Report) (items : List Item) : Report :=
  items.foldl (fun report item ↦ report.count kind (fate o item)) report

theorem run_offerAll (kind : Kind) (channel : ChannelId) {items : List Item}
    (hopen : ∀ item ∈ items, o.store.IsOpen item.kind item.id)
    (hnodup : (items.map Item.id).Nodup) (report : Report) :
    (offerAll kind channel items report).run o =
      (tally kind o report items, deliverAll channel o (items.filter o.publishable)) := by
  induction items generalizing o report with
  | nil => rfl
  | cons item items ih =>
    rw [List.map_cons, List.nodup_cons] at hnodup
    obtain ⟨hnew, hnodup⟩ := hnodup
    have hrest : ∀ other ∈ items, o.store.IsOpen other.kind other.id :=
      fun other hother ↦ hopen other (List.mem_cons_of_mem item hother)
    have hstep : (offerAll kind channel (item :: items) report).run o =
        (offerAll kind channel items (report.count kind ((offer channel item).run o).1)).run
          ((offer channel item).run o).2 :=
      Procedure.run_bind (offer channel item) _ o
    rw [hstep]
    by_cases hpublishable : o.publishable item
    · have hframe := frame_deliver channel o item
      have hstill : ∀ other ∈ items, (deliver channel o item).store.IsOpen other.kind other.id := by
        intro other hother
        refine isOpen_deliver (hrest other hother) channel fun hid ↦ hnew ?_
        exact hid ▸ List.mem_map_of_mem hother
      rw [run_offer_of_publishable plain hpublishable (hopen item List.mem_cons_self),
        ih (plain_of_frame hframe plain) hstill hnodup, publishable_of_frame hframe,
        List.filter_cons_of_pos hpublishable]
      simp only [tally, List.foldl_cons, fate_of_frame hframe]
      rfl
    · have hrefused : o.publishable item = false := by
        rwa [Bool.not_eq_true] at hpublishable
      rw [run_offer_of_not_publishable plain hrefused, ih plain hrest hnodup,
        List.filter_cons_of_neg hpublishable]
      rfl

/-- What a pass fetches of a kind. -/
def batch (limit : Nat) (o : Outside) (kind : Kind) : List Item :=
  match o.store.channel? kind with
  | none => []
  | some _ => (o.store.shelf.pending kind).take (max limit 1)

/-- What comes of the part of a pass that concerns one kind. -/
def passed (limit : Nat) (o : Outside) (kind : Kind) : Outside :=
  match o.store.channel? kind with
  | none => o
  | some channel => deliverAll channel o ((batch limit o kind).filter o.publishable)

theorem run_passKind (faultless : o.store.fetchFaults = 0) (limit : Nat) (kind : Kind)
    (report : Report) :
    (passKind limit kind report).run o =
      (.ok (tally kind o report (batch limit o kind)), passed limit o kind) := by
  rw [passKind, Procedure.run, answer_resolveChannel plain, batch, passed]
  cases hchannel : o.store.channel? kind with
  | none => rfl
  | some channel =>
    have hfetch := Store.fetch_of_no_fault kind limit faultless
    have hitems : (o.store.fetch kind limit).1 =
        .ok ((o.store.shelf.pending kind).take (max limit 1)) := by rw [hfetch]
    obtain ⟨hopen, hnodup⟩ := Store.fetch_ok hitems
    have hoffers := run_offerAll plain kind channel
      (fun item hitem ↦ ⟨item, (hopen item hitem).1, rfl, (hopen item hitem).2.2⟩) hnodup report
    have hbatch : batch limit o kind = (o.store.shelf.pending kind).take (max limit 1) := by
      rw [batch, hchannel]
    simp only [Procedure.run]
    rw [answer_fetchPending plain, hfetch, hbatch]
    refine (Procedure.run_bind (offerAll kind channel _ report) _ o).trans ?_
    rw [hoffers]
    rfl

omit plain in
theorem frame_passed (limit : Nat) (o : Outside) (kind : Kind) :
    (passed limit o kind).frame = o.frame := by
  unfold passed
  split
  · rfl
  · exact frame_deliverAll _ _ _

/-- One kind of a pass, with the report. -/
def account (limit : Nat) (s : Report × Outside) (kind : Kind) : Report × Outside :=
  (tally kind s.2 s.1 (batch limit s.2 kind), passed limit s.2 kind)

theorem run_passKinds (faultless : o.store.fetchFaults = 0) (limit : Nat) (kinds : List Kind)
    (report : Report) :
    (passKinds limit kinds report).run o =
      (.ok (kinds.foldl (account limit) (report, o)).1,
        (kinds.foldl (account limit) (report, o)).2) := by
  induction kinds generalizing o report with
  | nil => rfl
  | cons kind kinds ih =>
    have hframe := frame_passed limit o kind
    refine (Procedure.run_bind (passKind limit kind report) _ o).trans ?_
    rw [run_passKind plain faultless]
    exact ih (plain_of_frame hframe plain) ((fetchFaults_of_frame hframe).trans faultless) _

/-- A pass that nothing comes between, and whose fetches do not fail. -/
theorem run_pass (faultless : o.store.fetchFaults = 0) (limit : Nat) :
    (pass limit).run o =
      (.ok (Kind.all.foldl (account (max limit 1)) ({}, o)).1,
        (Kind.all.foldl (account (max limit 1)) ({}, o)).2) :=
  run_passKinds plain faultless (max limit 1) Kind.all {}

end Alone

/-! ### What a pass leaves pending -/

/-- What is left of a queue once those among the first that can go are gone. -/
def sweep (limit : Nat) (goes : Item → Bool) (queue : List Item) : List Item :=
  (queue.take limit).filter (fun item ↦ !goes item) ++ queue.drop limit

theorem pending_passed_of_ne {o : Outside} {kind other : Kind} (hne : other ≠ kind)
    (limit : Nat) :
    (passed limit o kind).store.shelf.pending other = o.store.shelf.pending other := by
  unfold passed
  cases hchannel : o.store.channel? kind with
  | none => rfl
  | some channel =>
    dsimp only
    rw [pending_deliverAll, List.filter_eq_self]
    intro item hitem
    rw [decide_eq_true_iff, List.mem_map]
    rintro ⟨fetched, hfetched, hid⟩
    have hmem : fetched ∈ o.store.shelf.pending kind := by
      rw [batch, hchannel] at hfetched
      exact List.mem_of_mem_take (List.mem_filter.mp hfetched).1
    obtain ⟨hshelf, hkind, -⟩ := Shelf.mem_pending.mp hmem
    obtain ⟨hshelf', hkind', -⟩ := Shelf.mem_pending.mp hitem
    rw [Shelf.eq_of_id_eq hshelf hshelf' hid, hkind'] at hkind
    exact hne hkind

/-- Taking out by identifier what can go of the first few is sweeping the queue. -/
theorem filter_not_mem_eq_sweep (limit : Nat) (goes : Item → Bool) {queue : List Item}
    (hnodup : (queue.map Item.id).Nodup) :
    queue.filter (fun item ↦ item.id ∉ ((queue.take limit).filter goes).map Item.id) =
      sweep limit goes queue := by
  have hsplit : (queue.take limit ++ queue.drop limit).map Item.id = queue.map Item.id := by
    rw [List.take_append_drop]
  rw [← hsplit, List.map_append, List.nodup_append] at hnodup
  obtain ⟨hfirst, -, hdisjoint⟩ := hnodup
  have htaken : (queue.take limit).filter
        (fun item ↦ item.id ∉ ((queue.take limit).filter goes).map Item.id) =
      (queue.take limit).filter fun item ↦ !goes item := by
    apply List.filter_congr
    intro item hitem
    rw [Bool.eq_iff_iff, decide_eq_true_iff, Bool.not_eq_true', ← Bool.not_eq_true]
    refine not_congr ⟨fun hid ↦ ?_, fun hgoes ↦ ?_⟩
    · obtain ⟨other, hother, hid⟩ := List.mem_map.mp hid
      obtain ⟨hother, hgoes⟩ := List.mem_filter.mp hother
      rwa [← List.inj_on_of_nodup_map hfirst hother hitem hid]
    · exact List.mem_map_of_mem (List.mem_filter.mpr ⟨hitem, hgoes⟩)
  have hleft : (queue.drop limit).filter
        (fun item ↦ item.id ∉ ((queue.take limit).filter goes).map Item.id) =
      queue.drop limit := by
    rw [List.filter_eq_self]
    intro item hitem
    rw [decide_eq_true_iff]
    intro hid
    obtain ⟨other, hother, hid⟩ := List.mem_map.mp hid
    exact hdisjoint _ (List.mem_map_of_mem (List.mem_filter.mp hother).1) _
      (List.mem_map_of_mem hitem) hid
  rw [sweep, ← htaken, ← hleft, ← List.filter_append, List.take_append_drop]

theorem pending_passed {o : Outside} {kind : Kind} {channel : ChannelId}
    (hchannel : o.store.channel? kind = some channel) (limit : Nat) :
    (passed limit o kind).store.shelf.pending kind =
      sweep (max limit 1) o.publishable (o.store.shelf.pending kind) := by
  rw [passed, batch, hchannel]
  dsimp only
  rw [pending_deliverAll]
  exact filter_not_mem_eq_sweep _ _ (o.store.shelf.nodup_map_id_pending kind)

theorem frame_foldl_account (limit : Nat) (kinds : List Kind) (s : Report × Outside) :
    (kinds.foldl (account limit) s).2.frame = s.2.frame := by
  induction kinds generalizing s with
  | nil => rfl
  | cons kind kinds ih =>
    rw [List.foldl_cons, ih]
    exact frame_passed limit s.2 kind

/-- Of each kind with a channel, a pass leaves what it could not post and what it did not reach. -/
theorem pending_foldl_account {kinds : List Kind} (hkinds : kinds.Nodup) (limit : Nat)
    {s : Report × Outside} {kind : Kind} {channel : ChannelId}
    (hchannel : s.2.store.channel? kind = some channel) :
    (kinds.foldl (account limit) s).2.store.shelf.pending kind =
      if kind ∈ kinds then sweep (max limit 1) s.2.publishable (s.2.store.shelf.pending kind)
      else s.2.store.shelf.pending kind := by
  induction kinds generalizing s with
  | nil => rfl
  | cons first kinds ih =>
    obtain ⟨hfirst, hkinds⟩ := List.nodup_cons.mp hkinds
    have hframe : (account limit s first).2.frame = s.2.frame := frame_passed limit s.2 first
    have hchannel' := (channel?_of_frame hframe kind).trans hchannel
    rw [List.foldl_cons, ih hkinds hchannel', publishable_of_frame hframe]
    by_cases heq : kind = first
    · subst heq
      rw [if_neg hfirst, if_pos List.mem_cons_self]
      exact pending_passed hchannel limit
    · have hsame : (account limit s first).2.store.shelf.pending kind =
          s.2.store.shelf.pending kind := pending_passed_of_ne heq limit
      simp only [hsame, List.mem_cons, heq, false_or]

end Dispatch

end ReviewDesk
