import ReviewDesk.Proofs.Dispatch.Conversation
import ReviewDesk.Proofs.Dispatch.Ticks

/-!
What a tick that can fetch does for each kind. The share of a kind is what the tick delivers of it,
and it depends on nothing but what is stored of this kind, its channel and the posts that are refused.
For the kind itself the tick posts the share, claims it and counts it (`Serves`); for the other it
does nothing at all (`Spares`).
-/

set_option autoImplicit false
set_option relaxedAutoImplicit false

namespace ReviewDesk

namespace Item

/-- An item but for the number of the message that it was posted as. -/
def veil (item : Item) : Item :=
  { item with target := item.target.map fun target ↦ ⟨target.channel, 0⟩ }

/-- The item claimed with a message in a channel, but for the number of the message. -/
def claimedIn (channel : Option ChannelId) (item : Item) : Item :=
  { item with target := channel.map fun channel ↦ ⟨channel, 0⟩ }

@[simp] theorem kind_veil (item : Item) : item.veil.kind = item.kind := rfl

theorem veil_veil (item : Item) : item.veil.veil = item.veil := by
  rw [veil, veil, Option.map_map]
  rfl

theorem veil_of_unclaimed {item : Item} (h : item.target = none) : item.veil = item := by
  rw [veil, h, Option.map_none, ← h]

end Item

namespace Outside

/-- What is stored of a kind under an identifier, but for the numbers of messages. -/
def view (o : Outside) (kind : Kind) (id : ItemId) : Option Item :=
  ((o.store.shelf.get? id).map Item.veil).filter (·.kind = kind)

/-- The posts of a kind with their channels, in their order, but for the numbers of messages. -/
def postsOf (o : Outside) (kind : Kind) : List (ChannelId × Post) :=
  (o.platform.posts.filter (·.2.kind = kind)).map fun entry ↦ (entry.1.channel, entry.2)

theorem view_eq_some_iff {o : Outside} {kind : Kind} {id : ItemId} {item : Item} :
    o.view kind id = some item ↔
      ∃ stored ∈ o.store.shelf.items, stored.id = id ∧ stored.kind = kind ∧ stored.veil = item := by
  rw [view, Option.filter_eq_some_iff, Option.map_eq_some_iff]
  constructor
  · rintro ⟨⟨stored, hget, rfl⟩, hkind⟩
    obtain ⟨hmem, hid⟩ := Shelf.get?_eq_some_iff.mp hget
    exact ⟨stored, hmem, hid, of_decide_eq_true hkind, rfl⟩
  · rintro ⟨stored, hmem, rfl, rfl, rfl⟩
    exact ⟨⟨stored, Shelf.get?_of_mem hmem, rfl⟩, by simp [Item.veil]⟩

theorem view_deliver (channel : ChannelId) (o : Outside) (item : Item) (kind : Kind) (id : ItemId) :
    (deliver channel o item).view kind id =
      if id = item.id then (o.view kind id).map (Item.claimedIn (some channel)) else o.view kind id := by
  have hget : (deliver channel o item).store.shelf.get? id =
      (o.store.shelf.get? id).map (Shelf.mark (o.nextTarget channel) item.id) :=
    Shelf.get?_setTarget o.store.shelf item.id id (o.nextTarget channel)
  rw [view, hget, view]
  cases hstored : o.store.shelf.get? id with
  | none => simp
  | some stored =>
    obtain ⟨-, rfl⟩ := Shelf.get?_eq_some_iff.mp hstored
    by_cases hid : stored.id = item.id
    · rw [if_pos hid, ← hid, Option.map_some, Shelf.mark_self]
      by_cases hkind : stored.kind = kind <;>
        simp [Option.filter, Item.veil, Item.claimedIn, nextTarget, hkind]
    · rw [if_neg hid, Option.map_some, Shelf.mark_of_ne hid]

theorem view_deliverAll (channel : ChannelId) (o : Outside) (items : List Item) (kind : Kind)
    (id : ItemId) :
    (deliverAll channel o items).view kind id =
      if id ∈ items.map Item.id then (o.view kind id).map (Item.claimedIn (some channel))
      else o.view kind id := by
  induction items generalizing o with
  | nil => simp [deliverAll]
  | cons item items ih =>
    have htwice : Item.claimedIn (some channel) ∘ Item.claimedIn (some channel) =
        Item.claimedIn (some channel) := rfl
    rw [deliverAll, List.foldl_cons, ← deliverAll, ih, view_deliver, List.map_cons]
    by_cases hid : id = item.id
    · rw [if_pos hid, Option.map_map, htwice, ite_self, if_pos (hid ▸ List.mem_cons_self)]
    · simp only [hid, if_false, List.mem_cons, false_or]

theorem postsOf_deliverAll (channel : ChannelId) (o : Outside) (items : List Item) (kind : Kind) :
    (deliverAll channel o items).postsOf kind =
      o.postsOf kind ++
        (items.filter (·.kind = kind)).map fun item ↦ (channel, Post.ofItem item) := by
  induction items generalizing o with
  | nil => simp [deliverAll]
  | cons item items ih =>
    rw [deliverAll, List.foldl_cons, ← deliverAll, ih]
    have hfirst : (deliver channel o item).postsOf kind =
        o.postsOf kind ++ if item.kind = kind then [(channel, Post.ofItem item)] else [] := by
      rw [postsOf, deliver, List.filter_append, List.map_append, postsOf]
      by_cases hkind : item.kind = kind <;> simp [Post.ofItem, nextTarget, hkind]
    rw [hfirst]
    by_cases hkind : item.kind = kind <;> simp [hkind]

end Outside

namespace Dispatch

open Outside

/-- What a pass delivers of a kind. -/
def share (limit : Nat) (o : Outside) (kind : Kind) : List Item :=
  (batch limit o kind).filter o.publishable

/-- What a pass posts of a kind, and where. -/
def deliveries (limit : Nat) (o : Outside) (kind : Kind) : List (ChannelId × Post) :=
  match o.store.channel? kind with
  | none => []
  | some channel => (share limit o kind).map fun item ↦ (channel, Post.ofItem item)

theorem mem_items_of_mem_batch {limit : Nat} {o : Outside} {kind : Kind} {item : Item}
    (h : item ∈ batch limit o kind) : item ∈ o.store.shelf.items ∧ item.kind = kind := by
  rw [batch] at h
  split at h
  · cases h
  · obtain ⟨hmem, hkind, -⟩ := Shelf.mem_pending.mp (List.mem_of_mem_take h)
    exact ⟨hmem, hkind⟩

theorem mem_items_of_mem_share {limit : Nat} {o : Outside} {kind : Kind} {item : Item}
    (h : item ∈ share limit o kind) : item ∈ o.store.shelf.items ∧ item.kind = kind :=
  mem_items_of_mem_batch (List.mem_filter.mp h).1

theorem share_of_no_channel {limit : Nat} {o : Outside} {kind : Kind}
    (h : o.store.channel? kind = none) : share limit o kind = [] := by
  rw [share, batch, h]
  rfl

/-- The part of a pass that concerns one kind does nothing for another. -/
structure Spares (kind : Kind) (s s' : Report × Outside) : Prop where
  frame : s'.2.frame = s.2.frame
  pending : s'.2.store.shelf.pending kind = s.2.store.shelf.pending kind
  view : ∀ id, s'.2.view kind id = s.2.view kind id
  posts : s'.2.postsOf kind = s.2.postsOf kind
  sent : s'.1.sent.get kind = s.1.sent.get kind

/-- What becomes of a kind that is served. -/
structure Serves (limit : Nat) (kind : Kind) (s s' : Report × Outside) : Prop where
  view : ∀ id, s'.2.view kind id =
    if id ∈ (share limit s.2 kind).map Item.id then
      (s.2.view kind id).map (Item.claimedIn (s.2.store.channel? kind))
    else s.2.view kind id
  posts : s'.2.postsOf kind = s.2.postsOf kind ++ deliveries limit s.2 kind
  sent : s'.1.sent.get kind = s.1.sent.get kind + (share limit s.2 kind).length

theorem Spares.refl (kind : Kind) (s : Report × Outside) : Spares kind s s :=
  ⟨rfl, rfl, fun _ ↦ rfl, rfl, rfl⟩

theorem Spares.channel? {kind : Kind} {s s' : Report × Outside} (h : Spares kind s s') :
    s'.2.store.channel? kind = s.2.store.channel? kind :=
  channel?_of_frame h.frame kind

theorem Spares.share {kind : Kind} {s s' : Report × Outside} (h : Spares kind s s') (limit : Nat) :
    share limit s'.2 kind = share limit s.2 kind := by
  rw [Dispatch.share, Dispatch.share, batch, batch, h.channel?, h.pending,
    publishable_of_frame h.frame]

theorem Spares.deliveries {kind : Kind} {s s' : Report × Outside} (h : Spares kind s s')
    (limit : Nat) : deliveries limit s'.2 kind = deliveries limit s.2 kind := by
  rw [Dispatch.deliveries, Dispatch.deliveries, h.channel?, h.share]

theorem Spares.trans {kind : Kind} {s s' s'' : Report × Outside} (h : Spares kind s s')
    (h' : Spares kind s' s'') : Spares kind s s'' :=
  ⟨h'.frame.trans h.frame, h'.pending.trans h.pending, fun id ↦ (h'.view id).trans (h.view id),
    h'.posts.trans h.posts, h'.sent.trans h.sent⟩

theorem Spares.serves {limit : Nat} {kind : Kind} {s s' s'' : Report × Outside}
    (h : Spares kind s s') (h' : Serves limit kind s' s'') : Serves limit kind s s'' := by
  refine ⟨fun id ↦ ?_, ?_, ?_⟩
  · rw [h'.view, h.share, h.view, h.channel?]
  · rw [h'.posts, h.posts, h.deliveries]
  · rw [h'.sent, h.sent, h.share]

theorem Serves.spares {limit : Nat} {kind : Kind} {s s' s'' : Report × Outside}
    (h : Serves limit kind s s') (h' : Spares kind s' s'') : Serves limit kind s s'' := by
  refine ⟨fun id ↦ ?_, ?_, ?_⟩
  · rw [h'.view, h.view]
  · rw [h'.posts, h.posts]
  · rw [h'.sent, h.sent]

/-! ### The part of a pass that concerns one kind -/

theorem fate_eq_sent_iff {o : Outside} {item : Item} : fate o item = .sent ↔ o.publishable item := by
  unfold fate
  split
  · rename_i hempty
    have hrefused : o.publishable item = false := by
      rcases hempty with hid | hattachment
      · simp [publishable, hid]
      · simp [publishable, hattachment]
    simp [hrefused]
  · split <;> simp [*]

theorem sent_tally (kind other : Kind) (o : Outside) (report : Report) (items : List Item) :
    (tally kind o report items).sent.get other =
      report.sent.get other + if other = kind then (items.filter o.publishable).length else 0 := by
  induction items generalizing report with
  | nil => simp [tally]
  | cons item items ih =>
    rw [tally, List.foldl_cons, ← tally, ih, sent_count]
    by_cases hkind : other = kind
    · by_cases hpublishable : o.publishable item
      · simp [hkind, hpublishable, fate_eq_sent_iff.mpr hpublishable]
        omega
      · have hfate : fate o item ≠ .sent := mt fate_eq_sent_iff.mp hpublishable
        simp [hkind, hpublishable, hfate]
    · simp [hkind, Ne.symm hkind]

theorem passed_eq (limit : Nat) (o : Outside) (kind : Kind) :
    passed limit o kind =
      match o.store.channel? kind with
      | none => o
      | some channel => deliverAll channel o (share limit o kind) := rfl

theorem serves_account (limit : Nat) (s : Report × Outside) (kind : Kind) :
    Serves limit kind s (account limit s kind) := by
  refine ⟨fun id ↦ ?_, ?_, ?_⟩
  · rw [account, passed_eq]
    cases hchannel : s.2.store.channel? kind with
    | none => rw [share_of_no_channel hchannel]; rfl
    | some channel => exact view_deliverAll channel s.2 _ kind id
  · rw [account, passed_eq, deliveries]
    cases hchannel : s.2.store.channel? kind with
    | none => exact (List.append_nil _).symm
    | some channel =>
      have hkinds : (share limit s.2 kind).filter (·.kind = kind) = share limit s.2 kind := by
        rw [List.filter_eq_self]
        intro item hitem
        exact decide_eq_true (mem_items_of_mem_share hitem).2
      dsimp only
      rw [postsOf_deliverAll, hkinds]
  · rw [account, sent_tally, if_pos rfl, share]

theorem spares_account (limit : Nat) (s : Report × Outside) {kind other : Kind}
    (hne : other ≠ kind) : Spares other s (account limit s kind) := by
  have hkinds : ∀ item ∈ share limit s.2 kind, item.kind ≠ other := by
    intro item hitem hother
    exact hne (hother.symm.trans (mem_items_of_mem_share hitem).2)
  refine ⟨frame_passed limit s.2 kind, pending_passed_of_ne hne limit, fun id ↦ ?_, ?_, ?_⟩
  · rw [account, passed_eq]
    cases hchannel : s.2.store.channel? kind with
    | none => rfl
    | some channel =>
      dsimp only
      rw [view_deliverAll]
      split
      · rename_i hmem
        obtain ⟨item, hitem, rfl⟩ := List.mem_map.mp hmem
        have hnone : s.2.view other item.id = none := by
          rw [Option.eq_none_iff_forall_not_mem]
          intro stored hstored
          obtain ⟨held, hheld, hid, hkind, -⟩ := view_eq_some_iff.mp hstored
          have hsame := Shelf.eq_of_id_eq hheld (mem_items_of_mem_share hitem).1 hid
          exact hkinds item hitem (hsame ▸ hkind)
        rw [hnone]
        rfl
      · rfl
  · rw [account, passed_eq]
    cases hchannel : s.2.store.channel? kind with
    | none => rfl
    | some channel =>
      have hnone : (share limit s.2 kind).filter (·.kind = other) = [] := by
        rw [List.filter_eq_nil_iff]
        intro item hitem
        rw [decide_eq_true_iff]
        exact hkinds item hitem
      dsimp only
      rw [postsOf_deliverAll, hnone, List.map_nil, List.append_nil]
  · rw [account, sent_tally, if_neg hne, Nat.add_zero]

/-! ### A whole pass, and a tick -/

theorem spares_foldl_account (limit : Nat) {kinds : List Kind} {kind : Kind} (h : kind ∉ kinds)
    (s : Report × Outside) : Spares kind s (kinds.foldl (account limit) s) := by
  induction kinds generalizing s with
  | nil => exact .refl kind s
  | cons first kinds ih =>
    rw [List.mem_cons, not_or] at h
    exact (spares_account limit s h.1).trans (ih h.2 _)

theorem serves_foldl_account (limit : Nat) {kinds : List Kind} (hkinds : kinds.Nodup) {kind : Kind}
    (h : kind ∈ kinds) (s : Report × Outside) :
    Serves limit kind s (kinds.foldl (account limit) s) := by
  induction kinds generalizing s with
  | nil => cases h
  | cons first kinds ih =>
    obtain ⟨hfirst, hrest⟩ := List.nodup_cons.mp hkinds
    rw [List.foldl_cons]
    rcases List.mem_cons.mp h with rfl | hmem
    · exact (serves_account limit s kind).spares (spares_foldl_account limit hfirst _)
    · have hne : kind ≠ first := by
        rintro rfl
        exact hfirst hmem
      exact (spares_account limit s hne).serves (ih hrest hmem _)

/-- A tick that can fetch serves every kind. -/
theorem exists_serves_tick {d : Desk} (plain : d.outside.Plain)
    (faultless : d.outside.store.fetchFaults = 0) :
    ∃ report, d.dispatchTick.1 = some report ∧ ∀ kind,
      Serves (max d.dispatch.batchLimit 1) kind ({}, d.outside)
        (report, d.dispatchTick.2.outside) := by
  have hrun := run_pass plain faultless d.dispatch.batchLimit
  refine ⟨_, by rw [report_dispatchTick, hrun]; rfl, fun kind ↦ ?_⟩
  rw [outside_dispatchTick, hrun]
  exact serves_foldl_account _ (by decide) (Kind.mem_all kind) _

end Dispatch

end ReviewDesk
