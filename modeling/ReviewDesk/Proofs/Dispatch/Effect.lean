import ReviewDesk.Proofs.Dispatch.Deliveries

/-!
The exact effect of a dispatch pass that nothing comes between, also where it fails. The pass goes
from kind to kind (`Passes`). A kind without a channel is passed over without a fetch. A fetch that
fails stops the pass, which keeps what it did for the kinds before and does nothing for those after.
Otherwise the first few pending items are handled in their order, with the calls that `errands` lists
and the state that `Outside.book` gives (`Visit`). A pass that does not fail has handled every item
that it fetched, and has posted and claimed as many as it says (`Balances`).
-/

set_option autoImplicit false
set_option relaxedAutoImplicit false

namespace ReviewDesk

/-! ### The state that some posts leave -/

/-- An item after some posts: the one that shows it is the one that it is claimed with. -/
def Item.settle (news : List (MessageRef × Post)) (item : Item) : Item :=
  match news.find? (·.2.item = item.id) with
  | some entry => { item with target := some entry.1 }
  | none => item

theorem Item.id_settle (news : List (MessageRef × Post)) (item : Item) :
    (item.settle news).id = item.id := by
  unfold settle
  split <;> rfl

/-- A shelf after some posts. -/
def Shelf.settle (shelf : Shelf) (news : List (MessageRef × Post)) : Shelf where
  items := shelf.items.map (Item.settle news)
  distinct := List.pairwise_map.mpr <| shelf.distinct.imp fun h ↦ by
    rwa [Item.id_settle, Item.id_settle]

/-- An item that was just posted is not posted again later on. -/
theorem Shelf.settle_cons (shelf : Shelf) (target : MessageRef) (item : Item)
    {news : List (MessageRef × Post)} (fresh : ∀ entry ∈ news, entry.2.item ≠ item.id) :
    shelf.settle ((target, Post.ofItem item) :: news) =
      (shelf.setTarget item.id target).settle news := by
  apply Shelf.ext_items
  change shelf.items.map _ = (shelf.items.map (mark target item.id)).map _
  rw [List.map_map]
  refine List.map_congr_left fun stored _ ↦ ?_
  rw [Function.comp_apply]
  by_cases hid : stored.id = item.id
  · have hnone : news.find? (·.2.item = item.id) = none := by
      rw [List.find?_eq_none]
      intro entry hentry
      simpa using fresh entry hentry
    have hfirst : (Post.ofItem item).item = stored.id := hid.symm
    rw [← hid, Shelf.mark_self, Item.settle, List.find?_cons_of_pos (by simpa using hfirst),
      Item.settle]
    dsimp only
    rw [hid, hnone]
  · have hother : (Post.ofItem item).item ≠ stored.id := Ne.symm hid
    rw [Shelf.mark_of_ne hid, Item.settle, List.find?_cons_of_neg (by simpa using hother)]
    rfl

namespace Outside

/-- The posts of some items in a channel, from a message number on. -/
def news (channel : ChannelId) : Nat → List Item → List (MessageRef × Post)
  | _, [] => []
  | next, item :: items => (⟨channel, next⟩, Post.ofItem item) :: news channel (next + 1) items

theorem length_news (channel : ChannelId) (next : Nat) (items : List Item) :
    (news channel next items).length = items.length := by
  induction items generalizing next with
  | nil => rfl
  | cons item items ih => rw [news, List.length_cons, ih, List.length_cons]

theorem exists_mem_of_mem_news {channel : ChannelId} {next : Nat} {items : List Item}
    {entry : MessageRef × Post} (h : entry ∈ news channel next items) :
    ∃ item ∈ items, entry.2 = Post.ofItem item := by
  induction items generalizing next with
  | nil => cases h
  | cons first items ih =>
    rcases List.mem_cons.mp h with rfl | hrest
    · exact ⟨first, List.mem_cons_self, rfl⟩
    · obtain ⟨item, hitem, hpost⟩ := ih hrest
      exact ⟨item, List.mem_cons_of_mem first hitem, hpost⟩

/-- Everything is as before, but for some posts and the claims that go with them. -/
def book (o : Outside) (news : List (MessageRef × Post)) : Outside :=
  { o with
    store :=
      { o.store with
        claimCalls := o.store.claimCalls + news.length
        shelf := o.store.shelf.settle news }
    platform :=
      { o.platform with
        nextMessage := o.platform.nextMessage + news.length
        posts := o.platform.posts ++ news } }

theorem book_nil (o : Outside) : o.book [] = o := by
  have hshelf : o.store.shelf.settle [] = o.store.shelf :=
    Shelf.ext_items (List.map_id _)
  rw [book, hshelf, List.append_nil]
  rfl

theorem book_deliver (channel : ChannelId) (o : Outside) (item : Item)
    {news : List (MessageRef × Post)} (fresh : ∀ entry ∈ news, entry.2.item ≠ item.id) :
    (deliver channel o item).book news =
      o.book ((o.nextTarget channel, Post.ofItem item) :: news) := by
  have hsum (n : Nat) : n + (news.length + 1) = n + 1 + news.length := by omega
  rw [book, book, Shelf.settle_cons _ _ _ fresh, List.length_cons, hsum, hsum, List.append_cons]
  rfl

/-- Delivering items one after the other comes to booking them all at once. -/
theorem deliverAll_eq_book (channel : ChannelId) {items : List Item} (o : Outside)
    (hnodup : (items.map Item.id).Nodup) :
    deliverAll channel o items = o.book (news channel o.platform.nextMessage items) := by
  induction items generalizing o with
  | nil => exact (book_nil o).symm
  | cons item items ih =>
    rw [List.map_cons, List.nodup_cons] at hnodup
    obtain ⟨hnew, hnodup⟩ := hnodup
    have hfresh : ∀ entry ∈ news channel (o.platform.nextMessage + 1) items,
        entry.2.item ≠ item.id := by
      intro entry hentry hid
      obtain ⟨other, hother, hpost⟩ := exists_mem_of_mem_news hentry
      rw [hpost] at hid
      exact hnew (hid ▸ List.mem_map_of_mem hother)
    rw [deliverAll, List.foldl_cons, ← deliverAll, ih _ hnodup]
    exact book_deliver channel o item hfresh

end Outside

namespace Dispatch

open Outside

/-! ### The calls of a pass -/

/-- The calls that some items are handled with, in their order, from a message number on. -/
def errands (channel : ChannelId) (o : Outside) : Nat → List Item → List Call
  | _, [] => []
  | next, item :: items => match fate o item with
    | .skipped => errands channel o next items
    | .failed => .publish channel (Post.ofItem item) :: errands channel o next items
    | .sent | .duplicate =>
      .publish channel (Post.ofItem item) :: .claim item.kind item.id ⟨channel, next⟩ ::
        errands channel o (next + 1) items

theorem errands_of_frame {o o' : Outside} (h : o'.frame = o.frame) (channel : ChannelId)
    (next : Nat) (items : List Item) :
    errands channel o' next items = errands channel o next items := by
  induction items generalizing next with
  | nil => rfl
  | cons item items ih => simp only [errands, fate_of_frame h, ih]

theorem fate_cases (o : Outside) (item : Item) :
    (o.publishable item = true ∧ fate o item = .sent) ∨
      (o.publishable item = false ∧ (fate o item = .skipped ∨ fate o item = .failed)) := by
  by_cases hempty : item.id.isEmpty ∨ item.attachment.isEmpty
  · have hrefused : o.publishable item = false := by
      rcases hempty with hid | hattachment
      · simp [publishable, hid]
      · simp [publishable, hattachment]
    exact Or.inr ⟨hrefused, Or.inl (if_pos hempty)⟩
  · cases hpublishable : o.publishable item <;> simp [fate, hempty, hpublishable]

/-- An item that is posted uses up a message number. -/
theorem errands_cons (channel : ChannelId) (o : Outside) (next : Nat) (item : Item)
    (items : List Item) :
    errands channel o next (item :: items) =
      errands channel o next [item] ++
        errands channel o (if o.publishable item then next + 1 else next) items := by
  rcases fate_cases o item with ⟨hpublishable, hfate⟩ | ⟨hrefused, hfate | hfate⟩
  · simp [errands, hpublishable, hfate]
  · simp [errands, hrefused, hfate]
  · simp [errands, hrefused, hfate]

namespace Report

/-- A report after so many more items of a kind have met their fates. -/
def add (report : Report) (kind : Kind) (fates : List Fate) : Report where
  sent := report.sent.modify kind (· + fates.count .sent)
  duplicates := report.duplicates + fates.count .duplicate
  skipped := report.skipped + fates.count .skipped
  failed := report.failed + fates.count .failed

theorem add_cons (report : Report) (kind : Kind) (first : Fate) (fates : List Fate) :
    report.add kind (first :: fates) = (report.count kind first).add kind fates := by
  cases first <;> cases kind <;>
    simp [add, count, PerKind.modify, PerKind.set, PerKind.get, Nat.add_assoc, Nat.add_comm 1]

end Report

theorem tally_eq_add (kind : Kind) (o : Outside) (report : Report) (items : List Item) :
    tally kind o report items = report.add kind (items.map (fate o)) := by
  induction items generalizing report with
  | nil => cases kind <;> rfl
  | cons item items ih =>
    rw [tally, List.foldl_cons, ← tally, ih, List.map_cons, Report.add_cons]

section Alone

variable {o : Outside} (plain : o.Plain)
include plain

theorem calls_offer (channel : ChannelId) (item : Item) :
    (offer channel item).calls o = errands channel o o.platform.nextMessage [item] := by
  by_cases hempty : item.id.isEmpty ∨ item.attachment.isEmpty
  · have hfate : fate o item = .skipped := if_pos hempty
    rw [offer, if_pos hempty, errands, hfate]
    rfl
  · rw [offer, if_neg hempty, Procedure.calls, answer_publish plain, Platform.publish, errands,
      fate, if_neg hempty, publishable]
    rw [not_or, Bool.not_eq_true, Bool.not_eq_true] at hempty
    have hpost : (Post.ofItem item).item = item.id := rfl
    rw [hempty.1, hempty.2, hpost]
    cases hfault : o.platform.postFaults.find? (·.1 = item.id) with
    | some fault => rfl
    | none =>
      dsimp only
      rw [Procedure.calls, answer_claim (plain.with_platform _)]
      dsimp only
      cases (Store.claim _ _ _ _).1 <;> rfl

theorem calls_offerAll (kind : Kind) (channel : ChannelId) {items : List Item}
    (hopen : ∀ item ∈ items, o.store.IsOpen item.kind item.id)
    (hnodup : (items.map Item.id).Nodup) (report : Report) :
    (offerAll kind channel items report).calls o =
      errands channel o o.platform.nextMessage items := by
  induction items generalizing o report with
  | nil => rfl
  | cons item items ih =>
    rw [List.map_cons, List.nodup_cons] at hnodup
    obtain ⟨hnew, hnodup⟩ := hnodup
    have hrest : ∀ other ∈ items, o.store.IsOpen other.kind other.id :=
      fun other hother ↦ hopen other (List.mem_cons_of_mem item hother)
    have hcalls : (offerAll kind channel (item :: items) report).calls o =
        (offer channel item).calls o ++
          (offerAll kind channel items (report.count kind ((offer channel item).run o).1)).calls
            ((offer channel item).run o).2 :=
      Procedure.calls_bind (offer channel item) _ o
    rw [hcalls, calls_offer plain, errands_cons channel o _ item items]
    congr 1
    by_cases hpublishable : o.publishable item
    · have hframe := frame_deliver channel o item
      have hstill : ∀ other ∈ items, (deliver channel o item).store.IsOpen other.kind other.id := by
        intro other hother
        refine isOpen_deliver (hrest other hother) channel fun hid ↦ hnew ?_
        exact hid ▸ List.mem_map_of_mem hother
      rw [run_offer_of_publishable plain hpublishable (hopen item List.mem_cons_self),
        if_pos hpublishable, ih (plain_of_frame hframe plain) hstill hnodup,
        errands_of_frame hframe]
      rfl
    · have hrefused : o.publishable item = false := by
        rwa [Bool.not_eq_true] at hpublishable
      rw [run_offer_of_not_publishable plain hrefused, if_neg hpublishable,
        ih plain hrest hnodup]

end Alone

/-! ### One kind of a pass -/

/-- What a pass does for one kind: the calls, what comes of it, and the state that it leaves. -/
inductive Visit (limit : Nat) (kind : Kind) (report : Report) (o : Outside) :
    List Call → Except Failure Report → Outside → Prop where
  /-- A kind without a channel is passed over. -/
  | unconfigured (channel : o.store.channel? kind = none) :
      Visit limit kind report o [.resolveChannel kind] (.ok report) o
  /-- A fetch fails, and nothing else is done. -/
  | broken {channel : ChannelId} (configured : o.store.channel? kind = some channel)
      (fault : 0 < o.store.fetchFaults) :
      Visit limit kind report o [.resolveChannel kind, .fetchPending kind (max limit 1)]
        (.error (.store (.connection "injected fetch failure")))
        { o with store := o.store.spendFault }
  /-- The first few of the pending items are handled in the order in which they are served. -/
  | served {channel : ChannelId} {queue items : List Item}
      (configured : o.store.channel? kind = some channel) (faultless : o.store.fetchFaults = 0)
      (pending : queue.Perm
        (o.store.shelf.items.filter fun item ↦ item.kind = kind && !item.isClaimed))
      (ordered : queue.Pairwise fun a b ↦ a.precedes b)
      (fetched : items = queue.take (max limit 1)) :
      Visit limit kind report o
        (.resolveChannel kind :: .fetchPending kind (max limit 1) ::
          errands channel o o.platform.nextMessage items)
        (.ok (report.add kind (items.map (fate o))))
        (o.book (news channel o.platform.nextMessage (items.filter o.publishable)))

theorem batch_of_some {o : Outside} {kind : Kind} {channel : ChannelId}
    (hchannel : o.store.channel? kind = some channel) (limit : Nat) :
    batch limit o kind = (o.store.shelf.pending kind).take (max limit 1) := by
  rw [batch, hchannel]

/-- The state that a pass leaves of a kind with a channel. -/
theorem passed_eq_book {o : Outside} {kind : Kind} {channel : ChannelId}
    (hchannel : o.store.channel? kind = some channel) (limit : Nat) :
    passed limit o kind =
      o.book (news channel o.platform.nextMessage ((batch limit o kind).filter o.publishable)) := by
  have hnodup : ((batch limit o kind).map Item.id).Nodup := by
    rw [batch_of_some hchannel]
    exact (o.store.shelf.nodup_map_id_pending kind).sublist ((List.take_sublist _ _).map _)
  rw [passed, hchannel]
  exact deliverAll_eq_book channel o (hnodup.sublist (List.filter_sublist.map Item.id))

section Alone

variable {o : Outside} (plain : o.Plain)
include plain

/-- The calls for a kind whose items can be fetched. -/
theorem calls_passKind (faultless : o.store.fetchFaults = 0) (limit : Nat) {kind : Kind}
    {channel : ChannelId} (hchannel : o.store.channel? kind = some channel) (report : Report) :
    (passKind limit kind report).calls o =
      .resolveChannel kind :: .fetchPending kind limit ::
        errands channel o o.platform.nextMessage (batch limit o kind) := by
  have hfetch := Store.fetch_of_no_fault kind limit faultless
  have hitems : (o.store.fetch kind limit).1 =
      .ok ((o.store.shelf.pending kind).take (max limit 1)) := by rw [hfetch]
  obtain ⟨hopen, hnodup⟩ := Store.fetch_ok hitems
  have hoffers := calls_offerAll plain kind channel
    (fun item hitem ↦ ⟨item, (hopen item hitem).1, rfl, (hopen item hitem).2.2⟩) hnodup report
  rw [passKind, Procedure.calls, answer_resolveChannel plain, hchannel]
  simp only [Procedure.calls]
  rw [answer_fetchPending plain, hfetch, batch_of_some hchannel, ← hoffers]
  refine congrArg (Call.resolveChannel kind :: Call.fetchPending kind limit :: ·) ?_
  exact (Procedure.calls_bind (offerAll kind channel _ report) _ o).trans (List.append_nil _)

theorem visit_passKind (limit : Nat) (kind : Kind) (report : Report) :
    Visit limit kind report o ((passKind (max limit 1) kind report).calls o)
      ((passKind (max limit 1) kind report).run o).1
      ((passKind (max limit 1) kind report).run o).2 := by
  cases hchannel : o.store.channel? kind with
  | none =>
    have hrun : (passKind (max limit 1) kind report).run o = (.ok report, o) := by
      rw [passKind, Procedure.run, answer_resolveChannel plain, hchannel]
      rfl
    have hcalls : (passKind (max limit 1) kind report).calls o = [.resolveChannel kind] := by
      rw [passKind, Procedure.calls, answer_resolveChannel plain, hchannel]
      rfl
    rw [hrun, hcalls]
    exact .unconfigured hchannel
  | some channel =>
    by_cases hfault : 0 < o.store.fetchFaults
    · have hcalls : (passKind (max limit 1) kind report).calls o =
          [.resolveChannel kind, .fetchPending kind (max limit 1)] := by
        rw [passKind, Procedure.calls, answer_resolveChannel plain, hchannel]
        simp only [Procedure.calls]
        rw [answer_fetchPending plain, Store.fetch_of_fault kind _ hfault]
        rfl
      rw [run_passKind_of_fault plain hfault _ hchannel, hcalls]
      exact .broken hchannel hfault
    · have hfaultless : o.store.fetchFaults = 0 := Nat.eq_zero_of_not_pos hfault
      have hbatch : batch (max limit 1) o kind =
          (o.store.shelf.pending kind).take (max limit 1) := by
        rw [batch_of_some hchannel, Nat.max_eq_left (Nat.le_max_right limit 1)]
      rw [run_passKind plain hfaultless, calls_passKind plain hfaultless _ hchannel, tally_eq_add,
        passed_eq_book hchannel]
      exact .served hchannel hfaultless (o.store.shelf.pending_perm kind)
        (o.store.shelf.pairwise_precedes_pending kind) hbatch

end Alone

/-! ### A whole pass -/

/-- What a pass does for some kinds, one after the other. -/
inductive Passes (limit : Nat) : List Kind → Report → Outside → List Call →
    Except Failure Report → Outside → Prop where
  | done (report : Report) (o : Outside) : Passes limit [] report o [] (.ok report) o
  /-- What was done for the kinds before is kept, and nothing is done for those after. -/
  | stopped {kind : Kind} {kinds : List Kind} {report : Report} {o o' : Outside}
      {calls : List Call} {failure : Failure}
      (visit : Visit limit kind report o calls (.error failure) o') :
      Passes limit (kind :: kinds) report o calls (.error failure) o'
  | visited {kind : Kind} {kinds : List Kind} {report report' : Report} {o o' o'' : Outside}
      {calls more : List Call} {result : Except Failure Report}
      (visit : Visit limit kind report o calls (.ok report') o')
      (rest : Passes limit kinds report' o' more result o'') :
      Passes limit (kind :: kinds) report o (calls ++ more) result o''

theorem Visit.plain {limit : Nat} {kind : Kind} {report : Report} {o o' : Outside}
    {calls : List Call} {result : Except Failure Report}
    (h : Visit limit kind report o calls result o') (plain : o.Plain) : o'.Plain := by
  cases h <;> exact ⟨plain.outages, plain.rivals⟩

theorem passes_passKinds {o : Outside} (plain : o.Plain) (limit : Nat) (kinds : List Kind)
    (report : Report) :
    Passes limit kinds report o ((passKinds (max limit 1) kinds report).calls o)
      ((passKinds (max limit 1) kinds report).run o).1
      ((passKinds (max limit 1) kinds report).run o).2 := by
  induction kinds generalizing o report with
  | nil => exact .done report o
  | cons kind kinds ih =>
    have hvisit := visit_passKind plain limit kind report
    have hplain := hvisit.plain plain
    have hrun : (passKinds (max limit 1) (kind :: kinds) report).run o = _ :=
      Procedure.run_bind (passKind (max limit 1) kind report) _ o
    have hcalls : (passKinds (max limit 1) (kind :: kinds) report).calls o = _ :=
      Procedure.calls_bind (passKind (max limit 1) kind report) _ o
    rw [hrun, hcalls]
    cases hresult : ((passKind (max limit 1) kind report).run o).1 with
    | error failure =>
      rw [hresult] at hvisit
      change Passes limit _ report o (_ ++ []) _ _
      rw [List.append_nil]
      exact .stopped hvisit
    | ok report' =>
      rw [hresult] at hvisit
      exact .visited hvisit (ih hplain report')

/-! ### What adds up -/

namespace Report

/-- How many items were posted and claimed. -/
def sentAll (report : Report) : Nat := report.sent.deposit + report.sent.kyc

/-- How many items were handled, but for those that were claimed by somebody else. -/
def handled (report : Report) : Nat := report.sentAll + report.skipped + report.failed

theorem sentAll_add (report : Report) (kind : Kind) (fates : List Fate) :
    (report.add kind fates).sentAll = report.sentAll + fates.count .sent := by
  cases kind <;> simp only [sentAll, add, PerKind.modify, PerKind.set, PerKind.get] <;> omega

end Report

/-- The items that are posted are those that can be, and none is found claimed. -/
theorem count_fates (o : Outside) (items : List Item) :
    (items.map (fate o)).count .sent = (items.filter o.publishable).length ∧
      (items.map (fate o)).count .sent + (items.map (fate o)).count .skipped +
        (items.map (fate o)).count .failed = items.length ∧
      (items.map (fate o)).count .duplicate = 0 := by
  induction items with
  | nil => exact ⟨rfl, rfl, rfl⟩
  | cons item items ih =>
    obtain ⟨hsent, hall, hnone⟩ := ih
    rcases fate_cases o item with ⟨hpublishable, hfate⟩ | ⟨hrefused, hfate | hfate⟩
    · simp [hpublishable, hfate, hsent, hnone]
      omega
    · simp [hrefused, hfate, hsent, hnone]
      omega
    · simp [hrefused, hfate, hsent, hnone]
      omega

/-- From one moment of a pass to another, so many items have been fetched and handled. -/
structure Adds (s s' : Report × Outside) (fetched : Nat) : Prop where
  handled : s'.1.handled = s.1.handled + fetched
  duplicates : s'.1.duplicates = s.1.duplicates
  posts : s'.2.platform.posts.length + s.1.sentAll = s.2.platform.posts.length + s'.1.sentAll
  nextMessage : s'.2.platform.nextMessage + s.1.sentAll = s.2.platform.nextMessage + s'.1.sentAll
  claimCalls : s'.2.store.claimCalls + s.1.sentAll = s.2.store.claimCalls + s'.1.sentAll
  frame : s'.2.frame = s.2.frame

theorem Adds.refl (s : Report × Outside) : Adds s s 0 := ⟨rfl, rfl, rfl, rfl, rfl, rfl⟩

theorem Adds.trans {s s' s'' : Report × Outside} {fetched more : Nat} (h : Adds s s' fetched)
    (h' : Adds s' s'' more) : Adds s s'' (fetched + more) := by
  have hhandled := h.handled
  have hposts := h.posts
  have hnext := h.nextMessage
  have hclaims := h.claimCalls
  have hhandled' := h'.handled
  have hposts' := h'.posts
  have hnext' := h'.nextMessage
  have hclaims' := h'.claimCalls
  exact ⟨by omega, h'.duplicates.trans h.duplicates, by omega, by omega, by omega,
    h'.frame.trans h.frame⟩

/-- A kind that could be looked through adds up, and the other kind is left alone. -/
theorem Visit.adds {limit : Nat} {kind : Kind} {report report' : Report} {o o' : Outside}
    {calls : List Call} (h : Visit limit kind report o calls (.ok report') o') :
    Adds (report, o) (report', o') (batch limit o kind).length ∧
      ∀ other ≠ kind, batch limit o' other = batch limit o other := by
  cases h with
  | unconfigured hchannel =>
    rw [batch, hchannel]
    exact ⟨.refl _, fun _ _ ↦ rfl⟩
  | @served channel queue items hchannel _ pending ordered fetched =>
    have hbatch : batch limit o kind = items := by
      rw [batch_of_some hchannel, fetched, Shelf.eq_pending pending ordered]
    have hbook := passed_eq_book hchannel limit
    rw [hbatch] at hbook ⊢
    have hframe := frame_passed limit o kind
    have hpending {other : Kind} (hne : other ≠ kind) := pending_passed_of_ne (o := o) hne limit
    rw [hbook] at hframe hpending
    obtain ⟨hsent, hall, hnone⟩ := count_fates o items
    have hlength := length_news channel o.platform.nextMessage (items.filter o.publishable)
    have hsentAll := report.sentAll_add kind (items.map (fate o))
    generalize news channel o.platform.nextMessage (items.filter o.publishable) = posted at *
    have hposts : (o.book posted).platform.posts.length =
        o.platform.posts.length + posted.length := List.length_append
    have hnext : (o.book posted).platform.nextMessage =
        o.platform.nextMessage + posted.length := rfl
    have hclaims : (o.book posted).store.claimCalls =
        o.store.claimCalls + posted.length := rfl
    have hskipped : (report.add kind (items.map (fate o))).skipped =
        report.skipped + (items.map (fate o)).count .skipped := rfl
    have hfailed : (report.add kind (items.map (fate o))).failed =
        report.failed + (items.map (fate o)).count .failed := rfl
    refine ⟨⟨?_, congrArg (report.duplicates + ·) hnone, ?_, ?_, ?_, hframe⟩, fun other hne ↦ ?_⟩
    · simp only [Report.handled]
      omega
    · dsimp only
      omega
    · dsimp only
      omega
    · dsimp only
      omega
    · rw [batch, channel?_of_frame hframe, hpending hne, batch]

/-- How many items a pass fetches for some kinds. -/
def fetchedAll (limit : Nat) (o : Outside) : List Kind → Nat
  | [] => 0
  | kind :: kinds => (batch limit o kind).length + fetchedAll limit o kinds

theorem fetchedAll_congr {limit : Nat} {o o' : Outside} {kinds : List Kind}
    (h : ∀ kind ∈ kinds, batch limit o' kind = batch limit o kind) :
    fetchedAll limit o' kinds = fetchedAll limit o kinds := by
  induction kinds with
  | nil => rfl
  | cons kind kinds ih =>
    obtain ⟨hkind, hkinds⟩ := List.forall_mem_cons.mp h
    rw [fetchedAll, fetchedAll, hkind, ih hkinds]

theorem Passes.adds {limit : Nat} {kinds : List Kind} {report report' : Report} {o o' : Outside}
    {calls : List Call} (h : Passes limit kinds report o calls (.ok report') o')
    (hnodup : kinds.Nodup) :
    Adds (report, o) (report', o') (fetchedAll limit o kinds) := by
  generalize hresult : Except.ok report' = result at h
  induction h with
  | done report o =>
    obtain rfl := Except.ok.inj hresult
    exact .refl _
  | stopped visit => cases hresult
  | @visited kind kinds report middle o o₁ o₂ calls more result visit rest ih =>
    obtain ⟨hnew, hnodup⟩ := List.nodup_cons.mp hnodup
    obtain ⟨hadds, hothers⟩ := visit.adds
    have hrest := ih hnodup hresult
    have hfetched : fetchedAll limit o₁ kinds = fetchedAll limit o kinds :=
      fetchedAll_congr fun other hother ↦ hothers other (ne_of_mem_of_not_mem hother hnew)
    rw [hfetched] at hrest
    exact hadds.trans hrest

/-- What a pass says when it does not fail agrees with what it did. -/
structure Balances (limit : Nat) (o : Outside) (report : Report) (o' : Outside) : Prop where
  items : report.sent.deposit + report.sent.kyc + report.skipped + report.failed =
    (batch limit o .deposit).length + (batch limit o .kyc).length
  duplicates : report.duplicates = 0
  posts : o'.platform.posts.length =
    o.platform.posts.length + (report.sent.deposit + report.sent.kyc)
  nextMessage : o'.platform.nextMessage =
    o.platform.nextMessage + (report.sent.deposit + report.sent.kyc)
  claimCalls : o'.store.claimCalls =
    o.store.claimCalls + (report.sent.deposit + report.sent.kyc)
  frame : o'.frame = o.frame

/-- What a pass does that nothing comes between, whatever fails: so much and no more. -/
theorem passes_pass {o : Outside} (plain : o.Plain) (limit : Nat) :
    Passes limit Kind.all {} o ((pass limit).calls o) ((pass limit).run o).1
        ((pass limit).run o).2 ∧
      ∀ report, ((pass limit).run o).1 = .ok report →
        Balances limit o report ((pass limit).run o).2 := by
  have hpasses := passes_passKinds plain limit Kind.all {}
  refine ⟨hpasses, fun report hreport ↦ ?_⟩
  have hresult : ((passKinds (max limit 1) Kind.all {}).run o).1 = .ok report := hreport
  rw [hresult] at hpasses
  obtain ⟨hhandled, hduplicates, hposts, hnext, hclaims, hframe⟩ := hpasses.adds (by decide)
  exact ⟨hhandled.trans (Nat.zero_add _), hduplicates, hposts, hnext, hclaims, hframe⟩

/-- A receipt, with or without anything to show. -/
def bill (id : String) (bytes : List UInt8) : Item where
  id := ⟨id⟩
  kind := .deposit
  createdAt := ⟨0, 0⟩
  seed := 1
  attachment := { bytes := bytes }

/-- Three receipts, of which one shows nothing and one is refused. -/
def counter : Outside where
  store :=
    { noticeChannel := "reviews"
      channels := ⟨some ⟨-1⟩, none⟩
      shelf := ((Shelf.empty.put (bill "a" [])).put (bill "b" [1])).put (bill "c" [1]) }
  platform := { postFaults := [(⟨"b"⟩, "down")] }

theorem batch_counter : batch (max 3 1) counter .deposit =
    [bill "a" [], bill "b" [1], bill "c" [1]] := by
  have hpending : [bill "a" [], bill "b" [1], bill "c" [1]] =
      counter.store.shelf.pending .deposit := Shelf.eq_pending (.refl _) (by decide)
  have hchannel : counter.store.channel? .deposit = some ⟨-1⟩ := rfl
  rw [batch_of_some hchannel, ← hpending]
  rfl

theorem passes_pass_counter :
    let report : Report := { sent := ⟨1, 0⟩, skipped := 1, failed := 1 }
    counter.Plain ∧ ((pass 3).run counter).1 = .ok report ∧
      Passes 3 Kind.all {} counter ((pass 3).calls counter) ((pass 3).run counter).1
        ((pass 3).run counter).2 ∧
      Balances 3 counter report ((pass 3).run counter).2 := by
  have hplain : counter.Plain := ⟨rfl, rfl⟩
  have hresult : ((pass 3).run counter).1 =
      .ok { sent := ⟨1, 0⟩, skipped := 1, failed := 1 } := by
    have hkyc : batch (max 3 1) (passed (max 3 1) counter .deposit) .kyc = [] := by
      rw [batch, channel?_of_frame (frame_passed _ _ _)]
      rfl
    rw [run_pass hplain rfl, Kind.all, List.foldl_cons, List.foldl_cons, List.foldl_nil, account,
      account, hkyc, batch_counter]
    rfl
  obtain ⟨hpasses, hbalances⟩ := passes_pass hplain 3
  exact ⟨hplain, hresult, hpasses, hbalances _ hresult⟩

end Dispatch

end ReviewDesk
