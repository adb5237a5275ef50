import ReviewDesk.Proofs.ActionRef.Reading
import ReviewDesk.Proofs.Dispatch.Conversation

/-!
The buttons of posted reviews. Whoever answers the calls of a pass, what it posts are items that it
has fetched, each under an identifier that is not empty (`ensures_shown_pass`). A press of one of their
buttons is read back as the kind, the action and the stored identifier exactly if that identifier has
no blanks around it (`leadsBack_iff_isTrimmed`); one of nothing but blanks is posted and claimed all
the same, and its buttons lead nowhere (`not_forall_leadsBack`).
-/

set_option autoImplicit false
set_option relaxedAutoImplicit false

namespace ReviewDesk

namespace Post

/-- The reference behind the button for a decision. -/
def button (post : Post) : Action → ActionRef
  | .approve => post.approve
  | .reject => post.reject

theorem button_ofItem (item : Item) (action : Action) :
    (ofItem item).button action = ⟨item.kind, action, item.id⟩ := by
  cases action <;> rfl

/-- The text behind either button is read back as the decision on that very item. -/
def LeadsBack (post : Post) (item : Item) : Prop :=
  ∀ action, ActionRef.read? (post.button action).text = some ⟨item.kind, action, item.id⟩

theorem leadsBack_ofItem_iff {item : Item} (h : item.id.isEmpty = false) :
    (ofItem item).LeadsBack item ↔ item.id.IsTrimmed := by
  simp only [LeadsBack, button_ofItem, ActionRef.read?_text_eq_some_iff, h, true_and]
  exact ⟨fun hall ↦ hall .approve, fun htrimmed _ ↦ htrimmed⟩

end Post

namespace Talk

/-- The items that were fetched, in the order of the fetches. -/
def fetched (talk : List Exchange) : List Item := talk.flatMap Exchange.fetched

/-- Whatever is posted is one of these items, and has an identifier. -/
def Shows (items : List Item) (talk : List Exchange) : Prop :=
  ∀ (channel : ChannelId) (post : Post) (reply : (Call.publish channel post).Reply),
    ⟨.publish channel post, reply⟩ ∈ talk →
      ∃ item ∈ items, item.id.isEmpty = false ∧ post = Post.ofItem item

theorem shows_nil (items : List Item) : Shows items [] := by
  intro channel post reply h
  cases h

/-- An exchange that posts nothing. -/
theorem Shows.cons {items : List Item} {talk : List Exchange} (h : Shows items talk)
    {exchange : Exchange} (hcall : ∀ channel post, exchange.call ≠ .publish channel post) :
    Shows items (exchange :: talk) := by
  intro channel post reply hmem
  rcases List.mem_cons.mp hmem with rfl | hmem
  · exact absurd rfl (hcall channel post)
  · exact h channel post reply hmem

theorem Shows.publish {items : List Item} {talk : List Exchange} (h : Shows items talk)
    {item : Item} (hitem : item ∈ items) (hid : item.id.isEmpty = false) (channel : ChannelId)
    (reply : (Call.publish channel (Post.ofItem item)).Reply) :
    Shows items (⟨.publish channel (Post.ofItem item), reply⟩ :: talk) := by
  intro channel' post reply' hmem
  rcases List.mem_cons.mp hmem with heq | hmem
  · cases heq
    exact ⟨item, hitem, hid, rfl⟩
  · exact h channel' post reply' hmem

theorem Shows.append {items : List Item} {talk more : List Exchange} (h : Shows items talk)
    (hmore : Shows items more) : Shows items (talk ++ more) := by
  intro channel post reply hmem
  exact (List.mem_append.mp hmem).elim (h channel post reply) (hmore channel post reply)

theorem Shows.mono {items more : List Item} {talk : List Exchange} (h : Shows items talk)
    (hsubset : items ⊆ more) : Shows more talk := by
  intro channel post reply hmem
  obtain ⟨item, hitem, hshown⟩ := h channel post reply hmem
  exact ⟨item, hsubset hitem, hshown⟩

end Talk

namespace Dispatch

open Talk Procedure

theorem ensures_shows_offer (channel : ChannelId) (item : Item) :
    Ensures (offer channel item) (Shows [item]) fun talk _ ↦ Shows [item] talk := by
  unfold offer
  split
  · exact ensures_done (shows_nil _) (shows_nil _)
  · rename_i hoffered
    rw [not_or, Bool.not_eq_true, Bool.not_eq_true] at hoffered
    have hposted (reply : (Call.publish channel (Post.ofItem item)).Reply) {talk : List Exchange}
        (htalk : Shows [item] talk) :
        Shows [item] (⟨.publish channel (Post.ofItem item), reply⟩ :: talk) :=
      htalk.publish List.mem_cons_self hoffered.1 channel reply
    apply ensures_ask (shows_nil _)
    rintro (error | target)
    · exact ensures_done (hposted _ (shows_nil _)) (hposted _ (shows_nil _))
    · apply ensures_ask (hposted _ (shows_nil _))
      intro answer
      have hclaimed : Shows [item] [⟨.claim item.kind item.id target, answer⟩] :=
        (shows_nil _).cons fun _ _ ↦ Call.noConfusion
      rcases answer with error | _ | _ <;>
        exact ensures_done (hposted _ hclaimed) (hposted _ hclaimed)

theorem ensures_shows_offerAll (kind : Kind) (channel : ChannelId) (items : List Item)
    (report : Report) :
    Ensures (offerAll kind channel items report) (Shows items) fun talk _ ↦ Shows items talk := by
  induction items generalizing report with
  | nil => exact ensures_done (shows_nil _) (shows_nil _)
  | cons item items ih =>
    have hfirst : [item] ⊆ item :: items := List.cons_subset_cons item (List.nil_subset items)
    have hrest : items ⊆ item :: items := List.subset_cons_self item items
    refine ensures_bind ((ensures_shows_offer channel item).mono
      (fun talk htalk ↦ htalk.mono hfirst) fun talk _ htalk ↦ htalk) fun talk fate htalk ↦ ?_
    exact (ih (report.count kind fate)).mono
      (fun more hmore ↦ (htalk.mono hfirst).append (hmore.mono hrest))
      fun more _ hmore ↦ (htalk.mono hfirst).append (hmore.mono hrest)

/-- Whatever was posted had been fetched. -/
def Shown (talk : List Exchange) : Prop := Shows (fetched talk) talk

theorem Shown.append {talk more : List Exchange} (h : Shown talk) (hmore : Shown more) :
    Shown (talk ++ more) := by
  have hfetched : fetched (talk ++ more) = fetched talk ++ fetched more := List.flatMap_append
  rw [Shown, hfetched]
  exact (h.mono (List.subset_append_left _ _)).append (hmore.mono (List.subset_append_right _ _))

theorem shown_nil : Shown [] := shows_nil _

/-- What is posted after a fetch, of the items that it brought. -/
theorem shown_of_shows {items : List Item} {talk : List Exchange} (h : Shows items talk)
    (kind : Kind) (limit : Nat) (channel : Option ChannelId) :
    Shown (⟨.resolveChannel kind, .ok channel⟩ :: ⟨.fetchPending kind limit, .ok items⟩ :: talk) := by
  have hitems : items ⊆ fetched (⟨.resolveChannel kind, .ok channel⟩ ::
      ⟨.fetchPending kind limit, .ok items⟩ :: talk) := List.subset_append_left items _
  exact ((h.mono hitems).cons fun _ _ ↦ Call.noConfusion).cons fun _ _ ↦ Call.noConfusion

theorem ensures_shown_passKind (limit : Nat) (kind : Kind) (report : Report) :
    Ensures (passKind limit kind report) Shown fun talk _ ↦ Shown talk := by
  apply ensures_ask shown_nil
  intro reply
  have hlookup : Shown [⟨.resolveChannel kind, reply⟩] :=
    (shows_nil _).cons fun _ _ ↦ Call.noConfusion
  rcases reply with error | _ | channel
  · exact ensures_done hlookup hlookup
  · exact ensures_done hlookup hlookup
  · apply ensures_ask hlookup
    rintro (error | items)
    · have hfetch : Shown [⟨.resolveChannel kind, .ok (some channel)⟩,
          ⟨.fetchPending kind limit, .error error⟩] :=
        ((shows_nil _).cons fun _ _ ↦ Call.noConfusion).cons fun _ _ ↦ Call.noConfusion
      exact ensures_done hfetch hfetch
    · refine ensures_bind ((ensures_shows_offerAll kind channel items report).mono
        (fun talk htalk ↦ shown_of_shows htalk kind limit _) fun talk _ htalk ↦ htalk)
        fun talk report' htalk ↦ ?_
      have hshown := shown_of_shows htalk kind limit (some channel)
      rw [← List.append_nil talk] at hshown
      exact ensures_done hshown hshown

theorem ensures_shown_passKinds (limit : Nat) (kinds : List Kind) (report : Report) :
    Ensures (passKinds limit kinds report) Shown fun talk _ ↦ Shown talk := by
  induction kinds generalizing report with
  | nil => exact ensures_done shown_nil shown_nil
  | cons kind kinds ih =>
    refine ensures_bind (ensures_shown_passKind limit kind report) ?_
    rintro talk (failure | report') htalk
    · rw [← List.append_nil talk] at htalk
      exact ensures_done htalk htalk
    · exact (ih report').mono (fun more hmore ↦ htalk.append hmore)
        fun more _ hmore ↦ htalk.append hmore

/-- Whoever answers a pass, all that it posts are items that it has fetched. -/
theorem ensures_shown_pass (limit : Nat) :
    Ensures (pass limit) Shown fun talk _ ↦ Shown talk :=
  ensures_shown_passKinds (max limit 1) Kind.all {}

/-- Whoever answers a pass and whatever happens in between, each of its posts is of an item that it
has fetched, and the buttons of the post lead back to that item exactly if the stored identifier has
no blanks around it. -/
theorem leadsBack_iff_isTrimmed {limit : Nat} {talk : List Exchange}
    {rest : Procedure (Except Failure Report)} (h : Follows (pass limit) talk rest)
    {channel : ChannelId} {post : Post} {reply : (Call.publish channel post).Reply}
    (posted : ⟨.publish channel post, reply⟩ ∈ talk) :
    ∃ item ∈ fetched talk, post = Post.ofItem item ∧ item.id.isEmpty = false ∧
      (post.LeadsBack item ↔ item.id.IsTrimmed) := by
  obtain ⟨item, hitem, hid, rfl⟩ := (ensures_shown_pass limit talk rest h).1 channel post reply posted
  exact ⟨item, hitem, rfl, hid, Post.leadsBack_ofItem_iff hid⟩

/-- A deposit with something to show, under any identifier. -/
def slipUnder (id : ItemId) : Item where
  id := id
  kind := .deposit
  createdAt := ⟨0, 0⟩
  seed := 1
  attachment := { bytes := [1] }

/-- A pass over one deposit, up to its post. -/
def posting (id : ItemId) : List Exchange :=
  [⟨.resolveChannel .deposit, .ok (some ⟨-1⟩)⟩, ⟨.fetchPending .deposit 1, .ok [slipUnder id]⟩,
    ⟨.publish ⟨-1⟩ (Post.ofItem (slipUnder id)), .ok ⟨⟨-1⟩, 1⟩⟩]

theorem leadsBack_iff_isTrimmed_posting :
    ∃ rest, Follows (pass 1) (posting ⟨"d:1 "⟩) rest ∧
      ⟨.publish ⟨-1⟩ (Post.ofItem (slipUnder ⟨"d:1 "⟩)), .ok ⟨⟨-1⟩, 1⟩⟩ ∈ posting ⟨"d:1 "⟩ ∧
      ∃ item ∈ fetched (posting ⟨"d:1 "⟩),
        Post.ofItem (slipUnder ⟨"d:1 "⟩) = Post.ofItem item ∧ item.id.isEmpty = false ∧
          ((Post.ofItem (slipUnder ⟨"d:1 "⟩)).LeadsBack item ↔ item.id.IsTrimmed) := by
  have hfollows : Follows (pass 1) (posting ⟨"d:1 "⟩) _ := .ask _ (.ask _ (.ask _ (.stay _)))
  have hposted : ⟨.publish ⟨-1⟩ (Post.ofItem (slipUnder ⟨"d:1 "⟩)), .ok ⟨⟨-1⟩, 1⟩⟩ ∈
      posting ⟨"d:1 "⟩ :=
    List.mem_cons_of_mem _ (List.mem_cons_of_mem _ List.mem_cons_self)
  exact ⟨_, hfollows, hposted, leadsBack_iff_isTrimmed hfollows hposted⟩

/-- A store with that deposit, and a channel for it. -/
def bearing (id : ItemId) : Outside where
  store :=
    { shelf := Shelf.empty.put (slipUnder id), channels := ⟨some ⟨-1⟩, none⟩,
      noticeChannel := "reviews" }

/-- An identifier of nothing but a blank is posted and claimed all the same. -/
theorem not_forall_leadsBack :
    ¬∀ (o : Outside) (limit : Nat), o.platform.posts = [] →
      ∀ entry ∈ ((pass limit).run o).2.platform.posts, ∀ item,
        ((pass limit).run o).2.store.shelf.get? entry.2.item = some item →
          item.target = some entry.1 → entry.2.LeadsBack item := by
  intro h
  have hposts : ((pass 1).run (bearing ⟨" "⟩)).2.platform.posts.map
      (fun entry ↦ (entry.1, entry.2.item, entry.2.approve)) =
        [(⟨⟨-1⟩, 1⟩, ⟨" "⟩, ⟨.deposit, .approve, ⟨" "⟩⟩)] := by
    decide +kernel
  obtain ⟨entry, hentry, heq⟩ := List.mem_map.mp (hposts ▸ List.mem_cons_self)
  obtain ⟨htarget, hid, hbutton⟩ :
      entry.1 = ⟨⟨-1⟩, 1⟩ ∧ entry.2.item = ⟨" "⟩ ∧ entry.2.approve = ⟨.deposit, .approve, ⟨" "⟩⟩ := by
    simpa using heq
  have hclaimed : (((pass 1).run (bearing ⟨" "⟩)).2.store.shelf.get? ⟨" "⟩).bind Item.target =
      some ⟨⟨-1⟩, 1⟩ := by
    decide +kernel
  obtain ⟨item, hget, hitem⟩ := Option.bind_eq_some_iff.mp hclaimed
  have hback := h (bearing ⟨" "⟩) 1 rfl entry hentry item (by rw [hid, hget])
    (by rw [hitem, htarget]) .approve
  have hlost : ActionRef.read? (ActionRef.text ⟨.deposit, .approve, ⟨" "⟩⟩) = none := by
    decide +kernel
  rw [Post.button, hbutton, hlost] at hback
  cases hback

end Dispatch

end ReviewDesk
