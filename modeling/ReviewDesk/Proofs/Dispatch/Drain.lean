import ReviewDesk.Proofs.Dispatch.Backlog
import ReviewDesk.Proofs.Dispatch.Shares

/-!
How fast passes that are made one after the other work a queue off, and in which order. What a batch
takes with it is the first of what can go, so that what has gone after any number of batches is an
initial part of all that can go (`taken_append_filter_swept`) and nothing overtakes. An item with
`j` stuck ones and `q` others before it goes with batch number `q / (limit - j) + 1` at the latest,
and never if the stuck ones fill the batch (`mem_taken_of_lt`, `not_mem_taken`). Said of passes over
a store, this is `drained_passes`.
-/

set_option autoImplicit false
set_option relaxedAutoImplicit false

namespace ReviewDesk.Dispatch

/-! ### What goes, batch after batch -/

section Taken

variable {limit : Nat} {goes : Item → Bool} {before after queue : List Item} {item : Item}

/-- What goes with so many batches, in the order in which it goes. -/
def taken (limit : Nat) (goes : Item → Bool) : Nat → List Item → List Item
  | 0, _ => []
  | n + 1, queue => (queue.take limit).filter goes ++ taken limit goes n (sweep limit goes queue)

/-- What has gone, and after it what can still go, is all that can go in its order. -/
theorem taken_append_filter_swept (limit : Nat) (goes : Item → Bool) (n : Nat)
    (queue : List Item) :
    taken limit goes n queue ++ (swept limit goes n queue).filter goes = queue.filter goes := by
  induction n generalizing queue with
  | zero => rfl
  | succ n ih =>
    have hgone : ((queue.take limit).filter fun item ↦ !goes item).filter goes = [] := by
      rw [List.filter_filter, List.filter_eq_nil_iff]
      simp
    calc taken limit goes (n + 1) queue ++ (swept limit goes (n + 1) queue).filter goes
      _ = (queue.take limit).filter goes ++ (sweep limit goes queue).filter goes := by
        rw [taken, swept, List.append_assoc, ih]
      _ = (queue.take limit).filter goes ++ (queue.drop limit).filter goes := by
        rw [sweep, List.filter_append, hgone, List.nil_append]
      _ = queue.filter goes := by rw [← List.filter_append, List.take_append_drop]

theorem taken_prefix_filter (limit : Nat) (goes : Item → Bool) (n : Nat) (queue : List Item) :
    taken limit goes n queue <+: queue.filter goes :=
  ⟨_, taken_append_filter_swept limit goes n queue⟩

theorem pairwise_taken (limit : Nat) (goes : Item → Bool) (n : Nat)
    (hsorted : queue.Pairwise Item.Before) : (taken limit goes n queue).Pairwise Item.Before :=
  (hsorted.filter goes).sublist (taken_prefix_filter limit goes n queue).sublist

/-- Whatever can go and is before something that has gone has gone as well. -/
theorem mem_taken_of_before (hsorted : queue.Pairwise Item.Before) {n : Nat} {other : Item}
    (htaken : item ∈ taken limit goes n queue) (hother : other ∈ queue) (hgoes : goes other)
    (hbefore : other.Before item) : other ∈ taken limit goes n queue := by
  have hmem : other ∈ queue.filter goes := List.mem_filter.mpr ⟨hother, hgoes⟩
  have hfiltered := hsorted.filter goes
  rw [← taken_append_filter_swept limit goes n queue] at hmem hfiltered
  refine (List.mem_append.mp hmem).resolve_right fun hlate ↦ ?_
  exact hbefore.asymm ((List.pairwise_append.mp hfiltered).2.2 item htaken other hlate)

theorem taken_append_swept_perm (limit : Nat) (goes : Item → Bool) (n : Nat) (queue : List Item) :
    (taken limit goes n queue ++ swept limit goes n queue).Perm queue := by
  induction n generalizing queue with
  | zero => exact .refl queue
  | succ n ih =>
    have hbatch : ((queue.take limit).filter goes ++ sweep limit goes queue).Perm queue := by
      have htake :=
        (List.filter_append_perm goes (queue.take limit)).append_right (queue.drop limit)
      rwa [List.take_append_drop, List.append_assoc, ← sweep] at htake
    rw [taken, swept, List.append_assoc]
    exact ((ih (sweep limit goes queue)).append_left _).trans hbatch

/-- An item has gone exactly if it is no longer there. -/
theorem mem_taken_iff (hnodup : queue.Nodup) (hmem : item ∈ queue) (n : Nat) :
    item ∈ taken limit goes n queue ↔ item ∉ swept limit goes n queue := by
  have hperm := taken_append_swept_perm limit goes n queue
  have hdisjoint := (List.nodup_append.mp (hperm.nodup_iff.mpr hnodup)).2.2
  constructor
  · exact fun htaken hswept ↦ hdisjoint item htaken item hswept rfl
  · exact (List.mem_append.mp (hperm.mem_iff.mpr hmem)).resolve_right

/-- An item with `j` stuck ones and `q` others before it goes with batch `q / (limit - j) + 1` at
the latest. -/
theorem mem_taken_of_lt (hnodup : (before ++ item :: after).Nodup) (hgoes : goes item) {n : Nat}
    (hroom : (before.countP fun item ↦ !goes item) < limit)
    (hturn : before.countP goes / (limit - before.countP fun item ↦ !goes item) < n) :
    item ∈ taken limit goes n (before ++ item :: after) := by
  obtain ⟨m, rfl⟩ := Nat.exists_eq_add_one_of_ne_zero (Nat.ne_zero_of_lt hturn)
  rw [mem_taken_iff hnodup (List.mem_append_right before List.mem_cons_self)]
  refine not_mem_swept hnodup hgoes ?_
  exact (Nat.div_lt_iff_lt_mul (Nat.sub_pos_of_lt hroom)).mp hturn

theorem not_mem_taken (hnodup : (before ++ item :: after).Nodup)
    (hstuck : limit ≤ before.countP fun item ↦ !goes item) (n : Nat) :
    item ∉ taken limit goes n (before ++ item :: after) := by
  rw [mem_taken_iff hnodup (List.mem_append_right before List.mem_cons_self), not_not]
  exact mem_swept hstuck n

end Taken

/-! ### What passes post -/

open Outside

section Passes

variable {o : Outside} (plain : o.Plain) (faultless : o.store.fetchFaults = 0) {kind : Kind}
  {channel : ChannelId} (hchannel : o.store.channel? kind = some channel)
include plain faultless hchannel

theorem postsOf_run_pass (limit : Nat) :
    ((pass limit).run o).2.postsOf kind = o.postsOf kind ++
      ((o.store.shelf.pending kind).take (max limit 1) |>.filter o.publishable).map
        fun item ↦ (channel, Post.ofItem item) := by
  have hserves := serves_foldl_account (max limit 1) (by decide : Kind.all.Nodup)
    (Kind.mem_all kind) ({}, o)
  rw [run_pass plain faultless, hserves.posts, deliveries, hchannel]
  simp only [share, batch, hchannel, Nat.max_assoc, Nat.max_self]

/-- The posts of a kind that passes make are those of the items that they take, in this order. -/
theorem postsOf_passes (limit n : Nat) :
    (passes limit n o).postsOf kind = o.postsOf kind ++
      (taken (max limit 1) o.publishable n (o.store.shelf.pending kind)).map
        fun item ↦ (channel, Post.ofItem item) := by
  induction n generalizing o with
  | zero => exact (List.append_nil _).symm
  | succ n ih =>
    have hframe := frame_run_pass plain faultless limit
    rw [passes, ih (plain_of_frame hframe plain) ((fetchFaults_of_frame hframe).trans faultless)
      ((channel?_of_frame hframe kind).trans hchannel), postsOf_run_pass plain faultless hchannel,
      pending_run_pass plain faultless hchannel, publishable_of_frame hframe, taken,
      List.map_append, List.append_assoc]

/-- What so many passes in a row do for the pending items of a kind. -/
structure Drained (limit : Nat) (kind : Kind) (channel : ChannelId) (o : Outside) (n : Nat)
    (served : List Item) : Prop where
  posts : (passes limit n o).postsOf kind =
    o.postsOf kind ++ served.map fun item ↦ (channel, Post.ofItem item)
  claimed : ∀ item ∈ o.store.shelf.pending kind,
    ((passes limit n o).store.shelf.target? item.id).isSome ↔ item ∈ served
  publishable : ∀ item ∈ served, item ∈ o.store.shelf.pending kind ∧ o.publishable item
  ascending : served.Pairwise Item.Before
  /-- No item is served before another that could be posted and is before it. -/
  unovertaken : ∀ item ∈ served, ∀ other ∈ o.store.shelf.pending kind, o.publishable other →
    other.Before item → other ∈ served
  prompt : ∀ item ∈ o.store.shelf.pending kind, o.publishable item →
    o.store.shelf.countBefore kind (!o.publishable ·) item < max limit 1 →
    o.store.shelf.countBefore kind o.publishable item /
      (max limit 1 - o.store.shelf.countBefore kind (!o.publishable ·) item) + 1 ≤ n →
    item ∈ served
  barred : ∀ item ∈ o.store.shelf.pending kind, o.publishable item →
    max limit 1 ≤ o.store.shelf.countBefore kind (!o.publishable ·) item → item ∉ served

/-- Passes in a row post the items of a kind that can be posted from the oldest on, each by the turn
that follows from what is before it, and none that enough others stand in the way of. -/
theorem drained_passes (limit n : Nat) : ∃ served, Drained limit kind channel o n served := by
  have hnodup := o.store.shelf.nodup_pending kind
  refine ⟨taken (max limit 1) o.publishable n (o.store.shelf.pending kind),
    postsOf_passes plain faultless hchannel limit n, fun item hitem ↦ ?_,
    fun item hitem ↦ List.mem_filter.mp ((taken_prefix_filter _ _ n _).subset hitem),
    pairwise_taken _ _ n (o.store.shelf.pairwise_before_pending kind),
    fun item hitem other hother hgoes hbefore ↦ ?_,
    fun item hitem hgoes hroom hturn ↦ ?_, fun item hitem hgoes hstuck ↦ ?_⟩
  · rw [isSome_target?_passes_iff plain faultless hchannel hitem, mem_taken_iff hnodup hitem]
  · exact mem_taken_of_before (o.store.shelf.pairwise_before_pending kind) hitem hother hgoes
      hbefore
  · obtain ⟨before, after, heq, hcount⟩ := Shelf.exists_queue_eq hitem
    rw [← hcount] at hroom
    rw [← hcount, ← hcount] at hturn
    rw [heq] at hnodup ⊢
    exact mem_taken_of_lt hnodup hgoes hroom hturn
  · obtain ⟨before, after, heq, hcount⟩ := Shelf.exists_queue_eq hitem
    rw [← hcount] at hstuck
    rw [heq] at hnodup ⊢
    exact not_mem_taken hnodup hstuck n

end Passes

def later : Item := { shown with id := ⟨"d3"⟩, createdAt := ⟨2, 0⟩ }

/-- A deposit with nothing to show, and two younger ones that came in the other way round. -/
def crowded : Outside :=
  { blankFirst with
    store.shelf := ((Shelf.empty.put later).put blank).put shown }

theorem pending_crowded : crowded.store.shelf.pending .deposit = [blank, shown, later] := by
  refine (Shelf.eq_pending ?_ (by decide)).symm
  exact @List.perm_append_comm _ [blank, shown] [later]

theorem drained_passes_crowded :
    crowded.Plain ∧ crowded.store.channel? .deposit = some ⟨-1⟩ ∧
      crowded.store.shelf.countBefore .deposit (!crowded.publishable ·) later = 1 ∧
      crowded.store.shelf.countBefore .deposit crowded.publishable later = 1 ∧
      (∃ served, Drained 2 .deposit ⟨-1⟩ crowded 2 served ∧ later ∈ served) ∧
      ∃ served, Drained 1 .deposit ⟨-1⟩ crowded 100 served ∧ later ∉ served := by
  have hplain : crowded.Plain := ⟨rfl, rfl⟩
  have hchannel : crowded.store.channel? .deposit = some ⟨-1⟩ := rfl
  have hpending : later ∈ crowded.store.shelf.pending .deposit := by
    rw [pending_crowded]
    simp
  have hstuck : crowded.store.shelf.countBefore .deposit (!crowded.publishable ·) later = 1 := by
    rw [Shelf.countBefore, pending_crowded]
    decide
  have hready : crowded.store.shelf.countBefore .deposit crowded.publishable later = 1 := by
    rw [Shelf.countBefore, pending_crowded]
    decide
  obtain ⟨served, hserved⟩ := drained_passes hplain rfl hchannel 2 2
  obtain ⟨served', hserved'⟩ := drained_passes hplain rfl hchannel 1 100
  refine ⟨hplain, hchannel, hstuck, hready, ⟨served, hserved, ?_⟩, served', hserved', ?_⟩
  · exact hserved.prompt later hpending rfl (by rw [hstuck]; decide)
      (by rw [hstuck, hready]; decide)
  · exact hserved'.barred later hpending rfl (by rw [hstuck]; decide)

end ReviewDesk.Dispatch
