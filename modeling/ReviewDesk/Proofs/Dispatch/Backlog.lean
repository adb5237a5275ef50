import ReviewDesk.Proofs.Dispatch.Alone
import ReviewDesk.Proofs.Shelf.Oldest

/-!
Passes made one after the other over items that pile up. An item that cannot be posted stays at the
head of its queue and takes up one place of every batch. As long as fewer of them stand before an
item than a batch has places, each pass gets at least the remaining places ahead, and the item's
turn comes (`not_mem_swept`); once they fill the batch, nothing behind them is ever reached
(`mem_swept`). So `exists_claimed_iff` counts them.
-/

set_option autoImplicit false
set_option relaxedAutoImplicit false

namespace ReviewDesk.Dispatch

/-! ### Sweeping a queue -/

section Sweep

variable {limit : Nat} {goes : Item → Bool} {before after queue : List Item} {item : Item}

theorem sweep_sublist (limit : Nat) (goes : Item → Bool) (queue : List Item) :
    (sweep limit goes queue).Sublist queue := by
  have hsublist := (List.filter_sublist (p := fun item ↦ !goes item) (l := queue.take limit)).append
    (List.Sublist.refl (queue.drop limit))
  rwa [List.take_append_drop] at hsublist

/-- An item in reach of the batch that can go is gone. -/
theorem not_mem_sweep (hnodup : (before ++ item :: after).Nodup) (hgoes : goes item)
    (hreach : before.length < limit) : item ∉ sweep limit goes (before ++ item :: after) := by
  intro hmem
  rcases List.mem_append.mp hmem with htaken | hleft
  · have hstays := (List.mem_filter.mp htaken).2
    rw [hgoes] at hstays
    cases hstays
  · obtain ⟨more, hmore⟩ : ∃ more, limit - before.length = more + 1 :=
      ⟨limit - before.length - 1, by omega⟩
    rw [List.drop_append, List.drop_eq_nil_of_le (by omega), List.nil_append, hmore,
      List.drop_succ_cons] at hleft
    have hnotin := (List.nodup_cons.mp (List.nodup_append.mp hnodup).2.1).1
    exact hnotin (List.mem_of_mem_drop hleft)

/-- What lies out of reach of the batch is not touched. -/
theorem sweep_append (hreach : limit ≤ before.length) :
    sweep limit goes (before ++ after) = sweep limit goes before ++ after := by
  rw [sweep, List.take_append_of_le_length hreach, List.drop_append_of_le_length hreach,
    ← List.append_assoc, ← sweep]

theorem countP_stuck_sweep (limit : Nat) (goes : Item → Bool) (queue : List Item) :
    (sweep limit goes queue).countP (fun item ↦ !goes item) =
      queue.countP fun item ↦ !goes item := by
  rw [sweep, List.countP_append, List.countP_filter]
  simp only [Bool.and_self]
  rw [← List.countP_append, List.take_append_drop]

/-- A full batch takes as many with it as it has places that are not stuck. -/
theorem countP_goes_sweep (goes : Item → Bool) (hfull : limit ≤ queue.length) :
    (sweep limit goes queue).countP goes + (limit - queue.countP fun item ↦ !goes item) ≤
      queue.countP goes := by
  have hsplit : queue.countP goes =
      (queue.take limit).countP goes + (queue.drop limit).countP goes := by
    rw [← List.countP_append, List.take_append_drop]
  have htaken : limit = (queue.take limit).countP goes +
      (queue.take limit).countP fun item ↦ !goes item := by
    have hlength := List.length_eq_countP_add_countP goes (l := queue.take limit)
    rw [List.length_take, Nat.min_eq_left hfull] at hlength
    simpa using hlength
  have hstuck : (queue.take limit).countP (fun item ↦ !goes item) ≤
      queue.countP fun item ↦ !goes item := (List.take_sublist limit queue).countP_le
  have hgone : ((queue.take limit).filter fun item ↦ !goes item).countP goes = 0 := by
    apply List.countP_eq_zero.mpr
    intro item hitem
    have hstays := (List.mem_filter.mp hitem).2
    rwa [Bool.not_eq_true', ← Bool.not_eq_true] at hstays
  rw [sweep, List.countP_append, hgone]
  omega

/-- What is left of a queue after so many batches. -/
def swept (limit : Nat) (goes : Item → Bool) : Nat → List Item → List Item
  | 0, queue => queue
  | n + 1, queue => swept limit goes n (sweep limit goes queue)

theorem swept_sublist (limit : Nat) (goes : Item → Bool) (n : Nat) (queue : List Item) :
    (swept limit goes n queue).Sublist queue := by
  induction n generalizing queue with
  | zero => exact .refl queue
  | succ n ih => exact (ih (sweep limit goes queue)).trans (sweep_sublist limit goes queue)

/-- An item with fewer stuck ones before it than a batch has places goes in the end. The bound is
the number of batches that the others before it fill. -/
theorem not_mem_swept (hnodup : (before ++ item :: after).Nodup) (hgoes : goes item) {n : Nat}
    (hturn : before.countP goes < (n + 1) * (limit - before.countP fun item ↦ !goes item)) :
    item ∉ swept limit goes (n + 1) (before ++ item :: after) := by
  have hlength : before.length = before.countP goes + before.countP fun item ↦ !goes item := by
    simpa using List.length_eq_countP_add_countP goes (l := before)
  have hreached : before.length < limit → item ∉ swept limit goes (n + 1) (before ++ item :: after) :=
    fun hreach hmem ↦ not_mem_sweep hnodup hgoes hreach ((swept_sublist limit goes n _).subset hmem)
  induction n generalizing before with
  | zero => exact hreached (by omega)
  | succ n ih =>
    by_cases hreach : before.length < limit
    · exact hreached hreach
    · have hfull := Nat.le_of_not_lt hreach
      have hshrinks := countP_goes_sweep goes hfull
      have hstuck := countP_stuck_sweep limit goes before
      have hnodup' : (sweep limit goes before ++ item :: after).Nodup :=
        hnodup.sublist ((sweep_sublist limit goes before).append (.refl _))
      have hturn' : (sweep limit goes before).countP goes <
          (n + 1) * (limit - (sweep limit goes before).countP fun item ↦ !goes item) := by
        have hmul : (n + 1 + 1) * (limit - before.countP fun item ↦ !goes item) =
            (n + 1) * (limit - before.countP fun item ↦ !goes item) +
              (limit - before.countP fun item ↦ !goes item) := Nat.succ_mul _ _
        rw [hstuck]
        omega
      rw [swept, sweep_append hfull]
      refine ih hnodup' hturn' ?_ ?_
      · simpa using List.length_eq_countP_add_countP goes (l := sweep limit goes before)
      · intro hreach' hmem
        exact not_mem_sweep hnodup' hgoes hreach' ((swept_sublist limit goes n _).subset hmem)

/-- An item with enough stuck ones before it to fill a batch stays for ever. -/
theorem mem_swept (hstuck : limit ≤ before.countP fun item ↦ !goes item) (n : Nat) :
    item ∈ swept limit goes n (before ++ item :: after) := by
  induction n generalizing before with
  | zero => exact List.mem_append_right before List.mem_cons_self
  | succ n ih =>
    have hfull : limit ≤ before.length := Nat.le_trans hstuck List.countP_le_length
    rw [swept, sweep_append hfull]
    exact ih (by rwa [countP_stuck_sweep])

end Sweep

/-! ### Passes in a row -/

open Outside

/-- So many passes, with nothing in between. -/
def passes (limit : Nat) : Nat → Outside → Outside
  | 0, o => o
  | n + 1, o => passes limit n ((pass limit).run o).2

section Passes

variable {o : Outside} (plain : o.Plain) (faultless : o.store.fetchFaults = 0)
include plain faultless

theorem frame_run_pass (limit : Nat) : ((pass limit).run o).2.frame = o.frame := by
  rw [run_pass plain faultless]
  exact frame_foldl_account (max limit 1) Kind.all ({}, o)

theorem frame_passes (limit n : Nat) : (passes limit n o).frame = o.frame := by
  induction n generalizing o with
  | zero => rfl
  | succ n ih =>
    have hframe := frame_run_pass plain faultless limit
    exact (ih (plain_of_frame hframe plain) ((fetchFaults_of_frame hframe).trans faultless)).trans
      hframe

variable {kind : Kind} {channel : ChannelId} (hchannel : o.store.channel? kind = some channel)
include hchannel

theorem pending_run_pass (limit : Nat) :
    ((pass limit).run o).2.store.shelf.pending kind =
      sweep (max limit 1) o.publishable (o.store.shelf.pending kind) := by
  rw [run_pass plain faultless,
    pending_foldl_account (s := ({}, o)) (by decide : Kind.all.Nodup) (max limit 1) hchannel,
    if_pos (Kind.mem_all kind), Nat.max_eq_left (Nat.le_max_right limit 1)]

theorem pending_passes (limit n : Nat) :
    (passes limit n o).store.shelf.pending kind =
      swept (max limit 1) o.publishable n (o.store.shelf.pending kind) := by
  induction n generalizing o with
  | zero => rfl
  | succ n ih =>
    have hframe := frame_run_pass plain faultless limit
    rw [passes, swept, ih (plain_of_frame hframe plain)
      ((fetchFaults_of_frame hframe).trans faultless)
      ((channel?_of_frame hframe kind).trans hchannel), pending_run_pass plain faultless hchannel,
      publishable_of_frame hframe]

/-- A pending item is claimed as soon as it is gone from the queue. -/
theorem isSome_target?_passes_iff {item : Item} (hpending : item ∈ o.store.shelf.pending kind)
    (limit n : Nat) :
    ((passes limit n o).store.shelf.target? item.id).isSome ↔
      item ∉ swept (max limit 1) o.publishable n (o.store.shelf.pending kind) := by
  obtain ⟨hmem, hkind, -⟩ := Shelf.mem_pending.mp hpending
  have hget : ((passes limit n o).store.shelf.get? item.id).map Item.bare = some item.bare := by
    rw [get?_of_frame (frame_passes plain faultless limit n), Shelf.get?_of_mem hmem,
      Option.map_some]
  obtain ⟨stored, hstored, hbare⟩ := Option.map_eq_some_iff.mp hget
  have hkind' : stored.kind = kind := (congrArg Item.kind hbare).trans hkind
  rw [Shelf.isSome_target?_iff hstored, hkind', pending_passes plain faultless hchannel]
  refine not_congr ⟨fun hid ↦ ?_, List.mem_map_of_mem⟩
  obtain ⟨other, hother, hid⟩ := List.mem_map.mp hid
  have hother' := (swept_sublist _ _ n _).subset hother
  rwa [← Shelf.eq_of_id_eq (Shelf.mem_pending.mp hother').1 hmem hid]

end Passes

/-- Where an item that can be posted stands in its queue: those before it are the ones that precede
it, and of those that cannot be posted these are the ones that count. -/
theorem exists_queue {shelf : Shelf} {kind : Kind} {item : Item} (h : item ∈ shelf.pending kind)
    {goes : Item → Bool} (hgoes : goes item) :
    ∃ before after, shelf.pending kind = before ++ item :: after ∧
      (before ++ item :: after).Nodup ∧
      (before.countP fun other ↦ !goes other) =
        (shelf.pending kind).countP fun other ↦ !goes other && other.precedes item := by
  obtain ⟨before, after, heq, hcount⟩ := Shelf.exists_queue_eq h
  refine ⟨before, after, heq, heq ▸ shelf.nodup_pending kind, ?_⟩
  rw [hcount, Shelf.countBefore]
  apply List.countP_congr
  intro other hother
  by_cases hid : other.id = item.id
  · rw [Shelf.eq_of_id_eq (Shelf.mem_pending.mp hother).1 (Shelf.mem_pending.mp h).1 hid]
    simp [hgoes]
  · have hbefore : other.Before item ↔ other.precedes item :=
      ⟨Item.Before.precedes, (Item.before_of_precedes · hid)⟩
    simp [hbefore]

section Turn

variable {o : Outside} (plain : o.Plain) (faultless : o.store.fetchFaults = 0) {kind : Kind}
  {channel : ChannelId} (hchannel : o.store.channel? kind = some channel) {item : Item}
  (hpending : item ∈ o.store.shelf.pending kind) (hpublishable : o.publishable item)
include plain faultless hchannel hpending hpublishable

/-- An item is never claimed while those before it that cannot be posted fill every batch. -/
theorem not_isSome_target?_passes {limit : Nat}
    (hstuck : max limit 1 ≤ (o.store.shelf.pending kind).countP fun other ↦
      !o.publishable other && other.precedes item) (n : Nat) :
    ¬((passes limit n o).store.shelf.target? item.id).isSome := by
  obtain ⟨before, after, heq, -, hcount⟩ := exists_queue hpending hpublishable
  rw [isSome_target?_passes_iff plain faultless hchannel hpending, not_not, heq]
  exact mem_swept (hcount ▸ hstuck) n

/-- Passes that are made alone come to an item that can be posted exactly if fewer items that
cannot be posted precede it than a batch has places. -/
theorem exists_claimed_iff (limit : Nat) :
    (∃ n, ((passes limit n o).store.shelf.target? item.id).isSome) ↔
      (o.store.shelf.pending kind).countP
        (fun other ↦ !o.publishable other && other.precedes item) < max limit 1 := by
  constructor
  · rintro ⟨n, hclaimed⟩
    by_contra hstuck
    exact not_isSome_target?_passes plain faultless hchannel hpending hpublishable
      (Nat.le_of_not_lt hstuck) n hclaimed
  · intro hroom
    obtain ⟨before, after, heq, hnodup, hcount⟩ := exists_queue hpending hpublishable
    rw [← hcount] at hroom
    refine ⟨before.countP o.publishable + 1, ?_⟩
    rw [isSome_target?_passes_iff plain faultless hchannel hpending, heq]
    refine not_mem_swept hnodup hpublishable ?_
    calc before.countP o.publishable
      _ < (before.countP o.publishable + 1) * 1 := by omega
      _ ≤ (before.countP o.publishable + 1) *
          (max limit 1 - before.countP fun item ↦ !o.publishable item) :=
        Nat.mul_le_mul_left _ (by omega)

end Turn

/-- A deposit with nothing to show, and a younger one with something. -/
def blank : Item where
  id := ⟨"d1"⟩
  kind := .deposit
  createdAt := ⟨0, 0⟩
  seed := 1

def shown : Item := { blank with id := ⟨"d2"⟩, createdAt := ⟨1, 0⟩, attachment := { bytes := [1] } }

def blankFirst : Outside where
  store :=
    { noticeChannel := "reviews"
      shelf := (Shelf.empty.put blank).put shown
      channels := ⟨some ⟨-1⟩, none⟩ }

theorem shown_mem_pending : shown ∈ blankFirst.store.shelf.pending .deposit :=
  Shelf.mem_pending.mpr ⟨List.mem_append_right _ List.mem_cons_self, rfl, rfl⟩

theorem exists_claimed_iff_shown :
    blankFirst.Plain ∧ shown ∈ blankFirst.store.shelf.pending .deposit ∧
      ((∃ n, ((passes 2 n blankFirst).store.shelf.target? shown.id).isSome) ↔
        (blankFirst.store.shelf.pending .deposit).countP
          (fun other ↦ !blankFirst.publishable other && other.precedes shown) < 2) :=
  ⟨⟨rfl, rfl⟩, shown_mem_pending,
    exists_claimed_iff ⟨rfl, rfl⟩ rfl rfl shown_mem_pending (by decide) 2⟩

/-- Behind one deposit with nothing to show, a scheduler that takes one item at a time comes to no
other. -/
theorem not_forall_exists_claimed :
    ¬∀ (o : Outside) (kind : Kind) (channel : ChannelId) (item : Item) (limit : Nat),
      o.Plain → o.store.fetchFaults = 0 → o.store.channel? kind = some channel →
      item ∈ o.store.shelf.pending kind → o.publishable item →
      ∃ n, ((passes limit n o).store.shelf.target? item.id).isSome := by
  intro hclaimed
  obtain ⟨n, hclaimed⟩ := hclaimed blankFirst .deposit ⟨-1⟩ shown 1 ⟨rfl, rfl⟩ rfl rfl
    shown_mem_pending (by decide)
  have hmem : blank ∈ blankFirst.store.shelf.items := by
    simp [blankFirst, Shelf.put, Shelf.empty, blank, shown]
  have hpending : blank ∈ blankFirst.store.shelf.pending .deposit :=
    Shelf.mem_pending.mpr ⟨hmem, rfl, rfl⟩
  refine not_isSome_target?_passes ⟨rfl, rfl⟩ rfl rfl shown_mem_pending (by decide) ?_ n hclaimed
  exact List.countP_pos_iff.mpr ⟨blank, hpending, by decide⟩

end ReviewDesk.Dispatch
