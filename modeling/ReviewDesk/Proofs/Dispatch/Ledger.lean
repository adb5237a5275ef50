import Mathlib.Algebra.GroupWithZero.Nat
import ReviewDesk.Desk.Service
import ReviewDesk.Proofs.Dispatch.Halting
import ReviewDesk.Proofs.Dispatch.Watch
import ReviewDesk.Proofs.Traffic.Booked

/-!
The books of a scheduler that nobody else claims beside, whatever comes between any two of its calls.
The claims that a tick wins are the items that it takes from unclaimed to claimed (`moved_answer`),
and a report counts them all. A tick without a report omits what it has claimed, and the books are
out by just that (`balanced_run`): once the deposits are claimed, a call by which the identity
checks are looked through may still fail. It does so only where calls to the store began to fail
while the tick was under way.
-/

set_option autoImplicit false
set_option relaxedAutoImplicit false

namespace ReviewDesk

open Talk Procedure

/-! ### What one call takes from unclaimed to claimed -/

namespace Shelf

theorem countP_id_pending {shelf : Shelf} {item : Item} (hget : shelf.get? item.id = some item)
    (unclaimed : item.target = none) (kind : Kind) :
    (shelf.pending kind).countP (·.id = item.id) = if item.kind = kind then 1 else 0 := by
  have hmem := (get?_eq_some_iff.mp hget).1
  have hids : (shelf.pending kind).countP (·.id = item.id) =
      ((shelf.pending kind).map Item.id).count item.id := by
    rw [List.count, List.countP_map]
    rfl
  have hpending : item.id ∈ (shelf.pending kind).map Item.id ↔ item.kind = kind := by
    rw [List.mem_map]
    constructor
    · rintro ⟨other, hother, hid⟩
      obtain ⟨hshelf, hkind, -⟩ := mem_pending.mp hother
      rwa [eq_of_id_eq hshelf hmem hid] at hkind
    · intro hkind
      exact ⟨item, mem_pending.mpr ⟨hmem, hkind, by rw [Item.isClaimed, unclaimed]; rfl⟩, rfl⟩
  rw [hids, (shelf.nodup_map_id_pending kind).count]
  simp only [hpending]

/-- A claim that is won takes one item of its kind, and none of another. -/
theorem moved_setTarget {shelf : Shelf} {id : ItemId} {item : Item} (target : MessageRef)
    (hget : shelf.get? id = some item) (unclaimed : item.target = none) (kind : Kind) :
    shelf.moved (shelf.setTarget id target) kind = if item.kind = kind then 1 else 0 := by
  obtain ⟨-, rfl⟩ := get?_eq_some_iff.mp hget
  rw [moved_eq_countP_pending, ← countP_id_pending hget unclaimed kind]
  apply List.countP_congr
  intro other hother
  rw [isSome_target?_setTarget hother target hget]

end Shelf

theorem Deed.moved_eq {shelf after : Shelf} {exchange : Exchange} (h : Deed shelf exchange after)
    (kind : Kind) : shelf.moved after kind = (won [exchange]).countP (·.kind = kind) := by
  cases h with
  | win target hget unclaimed =>
    rw [Shelf.moved_setTarget target hget unclaimed]
    simp [won, Exchange.won?, List.countP_cons]
  | lose other id target => exact shelf.moved_self kind
  | fetch other limit held nodup => exact shelf.moved_self kind
  | other unclaimed unfetched =>
    rw [Shelf.moved_self, won, List.filterMap_cons_none (Exchange.won?_of_claimed? unclaimed)]
    rfl

theorem Deed.proper {shelf after : Shelf} {exchange : Exchange} (h : Deed shelf exchange after) :
    exchange.Proper := by
  cases h with
  | win target hget unclaimed => trivial
  | lose other id target => trivial
  | fetch other limit held nodup => exact ⟨fun item hitem ↦ (held item hitem).2, nodup⟩
  | other unclaimed unfetched => exact Exchange.proper_of_fetched unfetched

namespace Outside

variable {o : Outside}

/-- All that a call can do to the items while nobody claims besides. A claim may fail on its way. -/
theorem deed_or_quiet_answer (alone : o.rivals = []) (call : Call) :
    Deed o.store.shelf ⟨call, (o.answer call).1⟩ (o.answer call).2.store.shelf ∨
      Exchange.won? ⟨call, (o.answer call).1⟩ = none ∧
        Exchange.fetched ⟨call, (o.answer call).1⟩ = [] ∧
        (o.answer call).2.store.shelf = o.store.shelf := by
  cases call with
  | claim kind item target =>
    rcases hnext : Outage.next o.outages.claim with ⟨_ | error, left⟩
    · simp only [answer, hnext]
      exact Or.inl (deed_claim o.store kind item target)
    · simp only [answer, hnext]
      exact Or.inr ⟨rfl, rfl, trivial⟩
  | fetchPending kind limit =>
    rcases hnext : Outage.next o.outages.fetch with ⟨_ | error, left⟩
    · simp only [answer, hnext]
      exact Or.inl (deed_fetch o.store kind limit)
    · simp only [answer, hnext]
      exact Or.inl (.other rfl rfl)
  | resolveChannel kind =>
    rcases hnext : Outage.next o.outages.resolve with ⟨_ | error, left⟩ <;>
      (simp only [answer, hnext]; exact Or.inl (.other rfl rfl))
  | currentRights kind =>
    rcases hnext : Outage.next o.outages.rights with ⟨_ | error, left⟩ <;>
      (simp only [answer, hnext]; exact Or.inl (.other rfl rfl))
  | publish channel post =>
    have hprecede : o.precede channel post = o := by simp [precede, alone]
    simp only [answer, hprecede]
    exact Or.inl (.other rfl rfl)
  | member op => exact Or.inl (.other rfl rfl)
  | decide call => exact Or.inl (.other rfl rfl)

/-- A call takes nothing but what it wins. -/
theorem moved_answer (alone : o.rivals = []) (call : Call) (kind : Kind) :
    o.store.shelf.moved (o.answer call).2.store.shelf kind =
      (won [⟨call, (o.answer call).1⟩]).countP (·.kind = kind) := by
  rcases deed_or_quiet_answer alone call with hdeed | ⟨hnone, -, hshelf⟩
  · exact hdeed.moved_eq kind
  · rw [hshelf, Shelf.moved_self, won, List.filterMap_cons_none hnone]
    rfl

theorem proper_answer (alone : o.rivals = []) (call : Call) :
    Exchange.Proper ⟨call, (o.answer call).1⟩ := by
  rcases deed_or_quiet_answer alone call with hdeed | ⟨-, hfetched, -⟩
  · exact hdeed.proper
  · exact Exchange.proper_of_fetched hfetched

theorem rivals_answer (o : Outside) (call : Call) : (o.answer call).2.rivals = o.rivals := by
  cases call with
  | resolveChannel kind =>
    rcases hnext : Outage.next o.outages.resolve with ⟨_ | error, left⟩ <;> simp only [answer, hnext]
  | fetchPending kind limit =>
    rcases hnext : Outage.next o.outages.fetch with ⟨_ | error, left⟩ <;> simp only [answer, hnext]
  | claim kind item target =>
    rcases hnext : Outage.next o.outages.claim with ⟨_ | error, left⟩ <;> simp only [answer, hnext]
  | currentRights kind =>
    rcases hnext : Outage.next o.outages.rights with ⟨_ | error, left⟩ <;> simp only [answer, hnext]
  | publish channel post =>
    by_cases hrival : post.item ∈ o.rivals <;> simp only [answer, precede, hrival, if_true, if_false]
  | member op => rfl
  | decide call => rfl

end Outside

/-! ### The books of a tick -/

namespace Dispatch

/-- The books of a tick agree with what has been said in it. -/
structure Tick.Sound (tick : Tick) (rest : Procedure (Except Failure Report)) : Prop where
  follows : ∃ limit, Follows (pass limit) tick.talk rest
  proper : ∀ exchange ∈ tick.talk, exchange.Proper
  moved : ∀ kind, tick.moved kind = (won tick.talk).countP (·.kind = kind)

theorem Tick.Sound.enter {tick : Tick} {call : Call}
    {next : call.Reply → Procedure (Except Failure Report)} (h : tick.Sound (.ask call next))
    {reply : call.Reply} {before after : Shelf} (proper : Exchange.Proper ⟨call, reply⟩)
    (moved : ∀ kind, before.moved after kind = (won [⟨call, reply⟩]).countP (·.kind = kind)) :
    (tick.enter ⟨call, reply⟩ before after).Sound (next reply) where
  follows := by
    obtain ⟨limit, hfollows⟩ := h.follows
    exact ⟨limit, hfollows.snoc reply⟩
  proper := forall_mem_snoc h.proper proper
  moved kind := by
    rw [Tick.enter, won_append, List.countP_append, ← h.moved kind, ← moved kind]

/-- What is true of the tick under way at a desk. -/
structure Tick.Current (d : Desk) (tick : Tick) (rest : Procedure (Except Failure Report)) : Prop where
  sound : tick.Sound rest
  lastSent : d.health.dispatch.lastSent = tick.found.lastSent
  calm : tick.disturbed = false → Calm tick.talk d.outside

/-- What is true of a tick that has ended. -/
structure PastTick.Sound (tick : PastTick) : Prop where
  sound : tick.toTick.Sound (.done tick.result)
  recorded : tick.Recorded
  unrefused : tick.disturbed = false →
    ∀ before last, tick.talk = before ++ [last] → last.Failed → ¬Looked before

/-- The invariants of a watch. -/
structure Watch.Sound (w : Watch) : Prop where
  alone : w.desk.outside.rivals = []
  underWay : ∀ tick rest, w.underWay = some (tick, rest) → tick.Current w.desk rest
  ended : ∀ tick ∈ w.ended, tick.Sound

theorem bars_strike {incident : Incident} (h : incident.disturbs = false) (o : Outside) :
    (incident.strike o).bars = o.bars := by
  cases incident with
  | insert item => rfl
  | enqueue item =>
    obtain ⟨bus, hbus⟩ := o.store.exists_enqueue_eq item
    rw [Incident.strike, Outside.bars, hbus]
    rfl
  | setChannel kind channel => rfl
  | failPost item text => rfl
  | failFetches count => cases h
  | fault change => cases h

theorem rivals_strike (incident : Incident) (o : Outside) :
    (incident.strike o).rivals = o.rivals := by
  cases incident <;> rfl

namespace Watch

variable {w : Watch}

theorem Sound.incident (h : Sound w) (incident : Incident) : Sound (w.step (.incident incident)) where
  alone := (rivals_strike incident _).trans h.alone
  underWay tick rest hunder := by
    obtain ⟨⟨before, other⟩, hbefore, heq⟩ := Option.map_eq_some_iff.mp hunder
    obtain ⟨rfl, rfl⟩ := Prod.mk.inj heq
    have hcurrent := h.underWay before other hbefore
    -- Nothing is said and nothing booked, so that only the calm is at stake.
    obtain ⟨follows, proper, moved⟩ := hcurrent.sound
    refine ⟨⟨follows, proper, moved⟩, hcurrent.lastSent, fun hcalm ↦ ?_⟩
    obtain ⟨hbefore, hincident⟩ := Bool.or_eq_false_iff.mp hcalm
    exact (hcurrent.calm hbefore).of_bars (bars_strike hincident w.desk.outside)
  ended := h.ended

theorem Sound.beginTick (h : Sound w) : Sound w.beginTick where
  alone := h.alone
  underWay tick rest hunder := by
    obtain ⟨rfl, rfl⟩ := Prod.mk.inj (Option.some.inj hunder)
    refine ⟨⟨⟨_, .stay _⟩, fun exchange hexchange ↦ ?_, fun _ ↦ rfl⟩, rfl, fun _ ↦ calm_nil _⟩
    cases hexchange
  ended := h.ended

theorem Sound.makeCall (h : Sound w) {tick : Tick} {call : Call}
    {next : call.Reply → Procedure (Except Failure Report)}
    (hunder : w.underWay = some (tick, .ask call next)) : Sound (w.makeCall tick call next) where
  alone := (w.desk.outside.rivals_answer call).trans h.alone
  underWay after rest hafter := by
    obtain ⟨rfl, rfl⟩ := Prod.mk.inj (Option.some.inj hafter)
    have hcurrent := h.underWay tick _ hunder
    have hproper := Outside.proper_answer h.alone call
    have hmoved := Outside.moved_answer h.alone call
    exact ⟨hcurrent.sound.enter hproper hmoved, hcurrent.lastSent,
      fun hcalm ↦ (hcurrent.calm hcalm).answer call⟩
  ended := h.ended

theorem recorded_of_lastSent {d : Desk} {tick : Tick}
    (h : d.health.dispatch.lastSent = tick.found.lastSent) (result : Except Failure Report) :
    PastTick.Recorded ⟨tick, result, (Shift.recordDispatch d result).health.dispatch⟩ := by
  cases result with
  | ok report => exact ⟨rfl, rfl⟩
  | error failure => exact ⟨h, rfl⟩

theorem Sound.endTick (h : Sound w) {tick : Tick} {result : Except Failure Report}
    (hunder : w.underWay = some (tick, .done result)) : Sound (w.endTick tick result) := by
  have hcurrent := h.underWay tick _ hunder
  refine ⟨?_, ?_, ?_⟩
  · cases result <;> exact h.alone
  · intro other rest hother
    cases hother
  · refine forall_mem_snoc h.ended ?_
    exact ⟨hcurrent.sound, recorded_of_lastSent hcurrent.lastSent result,
      fun hcalm ↦ (hcurrent.calm hcalm).unrefused⟩

theorem Sound.step (h : Sound w) (event : Event) : Sound (w.step event) := by
  cases event with
  | incident incident => exact h.incident incident
  | turn =>
    rw [Watch.step]
    rcases hunder : w.underWay with _ | ⟨tick, result | ⟨call, next⟩⟩
    · rw [turn_of_none hunder]
      exact h.beginTick
    · rw [turn_of_done hunder]
      exact h.endTick hunder
    · rw [turn_of_ask hunder]
      exact h.makeCall hunder

theorem Sound.run (h : Sound w) (events : List Event) : Sound (w.run events) := by
  induction events generalizing w with
  | nil => exact h
  | cons event events ih => exact ih (h.step event)

theorem sound_start {d : Desk} (alone : d.outside.rivals = []) : Sound { desk := d } where
  alone := alone
  underWay tick rest hunder := by cases hunder
  ended tick htick := by cases htick

end Watch

/-! ### What goes unreported -/

namespace PastTick

variable {tick : PastTick}

theorem Sound.moved_eq_reported (h : tick.Sound) (hreport : tick.report?.isSome) (kind : Kind) :
    tick.moved kind = tick.reported kind := by
  obtain ⟨limit, hfollows⟩ := h.sound.follows
  have hends := (ensures_pass limit _ _ hfollows).2 _ rfl
  rw [reported, report?] at *
  cases hresult : tick.result with
  | error failure =>
    rw [hresult] at hreport
    cases hreport
  | ok report =>
    rw [hresult] at hends
    have hsent := (hends.2 h.sound.proper).accounts.sent kind
    rw [h.sound.moved kind, Except.toOption, Option.elim, hsent]
    cases kind <;> exact (Nat.zero_add _).symm

theorem reported_of_none (h : tick.report? = none) (kind : Kind) : tick.reported kind = 0 := by
  rw [reported, h]
  rfl

theorem Sound.halted (h : tick.Sound) (hnone : tick.report? = none) : Halted Kind.all tick.talk := by
  obtain ⟨limit, hfollows⟩ := h.sound.follows
  have hcomes := (ensures_comes_passKinds (max limit 1) Kind.all {} _ _ hfollows).2 _ rfl
  rw [report?] at hnone
  cases hresult : tick.result with
  | error failure => rwa [hresult] at hcomes
  | ok report =>
    rw [hresult] at hnone
    cases hnone

theorem Sound.moved_eq_zero_iff (h : tick.Sound) :
    (∀ kind, tick.moved kind = 0) ↔ won tick.talk = [] := by
  constructor
  · intro hzero
    by_contra hwon
    obtain ⟨posting, hposting⟩ := List.exists_mem_of_ne_nil _ hwon
    have hnone := hzero posting.kind
    rw [h.sound.moved, List.countP_eq_zero] at hnone
    exact hnone posting hposting (decide_eq_true rfl)
  · intro hwon kind
    rw [h.sound.moved, hwon]
    rfl

end PastTick

/-- A tick claimed something and ended without a report. -/
structure Omits (tick : PastTick) : Prop where
  unreported : tick.report? = none
  won : won tick.talk ≠ []

/-- A tick has claimed nothing but deposits, and its last call, by which the identity checks are looked
through, has failed. Calls to the store had been made to fail under way. -/
structure Interrupted (tick : PastTick) : Prop where
  deposits : ∀ posting ∈ won tick.talk, posting.kind = .deposit
  last : ∃ before last, tick.talk = before ++ [last] ∧ last.Failed ∧ last.call.scanned? = some .kyc
  disturbed : tick.disturbed

theorem PastTick.Sound.interrupted {tick : PastTick} (h : tick.Sound) (homits : Omits tick) :
    Interrupted tick := by
  obtain ⟨hdeposits, before, last, hlast, hfailed, hscanned, hlooked⟩ :=
    (h.halted homits.unreported).last_of_won h.sound.proper homits.won
  refine ⟨hdeposits, ⟨before, last, hlast, hfailed, hscanned⟩, ?_⟩
  by_contra hcalm
  exact h.unrefused (Bool.eq_false_iff.mpr hcalm) before last hlast hfailed hlooked

theorem sum_moved {ticks : List PastTick} (h : ∀ tick ∈ ticks, tick.Sound) (kind : Kind) :
    (ticks.map (·.moved kind)).sum = (ticks.map (·.reported kind)).sum +
      ((ticks.filter (·.report?.isNone)).map (·.moved kind)).sum := by
  induction ticks with
  | nil => rfl
  | cons tick ticks ih =>
    obtain ⟨htick, hticks⟩ := List.forall_mem_cons.mp h
    have hrest := ih hticks
    simp only [List.map_cons, List.sum_cons, List.filter_cons]
    -- A tick without a report adds to the last sum alone, one with a report to the first two.
    cases hreport : tick.report? with
    | none =>
      have hzero := PastTick.reported_of_none hreport kind
      simp only [Option.isNone_none, if_true, List.map_cons, List.sum_cons]
      omega
    | some report =>
      have hequal := htick.moved_eq_reported (by rw [hreport]; rfl) kind
      simp only [Option.isNone_some, Bool.false_eq_true, if_false]
      omega

namespace Watch

/-- How many items of a kind the ticks have taken from unclaimed to claimed. -/
def moved (w : Watch) (kind : Kind) : Nat := (w.ended.map (·.moved kind)).sum

/-- How many items of a kind the ticks have reported as sent. -/
def reported (w : Watch) (kind : Kind) : Nat := (w.ended.map (·.reported kind)).sum

end Watch

/-- The books of a watch at any time. -/
structure Balanced (w : Watch) : Prop where
  /-- Nothing is reported that was not claimed. What was claimed and is not reported was claimed by
  ticks without a report. -/
  balance : ∀ kind, w.moved kind = w.reported kind +
    ((w.ended.filter (·.report?.isNone)).map (·.moved kind)).sum
  /-- Everything claimed is reported exactly if no tick omits anything. -/
  exact : (∀ kind, w.moved kind = w.reported kind) ↔ ∀ tick ∈ w.ended, ¬Omits tick
  undisturbed : (∀ tick ∈ w.ended, tick.disturbed = false) → ∀ kind, w.moved kind = w.reported kind
  checks : w.moved .kyc = w.reported .kyc
  reported : ∀ tick ∈ w.ended, tick.report?.isSome → ∀ kind, tick.moved kind = tick.reported kind
  interrupted : ∀ tick ∈ w.ended, Omits tick → Interrupted tick
  recorded : ∀ tick ∈ w.ended, tick.Recorded

namespace Watch

variable {w : Watch}

theorem Sound.moved_eq_reported_iff (h : Sound w) (kind : Kind) :
    w.moved kind = w.reported kind ↔
      ∀ tick ∈ w.ended, tick.report? = none → tick.moved kind = 0 := by
  rw [moved, reported, sum_moved h.ended kind, Nat.add_eq_left,
    List.sum_eq_zero_iff_forall_eq_nat, List.forall_mem_map]
  simp only [List.mem_filter, Option.isNone_iff_eq_none, and_imp]

theorem Sound.exact (h : Sound w) :
    (∀ kind, w.moved kind = w.reported kind) ↔ ∀ tick ∈ w.ended, ¬Omits tick := by
  simp only [h.moved_eq_reported_iff]
  constructor
  · rintro hzero tick htick ⟨hnone, hwon⟩
    exact hwon ((h.ended tick htick).moved_eq_zero_iff.mp fun kind ↦ hzero kind tick htick hnone)
  · intro hkept kind tick htick hnone
    have hwon : won tick.talk = [] := by
      by_contra hwon
      exact hkept tick htick ⟨hnone, hwon⟩
    exact (h.ended tick htick).moved_eq_zero_iff.mpr hwon kind

theorem Sound.undisturbed (h : Sound w) (hcalm : ∀ tick ∈ w.ended, tick.disturbed = false) :
    ∀ kind, w.moved kind = w.reported kind := by
  rw [h.exact]
  intro tick htick homits
  have hdisturbed := ((h.ended tick htick).interrupted homits).disturbed
  rw [hcalm tick htick] at hdisturbed
  cases hdisturbed

theorem Sound.checks (h : Sound w) : w.moved .kyc = w.reported .kyc := by
  rw [h.moved_eq_reported_iff]
  intro tick htick hnone
  have hsound := h.ended tick htick
  by_cases hwon : won tick.talk = []
  · exact hsound.moved_eq_zero_iff.mpr hwon .kyc
  · rw [hsound.sound.moved, List.countP_eq_zero]
    intro posting hposting hkind
    have hdeposit := (hsound.interrupted ⟨hnone, hwon⟩).deposits posting hposting
    rw [of_decide_eq_true hkind] at hdeposit
    cases hdeposit

theorem Sound.balanced (h : Sound w) : Balanced w where
  balance := sum_moved h.ended
  exact := h.exact
  undisturbed := h.undisturbed
  checks := h.checks
  reported tick htick := (h.ended tick htick).moved_eq_reported
  interrupted tick htick := (h.ended tick htick).interrupted
  recorded tick htick := (h.ended tick htick).recorded

/-- The books of a scheduler at any time, whatever came between any two of its calls: everything
claimed is reported, but for the deposits of a tick that could no longer look through the identity
checks because calls to the store had begun to fail under way. -/
theorem balanced_run {d : Desk} (alone : d.outside.rivals = []) (events : List Event) :
    Balanced (Watch.run { desk := d } events) :=
  ((sound_start alone).run events).balanced

end Watch

/-- A deposit with something to show. -/
def receipt : Item where
  id := ⟨"d1"⟩
  kind := .deposit
  createdAt := ⟨0, 0⟩
  seed := 1
  attachment := { bytes := [1] }

/-- A scheduler over a store with one item of each kind. -/
def stocked : Desk :=
  { Desk.idle "reviews"
      { store :=
          { noticeChannel := "reviews"
            channels := ⟨some ⟨-1⟩, some ⟨-2⟩⟩
            shelf := (Shelf.empty.put receipt).put { receipt with id := ⟨"k1"⟩, kind := .kyc } } } with
    dispatch := ⟨2, 0, .ended⟩ }

namespace Watch

/-- A fetch is made to fail when the deposit has been claimed. The next tick goes through. -/
def mishaps : List Event :=
  List.replicate 5 .turn ++ .incident (.failFetches 1) :: List.replicate 12 .turn

theorem balanced_mishaps :
    stocked.outside.rivals = [] ∧
      (Watch.run { desk := stocked } mishaps).ended.map
          (fun tick ↦ (tick.moved .deposit, tick.moved .kyc, tick.report?.isSome)) =
        [(1, 0, false), (0, 1, true)] ∧
      Balanced (Watch.run { desk := stocked } mishaps) :=
  ⟨rfl, by decide +kernel, balanced_run rfl mishaps⟩

/-- Once the deposit is claimed, the fetch of the identity checks may fail, and nobody reports the
deposit. -/
theorem not_forall_moved_eq_reported :
    ¬∀ (d : Desk) (events : List Event), d.outside.rivals = [] →
      ∀ kind, (Watch.run { desk := d } events).moved kind =
        (Watch.run { desk := d } events).reported kind := by
  intro h
  have hequal := h stocked mishaps rfl .deposit
  revert hequal
  decide +kernel

end Watch

end Dispatch

end ReviewDesk
