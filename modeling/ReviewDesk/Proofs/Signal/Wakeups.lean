import Mathlib.Data.List.Basic
import Mathlib.Logic.Function.Iterate
import ReviewDesk.Proofs.Signal.Settling

/-!
What a wake signal promises to all who use it. No wake-up is lost: nobody parks for good while the
flag is up. And none is granted twice: whoever is served is served by a raise of its own, so that
settling under the flag serves one of those who wait (`orderly`). To settle, one turn each is enough
(`isSettled_settle`), and however often the signal was raised before that, one is served
(`servesOne_raises`).
-/

set_option autoImplicit false
set_option relaxedAutoImplicit false

namespace ReviewDesk.Wake

namespace Lobby

def waiting (l : Lobby) : Nat := l.seats.countP Seat.waits

theorem count_parked_outline (l : Lobby) : l.outline.count (.parked false) = l.waiting := by
  rw [outline, List.count, List.countP_map]
  refine List.countP_congr fun seat _ ↦ ?_
  rw [Function.comp_apply, beq_iff_eq, Seat.rest_eq_parked_iff]

theorem count_served_outline (l : Lobby) : l.outline.count .served = l.served := by
  rw [outline, List.count, List.countP_map]
  refine List.countP_congr fun seat _ ↦ ?_
  rw [Function.comp_apply, beq_iff_eq, beq_iff_eq, Seat.rest_eq_served_iff]

theorem exists_isWaiting {l : Lobby} (h : 0 < l.waiting) : ∃ i, l.isWaiting i := by
  rw [← count_parked_outline, List.count_pos_iff] at h
  obtain ⟨i, hi⟩ := List.getElem?_of_mem h
  exact ⟨i, isWaiting_iff.mpr hi⟩

/-- One of those who waited has been served, the others park, and the flag is down. -/
structure ServesOne (start l : Lobby) : Prop where
  served : l.served = start.served + 1
  parked : l.seats.count (.parked false) + 1 = start.waiting
  signal : l.signal = start.signal.clear
  /-- Seat by seat. -/
  seats : ∃ i, start.isWaiting i ∧ l.seats = start.outline.set i .served

theorem servesOne_set {start : Lobby} {i : Nat} (h : start.isWaiting i) :
    ServesOne start ⟨start.signal.clear, start.outline.set i .served⟩ := by
  have hseat := isWaiting_iff.mp h
  have hserved := count_set hseat .served .served
  have hparked := count_set hseat .served (.parked false)
  rw [if_neg nofun, if_pos rfl, count_served_outline] at hserved
  rw [if_pos rfl, if_neg nofun, count_parked_outline] at hparked
  exact ⟨hserved, hparked, rfl, i, h, rfl⟩

theorem iterate_raise (l : Lobby) (n : Nat) :
    raise^[n + 1] l = ⟨⟨true, l.signal.raises + (n + 1)⟩, l.seats.map Seat.notify⟩ := by
  have htwice : Seat.notify ∘ Seat.notify = Seat.notify := by
    funext seat
    cases seat <;> rfl
  induction n with
  | zero => rfl
  | succ n ih =>
    rw [Function.iterate_succ_apply', ih]
    exact congrArg (Lobby.mk _) (List.map_map.trans (congrArg (List.map · l.seats) htwice))

/-! ### One turn each -/

theorem getElem?_turn_of_ne {l : Lobby} {i k : Nat} (hne : i ≠ k) :
    (l.turn i).seats[k]? = l.seats[k]? := by
  have hregister : (l.register i).seats[k]? = l.seats[k]? := by
    rcases l.register_cases i with hsame | ⟨-, hnew⟩
    · rw [hsame]
    · rw [hnew, List.getElem?_set_ne hne]
  rw [turn, ← hregister]
  rcases (l.register i).look_cases i with hsame | ⟨notified, -, ⟨-, hnew⟩ | ⟨-, hnew⟩⟩
  · rw [hsame]
  · rw [hnew, List.getElem?_set_ne hne]
  · rw [hnew, List.getElem?_set_ne hne]

theorem rest_look {l : Lobby} {i : Nat} {seat : Seat} (hseat : l.seats[i]? = some (.looking false))
    (h : (l.look i).seats[i]? = some seat) : seat.rest = seat := by
  have hi := (List.getElem?_eq_some_iff.mp hseat).1
  simp only [look, hseat] at h
  split at h <;> rw [List.getElem?_set_self hi] at h <;> cases h <;> rfl

/-- Unless it was notified before it looked, whoever had a turn is at rest. -/
theorem rest_turn {l : Lobby} {i : Nat} {seat : Seat} (hlooking : l.seats[i]? ≠ some (.looking true))
    (h : (l.turn i).seats[i]? = some seat) : seat.rest = seat := by
  have hregistered (hnew : l.register i = { l with seats := l.seats.set i (.looking false) })
      (hi : i < l.seats.length) : seat.rest = seat :=
    rest_look (by rw [hnew]; exact List.getElem?_set_self hi) h
  cases hold : l.seats[i]? with
  | none => simp [turn, register, look, hold] at h
  | some old =>
    have hi := (List.getElem?_eq_some_iff.mp hold).1
    cases old with
    | arriving => exact hregistered (by rw [register, hold]) hi
    | looking notified =>
      cases notified
      · rw [turn, register, hold] at h
        exact rest_look hold h
      · exact absurd hold hlooking
    | parked notified =>
      cases notified
      · simp only [turn, register, look, hold, Option.some.injEq] at h
        exact h ▸ rfl
      · exact hregistered (by rw [register, hold]) hi
    | served =>
      simp only [turn, register, look, hold, Option.some.injEq] at h
      exact h ▸ rfl
    | gone =>
      simp only [turn, register, look, hold, Option.some.injEq] at h
      exact h ▸ rfl

/-- After so many turns their seats are at rest, and the others are as they were. -/
theorem seats_turns {l : Lobby} (hlooking : .looking true ∉ l.seats) (turns i : Nat) :
    (i < turns → ∀ seat, ((List.range turns).foldl turn l).seats[i]? = some seat →
        seat.rest = seat) ∧
      (turns ≤ i → ((List.range turns).foldl turn l).seats[i]? = l.seats[i]?) := by
  induction turns generalizing i with
  | zero => exact ⟨nofun, fun _ ↦ rfl⟩
  | succ turns ih =>
    rw [List.range_succ, List.foldl_append, List.foldl_cons, List.foldl_nil]
    constructor
    · intro hi seat hseat
      -- Only the seat of the last turn is touched by it, and until then nobody else has touched it.
      by_cases hlast : i = turns
      · subst hlast
        refine rest_turn (fun hmem ↦ hlooking ?_) hseat
        rw [(ih i).2 (Nat.le_refl i)] at hmem
        exact List.mem_of_getElem? hmem
      · rw [getElem?_turn_of_ne (Ne.symm hlast)] at hseat
        exact (ih i).1 (by omega) seat hseat
    · intro hi
      rw [getElem?_turn_of_ne (by omega)]
      exact (ih i).2 (by omega)

end Lobby

namespace Crowd

/-- Without a raise midway one turn each is enough. -/
theorem isSettled_settle {c : Crowd} (hquiet : c.IsQuiet) (hlooking : .looking true ∉ c.lobby.seats) :
    IsSettled { c with lobby := c.lobby.settle } := by
  refine isSettled_iff.mpr ⟨hquiet, fun seat hseat ↦ ?_⟩
  obtain ⟨i, hi⟩ := List.getElem?_of_mem hseat
  obtain ⟨hturn, hnone⟩ := Lobby.seats_turns hlooking c.lobby.seats.length i
  refine hturn (Nat.lt_of_not_le fun hle ↦ ?_) seat hi
  rw [Lobby.settle, hnone hle, List.getElem?_eq_none hle] at hi
  cases hi

/-- One turn each of those in the given seats. -/
def turns (seats : List Nat) : List Move := seats.flatMap fun i ↦ [.register i, .look i]

theorem isOnward_turns {seats : List Nat} {move : Move} (h : move ∈ turns seats) :
    move.isOnward := by
  obtain ⟨i, -, hmove⟩ := List.mem_flatMap.mp h
  rcases List.mem_pair.mp hmove with rfl | rfl <;> rfl

theorem foldl_turns (c : Crowd) (seats : List Nat) :
    (turns seats).foldl step c = { c with lobby := seats.foldl Lobby.turn c.lobby } := by
  induction seats generalizing c with
  | nil => rfl
  | cons i seats ih => exact ih _

section Serves

variable {c : Crowd} (hquiet : c.IsQuiet) (hup : c.lobby.signal.raised = true)
  (hparked : .parked false ∉ c.lobby.seats) (hwaiting : 0 < c.lobby.waiting)
include hquiet hup hparked hwaiting

/-- Settling under the flag serves one of those who wait. -/
theorem servesOne_foldl {moves : List Move} (honward : ∀ move ∈ moves, move.isOnward)
    (hsettled : IsSettled (moves.foldl step c)) :
    c.lobby.ServesOne (moves.foldl step c).lobby := by
  obtain ⟨k, hk⟩ := Lobby.exists_isWaiting hwaiting
  have hsettling := settling_foldl (.up rfl rfl hparked) hup hquiet honward
  obtain ⟨i, hi, hlobby⟩ := lobby_of_isSettled hsettling hsettled hk
  rw [hlobby]
  exact Lobby.servesOne_set hi

theorem servesOne_settle (hlooking : .looking true ∉ c.lobby.seats) :
    c.lobby.ServesOne c.lobby.settle := by
  have hturns := foldl_turns c (List.range c.lobby.seats.length)
  have hserves := servesOne_foldl hquiet hup hparked hwaiting (fun _ ↦ isOnward_turns)
    (hturns ▸ isSettled_settle hquiet hlooking)
  rwa [hturns] at hserves

end Serves

/-- However often the signal is raised where nobody has anything to do, one turn each serves one of
those who wait. -/
theorem servesOne_raises {c : Crowd} (h : c.IsSettled) (hwaiting : 0 < c.lobby.waiting) (n : Nat) :
    (Lobby.raise^[n + 1] c.lobby).ServesOne (Lobby.raise^[n + 1] c.lobby).settle := by
  have hwaits : Seat.waits ∘ Seat.notify = Seat.waits := by
    funext seat
    cases seat <;> rfl
  have hlooking : .looking true ∉ c.lobby.seats.map Seat.notify := by
    rw [List.mem_map]
    rintro ⟨seat, hseat, hnotify⟩
    cases seat with
    | looking notified => cases h.rest_eq hseat
    | _ => cases hnotify
  rw [Lobby.iterate_raise]
  refine servesOne_settle (c := ⟨_, c.raises⟩) h.isQuiet rfl (parked_notMem_map_notify _) ?_ hlooking
  rw [Lobby.waiting, List.countP_map, hwaits]
  exact hwaiting

/-! ### What is promised -/

theorem Sound.notified_of_isQuiet {c : Crowd} (h : Sound c) (hquiet : c.IsQuiet)
    (hraised : c.lobby.signal.raised = true) : .parked false ∉ c.lobby.seats :=
  (h.notified hraised).resolve_left fun hflagged ↦ nomatch hquiet _ hflagged

/-- What holds of a crowd, whatever has been done in it. -/
structure Orderly (moves : List Move) : Prop where
  raises : (run moves).lobby.signal.raises = moves.count .raise
  /-- Nobody parks under the flag without a notification, unless a raise is midway. -/
  notified : (run moves).IsQuiet → (run moves).lobby.signal.raised = true →
    .parked false ∉ (run moves).lobby.seats
  /-- Each of those who were served had a raise of its own, and so has the flag. -/
  served : (run moves).lobby.served + (run moves).flag ≤ moves.count .raise
  /-- No step of somebody who gave up touched the signal. -/
  gone (before after : List Move) (move : Move) (i : Nat) (hmoves : moves = before ++ move :: after)
    (hmove : move.seat? = some i) (hgone : (run moves).lobby.seats[i]? = some .gone) :
    (run (before ++ [move])).lobby.signal = (run before).lobby.signal
  /-- Whoever goes on settles, within so many steps. -/
  settles : ∃ more, (run moves).IsBrisk more ∧ (run (moves ++ more)).IsSettled
  brisk (more : List Move) (hmore : (run moves).IsBrisk more) : more.length ≤ (run moves).effort
  /-- Where nobody has anything to do, nobody waits under the flag. -/
  settled : (run moves).IsSettled → (run moves).lobby.signal.raised = true →
    (run moves).lobby.waiting = 0
  /-- If no raise was midway, then settling under the flag serves one of those who wait, however
  many raises there were. -/
  serves (more : List Move) (hquiet : (run moves).IsQuiet)
    (hraised : (run moves).lobby.signal.raised = true) (hwaiting : 0 < (run moves).lobby.waiting)
    (hmore : ∀ move ∈ more, move.isOnward) (hsettled : (run (moves ++ more)).IsSettled) :
    (run moves).lobby.ServesOne (run (moves ++ more)).lobby

/-- No wake-up is lost, and none is granted twice. -/
theorem orderly (moves : List Move) : Orderly moves where
  raises := raises_run moves
  notified := (sound_run moves).notified_of_isQuiet
  served := by
    rw [← raises_run]
    exact Nat.le_trans (Nat.le_add_right _ _) (sound_run moves).balance
  gone before after move i hmoves hmove hgone := signal_of_gone hmove (hmoves ▸ hgone)
  settles := by
    obtain ⟨more, hbrisk, hsettled⟩ := exists_isSettled (run moves)
    exact ⟨more, hbrisk, run_append moves more ▸ hsettled⟩
  brisk more hmore := hmore.length_le
  settled hsettled hraised := by
    obtain ⟨hquiet, hrest⟩ := isSettled_iff.mp hsettled
    have hparked := (sound_run moves).notified_of_isQuiet hquiet hraised
    refine List.countP_eq_zero.mpr fun seat hseat hwaits ↦ hparked ?_
    rw [← Seat.rest_eq_parked_iff.mpr hwaits, hrest seat hseat]
    exact hseat
  serves more hquiet hraised hwaiting hmore hsettled := by
    have hparked := (sound_run moves).notified_of_isQuiet hquiet hraised
    rw [run_append] at hsettled ⊢
    exact servesOne_foldl hquiet hraised hparked hwaiting hmore hsettled

/-- Three park, the last of them gives up, and two raises run into each other: one is served, the
other parks again, and the second raise is spent. -/
theorem orderly_rush :
    let moves : List Move := [.enter, .enter, .enter, .register 0, .look 0, .register 1, .look 1,
      .register 2, .look 2, .raise, .cancel 2, .raise, .setFlag 1, .notifyAll 1, .setFlag 0,
      .notifyAll 0]
    let more : List Move := [.register 0, .register 1, .look 1, .look 0]
    ((run moves).IsQuiet ∧ (run moves).lobby.signal = ⟨true, 2⟩ ∧ (run moves).lobby.waiting = 2) ∧
      (run moves).lobby.ServesOne (run (moves ++ more)).lobby ∧
        (run (moves ++ more)).lobby = ⟨⟨false, 2⟩, [.parked false, .served, .gone]⟩ := by
  intro moves more
  have hquiet : (run moves).IsQuiet := by decide
  exact ⟨⟨hquiet, by decide, by decide⟩,
    (orderly moves).serves more hquiet (by decide) (by decide) (by decide) (by decide), by decide⟩

end Crowd

end ReviewDesk.Wake
