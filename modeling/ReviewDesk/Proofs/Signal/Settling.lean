import Mathlib.Algebra.GroupWithZero.Nat
import ReviewDesk.Proofs.Signal.Crowd

/-!
How a wake signal settles. Left to themselves, the raises that are under way and those who wait make
only so many steps (`effort_step_lt`), and then nobody has anything to do. If no raise was midway and
the flag was up over anybody who waited, then by that time, whatever the order, one of them has been
served, the others park, and the flag is down (`settling_foldl`).
-/

set_option autoImplicit false
set_option relaxedAutoImplicit false

namespace ReviewDesk.Wake

namespace Seat

def waits : Seat → Bool
  | arriving | looking _ | parked _ => true
  | served | gone => false

/-- A seat as it is left when nothing comes of the wait for now. -/
def rest : Seat → Seat
  | arriving | looking _ | parked _ => parked false
  | seat => seat

/-- How many steps are to be made in a seat, at most, until it is at rest. -/
def effort : Seat → Nat
  | arriving | parked true => 2
  | looking notified => if notified then 3 else 1
  | parked false | served | gone => 0

theorem rest_eq_parked_iff {seat : Seat} : seat.rest = .parked false ↔ seat.waits = true := by
  cases seat <;> simp [rest, waits]

theorem rest_eq_served_iff {seat : Seat} : seat.rest = .served ↔ seat = .served := by
  cases seat <;> simp [rest]

theorem effort_notify_le (seat : Seat) : seat.notify.effort ≤ seat.effort + 2 := by
  cases seat with
  | looking notified => cases notified <;> decide
  | parked notified => cases notified <;> decide
  | _ => decide

end Seat

theorem sum_map_set {α : Type} (f : α → Nat) {l : List α} {i : Nat} {old : α} (h : l[i]? = some old)
    (new : α) : ((l.set i new).map f).sum + f old = (l.map f).sum + f new := by
  induction l generalizing i with
  | nil => cases h
  | cons head rest ih =>
    cases i with
    | zero =>
      obtain rfl : head = old := Option.some.inj h
      simp only [List.set_cons_zero, List.map_cons, List.sum_cons]
      omega
    | succ i =>
      have hrest := ih h
      simp only [List.set_cons_succ, List.map_cons, List.sum_cons]
      omega

theorem sum_effort_notify_le (seats : List Seat) :
    ((seats.map Seat.notify).map Seat.effort).sum ≤
      (seats.map Seat.effort).sum + 2 * seats.length := by
  induction seats with
  | nil => exact Nat.le_refl 0
  | cons seat seats ih =>
    have hseat := seat.effort_notify_le
    simp only [List.map_cons, List.sum_cons, List.length_cons]
    omega

namespace Lobby

/-- Who waits, who has been served and who has given up. -/
def outline (l : Lobby) : List Seat := l.seats.map Seat.rest

theorem isWaiting_iff {l : Lobby} {i : Nat} :
    l.isWaiting i ↔ l.outline[i]? = some (.parked false) := by
  rw [isWaiting, outline, List.getElem?_map]
  cases l.seats[i]? with
  | none => exact ⟨nofun, nofun⟩
  | some seat => cases seat <;> simp [Seat.rest]

/-- Whoever goes on waiting leaves the outline as it is. -/
theorem outline_set {l : Lobby} {i : Nat} {old new : Seat} (hseat : l.seats[i]? = some old)
    (hrest : new.rest = old.rest) : outline { l with seats := l.seats.set i new } = l.outline := by
  obtain ⟨hi, rfl⟩ := List.getElem?_eq_some_iff.mp hseat
  rw [outline, List.map_set, hrest, ← List.getElem_map Seat.rest, List.set_getElem_self]
  · rfl
  · rwa [List.length_map]

end Lobby

namespace Crowd

/-- Whether a step belongs to a call that is under way, so that it is made sooner or later. -/
def Move.isOnward : Move → Bool
  | .setFlag _ | .notifyAll _ | .register _ | .look _ => true
  | .raise | .clear | .enter | .cancel _ => false

/-- Nobody has anything to do. -/
def IsSettled (c : Crowd) : Prop := ∀ move : Move, move.isOnward → c.step move = c

/-- How many steps a raise is worth, with so many seats to tell. -/
def Stage.effort (seats : Nat) : Stage → Nat
  | .counted => 2 * seats + 2
  | .flagged => 2 * seats + 1
  | .made => 0

/-- How many steps are left until a crowd has settled, at most. -/
def effort (c : Crowd) : Nat :=
  (c.lobby.seats.map Seat.effort).sum + (c.raises.map (Stage.effort c.lobby.seats.length)).sum

theorem set_ne {α : Type} {l : List α} {i : Nat} {old new : α} (h : l[i]? = some old)
    (hne : new ≠ old) : l.set i new ≠ l := by
  intro heq
  have hnew := List.getElem?_set_self (a := new) (List.getElem?_eq_some_iff.mp h).1
  rw [heq, h] at hnew
  exact hne (Option.some.inj hnew).symm

theorem IsQuiet.setFlag {c : Crowd} (h : c.IsQuiet) (j : Nat) : c.step (.setFlag j) = c := by
  rw [step]
  split
  · rename_i hcounted
    cases h _ (List.mem_of_getElem? hcounted)
  · rfl

theorem IsQuiet.notifyAll {c : Crowd} (h : c.IsQuiet) (j : Nat) : c.step (.notifyAll j) = c := by
  rw [step]
  split
  · rename_i hflagged
    cases h _ (List.mem_of_getElem? hflagged)
  · rfl

theorem IsSettled.isQuiet {c : Crowd} (h : c.IsSettled) : c.IsQuiet := by
  intro stage hstage
  obtain ⟨j, hj⟩ := List.getElem?_of_mem hstage
  cases stage with
  | counted =>
    have hstep := h (.setFlag j) rfl
    rw [step, if_pos hj] at hstep
    exact absurd (congrArg raises hstep) (set_ne hj (by decide))
  | flagged =>
    have hstep := h (.notifyAll j) rfl
    rw [step, if_pos hj] at hstep
    exact absurd (congrArg raises hstep) (set_ne hj (by decide))
  | made => rfl

theorem IsSettled.rest_eq {c : Crowd} (h : c.IsSettled) {seat : Seat} (hseat : seat ∈ c.lobby.seats) :
    seat.rest = seat := by
  obtain ⟨i, hi⟩ := List.getElem?_of_mem hseat
  have hregister := congrArg (·.lobby.seats) (h (.register i) rfl)
  have hlook := congrArg (·.lobby.seats) (h (.look i) rfl)
  simp only [step, Lobby.register, Lobby.look, hi] at hregister hlook
  cases seat with
  | arriving => exact absurd hregister (set_ne hi (by decide))
  | looking notified =>
    cases hraised : c.lobby.signal.raised <;> simp only [hraised] at hlook
    · exact absurd hlook (set_ne hi (by simp))
    · exact absurd hlook (set_ne hi (by simp))
  | parked notified =>
    cases notified
    · rfl
    · exact absurd hregister (set_ne hi (by decide))
  | served => rfl
  | gone => rfl

/-- Nobody has anything to do once all raises are made and everybody is at rest. -/
theorem isSettled_iff {c : Crowd} :
    c.IsSettled ↔ c.IsQuiet ∧ ∀ seat ∈ c.lobby.seats, seat.rest = seat := by
  refine ⟨fun h ↦ ⟨h.isQuiet, fun _ ↦ h.rest_eq⟩, ?_⟩
  rintro ⟨hquiet, hrest⟩ move honward
  cases move with
  | setFlag j => exact hquiet.setFlag j
  | notifyAll j => exact hquiet.notifyAll j
  | register i =>
    rcases c.lobby.register_cases i with hsame | ⟨hi | hi, -⟩
    · rw [step, hsame]
    · exact absurd (hrest _ (List.mem_of_getElem? hi)) (by decide)
    · exact absurd (hrest _ (List.mem_of_getElem? hi)) (by decide)
  | look i =>
    rcases c.lobby.look_cases i with hsame | ⟨notified, hi, -⟩
    · rw [step, hsame]
    · exact absurd (hrest _ (List.mem_of_getElem? hi)) (by simp [Seat.rest])
  | _ => cases honward

instance : DecidablePred IsSettled := fun _ ↦ decidable_of_iff _ isSettled_iff.symm

/-! ### Only so many steps -/

/-- What changes in one seat shows in the effort. -/
theorem effort_set_lt {l : Lobby} {i : Nat} {old new : Seat} (h : l.seats[i]? = some old)
    (hlt : new.effort < old.effort) (signal : Wake) (raises : List Stage) :
    effort ⟨⟨signal, l.seats.set i new⟩, raises⟩ < effort ⟨l, raises⟩ := by
  have hsum := sum_map_set Seat.effort h new
  simp only [effort, List.length_set]
  omega

/-- A step of a call that is under way brings the crowd closer to where it settles. -/
theorem effort_step_lt {c : Crowd} {move : Move} (honward : move.isOnward)
    (hne : c.step move ≠ c) : (c.step move).effort < c.effort := by
  cases move with
  | setFlag j =>
    rw [step] at hne ⊢
    split at hne
    · rename_i hcounted
      have hsum := sum_map_set (Stage.effort c.lobby.seats.length) hcounted .flagged
      rw [if_pos hcounted]
      simp only [Stage.effort] at hsum
      simp only [effort, Lobby.setFlag]
      omega
    · exact absurd rfl hne
  | notifyAll j =>
    rw [step] at hne ⊢
    split at hne
    · rename_i hflagged
      have hsum := sum_map_set (Stage.effort c.lobby.seats.length) hflagged .made
      have htold := sum_effort_notify_le c.lobby.seats
      rw [if_pos hflagged]
      -- Being told costs each seat at most two steps, and the raise gives up one more than all that.
      simp only [Stage.effort] at hsum
      simp only [effort, Lobby.notifyAll, List.length_map]
      omega
    · exact absurd rfl hne
  | register i =>
    rw [step] at hne ⊢
    rcases c.lobby.register_cases i with hsame | ⟨hseat, hnew⟩
    · exact absurd (by rw [hsame]) hne
    · rw [hnew]
      rcases hseat with hseat | hseat <;> exact effort_set_lt hseat (by decide) _ _
  | look i =>
    rw [step] at hne ⊢
    rcases c.lobby.look_cases i with hsame | ⟨notified, hseat, ⟨-, hnew⟩ | ⟨-, hnew⟩⟩
    · exact absurd (by rw [hsame]) hne
    · rw [hnew]
      exact effort_set_lt hseat (by cases notified <;> decide) _ _
    · rw [hnew]
      exact effort_set_lt hseat (by cases notified <;> decide) _ _
  | _ => cases honward

/-- Steps of calls that are under way, each of them by somebody whose turn it is. -/
def IsBrisk : Crowd → List Move → Prop
  | _, [] => True
  | c, move :: moves => move.isOnward ∧ c.step move ≠ c ∧ (c.step move).IsBrisk moves

theorem IsBrisk.length_le {c : Crowd} {moves : List Move} (h : c.IsBrisk moves) :
    moves.length ≤ c.effort := by
  induction moves generalizing c with
  | nil => exact Nat.zero_le _
  | cons move moves ih => exact Nat.lt_of_le_of_lt (ih h.2.2) (effort_step_lt h.1 h.2.1)

theorem exists_isSettled (c : Crowd) :
    ∃ moves, c.IsBrisk moves ∧ IsSettled (moves.foldl step c) := by
  by_cases hsettled : c.IsSettled
  · exact ⟨[], trivial, hsettled⟩
  · simp only [IsSettled, not_forall] at hsettled
    obtain ⟨move, honward, hne⟩ := hsettled
    have hlt := effort_step_lt honward hne
    obtain ⟨moves, hbrisk, hend⟩ := exists_isSettled (c.step move)
    exact ⟨move :: moves, ⟨honward, hne, hbrisk⟩, hend⟩
termination_by c.effort

/-! ### Under the flag -/

/-- How far a lobby has come that settles from a start at which the flag was up. -/
inductive Settling (start : Lobby) (l : Lobby) : Prop where
  /-- The flag is still up, and nobody parks without a notification. -/
  | up (hsignal : l.signal = start.signal) (houtline : l.outline = start.outline)
      (hparked : .parked false ∉ l.seats)
  /-- One of those who waited took the flag, and the others still wait. -/
  | taken (i : Nat) (hwaits : start.isWaiting i) (hsignal : l.signal = start.signal.clear)
      (houtline : l.outline = start.outline.set i .served)

namespace Settling

variable {start : Lobby} {l : Lobby} {i : Nat}

theorem register (h : Settling start l) (i : Nat) : Settling start (l.register i) := by
  rcases l.register_cases i with hsame | ⟨hseat, hnew⟩
  · rwa [hsame]
  · have houtline : (l.register i).outline = l.outline := by
      rw [hnew]
      rcases hseat with hseat | hseat <;> exact Lobby.outline_set hseat rfl
    cases h with
    | up hsignal hstart hparked =>
      refine .up ((l.signal_register i).trans hsignal) (houtline.trans hstart) fun hmem ↦ ?_
      rw [hnew] at hmem
      exact (List.mem_or_eq_of_mem_set hmem).elim hparked nofun
    | taken k hwaits hsignal hstart =>
      exact .taken k hwaits ((l.signal_register i).trans hsignal) (houtline.trans hstart)

/-- The first to look takes the flag; whoever looks after that parks. -/
theorem look (h : Settling start l) (hup : start.signal.raised = true) (i : Nat) :
    Settling start (l.look i) := by
  rcases l.look_cases i with hsame | ⟨notified, hseat, ⟨hraised, hnew⟩ | ⟨hdown, hnew⟩⟩
  · rwa [hsame]
  · rw [hnew]
    cases h with
    | up hsignal hstart hparked =>
      have hwaits : start.isWaiting i := by
        rw [Lobby.isWaiting_iff, ← hstart, Lobby.outline, List.getElem?_map, hseat]
        rfl
      refine .taken i hwaits (congrArg Wake.clear hsignal) ?_
      rw [← hstart]
      exact List.map_set
    | taken k hwaits hsignal hstart =>
      rw [hsignal] at hraised
      cases hraised
  · rw [hnew]
    cases h with
    | up hsignal hstart hparked =>
      rw [hsignal, hup] at hdown
      cases hdown
    | taken k hwaits hsignal hstart =>
      refine .taken k hwaits hsignal ?_
      rw [← hstart]
      exact Lobby.outline_set hseat rfl

end Settling

section

variable {start c : Crowd}

/-- While no raise is midway, the steps that are left are those of who waits. -/
theorem settling_step (h : Settling start.lobby c.lobby) (hup : start.lobby.signal.raised = true)
    (hquiet : c.IsQuiet) {move : Move} (honward : move.isOnward) :
    Settling start.lobby (c.step move).lobby ∧ (c.step move).IsQuiet := by
  cases move with
  | setFlag j => rw [hquiet.setFlag]; exact ⟨h, hquiet⟩
  | notifyAll j => rw [hquiet.notifyAll]; exact ⟨h, hquiet⟩
  | register i => exact ⟨h.register i, hquiet⟩
  | look i => exact ⟨h.look hup i, hquiet⟩
  | _ => cases honward

theorem settling_foldl (h : Settling start.lobby c.lobby) (hup : start.lobby.signal.raised = true)
    (hquiet : c.IsQuiet) {moves : List Move} (honward : ∀ move ∈ moves, move.isOnward) :
    Settling start.lobby (moves.foldl step c).lobby := by
  induction moves generalizing c with
  | nil => exact h
  | cons move moves ih =>
    obtain ⟨hmove, hmoves⟩ := List.forall_mem_cons.mp honward
    obtain ⟨hstep, hstill⟩ := settling_step h hup hquiet hmove
    exact ih hstep hstill hmoves

/-- Once everything has settled under the flag, one of those who waited has been served, and the
others park. -/
theorem lobby_of_isSettled (h : Settling start.lobby c.lobby) (hsettled : c.IsSettled) {k : Nat}
    (hk : start.lobby.isWaiting k) :
    ∃ i, start.lobby.isWaiting i ∧
      c.lobby = ⟨start.lobby.signal.clear, start.lobby.outline.set i .served⟩ := by
  have hseats : c.lobby.outline = c.lobby.seats :=
    (List.map_congr_left fun _ ↦ hsettled.rest_eq).trans (List.map_id _)
  cases h with
  | up hsignal hstart hparked =>
    rw [Lobby.isWaiting_iff, ← hstart, hseats] at hk
    exact absurd (List.mem_of_getElem? hk) hparked
  | taken i hwaits hsignal hstart =>
    refine ⟨i, hwaits, ?_⟩
    rw [← hsignal, ← hstart, hseats]

end

end Crowd

end ReviewDesk.Wake
