import Mathlib.Data.List.Induction
import ReviewDesk.Signal.Wake

/-!
A wake signal in a crowd. Any number of raises are under way at once, each of them counted, then
visible in the flag, then told to everybody who is registered; between any two of these steps others
may raise, clear, wait or give up. Whatever the order, two things are kept (`sound_run`). The flag is
never up over somebody who parks without a notification, unless a raise is still about to tell; and
whoever was served, with the flag that is up, is matched by a raise of its own.
-/

set_option autoImplicit false
set_option relaxedAutoImplicit false

namespace ReviewDesk.Wake

theorem count_set {α : Type} [DecidableEq α] {l : List α} {i : Nat} {old : α} (h : l[i]? = some old)
    (new x : α) :
    (l.set i new).count x + (if old = x then 1 else 0) = l.count x + if new = x then 1 else 0 := by
  obtain ⟨hi, rfl⟩ := List.getElem?_eq_some_iff.mp h
  have hcounted : (if l[i] = x then 1 else 0) ≤ l.count x := by
    split
    · rename_i heq
      exact List.count_pos_iff.mpr (heq ▸ List.getElem_mem hi)
    · exact Nat.zero_le _
  simp only [List.count_set hi, beq_iff_eq]
  omega

/-- Everybody who parks is told of a raise. -/
theorem parked_notMem_map_notify (seats : List Seat) : .parked false ∉ seats.map Seat.notify := by
  rw [List.mem_map]
  rintro ⟨seat, -, hseat⟩
  cases seat <;> cases hseat

/-! ### One seat at a time -/

namespace Lobby

variable (l : Lobby) (i : Nat)

/-- Whoever registers has just come, or has been notified. -/
theorem register_cases :
    l.register i = l ∨
      (l.seats[i]? = some .arriving ∨ l.seats[i]? = some (.parked true)) ∧
        l.register i = { l with seats := l.seats.set i (.looking false) } := by
  rw [register]
  split
  · exact Or.inr ⟨Or.inl ‹_›, rfl⟩
  · exact Or.inr ⟨Or.inr ‹_›, rfl⟩
  · exact Or.inl rfl

/-- Whoever looks takes the flag or parks. -/
theorem look_cases :
    l.look i = l ∨ ∃ notified, l.seats[i]? = some (.looking notified) ∧
      (l.signal.raised = true ∧ l.look i = ⟨l.signal.clear, l.seats.set i .served⟩ ∨
        l.signal.raised = false ∧
          l.look i = { l with seats := l.seats.set i (.parked notified) }) := by
  rw [look]
  split
  · rename_i notified hseat
    refine Or.inr ⟨notified, hseat, ?_⟩
    cases hraised : l.signal.raised
    · exact Or.inr ⟨rfl, rfl⟩
    · exact Or.inl ⟨rfl, rfl⟩
  · exact Or.inl rfl

/-- Whoever has been served cannot give up any more. -/
theorem cancel_cases :
    l.cancel i = l ∨ ∃ seat, l.seats[i]? = some seat ∧ seat ≠ .served ∧
      l.cancel i = { l with seats := l.seats.set i .gone } := by
  rw [cancel]
  split
  · exact Or.inl rfl
  · exact Or.inl rfl
  · rename_i seat hserved hseat
    exact Or.inr ⟨seat, hseat, hserved, rfl⟩

theorem signal_register : (l.register i).signal = l.signal := by
  rcases l.register_cases i with hsame | ⟨-, hnew⟩
  · rw [hsame]
  · rw [hnew]

theorem signal_cancel : (l.cancel i).signal = l.signal := by
  rcases l.cancel_cases i with hsame | ⟨seat, -, -, hnew⟩
  · rw [hsame]
  · rw [hnew]

/-- Whoever looks leaves the signal alone or is served. -/
theorem signal_look :
    (l.look i).signal = l.signal ∨
      (l.look i).signal = l.signal.clear ∧ (l.look i).seats[i]? = some .served := by
  rcases l.look_cases i with hsame | ⟨notified, hseat, ⟨-, hnew⟩ | ⟨-, hnew⟩⟩
  · exact Or.inl (by rw [hsame])
  · rw [hnew]
    exact Or.inr ⟨rfl, List.getElem?_set_self (List.getElem?_eq_some_iff.mp hseat).1⟩
  · exact Or.inl (by rw [hnew])

end Lobby

/-! ### The crowd -/

/-- How far a raise has come. -/
inductive Stage where
  | counted
  /-- The flag is set, but nobody has been told. -/
  | flagged
  | made
  deriving DecidableEq

/-- A lobby, and all raises that were begun. -/
structure Crowd where
  lobby : Lobby := {}
  raises : List Stage := []
  deriving DecidableEq

namespace Crowd

/-- A step that no other can interrupt. -/
inductive Move where
  /-- A raise begins, and is counted. -/
  | raise
  | setFlag (j : Nat)
  | notifyAll (j : Nat)
  | clear
  | enter
  | register (i : Nat)
  | look (i : Nat)
  | cancel (i : Nat)
  deriving DecidableEq

/-- A step that is nobody's turn changes nothing. -/
def step (c : Crowd) : Move → Crowd
  | .raise => ⟨c.lobby.count, c.raises ++ [.counted]⟩
  | .setFlag j =>
    if c.raises[j]? = some .counted then ⟨c.lobby.setFlag, c.raises.set j .flagged⟩ else c
  | .notifyAll j =>
    if c.raises[j]? = some .flagged then ⟨c.lobby.notifyAll, c.raises.set j .made⟩ else c
  | .clear => { c with lobby := c.lobby.clear }
  | .enter => { c with lobby := c.lobby.enter }
  | .register i => { c with lobby := c.lobby.register i }
  | .look i => { c with lobby := c.lobby.look i }
  | .cancel i => { c with lobby := c.lobby.cancel i }

def run (moves : List Move) : Crowd := moves.foldl step {}

theorem run_append (moves more : List Move) : run (moves ++ more) = more.foldl step (run moves) :=
  List.foldl_append

theorem run_snoc (moves : List Move) (move : Move) :
    run (moves ++ [move]) = (run moves).step move :=
  run_append moves [move]

/-- No raise is midway. -/
def IsQuiet (c : Crowd) : Prop := ∀ stage ∈ c.raises, stage = .made

instance : DecidablePred IsQuiet := fun c ↦
  inferInstanceAs (Decidable (∀ stage ∈ c.raises, stage = .made))

/-- One for the flag, if it is up. -/
def flag (c : Crowd) : Nat := if c.lobby.signal.raised then 1 else 0

structure Sound (c : Crowd) : Prop where
  /-- Nobody parks under the flag without a notification, unless a raise is about to tell. -/
  notified : c.lobby.signal.raised = true → .flagged ∈ c.raises ∨ .parked false ∉ c.lobby.seats
  balance : c.lobby.served + c.flag + c.raises.count .counted ≤ c.lobby.signal.raises
  length : c.raises.length = c.lobby.signal.raises

section Step

variable {c : Crowd} (h : Sound c)
include h

/-- What happens in a seat keeps the balance unless it serves, and parks nobody under the flag. -/
theorem Sound.seat {i : Nat} {old new : Seat} (hseat : c.lobby.seats[i]? = some old)
    (hold : old ≠ .served) (hnew : new ≠ .served)
    (hparks : c.lobby.signal.raised = true → new ≠ .parked false) :
    Sound { c with lobby := { c.lobby with seats := c.lobby.seats.set i new } } where
  notified hraised := (h.notified hraised).imp_right fun hparked hmem ↦
    (List.mem_or_eq_of_mem_set hmem).elim hparked fun heq ↦ hparks hraised heq.symm
  balance := by
    have hcount := count_set hseat new .served
    rw [if_neg hold, if_neg hnew] at hcount
    have hserved : c.lobby.served = (c.lobby.seats.set i new).count .served := hcount.symm
    have hbalance := h.balance
    rw [hserved] at hbalance
    exact hbalance
  length := h.length

theorem Sound.raise : Sound (c.step .raise) where
  notified hraised := (h.notified hraised).imp_left (List.mem_append_left _)
  balance := by
    have hcount : (c.raises ++ [Stage.counted]).count .counted = c.raises.count .counted + 1 := by
      rw [List.count_append, List.count_singleton_self]
    calc c.lobby.served + c.flag + (c.raises ++ [Stage.counted]).count .counted
        = c.lobby.served + c.flag + c.raises.count .counted + 1 := by rw [hcount]; rfl
      _ ≤ c.lobby.signal.raises + 1 := Nat.succ_le_succ h.balance
  length := by
    rw [step, List.length_append, h.length]
    rfl

theorem Sound.setFlag (j : Nat) : Sound (c.step (.setFlag j)) := by
  rw [step]
  split
  · rename_i hcounted
    have hj : j < c.raises.length := (List.getElem?_eq_some_iff.mp hcounted).1
    have hcount := count_set hcounted .flagged .counted
    rw [if_pos rfl, if_neg (by decide)] at hcount
    refine ⟨fun _ ↦ Or.inl (List.mem_set hj _), ?_, (List.length_set ..).trans h.length⟩
    -- What was counted and not yet visible now shows in the flag.
    calc c.lobby.served + 1 + (c.raises.set j .flagged).count .counted
        = c.lobby.served + c.raises.count .counted := by omega
      _ ≤ c.lobby.served + c.flag + c.raises.count .counted := by omega
      _ ≤ c.lobby.signal.raises := h.balance
  · exact h

theorem Sound.notifyAll (j : Nat) : Sound (c.step (.notifyAll j)) := by
  rw [step]
  split
  · rename_i hflagged
    have hcount := count_set hflagged .made .counted
    rw [if_neg (by decide), if_neg (by decide)] at hcount
    have hserved : (c.lobby.seats.map Seat.notify).count .served = c.lobby.served := by
      rw [List.count, List.countP_map]
      refine List.countP_congr fun seat _ ↦ ?_
      cases seat <;> simp [Seat.notify]
    refine ⟨fun _ ↦ Or.inr (parked_notMem_map_notify _), ?_, (List.length_set ..).trans h.length⟩
    calc (c.lobby.seats.map Seat.notify).count .served + c.flag +
          (c.raises.set j .made).count .counted
        = c.lobby.served + c.flag + c.raises.count .counted := by rw [hserved]; omega
      _ ≤ c.lobby.signal.raises := h.balance
  · exact h

theorem Sound.clear : Sound (c.step .clear) where
  notified := nofun
  balance := calc
    c.lobby.served + 0 + c.raises.count .counted
      ≤ c.lobby.served + c.flag + c.raises.count .counted := by omega
    _ ≤ c.lobby.signal.raises := h.balance
  length := h.length

theorem Sound.enter : Sound (c.step .enter) where
  notified hraised := (h.notified hraised).imp_right fun hparked ↦ by
    simpa [step, Lobby.enter] using hparked
  balance := by
    have hserved : (c.lobby.seats ++ [Seat.arriving]).count .served = c.lobby.served := by
      simp [Lobby.served]
    calc (c.lobby.seats ++ [Seat.arriving]).count .served + c.flag + c.raises.count .counted
        = c.lobby.served + c.flag + c.raises.count .counted := by rw [hserved]
      _ ≤ c.lobby.signal.raises := h.balance
  length := h.length

theorem Sound.register (i : Nat) : Sound (c.step (.register i)) := by
  rw [step]
  rcases c.lobby.register_cases i with hsame | ⟨hseat, hnew⟩
  · rwa [hsame]
  · rw [hnew]
    rcases hseat with hseat | hseat <;> exact h.seat hseat nofun nofun nofun

theorem Sound.look (i : Nat) : Sound (c.step (.look i)) := by
  rw [step]
  rcases c.lobby.look_cases i with hsame | ⟨notified, hseat, ⟨hraised, hnew⟩ | ⟨hdown, hnew⟩⟩
  · rwa [hsame]
  · rw [hnew]
    have hcount := count_set hseat .served .served
    rw [if_neg nofun, if_pos rfl] at hcount
    have hflag : c.flag = 1 := if_pos hraised
    refine ⟨nofun, ?_, h.length⟩
    -- Whoever is served takes the place of the flag.
    calc (c.lobby.seats.set i .served).count .served + 0 + c.raises.count .counted
        = c.lobby.served + c.flag + c.raises.count .counted := by
          rw [hflag]
          exact congrArg (· + _) hcount
      _ ≤ c.lobby.signal.raises := h.balance
  · rw [hnew]
    exact h.seat hseat nofun nofun fun hup ↦ by rw [hdown] at hup; cases hup

theorem Sound.cancel (i : Nat) : Sound (c.step (.cancel i)) := by
  rw [step]
  rcases c.lobby.cancel_cases i with hsame | ⟨seat, hseat, hserved, hnew⟩
  · rwa [hsame]
  · rw [hnew]
    exact h.seat hseat hserved nofun nofun

theorem Sound.step (move : Move) : Sound (c.step move) := by
  cases move with
  | raise => exact h.raise
  | setFlag j => exact h.setFlag j
  | notifyAll j => exact h.notifyAll j
  | clear => exact h.clear
  | enter => exact h.enter
  | register i => exact h.register i
  | look i => exact h.look i
  | cancel i => exact h.cancel i

end Step

theorem sound_run (moves : List Move) : Sound (run moves) := by
  induction moves using List.reverseRecOn with
  | nil => exact ⟨nofun, Nat.le_refl 0, rfl⟩
  | append_singleton moves move ih =>
    rw [run_snoc]
    exact ih.step move

/-- Raises are counted one by one. -/
theorem raises_run (moves : List Move) :
    (run moves).lobby.signal.raises = moves.count .raise := by
  induction moves using List.reverseRecOn with
  | nil => rfl
  | append_singleton moves move ih =>
    rw [run_snoc, List.count_append, ← ih]
    cases move with
    | raise => rfl
    | setFlag j => rw [step]; split <;> rfl
    | notifyAll j => rw [step]; split <;> rfl
    | clear => rfl
    | enter => rfl
    | register i => rw [step, Lobby.signal_register]; rfl
    | look i =>
      rw [step]
      rcases (run moves).lobby.signal_look i with hsame | ⟨hclear, -⟩
      · rw [hsame]; rfl
      · rw [hclear]; rfl
    | cancel i => rw [step, Lobby.signal_cancel]; rfl

/-! ### Giving up -/

/-- Whose step it is, if it is a step of somebody who waits. -/
def Move.seat? : Move → Option Nat
  | .register i | .look i | .cancel i => some i
  | _ => none

theorem getElem?_set_of_served {seats : List Seat} {i k : Nat} {old : Seat}
    (h : seats[i]? = some .served) (hseat : seats[k]? = some old) (hold : old ≠ .served)
    (new : Seat) : (seats.set k new)[i]? = some .served := by
  have hne : k ≠ i := by
    rintro rfl
    exact hold (Option.some.inj (hseat.symm.trans h))
  rw [List.getElem?_set_ne hne, h]

/-- Who has been served stays served. -/
theorem served_step {c : Crowd} {i : Nat} (h : c.lobby.seats[i]? = some .served) (move : Move) :
    (c.step move).lobby.seats[i]? = some .served := by
  cases move with
  | raise => exact h
  | setFlag j => rw [step]; split <;> exact h
  | notifyAll j =>
    rw [step]
    split
    · exact (List.getElem?_map ..).trans (congrArg (Option.map Seat.notify) h)
    · exact h
  | clear => exact h
  | enter => exact (List.getElem?_append_left (List.getElem?_eq_some_iff.mp h).1).trans h
  | register k =>
    rw [step]
    rcases c.lobby.register_cases k with hsame | ⟨hseat, hnew⟩
    · rwa [hsame]
    · rw [hnew]
      rcases hseat with hseat | hseat <;> exact getElem?_set_of_served h hseat nofun _
  | look k =>
    rw [step]
    rcases c.lobby.look_cases k with hsame | ⟨notified, hseat, ⟨-, hnew⟩ | ⟨-, hnew⟩⟩
    · rwa [hsame]
    · rw [hnew]
      exact getElem?_set_of_served h hseat nofun _
    · rw [hnew]
      exact getElem?_set_of_served h hseat nofun _
  | cancel k =>
    rw [step]
    rcases c.lobby.cancel_cases k with hsame | ⟨seat, hseat, hold, hnew⟩
    · rwa [hsame]
    · rw [hnew]
      exact getElem?_set_of_served h hseat hold _

theorem served_foldl {c : Crowd} {i : Nat} (h : c.lobby.seats[i]? = some .served)
    (moves : List Move) : (moves.foldl step c).lobby.seats[i]? = some .served := by
  induction moves generalizing c with
  | nil => exact h
  | cons move moves ih => exact ih (served_step h move)

/-- Somebody who waits leaves the signal alone or is served. -/
theorem signal_step_of_seat {c : Crowd} {move : Move} {i : Nat} (h : move.seat? = some i) :
    (c.step move).lobby.signal = c.lobby.signal ∨
      (c.step move).lobby.seats[i]? = some .served := by
  cases move with
  | register k => exact Or.inl (c.lobby.signal_register k)
  | look k =>
    obtain rfl := Option.some.inj h
    exact (c.lobby.signal_look k).imp_right And.right
  | cancel k => exact Or.inl (c.lobby.signal_cancel k)
  | _ => cases h

/-- Whoever has given up in the end never took the flag down. -/
theorem signal_of_gone {before after : List Move} {move : Move} {i : Nat}
    (h : move.seat? = some i)
    (hgone : (run (before ++ move :: after)).lobby.seats[i]? = some .gone) :
    (run (before ++ [move])).lobby.signal = (run before).lobby.signal := by
  rw [run_snoc]
  rcases signal_step_of_seat h with hsame | hserved
  · exact hsame
  · rw [run_append, List.foldl_cons, served_foldl hserved after] at hgone
    cases hgone

end Crowd

end ReviewDesk.Wake
