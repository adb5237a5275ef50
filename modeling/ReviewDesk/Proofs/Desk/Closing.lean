import ReviewDesk.Proofs.Desk.Answered
import ReviewDesk.Proofs.Desk.Waning

/-!
After a stop nothing new starts. Whatever happens afterwards and in whatever order, no subscribe, no
pass and no command begins; a loop that is in the middle of nothing ends with its next turn and leaves
everything outside as it is, and commands get no answer but a refusal, save the one that is being
served (`closing_of_start`). A subscribe that was under way may still complete and raise both signals
once more, which changes nothing about this.
-/

set_option autoImplicit false
set_option relaxedAutoImplicit false

namespace ReviewDesk

namespace Shift

/-- Something begins from one moment to the next. -/
inductive Begins (s s' : Shift) : Prop
  /-- An attempt to subscribe. -/
  | subscribe (before : s.desk.listener.phase = .starting)
      (after : s'.desk.listener.phase ≠ .starting) (running : s'.desk.listener.phase ≠ .ended)
  /-- A dispatch pass. -/
  | dispatch (before : s.dispatching = none) (after : s'.dispatching ≠ none)
  /-- A pass over the members, or a command. -/
  | access (before : s.accessing = none) (after : s'.accessing ≠ none)

/-- All that the loops leave behind outside is the same, and so is what is tracked. -/
structure Unmoved (s s' : Shift) : Prop where
  posts : s'.desk.outside.platform.posts = s.desk.outside.platform.posts
  membership : s'.desk.outside.platform.membership = s.desk.outside.platform.membership
  shelf : s'.desk.outside.store.shelf = s.desk.outside.store.shelf
  tracked : s'.desk.access.tracked = s.desk.access.tracked

theorem Wanes.not_begins {s s' : Shift} {asked : List Membership.Command} (h : Wanes s s' asked) :
    ¬Begins s s' := by
  rintro (⟨before, after, running⟩ | ⟨before, after⟩ | ⟨before, after⟩)
  · rcases h.listener with hsame | hended | ⟨⟨limit, hconnecting⟩, -⟩
    · exact after (hsame.trans before)
    · exact running hended
    · rw [before] at hconnecting
      cases hconnecting
  · obtain ⟨q, hq⟩ := Option.ne_none_iff_exists'.mp after
    obtain ⟨p, talk, hp, -⟩ := h.dispatching q hq
    rw [before] at hp
    cases hp
  · obtain ⟨e', he'⟩ := Option.ne_none_iff_exists'.mp after
    obtain ⟨e, he, -⟩ := h.accessing e' he'
    rw [before] at he
    cases he

/-- A loop that is in the middle of nothing stays so. -/
theorem Wanes.not_busy {s s' : Shift} {asked : List Membership.Command} (h : Wanes s s' asked)
    {loop : Loop} (idle : s.busy loop = false) : s'.busy loop = false := by
  rw [← Bool.not_eq_true] at idle ⊢
  intro hbusy
  apply idle
  cases loop with
  | listener =>
    obtain ⟨limit, hlimit⟩ := isConnecting_iff.mp hbusy
    rw [busy, isConnecting_iff]
    rcases h.listener with hsame | hended | ⟨hconnecting, -⟩
    · exact ⟨limit, hsame.symm.trans hlimit⟩
    · rw [hended] at hlimit
      cases hlimit
    · exact hconnecting
  | dispatch =>
    obtain ⟨q, hq⟩ := Option.isSome_iff_exists.mp hbusy
    obtain ⟨p, talk, hp, -⟩ := h.dispatching q hq
    exact Option.isSome_iff_exists.mpr ⟨p, hp⟩
  | access =>
    obtain ⟨e', he'⟩ := Option.isSome_iff_exists.mp hbusy
    obtain ⟨e, he, -⟩ := h.accessing e' he'
    exact Option.isSome_iff_exists.mpr ⟨e, he⟩

/-- A loop that has ended stays so. -/
theorem Wanes.not_isRunning {s s' : Shift} {asked : List Membership.Command}
    (h : Wanes s s' asked) {loop : Loop} (ended : s.desk.isRunning loop = false) :
    s'.desk.isRunning loop = false := by
  cases loop with
  | listener =>
    have hphase : s.desk.listener.phase = .ended := by simpa [Desk.isRunning] using ended
    have hphase' : s'.desk.listener.phase = .ended := by
      rcases h.listener with hsame | hended | ⟨⟨limit, hconnecting⟩, -⟩
      · exact hsame.trans hphase
      · exact hended
      · rw [hphase] at hconnecting
        cases hconnecting
    simpa [Desk.isRunning] using hphase'
  | dispatch =>
    have hphase : s.desk.dispatch.phase = .ended := by simpa [Desk.isRunning] using ended
    simpa [Desk.isRunning] using h.dispatch hphase
  | access => exact h.running ended

/-- After a stop the listener changes nothing but its stream. -/
theorem unmoved_listenerTurn {s : Shift} (stop : s.desk.stop.requested) :
    Unmoved s (s.turn .listener) := by
  rw [turn]
  by_cases connecting : isConnecting s.desk
  · rcases listenerStep_of_connecting connecting with hstep | hstep
    · rw [hstep]
      exact ⟨rfl, rfl, rfl, rfl⟩
    · rw [hstep]
      exact ⟨rfl, rfl, rfl, rfl⟩
  · rw [Bool.not_eq_true] at connecting
    obtain ⟨bus, hstep⟩ := listenerStep_of_stop stop connecting
    rw [hstep]
    exact ⟨rfl, rfl, rfl, rfl⟩

theorem unmoved_subscribed (s : Shift) : Unmoved s (s.move .subscribed) := by
  rw [move]
  split
  · rcases reach_cases s.desk with ⟨i, store, hshelf, hreach⟩ | ⟨store, hshelf, hreach⟩
    · rw [hreach]
      exact ⟨rfl, rfl, hshelf, rfl⟩
    · rw [hreach]
      exact ⟨rfl, rfl, hshelf, rfl⟩
  · exact ⟨rfl, rfl, rfl, rfl⟩

/-- A loop that is in the middle of nothing ends with its next turn, whatever it could do instead,
and leaves everything outside as it is. -/
theorem ends_turn {s : Shift} (stop : s.desk.stop.requested) {loop : Loop}
    (idle : s.busy loop = false) :
    (s.turn loop).desk.isRunning loop = false ∧ Unmoved s (s.turn loop) := by
  cases loop with
  | listener =>
    obtain ⟨bus, hstep⟩ := listenerStep_of_stop stop idle
    refine ⟨?_, unmoved_listenerTurn stop⟩
    rw [turn, hstep]
    rfl
  | dispatch =>
    rw [dispatchTurn_of_idle stop (by simpa [busy] using idle)]
    exact ⟨rfl, rfl, rfl, rfl, rfl⟩
  | access =>
    rw [accessTurn_of_idle stop (by simpa [busy] using idle)]
    split
    · exact ⟨rfl, rfl, rfl, rfl, rfl⟩
    · rename_i hrunning
      rw [Bool.not_eq_true] at hrunning
      exact ⟨hrunning, rfl, rfl, rfl, rfl⟩

theorem Unmoved.trans {s s' s'' : Shift} (h : Unmoved s s') (h' : Unmoved s' s'') : Unmoved s s'' :=
  ⟨h'.posts.trans h.posts, h'.membership.trans h.membership, h'.shelf.trans h.shelf,
    h'.tracked.trans h.tracked⟩

theorem unmoved_move {s : Shift} (stop : s.desk.stop.requested)
    (idle : ∀ loop ≠ .listener, s.busy loop = false) {m : Move} (foreign : m.isForeign = false) :
    Unmoved s (s.move m) := by
  cases m with
  | subscribed => exact unmoved_subscribed s
  | event event =>
    rw [move]
    cases event with
    | turn loop =>
      cases loop with
      | listener => exact unmoved_listenerTurn stop
      | dispatch => exact (ends_turn stop (idle .dispatch Loop.noConfusion)).2
      | access => exact (ends_turn stop (idle .access Loop.noConfusion)).2
    | enqueue item => cases foreign
    | adjust change => cases foreign
    | raise topic => cases topic <;> exact ⟨rfl, rfl, rfl, rfl⟩
    | command asked =>
      rw [step, command]
      split <;> exact ⟨rfl, rfl, rfl, rfl⟩
    | _ => exact ⟨rfl, rfl, rfl, rfl⟩

/-- Once neither a pass nor a command is under way, nothing outside changes but by others. -/
theorem unmoved_moves {s : Shift} (stop : s.desk.stop.requested) (sane : Sane s)
    (idle : ∀ loop ≠ .listener, s.busy loop = false) {list : List Move}
    (foreign : ∀ m ∈ list, m.isForeign = false) : Unmoved s (s.moves list) := by
  induction list generalizing s with
  | nil => exact ⟨rfl, rfl, rfl, rfl⟩
  | cons m list ih =>
    obtain ⟨hfirst, hrest⟩ := List.forall_mem_cons.mp foreign
    have hwanes := wanes_move stop sane m
    exact (unmoved_move stop idle hfirst).trans
      (ih hwanes.stop (sane_move sane m) (fun loop hloop ↦ hwanes.not_busy (idle loop hloop)) hrest)

/-- Every loop that gets turns again and again ends, except for a listener whose subscribe is never
answered. -/
theorem exists_ended {s : Shift} (stop : s.desk.stop.requested) (sane : Sane s) {seq : Nat → Move}
    {loop : Loop} (served : Served seq loop)
    (answered : loop = .listener → ∃ n, (s.after seq n).busy .listener = false) :
    ∃ k, (s.after seq k).desk.isRunning loop = false := by
  obtain ⟨n, hidle⟩ : ∃ n, (s.after seq n).busy loop = false := by
    cases loop with
    | listener => exact answered rfl
    | dispatch =>
      obtain ⟨n, hn⟩ := exists_not_dispatching s served
      exact ⟨n, by rw [busy, hn]; rfl⟩
    | access =>
      obtain ⟨n, hn⟩ := exists_not_accessing s served
      exact ⟨n, by rw [busy, hn]; rfl⟩
  have hstop (n : Nat) : (s.after seq n).desk.stop.requested := (wanes_moves stop sane _).stop
  have hkeep (n : Nat) (h : (s.after seq n).busy loop = false)
      (_ : seq n ≠ .event (.turn loop)) : (s.after seq (n + 1)).busy loop = false := by
    rw [after_succ]
    exact (wanes_move (hstop n) (sane_moves sane _) (seq n)).not_busy h
  obtain ⟨k, hk, hturn⟩ := exists_turn served (p := fun s ↦ s.busy loop = false) hkeep hidle
  exact ⟨k + 1, hturn ▸ (ends_turn (hstop k) hk).1⟩

/-! ### A desk that has been started -/

/-- A moment after which nothing new starts. -/
structure Closing (s : Shift) : Prop where
  quiet : ∀ m, ¬Begins s (s.move m)
  /-- What is under way at any later moment is so now, and of the commands that wait or are sent until
  then, the first have been refused while the others still wait. -/
  wanes : ∀ list, Wanes s (s.moves list) (sent list)
  /-- No command waits for a loop that has ended. -/
  refused : s.desk.access.running = false → s.desk.access.commands = []
  /-- Whoever is in the middle of nothing ends with its next turn, whatever it could do instead. -/
  ends : ∀ loop, s.busy loop = false →
    (s.turn loop).desk.isRunning loop = false ∧ Unmoved s (s.turn loop)
  stays : ∀ loop, s.desk.isRunning loop = false →
    ∀ list, (s.moves list).desk.isRunning loop = false
  /-- Once neither a pass nor a command is under way, nothing outside changes but by others. -/
  calm : (∀ loop ≠ .listener, s.busy loop = false) →
    ∀ list : List Move, (∀ m ∈ list, m.isForeign = false) → Unmoved s (s.moves list)
  /-- Every loop that goes on getting turns ends, once a subscribe that the listener waits for has
  been answered. -/
  settles : ∀ (loop : Loop) (seq : Nat → Move), Served seq loop →
    (loop = .listener → ∃ n, (s.after seq n).busy .listener = false) →
      ∃ k, (s.after seq k).desk.isRunning loop = false

/-- After a stop nothing new starts at a desk that has been started, whatever has happened before
and whatever happens afterwards, in whatever order. -/
theorem closing_of_start {settings : Settings} {outside : Outside} {d : Desk}
    (start : Desk.start settings outside = .ok d) (before list : List Move) :
    Closing (((moves { desk := d } before).move (.event .trigger)).moves list) := by
  have hsane := sane_move (sane_moves (sane_of_start start) before) (.event .trigger)
  have hstop : ((moves { desk := d } before).move (.event .trigger)).desk.stop.requested := rfl
  have stop := (wanes_moves hstop hsane list).stop
  have sane := sane_moves hsane list
  exact
    { quiet := fun m ↦ (wanes_move stop sane m).not_begins
      wanes := wanes_moves stop sane
      refused := sane.commands
      ends := fun _ idle ↦ ends_turn stop idle
      stays := fun _ ended list ↦ (wanes_moves stop sane list).not_isRunning ended
      calm := fun idle _ foreign ↦ unmoved_moves stop sane idle foreign
      settles := fun _ _ served answered ↦ exists_ended stop sane served answered }

/-- A dispatch pass has begun and a command waits. -/
def rush : List Move :=
  [.event (.enqueue early), .event (.turn .listener), .event (.turn .dispatch),
    .event (.command .sync)]

/-- Somebody asks to join, and the access loop takes its turn. -/
def aftermath : List Move := [.event (.command (.join ⟨-1⟩ ⟨7⟩)), .event (.turn .access)]

theorem closing_rush :
    let stopped := (moves { desk := fresh } rush).move (.event .trigger)
    Desk.start { noticeChannel := "reviews" } bare = .ok fresh ∧ stopped.dispatching.isSome ∧
      (stopped.moves aftermath).desk.access.answers =
        [Membership.Command.sync.refusal, (Membership.Command.join ⟨-1⟩ ⟨7⟩).refusal] ∧
      Closing (stopped.moves aftermath) := by
  have start : Desk.start { noticeChannel := "reviews" } bare = .ok fresh := rfl
  exact ⟨start, rfl, rfl, closing_of_start start rush aftermath⟩

end Shift

end ReviewDesk
