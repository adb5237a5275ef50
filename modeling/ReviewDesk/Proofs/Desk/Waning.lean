import ReviewDesk.Proofs.Desk.Moves

/-!
What can become of a shift once a stop has been requested. Between any two moments nothing begins
that was not under way at the first of them; of the commands, the one that is being served may get its
answer, and the others are refused in their order or still wait (`wanes_moves`).
-/

set_option autoImplicit false
set_option relaxedAutoImplicit false

namespace ReviewDesk

namespace Shift

open Procedure

/-- The listener stays where it is, or ends, or gets an answer to the subscribe that it waits for. -/
def Closes (phase phase' : Listener.Phase) : Prop :=
  phase' = phase ∨ phase' = .ended ∨
    (∃ limit, phase = .connecting limit) ∧ phase' ≠ .starting ∧ ∀ limit, phase' ≠ .connecting limit

theorem Closes.refl (phase : Listener.Phase) : Closes phase phase := Or.inl rfl

theorem Closes.trans {phase phase' phase'' : Listener.Phase} (h : Closes phase phase')
    (h' : Closes phase' phase'') : Closes phase phase'' := by
  rcases h with rfl | rfl | ⟨hconnecting, hstarting, hanswered⟩
  · exact h'
  · rcases h' with rfl | rfl | ⟨⟨limit, hlimit⟩, -⟩
    · exact Or.inr (Or.inl rfl)
    · exact Or.inr (Or.inl rfl)
    · cases hlimit
  · rcases h' with rfl | rfl | ⟨⟨limit, hlimit⟩, -⟩
    · exact Or.inr (Or.inr ⟨hconnecting, hstarting, hanswered⟩)
    · exact Or.inr (Or.inl rfl)
    · exact absurd hlimit (hanswered limit)

/-- What became of the commands between two moments: one that was being served may have got its
answer, and of those that waited or were sent since, the first have been refused while the others
still wait. -/
def Refuses (s s' : Shift) (asked : List Membership.Command) : Prop :=
  ∃ served refused,
    s'.desk.access.answers =
      s.desk.access.answers ++ served ++ refused.map Membership.Command.refusal ∧
    s.desk.access.commands ++ asked = refused ++ s'.desk.access.commands ∧
    served.length + owed s'.accessing = owed s.accessing ∧ (refused = [] ∨ owed s'.accessing = 0)

theorem Refuses.trans {s s' s'' : Shift} {asked more : List Membership.Command}
    (h : Refuses s s' asked) (h' : Refuses s' s'' more) : Refuses s s'' (asked ++ more) := by
  obtain ⟨served, refused, hanswers, hcommands, howed, horder⟩ := h
  obtain ⟨served', refused', hanswers', hcommands', howed', horder'⟩ := h'
  refine ⟨served ++ served', refused ++ refused', ?_, ?_, ?_, ?_⟩
  · rw [hanswers', hanswers]
    rcases horder with rfl | hnone
    · simp
    · have hserved : served' = [] := List.eq_nil_of_length_eq_zero (by omega)
      simp [hserved]
  · rw [← List.append_assoc, hcommands, List.append_assoc, hcommands', List.append_assoc]
  · rw [List.length_append]
    omega
  · rcases horder' with rfl | hnone'
    · rcases horder with rfl | hnone
      · exact Or.inl rfl
      · exact Or.inr (by omega)
    · exact Or.inr hnone'

/-- After a stop, nothing begins from one moment to another. -/
structure Wanes (s s' : Shift) (asked : List Membership.Command) : Prop where
  stop : s'.desk.stop.requested
  listener : Closes s.desk.listener.phase s'.desk.listener.phase
  dispatch : s.desk.dispatch.phase = .ended → s'.desk.dispatch.phase = .ended
  running : s.desk.access.running = false → s'.desk.access.running = false
  /-- What is left of a dispatch pass was under way before. -/
  dispatching : ∀ q, s'.dispatching = some q → ∃ p talk, s.dispatching = some p ∧ Follows p talk q
  accessing : ∀ e', s'.accessing = some e' → ∃ e, s.accessing = some e ∧ Leads e e'
  refuses : Refuses s s' asked

theorem Wanes.trans {s s' s'' : Shift} {asked more : List Membership.Command}
    (h : Wanes s s' asked) (h' : Wanes s' s'' more) : Wanes s s'' (asked ++ more) where
  stop := h'.stop
  listener := h.listener.trans h'.listener
  dispatch := fun hended ↦ h'.dispatch (h.dispatch hended)
  running := fun hended ↦ h'.running (h.running hended)
  dispatching := by
    intro r hr
    obtain ⟨q, more, hq, hmore⟩ := h'.dispatching r hr
    obtain ⟨p, talk, hp, htalk⟩ := h.dispatching q hq
    exact ⟨p, _, hp, htalk.trans hmore⟩
  accessing := by
    intro e'' he''
    obtain ⟨e', he', hlater⟩ := h'.accessing e'' he''
    obtain ⟨e, he, hearlier⟩ := h.accessing e' he'
    exact ⟨e, he, hearlier.trans hlater⟩
  refuses := h.refuses.trans h'.refuses

/-- Where the commands have not moved, none has been answered. -/
theorem refuses_of_same {s s' : Shift} (answers : s'.desk.access.answers = s.desk.access.answers)
    (commands : s'.desk.access.commands = s.desk.access.commands)
    (accessing : owed s'.accessing = owed s.accessing) : Refuses s s' [] := by
  refine ⟨[], [], ?_, ?_, ?_, Or.inl rfl⟩
  · rw [answers, List.append_nil, List.map_nil, List.append_nil]
  · rw [commands, List.append_nil, List.nil_append]
  · rw [accessing, List.length_nil, Nat.zero_add]

theorem Aside.wanes {s s' : Shift} (h : Aside s s') (stop : s.desk.stop.requested)
    (listener : Closes s.desk.listener.phase s'.desk.listener.phase) : Wanes s s' [] where
  stop := h.stop stop
  listener := listener
  dispatch := by rw [h.dispatch]; exact id
  running := by rw [h.access]; exact id
  dispatching := fun q hq ↦ ⟨q, [], h.dispatching.symm.trans hq, .stay q⟩
  accessing := fun e he ↦ ⟨e, h.accessing.symm.trans he, .refl e⟩
  refuses := refuses_of_same (by rw [h.access]) (by rw [h.access]) (by rw [h.accessing])

/-! ### The listener -/

theorem resolves_of_requested {d : Desk} (stop : d.stop.requested) : d.stop.resolves = true := by
  rw [Stop.resolves, stop, Bool.true_or]

/-- After a stop the listener ends, unless it waits for a subscribe. -/
theorem listenerStep_of_stop {d : Desk} (stop : d.stop.requested) (idle : isConnecting d = false) :
    ∃ bus, Listener.step d = { d.modifyBus (fun _ ↦ bus) with listener.phase := .ended } := by
  have hresolves := resolves_of_requested stop
  unfold Listener.step
  cases hphase : d.listener.phase with
  | starting =>
    simp only [stop, if_true]
    exact ⟨d.outside.store.bus, rfl⟩
  | connecting limit =>
    rw [isConnecting, hphase] at idle
    cases idle
  | session stream =>
    simp only [hresolves, if_true]
    exact ⟨d.outside.store.bus.release stream, rfl⟩
  | backoff limit =>
    simp only [hresolves, if_true]
    exact ⟨d.outside.store.bus, rfl⟩
  | ended =>
    have hsame : { d with listener.phase := .ended } = d := by
      rw [← hphase]
    exact ⟨d.outside.store.bus, hsame.symm⟩

theorem listenerStep_of_connecting {d : Desk} (connecting : isConnecting d) :
    Listener.step d = Listener.retreat d "listener_connect_timeout" ∨ Listener.step d = d := by
  unfold Listener.step
  unfold isConnecting at connecting
  cases hphase : d.listener.phase with
  | connecting limit =>
    dsimp only
    split
    · exact Or.inl rfl
    · exact Or.inr rfl
  | starting => rw [hphase] at connecting; cases connecting
  | session stream => rw [hphase] at connecting; cases connecting
  | backoff limit => rw [hphase] at connecting; cases connecting
  | ended => rw [hphase] at connecting; cases connecting

/-- The listener goes on from a subscribe that it has waited for. -/
theorem closes_of_connecting {d : Desk} (connecting : isConnecting d) (phase : Listener.Phase)
    (starting : phase ≠ .starting) (answered : ∀ limit, phase ≠ .connecting limit) :
    Closes d.listener.phase phase := by
  refine Or.inr (Or.inr ⟨?_, starting, answered⟩)
  unfold isConnecting at connecting
  split at connecting
  · exact ⟨_, by assumption⟩
  · cases connecting

theorem wanes_listenerTurn {s : Shift} (stop : s.desk.stop.requested) :
    Wanes s (s.turn .listener) [] := by
  apply (aside_listenerTurn s).wanes stop
  rw [turn]
  by_cases connecting : isConnecting s.desk
  · rcases listenerStep_of_connecting connecting with hstep | hstep
    · rw [hstep]
      exact closes_of_connecting connecting _ Listener.Phase.noConfusion
        fun _ ↦ Listener.Phase.noConfusion
    · rw [hstep]
      exact .refl _
  · rw [Bool.not_eq_true] at connecting
    obtain ⟨bus, hstep⟩ := listenerStep_of_stop stop connecting
    rw [hstep]
    exact Or.inr (Or.inl rfl)

theorem wanes_subscribed {s : Shift} (stop : s.desk.stop.requested) :
    Wanes s (s.move .subscribed) [] := by
  apply (aside_subscribed s).wanes stop
  rw [move]
  split
  · rename_i connecting
    rcases reach_cases s.desk with ⟨i, store, -, hreach⟩ | ⟨store, -, hreach⟩
    · rw [hreach]
      exact closes_of_connecting connecting _ Listener.Phase.noConfusion
        fun _ ↦ Listener.Phase.noConfusion
    · rw [hreach]
      exact closes_of_connecting connecting _ Listener.Phase.noConfusion
        fun _ ↦ Listener.Phase.noConfusion
  · exact .refl _

/-! ### The dispatch loop and the access loop -/

theorem dispatchStep_of_stop {d : Desk} (stop : d.stop.requested) :
    Dispatch.step d = { d with dispatch.phase := .ended } := by
  have hresolves := resolves_of_requested stop
  unfold Dispatch.step
  cases hphase : d.dispatch.phase with
  | starting => simp only [hresolves, if_true]
  | waiting limit => simp only [hresolves, if_true]
  | ended =>
    have hsame : { d with dispatch.phase := .ended } = d := by
      rw [← hphase]
    exact hsame.symm

theorem dispatchTurn_of_idle {s : Shift} (stop : s.desk.stop.requested)
    (idle : s.dispatching = none) :
    s.turn .dispatch = { s with desk.dispatch.phase := .ended } := by
  have hopens : opensDispatch s.desk = false := by
    rw [opensDispatch, resolves_of_requested stop, Bool.not_true, Bool.false_and]
  rw [turn_dispatch_of_idle idle, hopens, if_neg Bool.false_ne_true, dispatchStep_of_stop stop]

theorem accessTurn_of_idle {s : Shift} (stop : s.desk.stop.requested) (idle : s.accessing = none) :
    s.turn .access =
      if s.desk.access.running then { s with desk := Membership.quit s.desk } else s := by
  have hresolves := resolves_of_requested stop
  have hstep : Membership.step s.desk =
      if s.desk.access.running then Membership.quit s.desk else s.desk := by
    rw [Membership.step, if_pos hresolves]
  have hturn : s.turn .access = { s with desk := Membership.step s.desk } := by
    simp only [turn, accessTurn, idle, hresolves, Bool.not_true, Bool.and_false,
      Bool.false_eq_true, if_false]
  rw [hturn, hstep]
  split <;> rfl

theorem wanes_dispatchTurn {s : Shift} (stop : s.desk.stop.requested) (sane : Sane s) :
    Wanes s (s.turn .dispatch) [] := by
  have haccessing (e : Errand) (he : s.accessing = some e) :
      ∃ e₀, s.accessing = some e₀ ∧ Leads e₀ e := ⟨e, he, .refl e⟩
  cases hdispatching : s.dispatching with
  | none =>
    rw [dispatchTurn_of_idle stop hdispatching]
    exact ⟨stop, .refl _, fun _ ↦ rfl, id, fun q hq ↦ ⟨q, [], hq, .stay q⟩, haccessing,
      refuses_of_same rfl rfl rfl⟩
  | some p =>
    have hrunning : s.desk.dispatch.phase ≠ .ended := by
      intro hended
      rw [sane.dispatch hended] at hdispatching
      cases hdispatching
    rcases dispatchTurn_of_busy hdispatching with ⟨outside, talk, q, hq, hturn⟩ | ⟨health, hturn⟩
    · rw [hturn]
      refine ⟨stop, .refl _, id, id, ?_, haccessing, refuses_of_same rfl rfl rfl⟩
      rintro r ⟨⟩
      exact ⟨p, talk, hdispatching, hq⟩
    · rw [hturn]
      refine ⟨stop, .refl _, fun hended ↦ absurd hended hrunning, id, ?_, haccessing,
        refuses_of_same rfl rfl rfl⟩
      rintro r ⟨⟩

theorem wanes_accessTurn {s : Shift} (stop : s.desk.stop.requested) :
    Wanes s (s.turn .access) [] := by
  have hdispatching (q : Procedure (Except Failure Dispatch.Report)) (hq : s.dispatching = some q) :
      ∃ p talk, s.dispatching = some p ∧ Follows p talk q := ⟨q, [], hq, .stay q⟩
  cases haccessing : s.accessing with
  | none =>
    rw [accessTurn_of_idle stop haccessing]
    split
    · have howed : owed s.accessing = 0 := by
        rw [haccessing]
        rfl
      refine ⟨stop, .refl _, id, fun _ ↦ rfl, hdispatching, fun e he ↦ ⟨e, he, .refl e⟩, ?_⟩
      refine ⟨[], s.desk.access.commands, ?_, rfl, Nat.zero_add _, Or.inr howed⟩
      rw [List.append_nil]
      rfl
    · exact (Aside.refl s).wanes stop (.refl _)
  | some e =>
    rcases accessTurn_of_busy haccessing with
      ⟨outside, e', hleads, hturn⟩ | ⟨health, tracked, answers, hlength, hturn⟩
    · rw [hturn]
      refine ⟨stop, .refl _, id, id, hdispatching, ?_, refuses_of_same rfl rfl ?_⟩
      · rintro e'' ⟨⟩
        exact ⟨e, haccessing, hleads⟩
      · rw [haccessing]
        exact hleads.owed_eq
    · rw [hturn]
      refine ⟨stop, .refl _, id, id, hdispatching, ?_, answers, [], ?_, ?_, ?_, Or.inl rfl⟩
      · rintro e'' ⟨⟩
      · rw [List.map_nil, List.append_nil]
      · rw [List.append_nil, List.nil_append]
      · rw [haccessing, ← hlength]
        rfl

theorem wanes_command {s : Shift} (stop : s.desk.stop.requested) (sane : Sane s)
    (asked : Membership.Command) : Wanes s (s.step (.command asked)) [asked] := by
  have hdispatching (q : Procedure (Except Failure Dispatch.Report)) (hq : s.dispatching = some q) :
      ∃ p talk, s.dispatching = some p ∧ Follows p talk q := ⟨q, [], hq, .stay q⟩
  rw [step, command]
  split
  · refine ⟨stop, .refl _, id, id, hdispatching, fun e he ↦ ⟨e, he, .refl e⟩, [], [], ?_, rfl,
      Nat.zero_add _, Or.inl rfl⟩
    rw [List.append_nil, List.map_nil, List.append_nil]
  · rename_i hrunning
    rw [Bool.not_eq_true] at hrunning
    have howed : owed s.accessing = 0 := by
      rw [sane.accessing hrunning]
      rfl
    have hcommands := sane.commands hrunning
    refine ⟨stop, .refl _, id, id, hdispatching, fun e he ↦ ⟨e, he, .refl e⟩, [], [asked], ?_, ?_,
      Nat.zero_add _, Or.inr howed⟩
    · rw [List.append_nil]
      rfl
    · rw [hcommands]
      rfl

theorem wanes_aside {s : Shift} (stop : s.desk.stop.requested) {event : Event}
    (h : event.isAside) :
    Wanes s (s.move (.event event)) (Move.event event).command?.toList := by
  have hnone : (Move.event event).command? = none := by
    cases event with
    | command asked => cases h
    | _ => rfl
  rw [hnone]
  obtain ⟨haside, hlistener⟩ := aside_move s h
  exact haside.wanes stop (hlistener ▸ .refl _)

/-- After a stop, nothing begins with any move. -/
theorem wanes_move {s : Shift} (stop : s.desk.stop.requested) (sane : Sane s) (m : Move) :
    Wanes s (s.move m) m.command?.toList := by
  cases m with
  | subscribed => exact wanes_subscribed stop
  | event event =>
    cases event with
    | command asked => exact wanes_command stop sane asked
    | turn loop =>
      cases loop with
      | listener => exact wanes_listenerTurn stop
      | dispatch => exact wanes_dispatchTurn stop sane
      | access => exact wanes_accessTurn stop
    | _ => exact wanes_aside stop rfl

theorem wanes_moves {s : Shift} (stop : s.desk.stop.requested) (sane : Sane s) (list : List Move) :
    Wanes s (s.moves list) (sent list) := by
  induction list generalizing s with
  | nil => exact (Aside.refl s).wanes stop (.refl _)
  | cons m list ih =>
    have hfirst := wanes_move stop sane m
    have hsent : sent (m :: list) = m.command?.toList ++ sent list := by
      rw [sent, List.filterMap_cons]
      cases m.command? <;> rfl
    rw [hsent]
    exact hfirst.trans (ih hfirst.stop (sane_move sane m))

end Shift

end ReviewDesk
