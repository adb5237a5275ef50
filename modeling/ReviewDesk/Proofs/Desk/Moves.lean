import ReviewDesk.Proofs.Desk.Shift

/-!
What a shift does from one wait, or one call, to the next. A subscribe may take its time: the listener
waits for it, and its answer comes as a move of its own. `dispatchTurn_of_busy` and
`accessTurn_of_busy` say how a loop gets on with what it is in the middle of, and `exists_finished`
that a loop which goes on getting turns comes to the end of it. A loop that has ended is in the middle
of nothing, and no command waits for it (`sane_moves`).
-/

set_option autoImplicit false
set_option relaxedAutoImplicit false

namespace ReviewDesk

namespace Shift

open Procedure

/-! ### Moves -/

/-- A subscribe that was slow to come reaches the store. -/
def reach (d : Desk) : Desk :=
  match d.outside.store.subscribe d.listener.channel with
  | (.ok stream, store) => Listener.connected { d with outside.store := store } stream
  | (.error _, store) =>
    Listener.retreat { d with outside.store := store } "listener_connect_failed"

/-- A subscribe that is not slow reaches the store at once. -/
theorem attempt_eq_reach {d : Desk} (h : d.outside.hangingSubscribes = 0) :
    Listener.attempt d = reach d := by
  rw [Listener.attempt, h, if_neg (Nat.lt_irrefl 0), reach]
  rcases d.outside.store.subscribe d.listener.channel with ⟨_ | _, store⟩ <;> rfl

/-- The listener waits for a subscribe to complete. -/
def isConnecting (d : Desk) : Bool :=
  match d.listener.phase with
  | .connecting _ => true
  | _ => false

/-- What happens between two waits of a loop, or two calls. -/
inductive Move where
  | event (event : Event)
  /-- The subscribe that the listener waits for is answered. -/
  | subscribed

def move (s : Shift) : Move → Shift
  | .event event => s.step event
  | .subscribed => if isConnecting s.desk then { s with desk := reach s.desk } else s

def moves (s : Shift) (list : List Move) : Shift := list.foldl move s

theorem moves_snoc (s : Shift) (list : List Move) (last : Move) :
    s.moves (list ++ [last]) = (s.moves list).move last :=
  List.foldl_append

/-- The command that a move asks for. -/
def Move.command? : Move → Option Membership.Command
  | .event (.command asked) => some asked
  | _ => none

def sent (list : List Move) : List Membership.Command := list.filterMap Move.command?

/-- Somebody else changes what is stored or posted. -/
def Move.isForeign : Move → Bool
  | .event (.enqueue _) | .event (.adjust _) => true
  | _ => false

/-- An event that is neither a turn of a loop nor a command for one. -/
def Event.isAside : Event → Bool
  | .turn _ | .command _ => false
  | _ => true

/-! ### Moves of others, and of the listener -/

/-- Neither the dispatch loop nor the access loop has gone on. -/
structure Aside (s s' : Shift) : Prop where
  stop : s.desk.stop.requested → s'.desk.stop.requested
  dispatch : s'.desk.dispatch = s.desk.dispatch
  access : s'.desk.access = s.desk.access
  dispatching : s'.dispatching = s.dispatching
  accessing : s'.accessing = s.accessing

theorem Aside.refl (s : Shift) : Aside s s := ⟨id, rfl, rfl, rfl, rfl⟩

theorem aside_move (s : Shift) {event : Event} (h : event.isAside) :
    Aside s (s.move (.event event)) ∧
      (s.move (.event event)).desk.listener = s.desk.listener := by
  rw [move]
  cases event with
  | turn loop => cases h
  | command asked => cases h
  | enqueue item =>
    rw [step, Desk.modifyStore]
    generalize s.desk.outside.store.enqueue item = store
    exact ⟨⟨id, rfl, rfl, rfl, rfl⟩, rfl⟩
  | raise topic => cases topic <;> exact ⟨⟨id, rfl, rfl, rfl, rfl⟩, rfl⟩
  | trigger => exact ⟨⟨fun _ ↦ rfl, rfl, rfl, rfl, rfl⟩, rfl⟩
  | _ => exact ⟨⟨id, rfl, rfl, rfl, rfl⟩, rfl⟩

theorem aside_listenerTurn (s : Shift) : Aside s (s.turn .listener) := by
  have hframe := Listener.frame_step s.desk
  refine ⟨fun stop ↦ ?_, hframe.dispatch, hframe.access, rfl, rfl⟩
  rw [turn, hframe.stop]
  exact stop

theorem reach_cases (d : Desk) :
    (∃ i store, store.shelf = d.outside.store.shelf ∧
        reach d = Listener.connected { d with outside.store := store } i) ∨
      ∃ store, store.shelf = d.outside.store.shelf ∧
        reach d = Listener.retreat { d with outside.store := store } "listener_connect_failed" := by
  have hshelf : (d.outside.store.subscribe d.listener.channel).2.shelf = d.outside.store.shelf := rfl
  rw [reach]
  rcases hsubscribe : d.outside.store.subscribe d.listener.channel with ⟨_ | i, store⟩
  · rw [hsubscribe] at hshelf
    exact Or.inr ⟨store, hshelf, rfl⟩
  · rw [hsubscribe] at hshelf
    exact Or.inl ⟨i, store, hshelf, rfl⟩

theorem aside_subscribed (s : Shift) : Aside s (s.move .subscribed) := by
  rw [move]
  split
  · rcases reach_cases s.desk with ⟨i, store, -, hreach⟩ | ⟨store, -, hreach⟩
    · rw [hreach]
      exact ⟨id, rfl, rfl, rfl, rfl⟩
    · rw [hreach]
      exact ⟨id, rfl, rfl, rfl, rfl⟩
  · exact .refl s

/-! ### What is under way -/

/-- A loop is in the middle of something that it has begun. -/
def busy (s : Shift) : Loop → Bool
  | .listener => isConnecting s.desk
  | .dispatch => s.dispatching.isSome
  | .access => s.accessing.isSome

theorem isConnecting_iff {d : Desk} :
    isConnecting d ↔ ∃ limit, d.listener.phase = .connecting limit := by
  unfold isConnecting
  cases d.listener.phase <;> simp

/-- What is left of an errand after some more of its calls. -/
inductive Leads : Errand → Errand → Prop
  | pass {p q : Procedure (Except Failure AccessReport × Membership.Tracked)} {talk : List Exchange}
      (asked : Bool) (h : Follows p talk q) : Leads (.pass asked p) (.pass asked q)
  | join {p q : Procedure (Except Failure Membership.JoinDecision × Membership.Tracked)}
      {talk : List Exchange} (h : Follows p talk q) : Leads (.join p) (.join q)

/-- How many commands an errand will answer. -/
def owed : Option Errand → Nat
  | some (.pass true _) | some (.join _) => 1
  | some (.pass false _) | none => 0

theorem Leads.refl (e : Errand) : Leads e e := by
  cases e with
  | pass asked p => exact .pass asked (.stay p)
  | join p => exact .join (.stay p)

theorem Leads.trans {e e' e'' : Errand} (h : Leads e e') (h' : Leads e' e'') : Leads e e'' := by
  cases h with
  | pass asked h =>
    cases h' with
    | pass _ h' => exact .pass asked (h.trans h')
  | join h =>
    cases h' with
    | join h' => exact .join (h.trans h')

theorem Leads.owed_eq {e e' : Errand} (h : Leads e e') : owed (some e') = owed (some e) := by
  cases h with
  | pass asked h => cases asked <;> rfl
  | join h => rfl

theorem turn_dispatch_of_idle {s : Shift} (idle : s.dispatching = none) :
    s.turn .dispatch =
      if opensDispatch s.desk then s.beginDispatch else { s with desk := Dispatch.step s.desk } := by
  simp only [turn, dispatchTurn, idle]

/-- A dispatch pass that is under way gets on by one call, or ends and is recorded. -/
theorem dispatchTurn_of_busy {s : Shift} {p : Procedure (Except Failure Dispatch.Report)}
    (h : s.dispatching = some p) :
    (∃ outside talk q, Follows p talk q ∧
        s.turn .dispatch = { s with desk.outside := outside, dispatching := some q }) ∨
      ∃ health, s.turn .dispatch =
        { s with desk.health := health, desk.dispatch.phase := .starting, dispatching := none } := by
  cases p with
  | ask call next =>
    refine Or.inl ⟨(s.desk.outside.answer call).2, _, _, .ask (s.desk.outside.answer call).1 (.stay _), ?_⟩
    rw [turn, dispatchTurn, h]
  | done result =>
    rw [turn, dispatchTurn, h]
    cases result with
    | ok report => exact Or.inr ⟨_, rfl⟩
    | error failure => exact Or.inr ⟨_, rfl⟩

/-- What the access loop is in the middle of gets on by one call, or ends; whoever asked for it is
answered then. -/
theorem accessTurn_of_busy {s : Shift} {e : Errand} (h : s.accessing = some e) :
    (∃ outside e', Leads e e' ∧
        s.turn .access = { s with desk.outside := outside, accessing := some e' }) ∨
      ∃ health tracked answers, answers.length = owed (some e) ∧ s.turn .access =
        { s with
          desk.health := health
          desk.access.tracked := tracked
          desk.access.answers := s.desk.access.answers ++ answers
          accessing := none } := by
  cases e with
  | pass asked p =>
    cases p with
    | ask call next =>
      refine Or.inl
        ⟨(s.desk.outside.answer call).2, _, .pass asked (.ask (s.desk.outside.answer call).1 (.stay _)), ?_⟩
      rw [turn, accessTurn, h]
    | done outcome =>
      obtain ⟨result, tracked⟩ := outcome
      have hturn : s.turn .access = s.endAccess asked result tracked := by
        rw [turn, accessTurn, h]
      rw [hturn]
      right
      cases asked with
      | true => cases result <;> exact ⟨_, tracked, [.synced _], rfl, rfl⟩
      | false =>
        refine ⟨(s.endAccess false result tracked).desk.health, tracked, [], rfl, ?_⟩
        rw [List.append_nil]
        cases result <;> rfl
  | join p =>
    cases p with
    | ask call next =>
      refine Or.inl
        ⟨(s.desk.outside.answer call).2, _, .join (.ask (s.desk.outside.answer call).1 (.stay _)), ?_⟩
      rw [turn, accessTurn, h]
    | done outcome =>
      obtain ⟨result, tracked⟩ := outcome
      refine Or.inr ⟨s.desk.health, tracked, [.joined result], rfl, ?_⟩
      rw [turn, accessTurn, h]
      rfl

/-! ### Loops that have ended -/

/-- A loop that has ended is in the middle of nothing, and no command waits for it. -/
structure Sane (s : Shift) : Prop where
  dispatch : s.desk.dispatch.phase = .ended → s.dispatching = none
  accessing : s.desk.access.running = false → s.accessing = none
  commands : s.desk.access.running = false → s.desk.access.commands = []

theorem Aside.sane {s s' : Shift} (h : Aside s s') (sane : Sane s) : Sane s' := by
  refine ⟨?_, ?_, ?_⟩
  · rw [h.dispatch, h.dispatching]
    exact sane.dispatch
  · rw [h.access, h.accessing]
    exact sane.accessing
  · rw [h.access]
    exact sane.commands

theorem sane_dispatchTurn {s : Shift} (h : Sane s) : Sane (s.turn .dispatch) := by
  cases hdispatching : s.dispatching with
  | none =>
    rw [turn_dispatch_of_idle hdispatching]
    split
    · rename_i hopens
      have hrunning : s.desk.dispatch.phase ≠ .ended := by
        intro hended
        rw [opensDispatch, hended, Bool.and_false] at hopens
        cases hopens
      exact ⟨fun hended ↦ absurd hended hrunning, h.accessing, h.commands⟩
    · rename_i hopens
      obtain ⟨phase, asleep, hstep⟩ := step_of_not_opensDispatch hopens
      rw [hstep]
      exact ⟨fun _ ↦ hdispatching, h.accessing, h.commands⟩
  | some p =>
    have hrunning : s.desk.dispatch.phase ≠ .ended := by
      intro hended
      rw [h.dispatch hended] at hdispatching
      cases hdispatching
    rcases dispatchTurn_of_busy hdispatching with ⟨outside, talk, q, -, hturn⟩ | ⟨health, hturn⟩
    · rw [hturn]
      exact ⟨fun hended ↦ absurd hended hrunning, h.accessing, h.commands⟩
    · rw [hturn]
      exact ⟨fun _ ↦ rfl, h.accessing, h.commands⟩

theorem sane_accessTurn {s : Shift} (h : Sane s) : Sane (s.turn .access) := by
  have hrunning {s' : Shift} (dispatch : s'.desk.dispatch = s.desk.dispatch)
      (dispatching : s'.dispatching = s.dispatching) (running : s'.desk.access.running) :
      Sane s' := by
    refine ⟨?_, fun hended ↦ ?_, fun hended ↦ ?_⟩
    · rw [dispatch, dispatching]
      exact h.dispatch
    · rw [running] at hended
      cases hended
    · rw [running] at hended
      cases hended
  cases haccessing : s.accessing with
  | none =>
    rw [turn, accessTurn, haccessing]
    dsimp only
    split
    · rename_i hgoes
      have hruns := ((Bool.and_eq_true _ _).mp hgoes).1
      split
      · exact hrunning rfl rfl hruns
      · split
        · exact hrunning rfl rfl hruns
        · exact hrunning rfl rfl hruns
        · exact h
    · rename_i hgoes
      rw [step_of_not_goes hgoes]
      split
      · exact ⟨h.dispatch, fun _ ↦ rfl, fun _ ↦ rfl⟩
      · exact ⟨h.dispatch, fun _ ↦ rfl, h.commands⟩
  | some e =>
    have hruns : s.desk.access.running := by
      by_contra hended
      rw [Bool.not_eq_true] at hended
      rw [h.accessing hended] at haccessing
      cases haccessing
    rcases accessTurn_of_busy haccessing with
      ⟨outside, e', -, hturn⟩ | ⟨health, tracked, answers, -, hturn⟩
    · rw [hturn]
      exact hrunning rfl rfl hruns
    · rw [hturn]
      exact hrunning rfl rfl hruns

theorem sane_move {s : Shift} (h : Sane s) (m : Move) : Sane (s.move m) := by
  cases m with
  | subscribed => exact (aside_subscribed s).sane h
  | event event =>
    cases event with
    | command asked =>
      rw [move, step, command]
      split
      · rename_i hrunning
        refine ⟨h.dispatch, h.accessing, fun hended ↦ ?_⟩
        have hended' : s.desk.access.running = false := hended
        rw [hrunning] at hended'
        cases hended'
      · exact ⟨h.dispatch, h.accessing, h.commands⟩
    | turn loop =>
      cases loop with
      | listener => exact (aside_listenerTurn s).sane h
      | dispatch => exact sane_dispatchTurn h
      | access => exact sane_accessTurn h
    | _ => exact (aside_move s rfl).1.sane h

theorem sane_moves {s : Shift} (h : Sane s) (list : List Move) : Sane (s.moves list) := by
  induction list generalizing s with
  | nil => exact h
  | cons m list ih => exact ih (sane_move h m)

theorem sane_of_start {settings : Settings} {outside : Outside} {d : Desk}
    (h : Desk.start settings outside = .ok d) : Sane { desk := d } := by
  rw [Desk.start] at h
  split at h
  · cases h
  · obtain rfl := Except.ok.inj h
    dsimp only
    rw [accessTick_eq]
    have hrunning (d : Desk) (result : Except Failure AccessReport) :
        (recordAccess d false result).access.running = d.access.running := by
      cases result <;> rfl
    refine ⟨fun hended ↦ (by cases hended), fun _ ↦ rfl, fun hended ↦ ?_⟩
    rw [hrunning] at hended
    cases hended

/-! ### Moves without end -/

/-- Where so many moves of an endless sequence lead. -/
def after (s : Shift) (seq : Nat → Move) (n : Nat) : Shift := s.moves ((List.range n).map seq)

theorem after_succ (s : Shift) (seq : Nat → Move) (n : Nat) :
    s.after seq (n + 1) = (s.after seq n).move (seq n) := by
  rw [after, List.range_succ, List.map_append, List.map_singleton, moves_snoc, after]

/-- A loop gets turns again and again. -/
def Served (seq : Nat → Move) (loop : Loop) : Prop := ∀ n, ∃ k, n ≤ k ∧ seq k = .event (.turn loop)

section Served

variable {s : Shift} {seq : Nat → Move} {loop : Loop} (served : Served seq loop)
include served

/-- What only the turns of a loop can change still holds when the next one comes. -/
theorem exists_turn {p : Shift → Prop}
    (keep : ∀ n, p (s.after seq n) → seq n ≠ .event (.turn loop) → p (s.after seq (n + 1)))
    {n : Nat} (h : p (s.after seq n)) :
    ∃ k, p (s.after seq k) ∧ s.after seq (k + 1) = (s.after seq k).turn loop := by
  obtain ⟨k, hle, hturn⟩ := served n
  induction hgap : k - n generalizing n with
  | zero =>
    obtain rfl : n = k := by omega
    exact ⟨n, h, by rw [after_succ, hturn]; rfl⟩
  | succ gap ih =>
    by_cases hnow : seq n = .event (.turn loop)
    · exact ⟨n, h, by rw [after_succ, hnow]; rfl⟩
    · exact ih (keep n h hnow) (by omega) (by omega)

/-- A loop that gets turns again and again comes to the end of any procedure. `holds` says that it
is in the middle of one. -/
theorem exists_finished {α : Type} (holds : Procedure α → Shift → Prop) (finished : Shift → Prop)
    (keep : ∀ p s m, holds p s → m ≠ .event (.turn loop) → holds p (s.move m))
    (ask : ∀ call next s, holds (.ask call next) s → ∃ reply, holds (next reply) (s.turn loop))
    (done : ∀ a s, holds (.done a) s → finished (s.turn loop)) (p : Procedure α) {n : Nat}
    (h : holds p (s.after seq n)) : ∃ k, finished (s.after seq k) := by
  have hkeep (p : Procedure α) (n : Nat) (h : holds p (s.after seq n))
      (hother : seq n ≠ .event (.turn loop)) : holds p (s.after seq (n + 1)) := by
    rw [after_succ]
    exact keep p _ _ h hother
  induction p generalizing n with
  | done a =>
    obtain ⟨k, hk, hturn⟩ := exists_turn served (hkeep _) h
    exact ⟨k + 1, hturn ▸ done a _ hk⟩
  | ask call next ih =>
    obtain ⟨k, hk, hturn⟩ := exists_turn served (hkeep _) h
    obtain ⟨reply, hreply⟩ := ask call next _ hk
    exact ih reply (hturn ▸ hreply)

end Served

theorem dispatching_move (s : Shift) {m : Move} (h : m ≠ .event (.turn .dispatch)) :
    (s.move m).dispatching = s.dispatching := by
  cases m with
  | subscribed => exact (aside_subscribed s).dispatching
  | event event =>
    cases event with
    | command asked => rfl
    | turn loop =>
      cases loop with
      | listener => rfl
      | dispatch => exact absurd rfl h
      | access =>
        rw [move, step, turn, accessTurn]
        split
        · rfl
        · rfl
        · rfl
        · rfl
        · split
          · split
            · rfl
            · split <;> rfl
          · rfl
    | _ => exact (aside_move s rfl).1.dispatching

theorem accessing_move (s : Shift) {m : Move} (h : m ≠ .event (.turn .access)) :
    (s.move m).accessing = s.accessing := by
  cases m with
  | subscribed => exact (aside_subscribed s).accessing
  | event event =>
    cases event with
    | command asked => rfl
    | turn loop =>
      cases loop with
      | listener => rfl
      | access => exact absurd rfl h
      | dispatch =>
        rw [move, step, turn, dispatchTurn]
        split
        · rfl
        · rfl
        · split <;> rfl
    | _ => exact (aside_move s rfl).1.accessing

theorem exists_not_dispatching (s : Shift) {seq : Nat → Move} (served : Served seq .dispatch) :
    ∃ k, (s.after seq k).dispatching = none := by
  cases hstart : s.dispatching with
  | none => exact ⟨0, hstart⟩
  | some p =>
    refine exists_finished (n := 0) served (fun p s ↦ s.dispatching = some p)
      (fun s ↦ s.dispatching = none) ?_ ?_ ?_ p hstart
    · intro p s m h hother
      rw [dispatching_move s hother, h]
    · intro call next s h
      refine ⟨(s.desk.outside.answer call).1, ?_⟩
      rw [turn, dispatchTurn, h]
    · intro result s h
      rw [turn, dispatchTurn, h]
      rfl

theorem exists_not_accessing (s : Shift) {seq : Nat → Move} (served : Served seq .access) :
    ∃ k, (s.after seq k).accessing = none := by
  cases hstart : s.accessing with
  | none => exact ⟨0, hstart⟩
  | some e =>
    cases e with
    | pass asked p =>
      refine exists_finished (n := 0) served (fun p s ↦ s.accessing = some (.pass asked p))
        (fun s ↦ s.accessing = none) ?_ ?_ ?_ p hstart
      · intro p s m h hother
        rw [accessing_move s hother, h]
      · intro call next s h
        refine ⟨(s.desk.outside.answer call).1, ?_⟩
        rw [turn, accessTurn, h]
      · rintro ⟨result, tracked⟩ s h
        rw [turn, accessTurn, h]
        rfl
    | join p =>
      refine exists_finished (n := 0) served (fun p s ↦ s.accessing = some (.join p))
        (fun s ↦ s.accessing = none) ?_ ?_ ?_ p hstart
      · intro p s m h hother
        rw [accessing_move s hother, h]
      · intro call next s h
        refine ⟨(s.desk.outside.answer call).1, ?_⟩
        rw [turn, accessTurn, h]
      · rintro ⟨result, tracked⟩ s h
        rw [turn, accessTurn, h]
        rfl

end Shift

end ReviewDesk
