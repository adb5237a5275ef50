import Mathlib.Data.List.Basic
import ReviewDesk.Outside

/-!
Conversations: a procedure seen through the calls it made and the replies it got, whoever answered
them and whatever happened in between. What `Ensures` says of a procedure therefore holds wherever
its calls are interleaved with those of others; `ensures_ask` and `ensures_bind` take a procedure
apart. `exists_steps_run` says that making the calls one by one comes to the same as making them all
at once, and `calls` lists what is then called.
-/

set_option autoImplicit false
set_option relaxedAutoImplicit false

namespace ReviewDesk

/-- A call with the reply that it got. -/
structure Exchange where
  call : Call
  reply : call.Reply

namespace Procedure

variable {α β : Type}

/-- `Follows p talk q` says that `q` is what is left to do of `p` after the exchanges `talk`. -/
inductive Follows : Procedure α → List Exchange → Procedure α → Prop where
  | stay (p : Procedure α) : Follows p [] p
  | ask {call : Call} {next : call.Reply → Procedure α} {talk : List Exchange} {q : Procedure α}
      (reply : call.Reply) (rest : Follows (next reply) talk q) :
      Follows (.ask call next) (⟨call, reply⟩ :: talk) q

theorem Follows.snoc {p : Procedure α} {talk : List Exchange} {call : Call}
    {next : call.Reply → Procedure α} (h : Follows p talk (.ask call next)) (reply : call.Reply) :
    Follows p (talk ++ [⟨call, reply⟩]) (next reply) := by
  generalize hq : Procedure.ask call next = q at h
  induction h with
  | stay p =>
    subst hq
    exact .ask reply (.stay _)
  | ask answer rest ih => exact .ask answer (ih hq)

theorem Follows.trans {p q r : Procedure α} {talk more : List Exchange} (h : Follows p talk q)
    (h' : Follows q more r) : Follows p (talk ++ more) r := by
  induction h with
  | stay p => exact h'
  | ask reply rest ih => exact .ask reply (ih h')

/-- A conversation of two procedures in a row is one of the first alone, or all of one of the first
and then one of the second. -/
theorem follows_bind {p : Procedure α} {f : α → Procedure β} {talk : List Exchange}
    {q : Procedure β} (h : Follows (p.bind f) talk q) :
    (∃ p', Follows p talk p' ∧ q = p'.bind f) ∨
      ∃ a first second, talk = first ++ second ∧ Follows p first (.done a) ∧
        Follows (f a) second q := by
  induction p generalizing talk with
  | done a => exact Or.inr ⟨a, [], talk, rfl, .stay _, h⟩
  | ask call next ih =>
    cases h with
    | stay => exact Or.inl ⟨_, .stay _, rfl⟩
    | ask reply rest =>
      rcases ih reply rest with ⟨p', hp', hq⟩ | ⟨a, first, second, rfl, hfirst, hsecond⟩
      · exact Or.inl ⟨p', .ask reply hp', hq⟩
      · exact Or.inr ⟨a, _, second, rfl, .ask reply hfirst, hsecond⟩

/-- Whatever replies a procedure gets, `during` holds of the exchanges at every point, and `after`
of all of them together with the result. -/
def Ensures (p : Procedure α) (during : List Exchange → Prop)
    (after : List Exchange → α → Prop) : Prop :=
  ∀ talk q, Follows p talk q → during talk ∧ ∀ a, q = .done a → after talk a

section Rules

variable {during : List Exchange → Prop} {after : List Exchange → α → Prop}

theorem ensures_done {a : α} (hduring : during []) (hafter : after [] a) :
    Ensures (.done a) during after := by
  intro talk q h
  cases h
  refine ⟨hduring, ?_⟩
  rintro b ⟨⟩
  exact hafter

theorem ensures_ask {call : Call} {next : call.Reply → Procedure α} (hduring : during [])
    (h : ∀ reply, Ensures (next reply) (fun talk ↦ during (⟨call, reply⟩ :: talk))
      fun talk a ↦ after (⟨call, reply⟩ :: talk) a) :
    Ensures (.ask call next) during after := by
  intro talk q hfollows
  cases hfollows with
  | stay => exact ⟨hduring, fun a ha ↦ by cases ha⟩
  | ask reply rest => exact h reply _ _ rest

theorem ensures_bind {p : Procedure β} {f : β → Procedure α} {middle : List Exchange → β → Prop}
    (hfirst : Ensures p during middle)
    (hsecond : ∀ talk b, middle talk b → Ensures (f b) (fun more ↦ during (talk ++ more))
      fun more a ↦ after (talk ++ more) a) :
    Ensures (p.bind f) during after := by
  intro talk q h
  rcases follows_bind h with ⟨p', hp', rfl⟩ | ⟨b, first, second, rfl, hdone, hrest⟩
  · obtain ⟨hduring, hmiddle⟩ := hfirst talk p' hp'
    refine ⟨hduring, fun a ha ↦ ?_⟩
    cases p' with
    | ask call next => cases ha
    | done b =>
      have hend := hsecond talk b (hmiddle b rfl) [] (f b) (.stay _)
      simpa using hend.2 a ha
  · exact hsecond first b ((hfirst first _ hdone).2 b rfl) second q hrest

theorem Ensures.mono {p : Procedure α} {during' : List Exchange → Prop}
    {after' : List Exchange → α → Prop} (h : Ensures p during after)
    (hduring : ∀ talk, during talk → during' talk)
    (hafter : ∀ talk a, after talk a → after' talk a) : Ensures p during' after' :=
  fun talk q hq ↦
    ⟨hduring talk (h talk q hq).1, fun a ha ↦ hafter talk a ((h talk q hq).2 a ha)⟩

end Rules

/-! ### Calls with nothing in between -/

theorem bind_eq (p : Procedure α) (f : α → Procedure β) : p >>= f = p.bind f := rfl

@[simp] theorem run_pure (a : α) (o : Outside) : (pure a : Procedure α).run o = (a, o) := rfl

theorem run_bind (p : Procedure α) (f : α → Procedure β) (o : Outside) :
    (p.bind f).run o = (f (p.run o).1).run (p.run o).2 := by
  induction p generalizing o with
  | done a => rfl
  | ask call next ih => exact ih _ _

/-- The calls that a procedure makes, with nothing in between. -/
def calls : Procedure α → Outside → List Call
  | done _, _ => []
  | ask call next, o => call :: (next (o.answer call).1).calls (o.answer call).2

@[simp] theorem calls_pure (a : α) (o : Outside) : (pure a : Procedure α).calls o = [] := rfl

theorem calls_bind (p : Procedure α) (f : α → Procedure β) (o : Outside) :
    (p.bind f).calls o = p.calls o ++ (f (p.run o).1).calls (p.run o).2 := by
  induction p generalizing o with
  | done a => rfl
  | ask call next ih => exact congrArg (call :: ·) (ih _ _)

/-- Makes so many calls of a procedure, with nothing in between. -/
def steps : Nat → Procedure α × Outside → Procedure α × Outside
  | 0, s => s
  | n + 1, s => steps n (s.1.step s.2)

theorem exists_steps_run (p : Procedure α) (o : Outside) :
    ∃ n, steps n (p, o) = (.done (p.run o).1, (p.run o).2) := by
  induction p generalizing o with
  | done a => exact ⟨0, rfl⟩
  | ask call next ih =>
    obtain ⟨n, hn⟩ := ih (o.answer call).1 (o.answer call).2
    exact ⟨n + 1, hn⟩

end Procedure

end ReviewDesk
