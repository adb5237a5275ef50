import Mathlib.Data.List.Induction

/-!
Histories: a state after a list of events. What a history brings about has a last beginning, an
event before which it does not hold and since which it holds throughout (`exists_onset`). If it is
known which events begin it and which end it, then it holds exactly if one has begun it and none has
ended it since (`iff_since`).
-/

set_option autoImplicit false
set_option relaxedAutoImplicit false

namespace ReviewDesk

variable {σ ε : Type}

theorem exists_onset (step : σ → ε → σ) {p : σ → Prop} {start : σ} {events : List ε}
    (hstart : ¬p start) (hend : p (events.foldl step start)) :
    ∃ before event rest, events = before ++ event :: rest ∧ ¬p (before.foldl step start) ∧
      ∀ since, since <+: rest → p ((before ++ event :: since).foldl step start) := by
  induction events using List.reverseRecOn with
  | nil => exact absurd hend hstart
  | append_singleton events event ih =>
    by_cases hlast : p (events.foldl step start)
    · obtain ⟨before, first, rest, rfl, hbefore, hsince⟩ := ih hlast
      refine ⟨before, first, rest ++ [event], by simp, hbefore, fun since hprefix ↦ ?_⟩
      rcases List.prefix_concat_iff.mp hprefix with rfl | hprefix
      · rwa [← List.cons_append, ← List.append_assoc]
      · exact hsince since hprefix
    · refine ⟨events, event, [], rfl, hlast, fun since hprefix ↦ ?_⟩
      rwa [List.prefix_nil.mp hprefix]

/-- Some event has begun something, and none has ended it since. -/
inductive Since (step : σ → ε → σ) (begins ends : σ → ε → Prop) (start : σ) : List ε → Prop
  | begun {events : List ε} {event : ε} (h : begins (events.foldl step start) event) :
      Since step begins ends start (events ++ [event])
  | kept {events : List ε} {event : ε} (before : Since step begins ends start events)
      (h : ¬ends (events.foldl step start) event) : Since step begins ends start (events ++ [event])

section Since

variable {step : σ → ε → σ} {begins ends : σ → ε → Prop} {start : σ}

theorem not_since_nil : ¬Since step begins ends start [] := by
  intro h
  generalize hnil : [] = events at h
  cases h <;> simp at hnil

theorem since_snoc {events : List ε} {event : ε} :
    Since step begins ends start (events ++ [event]) ↔
      begins (events.foldl step start) event ∨
        Since step begins ends start events ∧ ¬ends (events.foldl step start) event := by
  constructor
  · intro h
    generalize hsnoc : events ++ [event] = all at h
    cases h with
    | begun hbegins =>
      obtain ⟨rfl, hlast⟩ := List.append_inj' hsnoc rfl
      obtain rfl := List.singleton_inj.mp hlast
      exact Or.inl hbegins
    | kept before hends =>
      obtain ⟨rfl, hlast⟩ := List.append_inj' hsnoc rfl
      obtain rfl := List.singleton_inj.mp hlast
      exact Or.inr ⟨before, hends⟩
  · rintro (hbegins | ⟨before, hends⟩)
    · exact .begun hbegins
    · exact .kept before hends

theorem Since.exists_begins {events : List ε} (h : Since step begins ends start events) :
    ∃ before event, before ++ [event] <+: events ∧ begins (before.foldl step start) event := by
  induction h with
  | @begun events event h => exact ⟨events, event, List.prefix_refl _, h⟩
  | kept _ _ ih =>
    obtain ⟨before, event, hbefore, hbegins⟩ := ih
    exact ⟨before, event, hbefore.trans (List.prefix_append _ _), hbegins⟩

theorem iff_since {p : σ → Prop} {events : List ε} (hstart : ¬p start)
    (hstep : ∀ before event rest, events = before ++ event :: rest →
      (p (step (before.foldl step start) event) ↔
        begins (before.foldl step start) event ∨
          p (before.foldl step start) ∧ ¬ends (before.foldl step start) event)) :
    p (events.foldl step start) ↔ Since step begins ends start events := by
  induction events using List.reverseRecOn with
  | nil => exact iff_of_false hstart not_since_nil
  | append_singleton events event ih =>
    have hearlier := ih fun before first rest heq ↦
      hstep before first (rest ++ [event]) (by rw [heq]; simp)
    rw [List.foldl_append, List.foldl_cons, List.foldl_nil, hstep events event [] rfl, since_snoc,
      hearlier]

end Since

end ReviewDesk
