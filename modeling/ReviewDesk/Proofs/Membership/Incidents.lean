import ReviewDesk.Proofs.Membership.Rounds

/-!
The access loop where operations on members may fail. Besides what `Event` has, the platform may
begin to refuse whatever is asked of it for a reviewer, and a pass may be one that health records.
What the loop goes by is its duty, what it tracks and the store (`Outlook`); what it tracks next and
what it asks for follows from these alone, whatever the platform answers (`outlook_encounter`,
`callsAt_eq`).
-/

set_option autoImplicit false
set_option relaxedAutoImplicit false

namespace ReviewDesk.Membership

inductive Incident where
  | event (event : Event)
  /-- A pass that is recorded in health. -/
  | tick
  /-- Every operation on a reviewer fails from now on. -/
  | fault (reviewer : ReviewerId) (error : PlatformError)

namespace Incident

def isFault : Incident → Bool
  | fault .. => true
  | _ => false

def isPass : Incident → Bool
  | event .sync | tick => true
  | _ => false

theorem exists_eq_fault {incident : Incident} (h : incident.isFault) :
    ∃ reviewer error, incident = fault reviewer error := by
  cases incident with
  | fault reviewer error => exact ⟨reviewer, error, rfl⟩
  | _ => cases h

end Incident

def encounter (d : Desk) : Incident → Desk
  | .event event => happen d event
  | .tick => d.accessTick.2
  | .fault reviewer error =>
    { d with outside.platform := d.outside.platform.failMember reviewer error }

def undergo (d : Desk) (incidents : List Incident) : Desk := incidents.foldl encounter d

theorem undergo_snoc (d : Desk) (incidents : List Incident) (incident : Incident) :
    undergo d (incidents ++ [incident]) = encounter (undergo d incidents) incident :=
  List.foldl_append

/-- The calls that the access loop makes at an incident. -/
def callsAt (d : Desk) : Incident → List Call
  | .event (.join channel reviewer) =>
    (join d.access.duty d.access.tracked channel reviewer).calls d.outside
  | .event .sync | .tick => passCalls d
  | .event (.edit _) | .fault .. => []

/-- A pass that is recorded in health is a pass. -/
theorem exists_encounter_tick (d : Desk) :
    ∃ health, encounter d .tick = { happen d .sync with health := health } := by
  unfold encounter Desk.accessTick
  rcases hresult : d.accessPass with ⟨error | report, after⟩ <;>
    exact ⟨_, by rw [happen, hresult]; rfl⟩

theorem plain_encounter {d : Desk} (plain : d.outside.Plain) (incident : Incident) :
    (encounter d incident).outside.Plain := by
  cases incident with
  | event event => exact (frame_happen plain event).plain
  | tick =>
    obtain ⟨health, hencounter⟩ := exists_encounter_tick d
    rw [hencounter]
    exact (frame_happen plain .sync).plain
  | fault reviewer error => exact plain.with_platform _

theorem plain_undergo {d : Desk} (plain : d.outside.Plain) (incidents : List Incident) :
    (undergo d incidents).outside.Plain := by
  induction incidents generalizing d with
  | nil => exact plain
  | cons incident incidents ih => exact ih (plain_encounter plain incident)

/-- What the access loop goes by. -/
structure Outlook where
  duty : Duty
  tracked : Tracked
  store : Store

def outlook (d : Desk) : Outlook := ⟨d.access.duty, d.access.tracked, d.outside.store⟩

namespace Outlook

def channel? (v : Outlook) : Option ChannelId := v.store.channel? v.duty.kind

def rights (v : Outlook) : Rights := v.duty.rights v.store

/-- What is tracked after a pass. -/
def passed (v : Outlook) : Tracked :=
  match v.channel? with
  | some channel => ⟨v.rights, some channel⟩
  | none => {}

/-- What is tracked after a request to join. -/
def joined (v : Outlook) (channel : ChannelId) (reviewer : ReviewerId) : Tracked :=
  if v.channel? = some channel then v.tracked.note v.rights reviewer else v.tracked

def after (v : Outlook) : Incident → Outlook
  | .event (.edit edit) => { v with store := edit.apply v.store }
  | .event (.join channel reviewer) => { v with tracked := v.joined channel reviewer }
  | .event .sync | .tick => { v with tracked := v.passed }
  | .fault .. => v

/-- The operations that a pass asks for. -/
def operations (v : Outlook) : List MembershipOp :=
  match v.channel? with
  | some channel => (plan v.tracked v.rights channel).operations channel
  | none => []

/-- The operations that are asked for at an incident. -/
def asks (v : Outlook) : Incident → List MembershipOp
  | .event (.join channel reviewer) =>
    if v.channel? = some channel then [v.duty.answer v.store channel reviewer] else []
  | .event .sync | .tick => v.operations
  | .event (.edit _) | .fault .. => []

/-- What the store is asked before that. -/
def lookups (v : Outlook) : Incident → List Call
  | .event (.join channel _) =>
    if v.channel? = some channel then [.resolveChannel v.duty.kind, .currentRights v.duty.kind]
    else [.resolveChannel v.duty.kind]
  | .event .sync | .tick =>
    if v.channel?.isSome then [.resolveChannel v.duty.kind, .currentRights v.duty.kind]
    else [.resolveChannel v.duty.kind]
  | .event (.edit _) | .fault .. => []

theorem filterMap_lookups (v : Outlook) (incident : Incident) :
    (v.lookups incident).filterMap Call.memberOp? = [] := by
  rcases incident with (edit | ⟨channel, reviewer⟩ | _) | _ | ⟨reviewer, error⟩
  · rfl
  · rw [lookups]
    split_ifs <;> rfl
  · rw [lookups]
    split_ifs <;> rfl
  · rw [lookups]
    split_ifs <;> rfl
  · rfl

theorem get?_passed_ne_none_iff (v : Outlook) (reviewer : ReviewerId) :
    v.passed.rights.get? reviewer ≠ none ↔
      v.rights.get? reviewer ≠ none ∧ v.channel? ≠ none := by
  unfold passed
  cases v.channel? <;> simp

theorem get?_joined_ne_none_iff (v : Outlook) (channel : ChannelId) (who reviewer : ReviewerId) :
    (v.joined channel who).rights.get? reviewer ≠ none ↔
      v.rights.get? reviewer ≠ none ∧ who = reviewer ∧ v.channel? = some channel ∨
        v.tracked.rights.get? reviewer ≠ none := by
  unfold joined
  split_ifs with hchannel
  · rw [get?_note]
    split_ifs with hwho
    · rw [ne_eq, Option.or_eq_none_iff, not_and_or]
      simp [hwho, hchannel]
    · simp [hwho]
  · simp [hchannel]

end Outlook

section Plain

variable {d : Desk} (plain : d.outside.Plain)
include plain

theorem happen_sync_eq : happen d .sync = { d with
    outside := d.outside.enact (outlook d).operations
    access.tracked := (outlook d).passed } := by
  cases h : channel? d with
  | none =>
    have hchannel : (outlook d).channel? = none := h
    rw [happen_sync_of_none plain h, Outlook.operations, Outlook.passed, hchannel]
    rfl
  | some channel =>
    have hchannel : (outlook d).channel? = some channel := h
    rw [happen_sync_of_some plain h, Outlook.operations, Outlook.passed, hchannel]
    rfl

theorem happen_join_eq (channel : ChannelId) (reviewer : ReviewerId) :
    happen d (.join channel reviewer) = { d with
      outside := d.outside.enact ((outlook d).asks (.event (.join channel reviewer)))
      access.tracked := (outlook d).joined channel reviewer } := by
  by_cases h : channel? d = some channel
  · have hchannel : (outlook d).channel? = some channel := h
    rw [happen_join plain h, Outlook.asks, Outlook.joined, if_pos hchannel, if_pos hchannel]
    rfl
  · have hchannel : (outlook d).channel? ≠ some channel := h
    rw [happen_join_of_ne plain h, Outlook.asks, Outlook.joined, if_neg hchannel, if_neg hchannel]
    rfl

theorem outlook_encounter (incident : Incident) :
    outlook (encounter d incident) = (outlook d).after incident := by
  rcases incident with (edit | ⟨channel, reviewer⟩ | _) | _ | ⟨reviewer, error⟩
  · rfl
  · rw [encounter, happen_join_eq plain]
    rfl
  · rw [encounter, happen_sync_eq plain]
    rfl
  · obtain ⟨health, hencounter⟩ := exists_encounter_tick d
    rw [hencounter, happen_sync_eq plain]
    rfl
  · rfl

theorem passCalls_eq :
    passCalls d = (outlook d).lookups .tick ++ ((outlook d).operations.map .member) := by
  cases h : channel? d with
  | none =>
    have hchannel : (outlook d).channel? = none := h
    rw [passCalls, calls_pass_of_none plain _ h, Outlook.lookups, Outlook.operations, hchannel]
    rfl
  | some channel =>
    have hchannel : (outlook d).channel? = some channel := h
    rw [passCalls, calls_pass_of_some plain _ h, Outlook.lookups, Outlook.operations, hchannel]
    rfl

theorem callsAt_eq (incident : Incident) :
    callsAt d incident =
      (outlook d).lookups incident ++ ((outlook d).asks incident).map .member := by
  rcases incident with (edit | ⟨channel, reviewer⟩ | _) | _ | ⟨reviewer, error⟩
  · rfl
  · by_cases h : channel? d = some channel
    · have hchannel : (outlook d).channel? = some channel := h
      simp only [callsAt, calls_join plain _ h, Outlook.lookups, Outlook.asks, if_pos hchannel]
      rfl
    · have hchannel : (outlook d).channel? ≠ some channel := h
      simp only [callsAt, calls_join_of_ne plain _ h, Outlook.lookups, Outlook.asks,
        if_neg hchannel]
      rfl
  · exact passCalls_eq plain
  · exact passCalls_eq plain
  · rfl

theorem filterMap_callsAt (incident : Incident) :
    (callsAt d incident).filterMap Call.memberOp? = (outlook d).asks incident := by
  rw [callsAt_eq plain, List.filterMap_append, Outlook.filterMap_lookups, List.nil_append,
    Call.filterMap_memberOp?_map]

theorem member_mem_callsAt_iff {incident : Incident} {op : MembershipOp} :
    .member op ∈ callsAt d incident ↔ op ∈ (outlook d).asks incident := by
  rw [← filterMap_callsAt plain, Call.mem_filterMap_memberOp?]

theorem duty_undergo (incidents : List Incident) :
    (undergo d incidents).access.duty = d.access.duty := by
  induction incidents generalizing d with
  | nil => rfl
  | cons incident incidents ih =>
    have hfirst : (encounter d incident).access.duty = d.access.duty := by
      change (outlook (encounter d incident)).duty = (outlook d).duty
      rw [outlook_encounter plain]
      rcases incident with (edit | ⟨channel, reviewer⟩ | _) | _ | ⟨reviewer, error⟩ <;> rfl
    exact (ih (plain_encounter plain incident)).trans hfirst

end Plain

end ReviewDesk.Membership
