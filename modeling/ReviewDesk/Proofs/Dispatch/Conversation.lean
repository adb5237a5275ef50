import Mathlib.Data.List.Nodup
import Mathlib.Data.Prod.Basic
import ReviewDesk.Dispatch.Pass
import ReviewDesk.Proofs.Conversation

/-!
What a dispatch pass says, whoever answers it. Every post that goes through is followed by one claim
of its item with the message it was posted as, and the report counts the claims that were won and
lost (`ensures_pass`). The answers may come from a store that others change between any two calls.
-/

set_option autoImplicit false
set_option relaxedAutoImplicit false

namespace ReviewDesk

/-- An item of a kind, together with a message. -/
structure Posting where
  kind : Kind
  item : ItemId
  target : MessageRef
  deriving DecidableEq

namespace Posting

def key (posting : Posting) : Kind × ItemId := (posting.kind, posting.item)

end Posting

namespace Exchange

/-- What was posted, and as which message. -/
def posted? : Exchange → Option Posting
  | ⟨.publish _ post, .ok target⟩ => some ⟨post.kind, post.item, target⟩
  | _ => none

/-- What a claim was asked for. -/
def claimed? : Exchange → Option Posting
  | ⟨.claim kind item target, _⟩ => some ⟨kind, item, target⟩
  | _ => none

/-- A claim that succeeded. -/
def won? : Exchange → Option Posting
  | ⟨.claim kind item target, .ok true⟩ => some ⟨kind, item, target⟩
  | _ => none

/-- A claim that came too late, or was about no item that is there. -/
def lost? : Exchange → Option Posting
  | ⟨.claim kind item target, .ok false⟩ => some ⟨kind, item, target⟩
  | _ => none

/-- An exchange is a claim, or it is about none. -/
theorem eq_claim_or_unclaimed (exchange : Exchange) :
    (∃ kind item target reply, exchange = ⟨.claim kind item target, reply⟩) ∨
      exchange.claimed? = none ∧ exchange.won? = none ∧ exchange.lost? = none := by
  rcases exchange with ⟨call, reply⟩
  cases call with
  | claim kind item target => exact Or.inl ⟨kind, item, target, reply, rfl⟩
  | resolveChannel kind => exact Or.inr ⟨rfl, rfl, rfl⟩
  | fetchPending kind limit => exact Or.inr ⟨rfl, rfl, rfl⟩
  | currentRights kind => exact Or.inr ⟨rfl, rfl, rfl⟩
  | publish channel post => exact Or.inr ⟨rfl, rfl, rfl⟩
  | member op => exact Or.inr ⟨rfl, rfl, rfl⟩
  | decide call => exact Or.inr ⟨rfl, rfl, rfl⟩

theorem eq_of_won? {exchange : Exchange} {posting : Posting} (h : exchange.won? = some posting) :
    exchange = ⟨.claim posting.kind posting.item posting.target, .ok true⟩ := by
  rcases exchange.eq_claim_or_unclaimed with ⟨kind, item, target, reply, rfl⟩ | ⟨-, hwon, -⟩
  · rcases reply with error | won
    · cases h
    · cases won with
      | false => cases h
      | true =>
        cases h
        rfl
  · rw [hwon] at h
    cases h

/-- The items that a fetch brought. -/
def fetched : Exchange → List Item
  | ⟨.fetchPending _ _, .ok items⟩ => items
  | _ => []

/-- The items that a fetch brought are of the kind that was asked for, and no two of them are the
same item. -/
def Proper : Exchange → Prop
  | ⟨.fetchPending kind _, .ok items⟩ =>
    (∀ item ∈ items, item.kind = kind) ∧ (items.map Item.id).Nodup
  | _ => True

/-- A call by which a kind is looked through has failed. -/
def Failed : Exchange → Prop
  | ⟨.resolveChannel _, .error _⟩ | ⟨.fetchPending _ _, .error _⟩ => True
  | _ => False

end Exchange

namespace Talk

def posted (talk : List Exchange) : List Posting := talk.filterMap Exchange.posted?

def claimed (talk : List Exchange) : List Posting := talk.filterMap Exchange.claimed?

def won (talk : List Exchange) : List Posting := talk.filterMap Exchange.won?

def lost (talk : List Exchange) : List Posting := talk.filterMap Exchange.lost?

section Append

variable (talk more : List Exchange)

@[simp] theorem posted_append : posted (talk ++ more) = posted talk ++ posted more :=
  List.filterMap_append

@[simp] theorem claimed_append : claimed (talk ++ more) = claimed talk ++ claimed more :=
  List.filterMap_append

@[simp] theorem won_append : won (talk ++ more) = won talk ++ won more :=
  List.filterMap_append

@[simp] theorem lost_append : lost (talk ++ more) = lost talk ++ lost more :=
  List.filterMap_append

end Append

/-- What was posted has been claimed, up to the latest post. -/
def Paired (talk : List Exchange) : Prop :=
  posted talk = claimed talk ∨ ∃ latest, posted talk = claimed talk ++ [latest]

theorem Paired.append {talk more : List Exchange} (h : posted talk = claimed talk)
    (hmore : Paired more) : Paired (talk ++ more) := by
  rw [Paired, posted_append, claimed_append, h]
  rcases hmore with heq | ⟨latest, heq⟩
  · exact Or.inl (by rw [heq])
  · exact Or.inr ⟨latest, by rw [heq, List.append_assoc]⟩

end Talk

namespace Dispatch

open Talk Procedure

/-- What the exchanges of finished work come to: everything posted has been claimed, and the counts
of one report have grown to those of the next by the claims that were won and lost. -/
structure Accounts (talk : List Exchange) (before after : Report) : Prop where
  settled : posted talk = claimed talk
  sent : ∀ kind, after.sent.get kind = before.sent.get kind + (won talk).countP (·.kind = kind)
  duplicates : after.duplicates = before.duplicates + (lost talk).length

theorem Accounts.refl (report : Report) : Accounts [] report report := ⟨rfl, fun _ ↦ rfl, rfl⟩

theorem Accounts.append {talk more : List Exchange} {first second third : Report}
    (h : Accounts talk first second) (hmore : Accounts more second third) :
    Accounts (talk ++ more) first third where
  settled := by rw [posted_append, claimed_append, h.settled, hmore.settled]
  sent kind := by
    rw [hmore.sent kind, h.sent kind, won_append, List.countP_append]
    omega
  duplicates := by
    rw [hmore.duplicates, h.duplicates, lost_append, List.length_append]
    omega

end Dispatch

/-- What identifies an item among those of all kinds. -/
def Item.key (item : Item) : Kind × ItemId := (item.kind, item.id)

namespace Dispatch

open Talk Procedure

theorem sent_count (report : Report) (kind other : Kind) (fate : Fate) :
    (report.count kind fate).sent.get other =
      report.sent.get other + if fate = .sent ∧ kind = other then 1 else 0 := by
  cases fate <;> cases kind <;> cases other <;> rfl

theorem duplicates_count (report : Report) (kind : Kind) (fate : Fate) :
    (report.count kind fate).duplicates =
      report.duplicates + if fate = .duplicate then 1 else 0 := by
  cases fate <;> rfl

theorem accounts_count {talk : List Exchange} {kind : Kind} {fate : Fate}
    (settled : posted talk = claimed talk)
    (sent : ∀ other, (won talk).countP (·.kind = other) =
      if fate = .sent ∧ kind = other then 1 else 0)
    (duplicates : (lost talk).length = if fate = .duplicate then 1 else 0) (report : Report) :
    Accounts talk report (report.count kind fate) where
  settled := settled
  sent other := by rw [sent_count, sent]
  duplicates := by rw [duplicates_count, duplicates]

/-- What offering an item leads to: the accounts grow by its fate, and nothing but that item is
posted. -/
theorem ensures_offer (channel : ChannelId) (item : Item) :
    Ensures (offer channel item) Paired fun talk fate ↦
      (∀ report, Accounts talk report (report.count item.kind fate)) ∧
        ((posted talk).map Posting.key).Sublist [item.key] := by
  unfold offer
  split
  · exact ensures_done (Or.inl rfl)
      ⟨accounts_count rfl (fun _ ↦ rfl) rfl, List.nil_sublist _⟩
  · apply ensures_ask (Or.inl rfl)
    intro reply
    cases reply with
    | error error =>
      exact ensures_done (Or.inl rfl)
        ⟨accounts_count rfl (fun _ ↦ rfl) rfl, List.nil_sublist _⟩
    | ok target =>
      have hposted : Paired [⟨.publish channel (Post.ofItem item), .ok target⟩] :=
        Or.inr ⟨⟨item.kind, item.id, target⟩, rfl⟩
      apply ensures_ask hposted
      intro reply
      rcases reply with error | won
      · exact ensures_done (Or.inl rfl)
          ⟨accounts_count rfl (fun _ ↦ rfl) rfl, List.Sublist.refl [item.key]⟩
      · cases won with
        | true =>
          refine ensures_done (Or.inl rfl)
            ⟨accounts_count rfl (fun other ↦ ?_) rfl, List.Sublist.refl [item.key]⟩
          change [Posting.mk item.kind item.id target].countP _ = _
          simp [List.countP_cons]
        | false =>
          exact ensures_done (Or.inl rfl)
            ⟨accounts_count rfl (fun _ ↦ rfl) rfl, List.Sublist.refl [item.key]⟩

/-- What offering items in a row leads to. The counts are right where the items are of the kind that
they are counted as. -/
theorem ensures_offerAll (kind : Kind) (channel : ChannelId) (items : List Item)
    (report : Report) :
    Ensures (offerAll kind channel items report) Paired fun talk report' ↦
      posted talk = claimed talk ∧
        ((∀ item ∈ items, item.kind = kind) → Accounts talk report report') ∧
        ((posted talk).map Posting.key).Sublist (items.map Item.key) := by
  induction items generalizing report with
  | nil => exact ensures_done (Or.inl rfl) ⟨rfl, fun _ ↦ .refl report, List.nil_sublist _⟩
  | cons item items ih =>
    refine ensures_bind (ensures_offer channel item) fun talk fate ⟨haccounts, hposted⟩ ↦ ?_
    have hsettled := (haccounts report).settled
    refine (ih (report.count kind fate)).mono (fun more hmore ↦ hmore.append hsettled) ?_
    rintro more report' ⟨hsettled', haccounts', hposted'⟩
    refine ⟨?_, fun hkind ↦ ?_, ?_⟩
    · rw [posted_append, claimed_append, hsettled, hsettled']
    · have hfirst := haccounts report
      rw [hkind item List.mem_cons_self] at hfirst
      exact hfirst.append (haccounts' fun other hother ↦
        hkind other (List.mem_cons_of_mem item hother))
    · rw [posted_append, List.map_append]
      exact hposted.append hposted'

/-- Where every fetch brought what it should: what the exchanges of a finished part of a pass come
to. No item is posted twice, and each was among those of its kind that the part fetched. -/
structure Covers (kinds : List Kind) (talk : List Exchange) (before after : Report) : Prop where
  accounts : Accounts talk before after
  nodup : ((posted talk).map Posting.key).Nodup
  fetched : ∀ key ∈ (posted talk).map Posting.key, key.1 ∈ kinds ∧
    ∃ exchange ∈ talk, key ∈ exchange.fetched.map Item.key

theorem Covers.refl (kinds : List Kind) (report : Report) : Covers kinds [] report report :=
  ⟨.refl report, List.nodup_nil, fun key hkey ↦ by cases hkey⟩

theorem Covers.append {kind : Kind} {kinds : List Kind} {talk more : List Exchange}
    {first second third : Report} (hkind : kind ∉ kinds) (h : Covers [kind] talk first second)
    (hmore : Covers kinds more second third) : Covers (kind :: kinds) (talk ++ more) first third where
  accounts := h.accounts.append hmore.accounts
  nodup := by
    rw [posted_append, List.map_append, List.nodup_append]
    refine ⟨h.nodup, hmore.nodup, fun key hkey other hother heq ↦ hkind ?_⟩
    have hfirst := (h.fetched key hkey).1
    rw [List.mem_singleton, heq] at hfirst
    exact hfirst ▸ (hmore.fetched other hother).1
  fetched key hkey := by
    rw [posted_append, List.map_append, List.mem_append] at hkey
    rcases hkey with hkey | hkey
    · obtain ⟨hmem, exchange, hexchange, hitem⟩ := h.fetched key hkey
      rw [List.mem_singleton] at hmem
      exact ⟨hmem ▸ List.mem_cons_self, exchange, List.mem_append_left more hexchange, hitem⟩
    · obtain ⟨hmem, exchange, hexchange, hitem⟩ := hmore.fetched key hkey
      exact ⟨List.mem_cons_of_mem kind hmem, exchange, List.mem_append_right talk hexchange, hitem⟩

/-- How a part of a pass ends: with a report that covers what it did, or because a kind could not be
looked through. -/
def Ends (kinds : List Kind) (before : Report) (talk : List Exchange) :
    Except Failure Report → Prop
  | .ok report => posted talk = claimed talk ∧
    ((∀ exchange ∈ talk, exchange.Proper) → Covers kinds talk before report)
  | .error _ => posted talk = claimed talk ∧ ∃ exchange ∈ talk, exchange.Failed

theorem covers_of_proper {kind : Kind} {channel : Option ChannelId} {limit : Nat}
    {items : List Item} {talk : List Exchange} {report report' : Report}
    (hproper : Exchange.Proper ⟨.fetchPending kind limit, .ok items⟩)
    (haccounts : (∀ item ∈ items, item.kind = kind) → Accounts talk report report')
    (hposted : ((posted talk).map Posting.key).Sublist (items.map Item.key)) :
    Covers [kind] (⟨.resolveChannel kind, .ok channel⟩ ::
      ⟨.fetchPending kind limit, .ok items⟩ :: talk) report report' where
  accounts := by
    have hlook : Accounts [⟨.resolveChannel kind, .ok channel⟩,
        ⟨.fetchPending kind limit, .ok items⟩] report report := ⟨rfl, fun _ ↦ rfl, rfl⟩
    exact hlook.append (haccounts hproper.1)
  nodup := by
    have hkeys : items.map Item.key = (items.map Item.id).map (Prod.mk kind) := by
      rw [List.map_map]
      exact List.map_congr_left fun item hitem ↦ congrArg (·, item.id) (hproper.1 item hitem)
    have hnodup : (items.map Item.key).Nodup := by
      rw [hkeys]
      exact hproper.2.map (Prod.mk_right_injective kind)
    exact hnodup.sublist hposted
  fetched key hkey := by
    have hmem : key ∈ items.map Item.key := hposted.subset hkey
    obtain ⟨item, hitem, rfl⟩ := List.mem_map.mp hmem
    exact ⟨List.mem_singleton.mpr (hproper.1 item hitem), ⟨.fetchPending kind limit, .ok items⟩,
      List.mem_cons_of_mem _ List.mem_cons_self, hmem⟩

theorem ensures_passKind (limit : Nat) (kind : Kind) (report : Report) :
    Ensures (passKind limit kind report) Paired (Ends [kind] report) := by
  apply ensures_ask (Or.inl rfl)
  intro reply
  rcases reply with error | channel
  · exact ensures_done (Or.inl rfl) ⟨rfl, _, List.mem_cons_self, trivial⟩
  · cases channel with
    | none =>
      refine ensures_done (Or.inl rfl) ⟨rfl, fun _ ↦ ?_⟩
      exact ⟨⟨rfl, fun _ ↦ rfl, rfl⟩, List.nodup_nil, fun key hkey ↦ by cases hkey⟩
    | some channel =>
      apply ensures_ask (Or.inl rfl)
      intro reply
      rcases reply with error | items
      · refine ensures_done (Or.inl rfl) ⟨rfl, _, List.mem_cons_of_mem _ List.mem_cons_self, ?_⟩
        trivial
      · refine ensures_bind ((ensures_offerAll kind channel items report).mono ?_ fun _ _ h ↦ h) ?_
        · exact fun talk htalk ↦ htalk
        · rintro talk report' ⟨hsettled, haccounts, hposted⟩
          rw [← List.append_nil talk] at hsettled
          refine ensures_done (Or.inl hsettled) ⟨hsettled, fun hproper ↦ ?_⟩
          rw [List.append_nil] at hproper ⊢
          exact covers_of_proper (hproper _ (List.mem_cons_of_mem _ List.mem_cons_self))
            haccounts hposted

theorem ensures_passKinds (limit : Nat) (kinds : List Kind) (hkinds : kinds.Nodup)
    (report : Report) :
    Ensures (passKinds limit kinds report) Paired (Ends kinds report) := by
  induction kinds generalizing report with
  | nil => exact ensures_done (Or.inl rfl) ⟨rfl, fun _ ↦ .refl [] report⟩
  | cons kind kinds ih =>
    obtain ⟨hkind, hkinds⟩ := List.nodup_cons.mp hkinds
    refine ensures_bind (ensures_passKind limit kind report) ?_
    rintro talk (failure | report') hends
    · refine ensures_done (Or.inl ?_) ?_
      · rw [List.append_nil]
        exact hends.1
      · rw [List.append_nil]
        exact hends
    · refine (ih hkinds report').mono (fun more hmore ↦ hmore.append hends.1) ?_
      rintro more (failure | report'') hmore
      · refine ⟨by rw [posted_append, claimed_append, hends.1, hmore.1], ?_⟩
        obtain ⟨exchange, hexchange, hfailed⟩ := hmore.2
        exact ⟨exchange, List.mem_append_right talk hexchange, hfailed⟩
      · refine ⟨by rw [posted_append, claimed_append, hends.1, hmore.1], fun hproper ↦ ?_⟩
        exact (hends.2 fun exchange hexchange ↦ hproper exchange
          (List.mem_append_left more hexchange)).append hkind
          (hmore.2 fun exchange hexchange ↦ hproper exchange
            (List.mem_append_right talk hexchange))

/-- Every post of a pass is claimed before the next one, and a pass ends with a report that covers
all it did unless a kind could not be looked through. -/
theorem ensures_pass (limit : Nat) : Ensures (pass limit) Paired (Ends Kind.all {}) :=
  ensures_passKinds (max limit 1) Kind.all (by decide) {}

end Dispatch

end ReviewDesk
