import Mathlib.Data.List.DropRight
import ReviewDesk.Decision.Client
import ReviewDesk.Proofs.Text.Bounded
import ReviewDesk.Proofs.Text.Core

/-!
Settings by their keys. Reading fails for the first key, in the order of reading, under which something
other than a number of its sort is given (`ofLookup_eq`); otherwise every field is what its own key says,
or its default. What is read names a notice channel, so only a decision time of zero keeps a desk from
running with it. The effective values keep their lower bounds whatever the settings are, and the decision
service is addressed below the configured base (`exact_ofLookup`).
-/

set_option autoImplicit false
set_option relaxedAutoImplicit false

namespace ReviewDesk.Settings

open Text

/-! ### Keys and what is given under them -/

inductive Key where
  | noticeChannel
  | batchLimit
  | fallback
  | retry
  | decision
  | owner
  | base
  | token
  deriving DecidableEq

namespace Key

def name : Key → String
  | noticeChannel => "REVIEW_NOTIFY_CHANNEL"
  | batchLimit => "REVIEW_BATCH_LIMIT"
  | fallback => "REVIEW_FALLBACK_SECONDS"
  | retry => "REVIEW_LISTENER_RETRY_SECONDS"
  | decision => "REVIEW_DECISION_TIMEOUT_SECONDS"
  | owner => "OWNER_TELEGRAM_ID"
  | base => "API_BASE_URL"
  | token => "INTERNAL_API_TOKEN"

/-- The keys of numbers, in the order in which they are read. -/
def numbers : List Key := [batchLimit, fallback, retry, decision, owner]

/-- Whether a value may stand under a key. -/
def admits : Key → String → Bool
  | batchLimit, value | fallback, value | retry, value | decision, value => (unsigned64? value).isSome
  | owner, value => (signed64? value).isSome
  | _, _ => true

/-- The owner may be any signed number, and the other numbers have no sign of their own. -/
def IsNumber : Key → String → Prop
  | owner, value => ∃ n, IsSigned value n
  | _, value => ∃ n, IsUnsigned value n

/-- Two settings have the same under a key. -/
def Same (s s' : Settings) : Key → Prop
  | noticeChannel => s.noticeChannel = s'.noticeChannel
  | batchLimit => s.batchLimit = s'.batchLimit
  | fallback => s.fallbackSeconds = s'.fallbackSeconds
  | retry => s.retrySeconds = s'.retrySeconds
  | decision => s.decisionSeconds = s'.decisionSeconds
  | owner => s.superReviewer = s'.superReviewer
  | base => s.decisionBase = s'.decisionBase
  | token => s.decisionToken = s'.decisionToken

theorem admits_iff_isNumber {key : Key} (h : key ∈ numbers) {value : String} :
    key.admits value = true ↔ key.IsNumber value := by
  have hunsigned : (unsigned64? value).isSome ↔ ∃ n, IsUnsigned value n := by
    simp only [Option.isSome_iff_exists, unsigned64?_eq_some_iff]
  have hsigned : (signed64? value).isSome ↔ ∃ n, IsSigned value n := by
    simp only [Option.isSome_iff_exists, signed64?_eq_some_iff]
  cases key with
  | batchLimit | fallback | retry | decision => exact hunsigned
  | owner => exact hsigned
  | noticeChannel | base | token => simp [numbers] at h

end Key

variable {lookup : String → Option String} {key : Key} {value : String}

/-- What is given under a key, without the blanks around it; blanks alone are nothing. -/
def Given (lookup : String → Option String) (key : Key) (value : String) : Prop :=
  ∃ raw, lookup key.name = some raw ∧ (∃ c ∈ raw.toList, isBlank c = false) ∧ value = trim raw

theorem value?_eq_some_iff : value? lookup key.name = some value ↔ Given lookup key value := by
  have hblank (raw : String) : (!(trim raw).isEmpty) = true ↔ ∃ c ∈ raw.toList, isBlank c = false := by
    rw [Bool.not_eq_true', Bool.eq_false_iff, ne_eq, String.isEmpty_iff, ← String.toList_eq_nil_iff,
      toList_trim, trimChars_eq_nil_iff]
    simp
  rw [value?, Option.filter_eq_some_iff, Option.map_eq_some_iff]
  constructor
  · rintro ⟨⟨raw, hraw, rfl⟩, hfull⟩
    exact ⟨raw, hraw, (hblank raw).mp hfull, rfl⟩
  · rintro ⟨raw, hraw, hfull, rfl⟩
    exact ⟨⟨raw, hraw, rfl⟩, (hblank raw).mpr hfull⟩

/-- Something other than a number is given where a number is wanted. -/
def Faulty (lookup : String → Option String) (key : Key) (value : String) : Prop :=
  Given lookup key value ∧ ¬key.IsNumber value

/-- What is wrong with what is given under a key. -/
def fault? (lookup : String → Option String) (key : Key) : Option SettingsError :=
  ((value? lookup key.name).filter fun value ↦ !key.admits value).map (.invalidValue key.name)

theorem fault?_eq_some_iff (h : key ∈ Key.numbers) {error : SettingsError} :
    fault? lookup key = some error ↔
      ∃ value, Faulty lookup key value ∧ error = .invalidValue key.name value := by
  simp only [fault?, Option.map_eq_some_iff, Option.filter_eq_some_iff, Bool.not_eq_true',
    Bool.eq_false_iff, ne_eq, Key.admits_iff_isNumber h, value?_eq_some_iff, Faulty]
  exact exists_congr fun value ↦ and_congr_right' eq_comm

theorem fault?_eq_none_iff (h : key ∈ Key.numbers) :
    fault? lookup key = none ↔ ∀ value, ¬Faulty lookup key value := by
  simp only [Option.eq_none_iff_forall_ne_some, ne_eq, fault?_eq_some_iff h, not_exists, not_and]
  exact ⟨fun hnone value hfaulty ↦ hnone _ value hfaulty rfl,
    fun hnone _ value hfaulty ↦ absurd hfaulty (hnone value)⟩

/-! ### Reading -/

/-- What the keys say, each taken by itself. -/
def ofKeys (lookup : String → Option String) : Settings where
  noticeChannel := (value? lookup Key.noticeChannel.name).getD "review_dispatch"
  batchLimit := ((value? lookup Key.batchLimit.name).bind unsigned64?).getD 20
  fallbackSeconds := ((value? lookup Key.fallback.name).bind unsigned64?).getD 15
  retrySeconds := ((value? lookup Key.retry.name).bind unsigned64?).getD 5
  decisionSeconds := ((value? lookup Key.decision.name).bind unsigned64?).getD 20
  superReviewer := (((value? lookup Key.owner.name).bind signed64?).map ReviewerId.mk).filter
    ReviewerId.isValid
  decisionBase := ((value? lookup Key.base.name).map trimSlashes).getD "http://localhost:8080"
  decisionToken := (value? lookup Key.token.name).getD ""

theorem number_eq {α : Type} (lookup : String → Option String) (key : Key) {read? : String → Option α}
    (h : ∀ value, key.admits value = (read? value).isSome) (fallback : α) :
    number lookup read? key.name fallback =
      (fault? lookup key).elim (.ok (((value? lookup key.name).bind read?).getD fallback)) .error := by
  rw [number, fault?]
  cases value? lookup key.name with
  | none => rfl
  | some value =>
    cases hread : read? value with
    | none => simp [Option.filter, h, hread]
    | some n => simp [Option.filter, h, hread]

theorem bind_elim_error {ε α β : Type} (fault : Option ε) (a : α) (f : α → Except ε β) :
    (fault.elim (.ok a) .error >>= f) = fault.elim (f a) .error := by
  cases fault <;> rfl

theorem elim_findSome?_cons {ε α : Type} (fault? : Key → Option ε) (result : Except ε α) (key : Key)
    (keys : List Key) :
    ((key :: keys).findSome? fault?).elim result .error =
      (fault? key).elim ((keys.findSome? fault?).elim result .error) .error := by
  rw [List.findSome?_cons]
  cases fault? key <;> rfl

/-- Reading stops at the first fault, and without one it gives what the keys say. -/
theorem ofLookup_eq (lookup : String → Option String) :
    ofLookup lookup = (Key.numbers.findSome? (fault? lookup)).elim (.ok (ofKeys lookup)) .error := by
  have hsome : ∀ value, Key.owner.admits value = ((signed64? value).map some).isSome := fun value ↦
    Option.isSome_map.symm
  have hbatchLimit := number_eq lookup .batchLimit (fun _ ↦ rfl) 20
  have hfallback := number_eq lookup .fallback (fun _ ↦ rfl) 15
  have hretry := number_eq lookup .retry (fun _ ↦ rfl) 5
  have hdecision := number_eq lookup .decision (fun _ ↦ rfl) 20
  have howner := number_eq lookup .owner hsome none
  have hreviewer : (((value? lookup Key.owner.name).bind fun value ↦
      (signed64? value).map some).getD none) = (value? lookup Key.owner.name).bind signed64? := by
    cases value? lookup Key.owner.name with
    | none => rfl
    | some value => cases hread : signed64? value <;> simp [hread]
  rw [hreviewer] at howner
  simp only [Key.name] at hbatchLimit hfallback hretry hdecision howner
  simp only [ofLookup, hbatchLimit, hfallback, hretry, hdecision, howner, bind_elim_error,
    Key.numbers, elim_findSome?_cons]
  rfl

theorem ofLookup_eq_error_iff {error : SettingsError} :
    ofLookup lookup = .error error ↔ Key.numbers.findSome? (fault? lookup) = some error := by
  rw [ofLookup_eq]
  cases Key.numbers.findSome? (fault? lookup) <;> simp

theorem ofLookup_eq_ok_iff {s : Settings} :
    ofLookup lookup = .ok s ↔
      (∀ key ∈ Key.numbers, ∀ value, ¬Faulty lookup key value) ∧ s = ofKeys lookup := by
  have hfaultless : Key.numbers.findSome? (fault? lookup) = none ↔
      ∀ key ∈ Key.numbers, ∀ value, ¬Faulty lookup key value := by
    rw [List.findSome?_eq_none_iff]
    exact forall₂_congr fun key hkey ↦ fault?_eq_none_iff hkey
  rw [← hfaultless, ofLookup_eq]
  cases Key.numbers.findSome? (fault? lookup) <;> simp [eq_comm]

/-! ### What is read -/

/-- A field is what its key says, or its default where nothing is given. -/
structure Shows {α : Type} (lookup : String → Option String) (key : Key) (means : String → α → Prop)
    (fallback field : α) : Prop where
  given : ∀ value, Given lookup key value → means value field
  unset : (∀ value, ¬Given lookup key value) → field = fallback

theorem shows_getD {α : Type} (read? : String → Option α) {means : String → α → Prop} (fallback : α)
    (h : ∀ value, Given lookup key value → ∃ a, read? value = some a ∧ means value a) :
    Shows lookup key means fallback (((value? lookup key.name).bind read?).getD fallback) := by
  cases hvalue : value? lookup key.name with
  | none =>
    refine ⟨fun value hgiven ↦ ?_, fun _ ↦ rfl⟩
    cases hvalue.symm.trans (value?_eq_some_iff.mpr hgiven)
  | some value =>
    have hgiven := value?_eq_some_iff.mp hvalue
    refine ⟨fun other hother ↦ ?_, fun hnone ↦ absurd hgiven (hnone value)⟩
    obtain rfl : value = other := Option.some.inj (hvalue.symm.trans (value?_eq_some_iff.mpr hother))
    obtain ⟨a, hread, hmeans⟩ := h value hgiven
    simpa [hread] using hmeans

/-- An address without the slashes at its end. -/
def IsCut (address base : String) : Prop :=
  base.toList.getLast? ≠ some '/' ∧ ∃ count, address.toList = base.toList ++ List.replicate count '/'

theorem toList_trimSlashes (address : String) :
    (trimSlashes address).toList = address.toList.rdropWhile (· = '/') := by
  rw [trimSlashes, String.toList_ofList]
  rfl

theorem isCut_trimSlashes (address : String) : IsCut address (trimSlashes address) := by
  rw [IsCut, toList_trimSlashes]
  constructor
  · have hfirst := List.head?_dropWhile_not (· = '/') address.toList.reverse
    rw [List.rdropWhile, List.getLast?_reverse]
    intro hlast
    rw [hlast] at hfirst
    simp at hfirst
  · refine ⟨(address.toList.rtakeWhile (· = '/')).length, ?_⟩
    have hslashes : address.toList.rtakeWhile (· = '/') =
        List.replicate (address.toList.rtakeWhile (· = '/')).length '/' :=
      List.eq_replicate_of_mem fun c hc ↦
        of_decide_eq_true (List.mem_rtakeWhile_imp (p := (· = '/')) hc)
    rw [← hslashes, List.rdropWhile_append_rtakeWhile]

/-- All fields by their keys. -/
structure ShowsAll (lookup : String → Option String) (s : Settings) : Prop where
  noticeChannel : Shows lookup .noticeChannel Eq "review_dispatch" s.noticeChannel
  batchLimit : Shows lookup .batchLimit IsUnsigned 20 s.batchLimit
  fallback : Shows lookup .fallback IsUnsigned 15 s.fallbackSeconds
  retry : Shows lookup .retry IsUnsigned 5 s.retrySeconds
  decision : Shows lookup .decision IsUnsigned 20 s.decisionSeconds
  /-- A number that is not positive is nobody's. -/
  owner : Shows lookup .owner
    (fun value reviewer ↦ ∃ n, IsSigned value n ∧ reviewer = if 0 < n.toInt then some ⟨n⟩ else none)
    none s.superReviewer
  base : Shows lookup .base IsCut "http://localhost:8080" s.decisionBase
  token : Shows lookup .token Eq "" s.decisionToken

theorem showsAll_ofKeys (faultless : ∀ key ∈ Key.numbers, ∀ value, ¬Faulty lookup key value) :
    ShowsAll lookup (ofKeys lookup) := by
  have hnumber (key : Key) (hkey : key ∈ Key.numbers) {value : String}
      (hgiven : Given lookup key value) : key.IsNumber value :=
    Classical.not_not.mp fun hnot ↦ faultless key hkey value ⟨hgiven, hnot⟩
  have hunsigned {value : String} (h : ∃ n, IsUnsigned value n) :
      ∃ n, unsigned64? value = some n ∧ IsUnsigned value n :=
    h.imp fun _ hn ↦ ⟨unsigned64?_eq_some_iff.mpr hn, hn⟩
  constructor
  case noticeChannel =>
    have hshows : Shows lookup .noticeChannel Eq "review_dispatch" _ :=
      shows_getD some "review_dispatch" fun value _ ↦ ⟨value, rfl, rfl⟩
    rwa [Option.bind_fun_some] at hshows
  case batchLimit =>
    exact shows_getD unsigned64? 20 fun value hgiven ↦ hunsigned (hnumber .batchLimit (by decide) hgiven)
  case fallback =>
    exact shows_getD unsigned64? 15 fun value hgiven ↦ hunsigned (hnumber .fallback (by decide) hgiven)
  case retry =>
    exact shows_getD unsigned64? 5 fun value hgiven ↦ hunsigned (hnumber .retry (by decide) hgiven)
  case decision =>
    exact shows_getD unsigned64? 20 fun value hgiven ↦ hunsigned (hnumber .decision (by decide) hgiven)
  case owner =>
    have hread : (ofKeys lookup).superReviewer = ((value? lookup Key.owner.name).bind fun value ↦
        (signed64? value).map fun n ↦ if 0 < n.toInt then some ⟨n⟩ else none).getD none := by
      rw [ofKeys]
      cases value? lookup Key.owner.name with
      | none => rfl
      | some value => cases hsigned : signed64? value <;> simp [hsigned, Option.filter, ReviewerId.isValid]
    rw [hread]
    refine shows_getD _ none fun value hgiven ↦ ?_
    obtain ⟨n, hn⟩ := hnumber .owner (by decide) hgiven
    rw [signed64?_eq_some_iff.mpr hn]
    exact ⟨_, rfl, n, hn, rfl⟩
  case base =>
    have hshows : Shows lookup .base IsCut "http://localhost:8080" _ :=
      shows_getD (some ∘ trimSlashes) "http://localhost:8080" fun value _ ↦ ⟨_, rfl, isCut_trimSlashes value⟩
    rwa [← Option.map_eq_bind] at hshows
  case token =>
    have hshows : Shows lookup .token Eq "" _ := shows_getD some "" fun value _ ↦ ⟨value, rfl, rfl⟩
    rwa [Option.bind_fun_some] at hshows

/-- A text that is not blank and has no blanks around it. -/
def IsName (text : String) : Prop := (∃ c ∈ text.toList, isBlank c = false) ∧ trim text = text

theorem isName_trim {raw : String} (h : ∃ c ∈ raw.toList, isBlank c = false) : IsName (trim raw) := by
  constructor
  · by_contra hblank
    have hall : ∀ c ∈ (trim raw).toList, isBlank c := by simpa using hblank
    rw [toList_trim, ← trimChars_eq_nil_iff, trimChars_trimChars, trimChars_eq_nil_iff] at hall
    obtain ⟨c, hc, hfull⟩ := h
    exact Bool.eq_false_iff.mp hfull (hall c hc)
  · rw [← String.toList_inj, toList_trim, toList_trim, trimChars_trimChars]

theorem IsName.not_isBlankText {text : String} (h : IsName text) : isBlankText text = false := by
  obtain ⟨c, hc, hfull⟩ := h.1
  exact List.all_eq_false.mpr ⟨c, hc, Bool.eq_false_iff.mp hfull⟩

theorem ShowsAll.isName_noticeChannel {s : Settings} (h : ShowsAll lookup s) :
    IsName s.noticeChannel := by
  by_cases hgiven : ∃ value, Given lookup .noticeChannel value
  · obtain ⟨value, hvalue⟩ := hgiven
    rw [← h.noticeChannel.given value hvalue]
    obtain ⟨raw, -, hfull, rfl⟩ := hvalue
    exact isName_trim hfull
  · rw [h.noticeChannel.unset fun value hvalue ↦ hgiven ⟨value, hvalue⟩]
    have hname : IsName (trim "review_dispatch") := isName_trim ⟨'r', by decide, by decide⟩
    exact hname

theorem ShowsAll.base_getLast? {s : Settings} (h : ShowsAll lookup s) :
    s.decisionBase.toList.getLast? ≠ some '/' := by
  by_cases hgiven : ∃ value, Given lookup .base value
  · obtain ⟨value, hvalue⟩ := hgiven
    exact (h.base.given value hvalue).1
  · rw [h.base.unset fun value hvalue ↦ hgiven ⟨value, hvalue⟩]
    decide

/-- A value that is raised to a least one, and otherwise left as it is. -/
structure IsRaised (least raw effective : Nat) : Prop where
  least_le : least ≤ effective
  eq_raw : least ≤ raw → effective = raw
  eq_least : raw ≤ least → effective = least

theorem isRaised_max (least raw : Nat) : IsRaised least raw (max raw least) :=
  ⟨Nat.le_max_right .., Nat.max_eq_left, Nat.max_eq_right⟩

/-- What any settings come to. -/
structure Effective (s : Settings) : Prop where
  batchLimit : IsRaised 1 s.batchLimit s.effectiveBatchLimit
  fallback : IsRaised 5 s.fallbackSeconds s.effectiveFallbackSeconds
  retry : IsRaised 3 s.retrySeconds s.effectiveRetrySeconds
  decision : IsRaised 1 s.decisionSeconds s.effectiveDecisionSeconds
  /-- Decisions are sent below the configured address, with the configured token. -/
  client : ∃ base, IsCut s.decisionBase base ∧
    (Decision.Client.ofSettings s).token = s.decisionToken ∧
    ∀ kind, (Decision.Client.ofSettings s).endpoint kind =
      base ++ "/v1/internal/telegram/reviews/" ++ kind.name ++ "/decision"

theorem effective (s : Settings) : Effective s :=
  ⟨isRaised_max .., isRaised_max .., isRaised_max .., isRaised_max ..,
    ⟨_, isCut_trimSlashes s.decisionBase, rfl, fun _ ↦ rfl⟩⟩

/-- How settings are read. -/
structure Exact (lookup : String → Option String) : Prop where
  fails_iff : (∃ error, ofLookup lookup = .error error) ↔
    ∃ key ∈ Key.numbers, ∃ value, Faulty lookup key value
  /-- The first fault is told, with the value. -/
  error_iff : ∀ error, ofLookup lookup = .error error ↔
    ∃ before key after, Key.numbers = before ++ key :: after ∧
      (∃ value, Faulty lookup key value ∧ error = .invalidValue key.name value) ∧
      ∀ earlier ∈ before, ∀ value, ¬Faulty lookup earlier value
  shows : ∀ s, ofLookup lookup = .ok s → ShowsAll lookup s
  /-- A field depends on its own key alone. -/
  same : ∀ (s other : Settings) (lookup' : String → Option String), ofLookup lookup = .ok s →
    ofLookup lookup' = .ok other → ∀ key : Key, lookup key.name = lookup' key.name → key.Same s other
  superReviewer : ∀ s, ofLookup lookup = .ok s → ∀ reviewer ∈ s.superReviewer, 0 < reviewer.number.toInt
  base : ∀ s, ofLookup lookup = .ok s → s.decisionBase.toList.getLast? ≠ some '/'
  noticeChannel : ∀ s, ofLookup lookup = .ok s → IsName s.noticeChannel
  validate_iff : ∀ s, ofLookup lookup = .ok s → ∀ error, s.validate = .error error ↔
    s.decisionSeconds = 0 ∧ error = .outOfRange "REVIEW_DECISION_TIMEOUT_SECONDS" 1 0

theorem exact_ofLookup :
    (∀ lookup, Exact lookup) ∧ ∀ s, Effective s := by
  refine ⟨fun lookup ↦ ?_, effective⟩
  have hshows (s : Settings) (hread : ofLookup lookup = .ok s) : ShowsAll lookup s := by
    obtain ⟨hfaultless, rfl⟩ := ofLookup_eq_ok_iff.mp hread
    exact showsAll_ofKeys hfaultless
  have herror (error : SettingsError) : ofLookup lookup = .error error ↔
      ∃ before key after, Key.numbers = before ++ key :: after ∧
        (∃ value, Faulty lookup key value ∧ error = .invalidValue key.name value) ∧
        ∀ earlier ∈ before, ∀ value, ¬Faulty lookup earlier value := by
    rw [ofLookup_eq_error_iff, List.findSome?_eq_some_iff]
    refine exists₃_congr fun before key after ↦ and_congr_right fun hkeys ↦ ?_
    have hmem : ∀ k ∈ before ++ key :: after, k ∈ Key.numbers := fun k hk ↦ hkeys ▸ hk
    exact and_congr (fault?_eq_some_iff (hmem key (by simp)))
      (forall₂_congr fun earlier hearlier ↦ fault?_eq_none_iff (hmem earlier (by simp [hearlier])))
  constructor
  case fails_iff =>
    constructor
    · rintro ⟨error, hfail⟩
      obtain ⟨before, key, after, hkeys, ⟨value, hfaulty, -⟩, -⟩ := (herror error).mp hfail
      exact ⟨key, hkeys ▸ by simp, value, hfaulty⟩
    · rintro ⟨key, hkey, value, hfaulty⟩
      cases hread : ofLookup lookup with
      | error error => exact ⟨error, rfl⟩
      | ok s => exact absurd hfaulty ((ofLookup_eq_ok_iff.mp hread).1 key hkey value)
  case error_iff => exact herror
  case shows => exact hshows
  case same =>
    intro s other lookup' hread hread' key hsame
    obtain ⟨-, rfl⟩ := ofLookup_eq_ok_iff.mp hread
    obtain ⟨-, rfl⟩ := ofLookup_eq_ok_iff.mp hread'
    have hvalue : value? lookup key.name = value? lookup' key.name := by rw [value?, hsame, value?]
    cases key <;> simp only [Key.Same, ofKeys, hvalue]
  case superReviewer =>
    intro s hread reviewer hreviewer
    obtain ⟨-, rfl⟩ := ofLookup_eq_ok_iff.mp hread
    exact of_decide_eq_true (Option.filter_eq_some_iff.mp hreviewer).2
  case base => exact fun s hread ↦ (hshows s hread).base_getLast?
  case noticeChannel => exact fun s hread ↦ (hshows s hread).isName_noticeChannel
  case validate_iff =>
    intro s hread error
    rw [validate, if_neg (Bool.eq_false_iff.mp (hshows s hread).isName_noticeChannel.not_isBlankText)]
    split <;> simp_all [eq_comm]

end ReviewDesk.Settings
