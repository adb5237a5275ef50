import ReviewDesk.Failure
import ReviewDesk.Text.Blank
import ReviewDesk.Text.Bounded

/-!
Settings of the desk, read from named values. A value that is missing or blank leaves the default; a
number that does not parse is refused by its name. The loops never use the raw intervals but the
effective ones, which have lower bounds.
-/

set_option autoImplicit false
set_option relaxedAutoImplicit false

namespace ReviewDesk

structure Settings where
  /-- The name under which notices are published. -/
  noticeChannel : String := "review_dispatch"
  batchLimit : Nat := 20
  fallbackSeconds : Nat := 15
  retrySeconds : Nat := 5
  decisionSeconds : Nat := 20
  superReviewer : Option ReviewerId := none
  decisionBase : String := "http://localhost:8080"
  decisionToken : String := ""
  deriving DecidableEq

namespace Settings

/-- The trimmed value under a name, unless it is blank. -/
def value? (lookup : String → Option String) (key : String) : Option String :=
  ((lookup key).map Text.trim).filter fun value ↦ !value.isEmpty

/-- The number under a name, or the given one where there is no value. -/
def number {α : Type} (lookup : String → Option String) (read? : String → Option α) (key : String)
    (fallback : α) : Except SettingsError α :=
  match value? lookup key with
  | none => .ok fallback
  | some value => match read? value with
    | some n => .ok n
    | none => .error (.invalidValue key value)

def trimSlashes (s : String) : String :=
  String.ofList (s.toList.reverse.dropWhile (· = '/')).reverse

/-- Reads the settings. Where several numbers do not parse, the first in the order of the fields is
named. A super reviewer whose number belongs to nobody means that there is none. -/
def ofLookup (lookup : String → Option String) : Except SettingsError Settings := do
  let initial : Settings := {}
  let batchLimit ← number lookup Text.unsigned64? "REVIEW_BATCH_LIMIT" initial.batchLimit
  let fallback ← number lookup Text.unsigned64? "REVIEW_FALLBACK_SECONDS" initial.fallbackSeconds
  let retry ← number lookup Text.unsigned64? "REVIEW_LISTENER_RETRY_SECONDS" initial.retrySeconds
  let decision ←
    number lookup Text.unsigned64? "REVIEW_DECISION_TIMEOUT_SECONDS" initial.decisionSeconds
  let owner ← number lookup (fun value ↦ (Text.signed64? value).map some) "OWNER_TELEGRAM_ID" none
  return {
    noticeChannel := (value? lookup "REVIEW_NOTIFY_CHANNEL").getD initial.noticeChannel
    batchLimit := batchLimit
    fallbackSeconds := fallback
    retrySeconds := retry
    decisionSeconds := decision
    superReviewer := (owner.map ReviewerId.mk).filter ReviewerId.isValid
    decisionBase := ((value? lookup "API_BASE_URL").map trimSlashes).getD initial.decisionBase
    decisionToken := (value? lookup "INTERNAL_API_TOKEN").getD initial.decisionToken }

/-- Whether a desk can run with the settings: notices need a name and decisions some time. -/
def validate (settings : Settings) : Except SettingsError Unit :=
  if Text.isBlankText settings.noticeChannel then
    .error (.invalidValue "REVIEW_NOTIFY_CHANNEL" settings.noticeChannel)
  else if settings.decisionSeconds = 0 then
    .error (.outOfRange "REVIEW_DECISION_TIMEOUT_SECONDS" 1 0)
  else .ok ()

def effectiveBatchLimit (settings : Settings) : Nat := max settings.batchLimit 1

def effectiveFallbackSeconds (settings : Settings) : Nat := max settings.fallbackSeconds 5

def effectiveRetrySeconds (settings : Settings) : Nat := max settings.retrySeconds 3

def effectiveDecisionSeconds (settings : Settings) : Nat := max settings.decisionSeconds 1

end Settings

end ReviewDesk
