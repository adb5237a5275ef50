import Mathlib.Data.Nat.Digits.Defs
import ReviewDesk.Decision.Client
import ReviewDesk.Proofs.Json.Document
import ReviewDesk.Proofs.Text.Core
import ReviewDesk.Proofs.Text.Decimal

/-!
What a reply of the decision service comes to. Every reply is one result (`decides_answered`): the outcome
of what an accepting reply holds, or a rejection with a text of at most 180 characters. That text is taken
from the reply where it says something; it is blank exactly if the service's own text starts with 180
blanks, since blanks in front of it are counted and only then cut off (`not_forall_message`).
-/

set_option autoImplicit false
set_option relaxedAutoImplicit false

namespace ReviewDesk

/-! ### Blank bodies -/

namespace Json

theorem Token.read?_of_isBlank {c : Char} (h : Text.isBlank c = true) (cs : List Char) :
    Token.read? (c :: cs) = none := by
  have hmark : c ∉ Token.marks := by
    intro hmem
    have hfull : Token.marks.all fun d ↦ !Text.isBlank d := by decide
    simpa [h] using List.all_eq_true.mp hfull c hmem
  rw [Token.read?_of_notMem_marks hmark, Option.map_eq_none_iff, Option.eq_none_iff_forall_ne_some]
  intro p hread
  obtain rfl | hdigit := Numeral.start_of_read? hread
  · exact absurd h (by decide)
  · obtain ⟨d, hd⟩ := Option.isSome_iff_exists.mp hdigit
    rw [← Digit.char_of_ofChar? hd, d.isBlank_char] at h
    cases h

theorem Token.readUpTo?_of_isBlank {cs : List Char} (h : ∀ c ∈ cs, Text.isBlank c = true) (count : Nat) :
    Token.readUpTo? count cs = none ∨ Token.readUpTo? count cs = some [] := by
  induction cs generalizing count with
  | nil => cases count <;> exact Or.inr rfl
  | cons c cs ih =>
    obtain ⟨hfirst, hrest⟩ := List.forall_mem_cons.mp h
    cases count with
    | zero => exact Or.inl rfl
    | succ count =>
      rw [Token.readUpTo?]
      split
      · exact ih hrest count
      · rw [Token.read?_of_isBlank hfirst]
        exact Or.inl rfl

/-- A blank text is no document. -/
theorem read?_of_isBlankText {text : String} (h : Text.isBlankText text = true) : read? text = none := by
  have hblank := Token.readUpTo?_of_isBlank (List.all_eq_true.mp h) text.toList.length
  rw [read?, Node.ofText?, Token.ofChars?]
  obtain hnone | hempty := hblank
  · rw [hnone]
    rfl
  · rw [hempty]
    rfl

end Json

namespace Decision.Client

open Text

/-! ### Rejections -/

/-- The service says in the body what went wrong. -/
def Says (body text : String) : Prop :=
  ∃ value, Json.read? body = some value ∧ value.get? "error" = some (.string text) ∧ isBlankText text = false

/-- The text of a rejection. -/
structure IsMessage (status : Nat) (body message : String) : Prop where
  length_le : message.toList.length ≤ 180
  own : ∀ text, Says body text → message.toList = text.toList.take 180
  other : ∀ value, Json.read? body = some value → (∀ text, ¬Says body text) → message = rejectionText
  plain : Json.read? body = none → isBlankText body = false →
    message.toList = (trim body).toList.take 180
  blank : isBlankText body = true →
    message = rejectionText ++ " (status " ++ toString status ++ ")"
  /-- Only the service's own text can leave nothing but blanks, if it starts with so many. -/
  isBlank_iff : isBlankText message = true ↔
    ∃ text, Says body text ∧ ∀ c ∈ text.toList.take 180, isBlank c = true

theorem Says.unique {body text text' : String} (h : Says body text) (h' : Says body text') :
    text = text' := by
  obtain ⟨value, hread, herror, -⟩ := h
  obtain ⟨value', hread', herror', -⟩ := h'
  obtain rfl := Option.some.inj (hread.symm.trans hread')
  exact Json.string.inj (Option.some.inj (herror.symm.trans herror'))

/-- What is left of a text that is too long. -/
def cut (text : String) : String := String.ofList (text.toList.take 180)

theorem toList_cut (text : String) : (cut text).toList = text.toList.take 180 := String.toList_ofList

theorem cut_eq_self {text : String} (h : text.toList.length ≤ 180) : cut text = text := by
  rw [cut, List.take_of_length_le h, String.ofList_toList]

variable {status : Nat} {body : String}

theorem errorText_of_own {text : String} (h : Says body text) : errorText status body = cut text := by
  obtain ⟨value, hread, herror, hfull⟩ := h
  simp [errorText, hread, herror, Json.text?, Option.filter, hfull, cut]

theorem errorText_of_read? {value : Json} (hread : Json.read? body = some value)
    (hnone : ∀ text, ¬Says body text) : errorText status body = rejectionText := by
  have hown : (((value.get? "error").bind Json.text?).filter fun text ↦ !isBlankText text) = none := by
    rw [Option.eq_none_iff_forall_ne_some]
    intro text htext
    obtain ⟨hstring, hfull⟩ := Option.filter_eq_some_iff.mp htext
    obtain ⟨error, herror, herrorText⟩ := Option.bind_eq_some_iff.mp hstring
    have hstring : error = .string text := by
      cases error with
      | string _ => exact congrArg Json.string (Option.some.inj herrorText)
      | null | bool | number | array | object => cases herrorText
    exact hnone text ⟨value, hread, hstring ▸ herror, by simpa using hfull⟩
  simp only [errorText, hread, hown]
  exact cut_eq_self (by decide)

theorem errorText_of_plain (hread : Json.read? body = none) (hfull : isBlankText body = false) :
    errorText status body = cut (trim body) := by
  simp [errorText, hread, hfull, cut]

theorem errorText_of_blank (hstatus : status < 65536) (hblank : isBlankText body = true) :
    errorText status body = rejectionText ++ " (status " ++ toString status ++ ")" := by
  have hdigits : (toString status).toList.length ≤ 5 := by
    rw [← ofNat_eq_toString, ofNat, Digits.text_ofNat, String.toList_ofList]
    exact Nat.toDigits_length 10 status 5 (by decide) (by omega)
  simp only [errorText, Json.read?_of_isBlankText hblank, hblank, if_true, ofNat_eq_toString]
  refine cut_eq_self ?_
  have hlead : (rejectionText ++ " (status ").toList.length = 31 := by decide
  have htrail : ")".toList.length = 1 := by decide
  rw [String.toList_append, String.toList_append, List.length_append, List.length_append, hlead, htrail]
  omega

theorem isBlankText_append {text : String} (h : isBlankText text = false) (rest : String) :
    isBlankText (text ++ rest) = false := by
  rw [isBlankText, String.toList_append, List.all_append, ← isBlankText, h]
  rfl

/-- What is trimmed starts with a character that stays. -/
theorem isBlankText_cut_trim {text : String} (h : isBlankText text = false) :
    isBlankText (cut (trim text)) = false := by
  have hbare := isBare_trimChars text.toList
  rw [isBlankText, toList_cut, toList_trim]
  cases hcore : trimChars text.toList with
  | nil =>
    rw [trimChars_eq_nil_iff] at hcore
    exact absurd (List.all_eq_true.mpr hcore) (Bool.eq_false_iff.mp h)
  | cons c cs =>
    rw [hcore] at hbare
    rw [List.take_succ_cons, List.all_cons, hbare.1 c rfl]
    rfl

theorem isMessage_errorText {status : Nat} (hstatus : status < 65536) (body : String) :
    IsMessage status body (errorText status body) := by
  constructor
  case length_le =>
    rw [errorText, String.toList_ofList]
    exact List.length_take_le ..
  case own => exact fun text hown ↦ by rw [errorText_of_own hown, toList_cut]
  case other => exact fun value hread hnone ↦ errorText_of_read? hread hnone
  case plain => exact fun hread hfull ↦ by rw [errorText_of_plain hread hfull, toList_cut]
  case blank => exact errorText_of_blank hstatus
  case isBlank_iff =>
    by_cases hown : ∃ text, Says body text
    · obtain ⟨text, hown⟩ := hown
      rw [errorText_of_own hown, isBlankText, List.all_eq_true, toList_cut]
      exact ⟨fun hblank ↦ ⟨text, hown, hblank⟩, fun ⟨text', hown', hblank⟩ ↦ hown.unique hown' ▸ hblank⟩
    -- The desk's own texts and what is trimmed start with a character that stays.
    · have hfull : isBlankText (errorText status body) = false := by
        cases hread : Json.read? body with
        | some value =>
          rw [errorText_of_read? hread fun text htext ↦ hown ⟨text, htext⟩]
          decide
        | none =>
          cases hblank : isBlankText body with
          | true =>
            rw [errorText_of_blank hstatus hblank, String.append_assoc, String.append_assoc]
            exact isBlankText_append (by decide) _
          | false => rw [errorText_of_plain hread hblank]; exact isBlankText_cut_trim hblank
      rw [hfull]
      exact ⟨fun hfalse ↦ absurd hfalse Bool.false_ne_true, fun ⟨text, htext, _⟩ ↦ absurd ⟨text, htext⟩ hown⟩

/-! ### Replies -/

variable {client : Client} {call : DecisionCall}

theorem received_answered (client : Client) (call : DecisionCall) (status : Nat) (body : String) :
    client.received call (.answered status body) = (client.request call).toOption := rfl

theorem received_ne_none_iff :
    client.received call (.answered status body) ≠ none ↔
      isBlankText client.token = false ∧ isSendable client.token = true := by
  rw [received_answered, request]
  cases isBlankText client.token <;> cases isSendable client.token <;> simp [Except.toOption]

theorem decide_eq_result (h : client.received call (.answered status body) ≠ none) :
    client.decide call (.answered status body) = result (.answered status body) := by
  rw [received_answered] at h
  cases hrequest : client.request call with
  | ok request => rw [decide, hrequest]
  | error error => exact absurd (by rw [hrequest]; rfl) h

/-- What a reply comes to, if it arrives. -/
structure Decides (client : Client) (call : DecisionCall) (status : Nat) (body : String) : Prop where
  /-- A reply arrives where a request is made. -/
  arrives_iff : client.received call (.answered status body) ≠ none ↔
    isBlankText client.token = false ∧ isSendable client.token = true
  missing : isBlankText client.token = true → ∀ exchange,
    client.received call exchange = none ∧ client.decide call exchange = .error .missingCredentials
  empty : client.received call (.answered status body) ≠ none → status = 200 → isBlankText body = true →
    client.decide call (.answered status body) = .ok (.ofPayload (.object []))
  payload : client.received call (.answered status body) ≠ none → status = 200 →
    ∀ payload, Json.read? body = some payload →
      client.decide call (.answered status body) = .ok (.ofPayload payload)
  invalid : client.received call (.answered status body) ≠ none → status = 200 →
    isBlankText body = false → Json.read? body = none →
      ∃ text, client.decide call (.answered status body) = .error (.invalidResponse text)
  rejected : client.received call (.answered status body) ≠ none → status ≠ 200 →
    ∃ message, client.decide call (.answered status body) = .error (.rejected status message) ∧
      IsMessage status body message

theorem decides_answered (client : Client) (call : DecisionCall) {status : Nat} (hstatus : status < 65536)
    (body : String) : Decides client call status body := by
  constructor
  case arrives_iff => exact received_ne_none_iff
  case missing =>
    intro hblank exchange
    have hrequest : client.request call = .error .missingCredentials := by rw [request, if_pos hblank]
    refine ⟨?_, by rw [decide, hrequest]⟩
    cases exchange <;> simp [received, hrequest, Except.toOption]
  case empty =>
    intro h haccepted hblank
    rw [decide_eq_result h, result, if_neg (by simpa using haccepted), if_pos hblank]
  case payload =>
    intro h haccepted payload hread
    have hfull : isBlankText body = false := Bool.eq_false_iff.mpr fun hblank ↦ by
      rw [Json.read?_of_isBlankText hblank] at hread
      cases hread
    rw [decide_eq_result h, result, if_neg (by simpa using haccepted), if_neg (by simp [hfull]), hread]
  case invalid =>
    intro h haccepted hfull hread
    exact ⟨_, by
      rw [decide_eq_result h, result, if_neg (by simpa using haccepted), if_neg (by simp [hfull]), hread]⟩
  case rejected =>
    intro h hother
    exact ⟨_, by rw [decide_eq_result h, result, if_pos hother], isMessage_errorText hstatus body⟩

theorem decides_answered_conflict :
    Decides ⟨"http://localhost:8080", "secret"⟩ ⟨.kyc, ⟨"k-77"⟩, .approve, ⟨42⟩⟩ 409 "" :=
  decides_answered _ _ (by decide) _

theorem says_text {text : String} (h : isBlankText text = false) :
    Says (Json.text (.object [("error", .string text)])) text := by
  have hvalue : Json.IsValue Json.maxDepth (.object [("error", .string text)]) := by
    refine .object (List.pairwise_singleton ..) fun member hmember ↦ ?_
    obtain rfl := List.mem_singleton.mp hmember
    exact .string text
  exact ⟨_, hvalue.read?_text, rfl, h⟩

/-- A text behind blanks. -/
def indented (count : Nat) : String := String.ofList (List.replicate count ' ' ++ ['x'])

theorem isBlankText_indented (count : Nat) : isBlankText (indented count) = false := by
  rw [isBlankText, indented, String.toList_ofList, List.all_append, Bool.and_eq_false_iff]
  exact Or.inr (by decide)

theorem isBlank_of_mem_take_indented {count : Nat} {c : Char}
    (hc : c ∈ (indented count).toList.take count) : isBlank c = true := by
  rw [indented, String.toList_ofList, List.take_left' List.length_replicate] at hc
  rw [(List.mem_replicate.mp hc).2]
  decide

/-- A text can be blank as far as it is told without being blank. -/
theorem not_forall_message :
    ¬∀ (client : Client) call status body, status < 65536 →
      client.received call (.answered status body) ≠ none → status ≠ 200 →
        ∃ message, client.decide call (.answered status body) = .error (.rejected status message) ∧
          isBlankText message = false := by
  intro h
  obtain ⟨body, hbody⟩ : ∃ body, Says body (indented 180) :=
    ⟨_, says_text (isBlankText_indented 180)⟩
  have harrives : Client.received ⟨"http://localhost:8080", "secret"⟩ ⟨.kyc, ⟨"k-77"⟩, .approve, ⟨42⟩⟩
      (.answered 409 body) ≠ none := received_ne_none_iff.mpr ⟨by decide, by decide⟩
  obtain ⟨message, hdecide, hfull⟩ := h _ _ _ _ (by decide) harrives (by decide)
  rw [decide_eq_result harrives, result, if_pos (by decide)] at hdecide
  obtain rfl := (DecisionError.rejected.inj (Except.error.inj hdecide)).2
  have hmessage : IsMessage 409 body (errorText 409 body) := isMessage_errorText (by decide) body
  have hblank := hmessage.isBlank_iff.mpr
    ⟨_, hbody, fun _ ↦ isBlank_of_mem_take_indented⟩
  rw [hblank] at hfull
  cases hfull

end Decision.Client

end ReviewDesk
