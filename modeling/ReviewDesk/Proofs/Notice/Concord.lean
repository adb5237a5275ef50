import ReviewDesk.Proofs.Desk.Streams
import ReviewDesk.Proofs.Notice.Topic

/-!
Producers and the listener agree on what a notice is about. What a producer announces is heard on the
topic it was announced for, with one exception that is told exactly: a kind that reads like a notice
about access. Whatever else happens to a notice on its way leaves its topic alone, down to what is
kept of it for diagnosis, which is on the topic whose signal was raised (`concord`).
-/

set_option autoImplicit false
set_option relaxedAutoImplicit false

namespace ReviewDesk

namespace Listener

/-- A notice raises the signal of its topic and leaves the other one alone. -/
theorem wakeFor_hear (d : Desk) (payload : String) (topic : Notice.Topic) :
    (hear d payload).wakeFor topic =
      if Notice.topic payload = topic then (d.wakeFor topic).raise else d.wakeFor topic := by
  rw [hear_eq, Notice.topic_trim]
  cases Notice.topic payload <;> cases topic <;> rfl

theorem lastNotice_hear (d : Desk) (payload : String) :
    (hear d payload).health.listener.lastNotice = some (Notice.excerpt (Text.trim payload)) := by
  rw [hear_eq]
  cases Notice.topic (Text.trim payload) <;> rfl

end Listener

namespace Notice

open Text

/-- What producers and the listener agree on. -/
structure Concord : Prop where
  topic_accessSync : ∀ reason, topic (accessSync reason) = .accessSync
  silent_iff : ∀ kind id, dispatch? kind id = none ↔ ∀ c ∈ id.toList, isBlank c
  /-- A notice for an item is on dispatch, but for kinds that read like a notice about access. -/
  topic_dispatch : ∀ kind id payload, dispatch? kind id = some payload →
    (topic payload = .dispatch ↔
      ¬(lower (trim kind) = "access_sync" ∨ "access_sync:".toList <+: (lower (trim kind)).toList))
  /-- Putting an item in with an identifier that is not blank publishes one notice, and whoever
  hears it raises the signal for dispatch and not the one for access. -/
  enqueue : ∀ (store : Store) (item : Item), (∃ c ∈ item.id.text.toList, isBlank c = false) →
    ∃ payload, store.enqueue item = (store.insert item).publish store.noticeChannel payload ∧
      ∀ d : Desk, (Listener.hear d payload).dispatchWake = d.dispatchWake.raise ∧
        (Listener.hear d payload).accessWake = d.accessWake
  /-- Cutting a notice by bytes tells the same. -/
  bytes : ∀ payload, topic payload = .accessSync ↔
    ((Text.bytes (trimStart payload)).take 12).map lowerByte = Text.bytes "access_sync:"
  surround : ∀ lead trail payload, (∀ c ∈ lead, isBlank c) → (∀ c ∈ trail, isBlank c) →
    topic (String.ofList (lead ++ payload.toList ++ trail)) = topic payload
  letterCase : ∀ payload other, sameIgnoringCase payload.toList other.toList →
    topic payload = topic other
  trim : ∀ payload, topic (trim payload) = topic payload
  excerpt : ∀ payload, topic (excerpt (Text.trim payload)) = topic payload
  /-- What is put on record of a notice is on the topic whose signal was raised. -/
  record : ∀ d payload, ∃ recorded,
    (Listener.hear d payload).health.listener.lastNotice = some recorded ∧
      ∀ other, (Listener.hear d payload).wakeFor other =
        if topic recorded = other then (d.wakeFor other).raise else d.wakeFor other

theorem concord : Concord := by
  constructor
  case topic_accessSync => exact fun reason ↦ topic_trim (accessSync reason) ▸ topic_accessSync reason
  case silent_iff => exact fun _ _ ↦ dispatch?_eq_none_iff
  case topic_dispatch =>
    intro kind id payload h
    rw [← topic_of_dispatch?_iff h]
    cases topic payload <;> simp
  case enqueue =>
    rintro store item ⟨c, hc, hblank⟩
    cases hnotice : dispatch? item.kind.ledgerName item.id.text with
    | none =>
      have hall := dispatch?_eq_none_iff.mp hnotice
      exact absurd (hall c hc) (Bool.eq_false_iff.mp hblank)
    | some payload =>
      have htopic : topic payload = .dispatch := topic_trim payload ▸ topic_of_dispatch? hnotice
      refine ⟨payload, Store.enqueue_of_some hnotice, fun d ↦ ⟨?_, ?_⟩⟩
      · exact (Listener.wakeFor_hear d payload .dispatch).trans (if_pos htopic)
      · exact (Listener.wakeFor_hear d payload .accessSync).trans (if_neg (by simp [htopic]))
  case bytes => exact fun _ ↦ topic_eq_accessSync_iff_bytes
  case surround => exact fun _ _ payload hlead htrail ↦ topic_surround hlead htrail payload
  case letterCase => exact fun _ _ ↦ topic_congr
  case trim => exact topic_trim
  case excerpt => exact topic_excerpt_trim
  case record =>
    intro d payload
    refine ⟨_, Listener.lastNotice_hear d payload, fun other ↦ ?_⟩
    rw [topic_excerpt_trim, Listener.wakeFor_hear]

/-- A kind that reads like a notice about access, one of which a character reaches over the cut, and
a notice with capitals and blanks around it. -/
theorem concord_lookalikes :
    (∃ payload, dispatch? " ACCESS_Sync " "7" = some payload ∧ topic payload ≠ .dispatch) ∧
      (∃ payload, dispatch? "access_sync\u00E9" "7" = some payload ∧ topic payload = .dispatch) ∧
      topic "\u2003ACCESS_SYNC: rights" = topic "access_sync: rights" ∧
      ∃ payload, ({ noticeChannel := "reviews" } : Store).enqueue
          { id := ⟨" 7"⟩, kind := .kyc, createdAt := ⟨0, 0⟩, seed := 1 } =
        (({ noticeChannel := "reviews" } : Store).insert
          { id := ⟨" 7"⟩, kind := .kyc, createdAt := ⟨0, 0⟩, seed := 1 }).publish "reviews" payload := by
  have hlookalike : dispatch? " ACCESS_Sync " "7" = some "access_sync:7" := by decide +kernel
  have hcut : dispatch? "access_sync\u00E9" "7" = some "access_sync\u00E9:7" := by decide +kernel
  refine ⟨⟨_, hlookalike, fun h ↦ ?_⟩, ⟨_, hcut, ?_⟩, ?_, ?_⟩
  · exact (concord.topic_dispatch _ _ _ hlookalike).mp h (Or.inl (by decide +kernel))
  · exact (concord.topic_dispatch _ _ _ hcut).mpr (by decide +kernel)
  · have hblank : ∀ c ∈ ['\u2003'], isBlank c := List.forall_mem_singleton.mpr (by decide)
    exact (concord.surround ['\u2003'] [] "ACCESS_SYNC: rights" hblank nofun).trans
      (concord.letterCase _ _ (by decide +kernel))
  · obtain ⟨payload, hpublish, -⟩ := concord.enqueue { noticeChannel := "reviews" }
      { id := ⟨" 7"⟩, kind := .kyc, createdAt := ⟨0, 0⟩, seed := 1 } ⟨'7', by decide, by decide⟩
    exact ⟨payload, hpublish⟩

end Notice

end ReviewDesk
