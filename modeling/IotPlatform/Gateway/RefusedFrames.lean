import IotPlatform.Gateway.Delivery

/-!
# Refused frames

`gateway_ingest_frame` has its answer to a null edge tracker behind the one write to the gateway's tracker. Every other
refusal comes before that write.
-/

namespace IotPlatform

/-- A refused frame leaves the tracker of the gateway as it was and hands out no entry. -/
def IngestOutcome.ChangesNothing (o : IngestOutcome) (tracker : GatewayTracker) : Prop :=
  o.result ≠ .ok → o.tracker = tracker ∧ o.entries = []

section Refusal

variable {hmac : Hmac} {tracker : GatewayTracker} {edge : EdgeTrackerArg} {frame : List UInt8} {maxEntries : UInt8}

/-- The null check is reached with the sequence number of the frame recorded. -/
theorem gatewayIngestFrame_null (maxEntries : UInt8) {header : BatchFrameHeader} {decoded : List BatchFrameEntry}
    (accepted : acceptedFrame hmac tracker frame = some (header, decoded)) :
    let o := gatewayIngestFrame hmac tracker .null frame maxEntries
    o.result = .errParamNull ∧ o.tracker = gatewayTrackerUpdateSequence tracker (wireSequence frame) := by
  rw [gatewayIngestFrame_accepted accepted, ← (acceptedFrame_sequence accepted).1]
  exact ⟨rfl, rfl⟩

theorem gatewayIngestFrame_ok_of_accepted (maxEntries : UInt8) (given : edge ≠ .null)
    (accepted : acceptedFrame hmac tracker frame ≠ none) :
    (gatewayIngestFrame hmac tracker edge frame maxEntries).result = .ok := by
  obtain ⟨content, accepted⟩ := Option.ne_none_iff_exists'.mp accepted
  rw [gatewayIngestFrame_accepted accepted]
  cases edge with
  | null => exact absurd rfl given
  | checkDisabledTestingOnly => rfl
  | tracker t => rfl

theorem updateSequence_eq_self_iff {sequence : UInt32} :
    gatewayTrackerUpdateSequence tracker sequence = tracker ↔
      tracker.sequenceInitialized = true ∧ tracker.lastSequence = sequence := by
  constructor
  · intro same
    exact ⟨(congrArg GatewayTracker.sequenceInitialized same).symm, (congrArg GatewayTracker.lastSequence same).symm⟩
  · rintro ⟨initialized, rfl⟩
    rw [gatewayTrackerUpdateSequence, ← initialized]

/-- The next frame is taken for the successor of one whose readings were thrown away. -/
theorem null_refusal_hides_gap {header : BatchFrameHeader} {decoded : List BatchFrameEntry}
    (accepted : acceptedFrame hmac tracker frame = some (header, decoded)) :
    sequenceEvents (gatewayIngestFrame hmac tracker .null frame maxEntries).tracker (wireSequence frame + 1) = [] := by
  obtain ⟨-, recorded⟩ := gatewayIngestFrame_null maxEntries accepted
  rw [recorded, sequenceEvents, if_neg]
  rintro ⟨-, gap⟩
  exact gap rfl

end Refusal

/-- A refused frame changes nothing exactly when an edge tracker is given, or the frame is refused before that is looked at, or
its sequence number is the last one recorded. -/
theorem refused_frame_exact (hmac : Hmac) (tracker : GatewayTracker) (edge : EdgeTrackerArg) (frame : List UInt8)
    (maxEntries : UInt8) :
    (gatewayIngestFrame hmac tracker edge frame maxEntries).ChangesNothing tracker ↔
      edge ≠ .null ∨ (gatewayVerifyFrame hmac tracker frame).1 ≠ .ok ∨
        batchDecodeFrameUntrusted frame (UInt8.ofNat batchMaxEntries) = none ∨
        (tracker.sequenceInitialized = true ∧ tracker.lastSequence = wireSequence frame) := by
  have split : acceptedFrame hmac tracker frame = none ↔
      (gatewayVerifyFrame hmac tracker frame).1 ≠ .ok ∨
        batchDecodeFrameUntrusted frame (UInt8.ofNat batchMaxEntries) = none := by
    unfold acceptedFrame
    by_cases verified : (gatewayVerifyFrame hmac tracker frame).1 = .ok <;> simp [verified]
  rw [← or_assoc (b := batchDecodeFrameUntrusted _ _ = none), ← split]
  cases accepted : acceptedFrame hmac tracker frame with
  | none =>
    obtain ⟨error, events, -, refused⟩ := gatewayIngestFrame_refused edge maxEntries accepted
    simp [refused, IngestOutcome.ChangesNothing]
  | some content =>
    simp only [reduceCtorEq, false_or]
    by_cases given : edge = .null
    · subst given
      obtain ⟨result, recorded⟩ := gatewayIngestFrame_null maxEntries accepted
      have refused : (gatewayIngestFrame hmac tracker .null frame maxEntries).result ≠ .ok := by
        rw [result]
        decide
      rw [IngestOutcome.ChangesNothing, recorded, updateSequence_eq_self_iff, gatewayIngestFrame_failed refused]
      simp [refused]
    · simp only [ne_eq, given, not_false_eq_true, true_or, iff_true]
      have ok := gatewayIngestFrame_ok_of_accepted maxEntries given (accepted ▸ Option.some_ne_none content)
      exact fun refused => absurd ok refused

/-- The next frame of the gateway, and no edge tracker: number 7 is recorded with the refusal. -/
theorem null_edge_tracker_advances :
    ¬∀ (tracker : GatewayTracker) (edge : EdgeTrackerArg) (frame : List UInt8) (maxEntries : UInt8),
      (gatewayIngestFrame lengthHmac tracker edge frame maxEntries).ChangesNothing tracker := by
  intro unchanged
  obtain ⟨same, -⟩ := unchanged sampleTracker .null (signedFrame lengthHmac sampleContext []) 22 (by decide)
  have last := congrArg GatewayTracker.lastSequence same
  revert last
  decide

end IotPlatform
