import IotPlatform.Shared.Attestation
import IotPlatform.Shared.AuditLog
import IotPlatform.Gateway.BatchFrame

/-!
# Gateway authentication

`gateway_auth.c`: signing on the gateway, and on the hub the frame check, the edge trust tracker and the
single ingestion entry point. A function that logs returns its audit events with its result.
-/

namespace IotPlatform
open Table Bytes

def gatewayHmacSize : Nat := 32

/-! ### Gateway side -/

inductive GatewayAuthState where
  | uninit | idle | authenticated | failed
  deriving DecidableEq, Repr

structure GatewayAuthContext where
  gatewayNodeId : UInt8
  hubNodeId : UInt8
  sessionKey : Digest
  txSequence : UInt32
  state : GatewayAuthState

def gatewayAuthInit (gatewayId hubId : UInt8) (sessionKey : Digest) : GatewayAuthContext :=
  { gatewayNodeId := gatewayId, hubNodeId := hubId, sessionKey := sessionKey, txSequence := 0, state := .idle }

def gatewaySignFrame (hmac : Hmac) (ctx : GatewayAuthContext) (encodedFrame : List UInt8) : Option Digest :=
  if ctx.state ≠ .authenticated then none
  else if encodedFrame.length = 0 then none
  else some (hmac ctx.sessionKey.toList encodedFrame)

def gatewayAdvanceSequence (ctx : GatewayAuthContext) : GatewayAuthContext :=
  { ctx with txSequence := ctx.txSequence + 1 }

def gatewaySetState (ctx : GatewayAuthContext) (state : GatewayAuthState) : GatewayAuthContext :=
  { ctx with state := state }

/-! ### Frame verification on the hub -/

structure GatewayTracker where
  gatewayNodeId : UInt8
  lastSequence : UInt32
  sequenceInitialized : Bool
  sessionKey : Digest
  authenticated : Bool

inductive GatewayFrameResult where
  | ok | errHmacMismatch | errGapDetected | errNotAuth | errParamNull
  deriving DecidableEq, Repr

def gatewayTrackerInit (gatewayId : UInt8) (sessionKey : Digest) : GatewayTracker :=
  { gatewayNodeId := gatewayId, lastSequence := 0, sequenceInitialized := false, sessionKey := sessionKey
    authenticated := false }

def unsupportedVersionEvent : AuditEvent :=
  { eventType := .authFailure, sessionId := 0, ruleId := 0
    detail := "Gateway batch frame rejected: unsupported version — possible downgrade attack" }

def frameHmacMismatchEvent : AuditEvent :=
  { eventType := .authFailure, sessionId := 0, ruleId := 0
    detail := "Gateway batch frame HMAC mismatch — possible tampering" }

def sequenceGapEvent : AuditEvent :=
  { eventType := .configWrite, sessionId := 0, ruleId := 0
    detail := "Gateway sequence gap detected — possible suppression" }

/-- The sequence check of `gateway_verify_frame`; a gap is logged and nothing else. -/
def sequenceEvents (tracker : GatewayTracker) (sequence : UInt32) : List AuditEvent :=
  if tracker.sequenceInitialized ∧ sequence ≠ tracker.lastSequence + 1 then [sequenceGapEvent] else []

def gatewayVerifyFrame (hmac : Hmac) (tracker : GatewayTracker) (frame : List UInt8) :
    GatewayFrameResult × List AuditEvent :=
  if !tracker.authenticated then (.errNotAuth, [])
  else if frame.length < 4 then (.errParamNull, [])
  else if frame.getD 1 0 ≠ 0x02 then (.errHmacMismatch, [unsupportedVersionEvent])
  else if frame.length < 4 + 4 + 32 then (.errParamNull, [])
  else
    let receivedHmac := frame.drop (frame.length - gatewayHmacSize)
    let expectedHmac := hmac tracker.sessionKey.toList (frame.take (frame.length - gatewayHmacSize))
    if differenceByte receivedHmac expectedHmac.toList ≠ 0 then (.errHmacMismatch, [frameHmacMismatchEvent])
    else (.ok, sequenceEvents tracker (wireSequence frame))

def gatewayTrackerUpdateSequence (tracker : GatewayTracker) (sequence : UInt32) : GatewayTracker :=
  { tracker with lastSequence := sequence, sequenceInitialized := true }

/-! ### Edge node trust tracker -/

structure EdgeNodeTrackerEntry where
  nodeId : UInt8
  attested : Bool
  attestedAtMs : UInt64
  active : Bool
  deriving DecidableEq, Repr

def edgeNodeTrackerMax : Nat := 32

def edgeNodeAttestExpiryMs : UInt64 := 24 * 60 * 60 * 1000

/-- The first `count` slots of the table, which holds `EDGE_NODE_TRACKER_MAX` of them. -/
structure EdgeNodeTracker where
  entries : List EdgeNodeTrackerEntry
  expiryMs : UInt64
  fits : entries.length ≤ edgeNodeTrackerMax

def EdgeNodeTrackerEntry.holds (nodeId : UInt8) (e : EdgeNodeTrackerEntry) : Bool := e.active && e.nodeId == nodeId

def EdgeNodeTrackerEntry.renew (currentMs : UInt64) (e : EdgeNodeTrackerEntry) : EdgeNodeTrackerEntry :=
  { e with attested := true, attestedAtMs := currentMs }

def edgeTrackerInit (expiryMs : UInt64) : EdgeNodeTracker :=
  { entries := [], expiryMs := if expiryMs > 0 then expiryMs else edgeNodeAttestExpiryMs, fits := Nat.zero_le _ }

/-- What `edge_tracker_attest` does once the response has been verified. -/
def recordTrust (tracker : EdgeNodeTracker) (nodeId : UInt8) (currentMs : UInt64) : EdgeNodeTracker × AttestationResult :=
  match tracker.entries.find? (·.holds nodeId) with
  | some _ =>
    ({ tracker with
        entries := updateFirst (·.holds nodeId) (·.renew currentMs) tracker.entries
        fits := (length_updateFirst ..).trans_le tracker.fits }, .ok)
  | none =>
    if full : tracker.entries.length ≥ edgeNodeTrackerMax then (tracker, .errParamNull)
    else
      ({ tracker with
          entries := tracker.entries ++
            [{ nodeId := nodeId, attested := true, attestedAtMs := currentMs, active := true }]
          fits := by simp only [List.length_append, List.length_singleton]; omega }, .ok)

def edgeTrackerAttest (hmac : Hmac) (attestation : Attestation) (tracker : EdgeNodeTracker)
    (challenge : AttestationChallenge) (response : AttestationResponse) (currentMs : UInt64) :
    EdgeNodeTracker × AttestationResult :=
  match attestationVerify hmac attestation challenge response 5000 with
  | .ok => recordTrust tracker response.responderId currentMs
  | error => (tracker, error)

/-- `current_ms = 0` skips the expiry test; the elapsed time is a `uint64_t` difference. -/
def edgeTrackerIsTrusted (tracker : EdgeNodeTracker) (nodeId : UInt8) (currentMs : UInt64) : Bool :=
  match tracker.entries.find? (·.holds nodeId) with
  | none => false
  | some e =>
    if !e.attested then false
    else if currentMs > 0 ∧ tracker.expiryMs > 0 then
      let elapsed := currentMs - e.attestedAtMs
      if elapsed > tracker.expiryMs then false else true
    else true

def edgeTrackerCount (tracker : EdgeNodeTracker) : UInt8 := UInt8.ofNat tracker.entries.length

/-! ### Ingestion -/

/-- The `edge_tracker` argument: a null pointer, `EDGE_TRACKER_CHECK_DISABLED_TESTING_ONLY` or a tracker. -/
inductive EdgeTrackerArg where
  | null
  | checkDisabledTestingOnly
  | tracker (t : EdgeNodeTracker)

def decodeFailureEvent : AuditEvent :=
  { eventType := .authFailure, sessionId := 0, ruleId := 0
    detail := "Gateway frame passed HMAC but failed structural decode" }

def nullEdgeTrackerEvent : AuditEvent :=
  { eventType := .authFailure, sessionId := 0, ruleId := 0
    detail := "gateway_ingest_frame: NULL edge_tracker — parameter error" }

def untrustedNodeEvent (nodeId : UInt8) : AuditEvent :=
  { eventType := .authFailure, sessionId := nodeId, ruleId := 0
    detail := "Edge Node data rejected: attestation not verified or expired" }

def BatchFrameEntry.shortId (e : BatchFrameEntry) : UInt8 := e.nodeId.toUInt8

/-- The trust filter: `room` output slots are left. -/
def filterTrusted (trusted : UInt8 → Bool) : Nat → List BatchFrameEntry → List BatchFrameEntry × List AuditEvent
  | 0, _ => ([], [])
  | _, [] => ([], [])
  | room + 1, e :: rest =>
    if trusted e.shortId then
      let (kept, events) := filterTrusted trusted room rest
      (e :: kept, events)
    else
      let (kept, events) := filterTrusted trusted (room + 1) rest
      (kept, untrustedNodeEvent e.shortId :: events)

structure IngestOutcome where
  tracker : GatewayTracker
  result : GatewayFrameResult
  header : Option BatchFrameHeader
  /-- The first `*out_count` output entries. -/
  entries : List BatchFrameEntry
  events : List AuditEvent

def gatewayIngestFrame (hmac : Hmac) (tracker : GatewayTracker) (edgeTracker : EdgeTrackerArg) (frame : List UInt8)
    (maxEntries : UInt8) : IngestOutcome :=
  match gatewayVerifyFrame hmac tracker frame with
  | (.ok, verified) =>
    match batchDecodeFrameUntrusted frame (UInt8.ofNat batchMaxEntries) with
    | none =>
      { tracker, result := .errHmacMismatch, header := none, entries := [], events := verified ++ [decodeFailureEvent] }
    | some (header, decoded) =>
      -- The sequence is recorded before the null check below.
      let tracker := gatewayTrackerUpdateSequence tracker header.sequenceNumber
      match edgeTracker with
      | .null =>
        { tracker, result := .errParamNull, header := none, entries := [], events := verified ++ [nullEdgeTrackerEvent] }
      | .checkDisabledTestingOnly =>
        let (kept, filtered) := filterTrusted (fun _ => true) maxEntries.toNat decoded
        { tracker, result := .ok, header := some header, entries := kept, events := verified ++ filtered }
      | .tracker t =>
        -- The current time handed to the trust check is 0.
        let (kept, filtered) := filterTrusted (fun nodeId => edgeTrackerIsTrusted t nodeId 0) maxEntries.toNat decoded
        { tracker, result := .ok, header := some header, entries := kept, events := verified ++ filtered }
  | (error, verified) => { tracker, result := error, header := none, entries := [], events := verified }

/-! ### What ingestion returns -/

theorem filterTrusted_entries (trusted : UInt8 → Bool) (room : Nat) (decoded : List BatchFrameEntry) :
    (filterTrusted trusted room decoded).1 = (decoded.filter fun e => trusted e.shortId).take room := by
  fun_induction filterTrusted trusted room decoded with
  | case1 => simp
  | case2 => simp
  | case3 room e rest known kept events result ih => simp_all
  | case4 room e rest unknown kept events result ih => simp_all

def acceptedFrame (hmac : Hmac) (tracker : GatewayTracker) (frame : List UInt8) :
    Option (BatchFrameHeader × List BatchFrameEntry) :=
  if (gatewayVerifyFrame hmac tracker frame).1 = .ok then
    batchDecodeFrameUntrusted frame (UInt8.ofNat batchMaxEntries)
  else none

theorem length_acceptedFrame {hmac : Hmac} {tracker : GatewayTracker} {frame : List UInt8} {header : BatchFrameHeader}
    {decoded : List BatchFrameEntry} (accepted : acceptedFrame hmac tracker frame = some (header, decoded)) :
    decoded.length ≤ batchMaxEntries := by
  unfold acceptedFrame at accepted
  split at accepted
  · exact length_batchDecode accepted
  · cases accepted

def EdgeTrackerArg.admits : EdgeTrackerArg → UInt8 → Bool
  | .null, _ => false
  | .checkDisabledTestingOnly, _ => true
  | .tracker t, nodeId => edgeTrackerIsTrusted t nodeId 0

section Ingest

variable {hmac : Hmac} {tracker : GatewayTracker} {edge : EdgeTrackerArg} {frame : List UInt8} {maxEntries : UInt8}
  {header : BatchFrameHeader} {decoded : List BatchFrameEntry}

theorem gatewayIngestFrame_refused (edge : EdgeTrackerArg) (maxEntries : UInt8)
    (refused : acceptedFrame hmac tracker frame = none) :
    ∃ error events, error ≠ .ok ∧ gatewayIngestFrame hmac tracker edge frame maxEntries =
      { tracker, result := error, header := none, entries := [], events := events } := by
  unfold acceptedFrame at refused
  unfold gatewayIngestFrame
  generalize gatewayVerifyFrame hmac tracker frame = answer at refused ⊢
  obtain ⟨result, verified⟩ := answer
  cases result with
  | ok =>
    rw [if_pos rfl] at refused
    rw [refused]
    exact ⟨.errHmacMismatch, _, by decide, rfl⟩
  | errHmacMismatch => exact ⟨.errHmacMismatch, _, by decide, rfl⟩
  | errGapDetected => exact ⟨.errGapDetected, _, by decide, rfl⟩
  | errNotAuth => exact ⟨.errNotAuth, _, by decide, rfl⟩
  | errParamNull => exact ⟨.errParamNull, _, by decide, rfl⟩

theorem gatewayIngestFrame_accepted (accepted : acceptedFrame hmac tracker frame = some (header, decoded)) :
    gatewayIngestFrame hmac tracker edge frame maxEntries =
      let kept := filterTrusted edge.admits maxEntries.toNat decoded
      let tracker' := gatewayTrackerUpdateSequence tracker header.sequenceNumber
      let verified := (gatewayVerifyFrame hmac tracker frame).2
      match edge with
      | .null =>
        { tracker := tracker', result := .errParamNull, header := none, entries := []
          events := verified ++ [nullEdgeTrackerEvent] }
      | _ =>
        { tracker := tracker', result := .ok, header := some header, entries := kept.1, events := verified ++ kept.2 } := by
  unfold acceptedFrame at accepted
  unfold gatewayIngestFrame
  generalize gatewayVerifyFrame hmac tracker frame = answer at accepted ⊢
  obtain ⟨result, verified⟩ := answer
  cases result with
  | ok =>
    rw [if_pos rfl] at accepted
    rw [accepted]
    cases edge <;> rfl
  | errHmacMismatch => cases accepted
  | errGapDetected => cases accepted
  | errNotAuth => cases accepted
  | errParamNull => cases accepted

theorem gatewayIngestFrame_entries (accepted : acceptedFrame hmac tracker frame = some (header, decoded)) :
    (gatewayIngestFrame hmac tracker edge frame maxEntries).entries =
      (decoded.filter fun e => edge.admits e.shortId).take maxEntries.toNat := by
  rw [gatewayIngestFrame_accepted accepted]
  cases edge with
  | null => simp [EdgeTrackerArg.admits]
  | checkDisabledTestingOnly => exact filterTrusted_entries ..
  | tracker t => exact filterTrusted_entries ..

theorem gatewayIngestFrame_failed (failed : (gatewayIngestFrame hmac tracker edge frame maxEntries).result ≠ .ok) :
    (gatewayIngestFrame hmac tracker edge frame maxEntries).entries = [] := by
  cases accepted : acceptedFrame hmac tracker frame with
  | none =>
    obtain ⟨error, events, -, refused⟩ := gatewayIngestFrame_refused edge maxEntries accepted
    rw [refused]
  | some content =>
    rw [gatewayIngestFrame_accepted accepted] at failed ⊢
    cases edge with
    | null => rfl
    | checkDisabledTestingOnly => exact absurd rfl failed
    | tracker t => exact absurd rfl failed

end Ingest

structure VerifiedFrame (hmac : Hmac) (tracker : GatewayTracker) (frame : List UInt8) : Prop where
  authenticated : tracker.authenticated = true
  version : frame.getD 1 0 = 0x02
  long : 40 ≤ frame.length
  tag : frame.drop (frame.length - 32) = (hmac tracker.sessionKey.toList (frame.take (frame.length - 32))).toList

theorem gatewayVerifyFrame_of {hmac : Hmac} {tracker : GatewayTracker} {frame : List UInt8}
    (verified : VerifiedFrame hmac tracker frame) :
    gatewayVerifyFrame hmac tracker frame = (.ok, sequenceEvents tracker (wireSequence frame)) := by
  obtain ⟨authenticated, version, long, tag⟩ := verified
  have clean : differenceByte (frame.drop (frame.length - 32))
      (hmac tracker.sessionKey.toList (frame.take (frame.length - 32))).toList = 0 := by
    rw [differenceByte_eq_zero (congrArg List.length tag)]
    exact tag
  rw [gatewayVerifyFrame, authenticated, if_neg (by decide), if_neg (by omega), if_neg (not_not.mpr version),
    if_neg (by omega), gatewayHmacSize, if_neg (not_not.mpr clean)]

theorem verifiedFrame_of_ok {hmac : Hmac} {tracker : GatewayTracker} {frame : List UInt8}
    (verified : (gatewayVerifyFrame hmac tracker frame).1 = .ok) : VerifiedFrame hmac tracker frame := by
  unfold gatewayVerifyFrame at verified
  by_cases authenticated : tracker.authenticated = true
  · rw [authenticated, if_neg (by decide)] at verified
    split at verified
    · cases verified
    split at verified
    · cases verified
    rename_i version
    split at verified
    · cases verified
    rename_i long
    dsimp only [gatewayHmacSize] at verified
    split at verified
    · cases verified
    rename_i tag
    refine ⟨authenticated, not_not.mp version, by omega, ?_⟩
    refine (differenceByte_eq_zero ?_).mp (not_not.mp tag)
    rw [List.length_drop, Vector.length_toList]
    omega
  · rw [Bool.not_eq_true] at authenticated
    rw [authenticated, if_pos (by decide)] at verified
    cases verified

/-- The parser's sequence number of an accepted frame is the one the sequence check read. -/
theorem acceptedFrame_sequence {hmac : Hmac} {tracker : GatewayTracker} {frame : List UInt8}
    {header : BatchFrameHeader} {decoded : List BatchFrameEntry}
    (accepted : acceptedFrame hmac tracker frame = some (header, decoded)) :
    header.sequenceNumber = wireSequence frame ∧
      (gatewayVerifyFrame hmac tracker frame).2 = sequenceEvents tracker (wireSequence frame) := by
  unfold acceptedFrame at accepted
  split at accepted
  · rename_i verified
    have checked := verifiedFrame_of_ok verified
    exact ⟨(batchDecode_some accepted).1 checked.version, by rw [gatewayVerifyFrame_of checked]⟩
  · cases accepted

end IotPlatform
