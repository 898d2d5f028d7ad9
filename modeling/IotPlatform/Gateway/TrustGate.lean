import IotPlatform.Lib.Run
import IotPlatform.Lib.Latest
import IotPlatform.Gateway.GatewayAuth
import IotPlatform.Gateway.Delivery

/-!
# The hub's trust gate

What an edge tracker knows after any sequence of attestations, and which entries of a frame it lets through.
The tracker is keyed by 8-bit node ids and frames carry 16-bit ones.
-/

namespace IotPlatform
open Table Run Latest

/-! ### The tracker holds the last successful attestation of each node -/

def lastAttested (successes : List (UInt8 × UInt64)) (nodeId : UInt8) : Option UInt64 :=
  (successes.reverse.find? fun success => success.1 == nodeId).map Prod.snd

theorem lastAttested_concat (successes : List (UInt8 × UInt64)) (nodeId other : UInt8) (now : UInt64) :
    lastAttested (successes ++ [(nodeId, now)]) other =
      if nodeId = other then some now else lastAttested successes other :=
  latest_concat successes nodeId other now

theorem mem_of_lastAttested {successes : List (UInt8 × UInt64)} {nodeId : UInt8} {time : UInt64}
    (latest : lastAttested successes nodeId = some time) : (nodeId, time) ∈ successes :=
  mem_of_latest latest

def EdgeNodeTracker.trustOf (t : EdgeNodeTracker) (nodeId : UInt8) : Option (Bool × UInt64) :=
  (t.entries.find? (·.holds nodeId)).map fun e => (e.attested, e.attestedAtMs)

def TrustRecorded (t : EdgeNodeTracker) (successes : List (UInt8 × UInt64)) : Prop :=
  ∀ nodeId, t.trustOf nodeId = (lastAttested successes nodeId).map (true, ·)

theorem edgeTrackerInit_recorded (expiryMs : UInt64) : TrustRecorded (edgeTrackerInit expiryMs) [] := fun _ => rfl

theorem edgeTrackerInit_expires (expiryMs : UInt64) : (edgeTrackerInit expiryMs).expiryMs > 0 := by
  unfold edgeTrackerInit
  dsimp only
  split
  · assumption
  · decide

theorem oneKey_holds : OneKey EdgeNodeTrackerEntry.holds := by
  intro e a b own other
  simp only [EdgeNodeTrackerEntry.holds, Bool.and_eq_true, beq_iff_eq] at own other
  exact own.2.symm.trans other.2

theorem holds_renew (nodeId : UInt8) (now : UInt64) (e : EdgeNodeTrackerEntry) :
    (e.renew now).holds nodeId = e.holds nodeId := rfl

theorem recordTrust_trustOf {t : EdgeNodeTracker} (nodeId : UInt8) (now : UInt64)
    (success : (recordTrust t nodeId now).2 = .ok) (other : UInt8) :
    (recordTrust t nodeId now).1.trustOf other = if nodeId = other then some (true, now) else t.trustOf other := by
  unfold recordTrust at success ⊢
  cases found : t.entries.find? (·.holds nodeId) with
  | some e =>
    dsimp only [EdgeNodeTracker.trustOf]
    rw [find?_updateFirst_key oneKey_holds fun nodeId => holds_renew nodeId now, found]
    split <;> rfl
  | none =>
    rw [found] at success
    dsimp only at success
    have room : ¬t.entries.length ≥ edgeNodeTrackerMax := by
      intro full
      rw [dif_pos full] at success
      cases success
    dsimp only
    rw [dif_neg room]
    dsimp only [EdgeNodeTracker.trustOf]
    rw [find?_concat_key oneKey_holds (by simp [EdgeNodeTrackerEntry.holds]) found]
    split <;> rfl

theorem recordTrust_recorded {t : EdgeNodeTracker} {successes : List (UInt8 × UInt64)} (inv : TrustRecorded t successes)
    (nodeId : UInt8) (now : UInt64) (success : (recordTrust t nodeId now).2 = .ok) :
    TrustRecorded (recordTrust t nodeId now).1 (successes ++ [(nodeId, now)]) := by
  intro other
  rw [lastAttested_concat, recordTrust_trustOf nodeId now success, inv other]
  split <;> rfl

theorem recordTrust_failed {t : EdgeNodeTracker} {nodeId : UInt8} {now : UInt64}
    (failed : (recordTrust t nodeId now).2 ≠ .ok) : (recordTrust t nodeId now).1 = t := by
  unfold recordTrust at failed ⊢
  split
  · rename_i found
    simp [found] at failed
  · split
    · rfl
    · rename_i absent room
      simp [absent, room] at failed

theorem recordTrust_expiryMs (t : EdgeNodeTracker) (nodeId : UInt8) (now : UInt64) :
    (recordTrust t nodeId now).1.expiryMs = t.expiryMs := by
  unfold recordTrust
  split
  · rfl
  · split <;> rfl

/-! ### Runs of attestations -/

/-- The arguments of one `edge_tracker_attest`, with the key table it verifies against. -/
structure AttestCall where
  attestation : Attestation
  challenge : AttestationChallenge
  response : AttestationResponse
  currentMs : UInt64

def attestStep (hmac : Hmac) (t : EdgeNodeTracker) (call : AttestCall) : EdgeNodeTracker × Option (UInt8 × UInt64) :=
  let (t', result) := edgeTrackerAttest hmac call.attestation t call.challenge call.response call.currentMs
  (t', if result = .ok then some (call.response.responderId, call.currentMs) else none)

theorem attestStep_cases (hmac : Hmac) (t : EdgeNodeTracker) (call : AttestCall) :
    attestStep hmac t call = (t, none) ∨
    (recordTrust t call.response.responderId call.currentMs).2 = .ok ∧
      attestStep hmac t call =
        ((recordTrust t call.response.responderId call.currentMs).1, some (call.response.responderId, call.currentMs)) := by
  unfold attestStep edgeTrackerAttest
  cases attestationVerify hmac call.attestation call.challenge call.response 5000 with
  | ok =>
    dsimp only
    by_cases success : (recordTrust t call.response.responderId call.currentMs).2 = .ok
    · exact .inr ⟨success, by rw [if_pos success]⟩
    · exact .inl (by rw [if_neg success, recordTrust_failed success])
  | errHmacMismatch => exact .inl rfl
  | errStaleTimestamp => exact .inl rfl
  | errUnknownNode => exact .inl rfl
  | errParamNull => exact .inl rfl

theorem attestStep_recorded (hmac : Hmac) (t : EdgeNodeTracker) (successes : List (UInt8 × UInt64)) (call : AttestCall)
    (inv : TrustRecorded t successes) :
    TrustRecorded (attestStep hmac t call).1 (successes ++ (attestStep hmac t call).2.toList) := by
  obtain failed | ⟨success, recorded⟩ := attestStep_cases hmac t call
  · rw [failed]
    simpa using inv
  · rw [recorded]
    exact recordTrust_recorded inv _ _ success

theorem attestStep_expiryMs (hmac : Hmac) (t : EdgeNodeTracker) (call : AttestCall) :
    (attestStep hmac t call).1.expiryMs = t.expiryMs := by
  obtain failed | ⟨-, recorded⟩ := attestStep_cases hmac t call
  · rw [failed]
  · rw [recorded, recordTrust_expiryMs]

theorem attestRun_recorded (hmac : Hmac) (expiryMs : UInt64) (calls : List AttestCall) :
    TrustRecorded (finalState (attestStep hmac) (edgeTrackerInit expiryMs) calls)
      ((outputs (attestStep hmac) (edgeTrackerInit expiryMs) calls).flatMap Option.toList) := by
  refine history_invariant (P := fun t history => TrustRecorded t (history.flatMap Option.toList))
    (edgeTrackerInit_recorded expiryMs) (fun t history call inv => ?_) calls
  rw [List.flatMap_append, List.flatMap_singleton]
  exact attestStep_recorded hmac t _ call inv

/-- Trust at some time is a recent enough attestation; at time 0, and without an expiry, any attestation will do. -/
theorem edgeTrackerIsTrusted_iff {t : EdgeNodeTracker} {successes : List (UInt8 × UInt64)}
    (inv : TrustRecorded t successes) (nodeId : UInt8) (now : UInt64) :
    edgeTrackerIsTrusted t nodeId now = true ↔ ∃ time, lastAttested successes nodeId = some time ∧
      (now > 0 → t.expiryMs > 0 → now - time ≤ t.expiryMs) := by
  have known := inv nodeId
  unfold EdgeNodeTracker.trustOf at known
  unfold edgeTrackerIsTrusted
  cases found : t.entries.find? (·.holds nodeId) with
  | none =>
    rw [found, Option.map_none, eq_comm, Option.map_eq_none_iff] at known
    simp [known]
  | some e =>
    rw [found, Option.map_some, eq_comm, Option.map_eq_some_iff] at known
    obtain ⟨time, latest, same⟩ := known
    obtain ⟨attested, at_time⟩ := Prod.mk.inj same
    dsimp only
    rw [← attested, ← at_time, latest, Bool.not_true, if_neg Bool.false_ne_true]
    by_cases limited : now > 0 ∧ t.expiryMs > 0
    · rw [if_pos limited]
      simp [limited.1, limited.2]
    · rw [if_neg limited]
      exact iff_of_true rfl ⟨time, rfl, fun later expires => absurd ⟨later, expires⟩ limited⟩

theorem edgeTrackerIsTrusted_zero_iff {t : EdgeNodeTracker} {successes : List (UInt8 × UInt64)}
    (inv : TrustRecorded t successes) (nodeId : UInt8) :
    edgeTrackerIsTrusted t nodeId 0 = true ↔ ∃ time, lastAttested successes nodeId = some time := by
  simp [edgeTrackerIsTrusted_iff inv]

/-! ### Which entries pass -/

/-- The entries that a filter with `room` output slots keeps are those with room left at their turn. -/
theorem mem_take_filter {α : Type} (p : α → Bool) (xs : List α) (room : Nat) (x : α) :
    x ∈ (xs.filter p).take room ↔ ∃ i, xs[i]? = some x ∧ p x = true ∧ (xs.take i).countP p < room := by
  induction xs generalizing room with
  | nil => simp
  | cons y ys ih =>
    by_cases keeps : p y = true
    · cases room with
      | zero => simp
      | succ room =>
        rw [List.filter_cons_of_pos keeps, List.take_succ_cons, List.mem_cons, ih]
        constructor
        · rintro (rfl | ⟨i, at_i, kept, left⟩)
          · exact ⟨0, rfl, keeps, by simp⟩
          · refine ⟨i + 1, at_i, kept, ?_⟩
            rw [List.take_succ_cons, List.countP_cons_of_pos keeps]
            omega
        · rintro ⟨i, at_i, kept, left⟩
          cases i with
          | zero => exact .inl (Option.some.inj at_i).symm
          | succ i =>
            rw [List.take_succ_cons, List.countP_cons_of_pos keeps] at left
            exact .inr ⟨i, at_i, kept, by omega⟩
    · rw [List.filter_cons_of_neg keeps, ih]
      constructor
      · rintro ⟨i, at_i, kept, left⟩
        exact ⟨i + 1, at_i, kept, by rwa [List.take_succ_cons, List.countP_cons_of_neg keeps]⟩
      · rintro ⟨i, at_i, kept, left⟩
        cases i with
        | zero => exact absurd (Option.some.inj at_i ▸ kept) keeps
        | succ i =>
          rw [List.take_succ_cons, List.countP_cons_of_neg keeps] at left
          exact ⟨i, at_i, kept, left⟩

theorem mem_ingested {hmac : Hmac} {tracker : GatewayTracker} {edge : EdgeNodeTracker} {frame : List UInt8}
    {maxEntries : UInt8} {e : BatchFrameEntry} :
    e ∈ (gatewayIngestFrame hmac tracker (.tracker edge) frame maxEntries).entries ↔
      ∃ header decoded i, acceptedFrame hmac tracker frame = some (header, decoded) ∧ decoded[i]? = some e ∧
        edgeTrackerIsTrusted edge e.shortId 0 = true ∧
        (decoded.take i).countP (fun e => edgeTrackerIsTrusted edge e.shortId 0) < maxEntries.toNat := by
  cases accepted : acceptedFrame hmac tracker frame with
  | none =>
    obtain ⟨error, events, -, refused⟩ := gatewayIngestFrame_refused (.tracker edge) maxEntries accepted
    simp [refused]
  | some content =>
    obtain ⟨header, decoded⟩ := content
    rw [gatewayIngestFrame_entries accepted, mem_take_filter]
    dsimp only [EdgeTrackerArg.admits]
    constructor
    · rintro ⟨i, at_i, trusted, left⟩
      exact ⟨header, decoded, i, rfl, at_i, trusted, left⟩
    · rintro ⟨header', decoded', i, same, at_i, trusted, left⟩
      obtain ⟨-, rfl⟩ := Prod.mk.inj (Option.some.inj same)
      exact ⟨i, at_i, trusted, left⟩

/-- The 16-bit id of an entry names a node with a successful attestation. -/
def HasAttested (successes : List (UInt8 × UInt64)) (e : BatchFrameEntry) : Prop :=
  ∃ nodeId time, nodeId.toNat = e.nodeId.toNat ∧ (nodeId, time) ∈ successes

theorem shortId_toNat (e : BatchFrameEntry) : e.shortId.toNat = e.nodeId.toNat % 256 := rfl

/-- Every returned entry is from an attested node exactly when no entry with an id of 256 or more, whose low byte is
the id of a trusted node, meets a free output slot. -/
theorem trust_gate_exact (hmac : Hmac) (expiryMs : UInt64) (calls : List AttestCall) (tracker : GatewayTracker)
    (frame : List UInt8) (maxEntries : UInt8) :
    let edge := finalState (attestStep hmac) (edgeTrackerInit expiryMs) calls
    let successes := (outputs (attestStep hmac) (edgeTrackerInit expiryMs) calls).flatMap Option.toList
    (∀ e ∈ (gatewayIngestFrame hmac tracker (.tracker edge) frame maxEntries).entries, HasAttested successes e) ↔
      ∀ header decoded i e, acceptedFrame hmac tracker frame = some (header, decoded) → decoded[i]? = some e →
        256 ≤ e.nodeId.toNat → edgeTrackerIsTrusted edge e.shortId 0 = true →
        maxEntries.toNat ≤ (decoded.take i).countP fun e => edgeTrackerIsTrusted edge e.shortId 0 := by
  intro edge successes
  have recorded : TrustRecorded edge successes := attestRun_recorded hmac expiryMs calls
  constructor
  · intro gated header decoded i e accepted at_i wide trusted
    rcases Nat.lt_or_ge ((decoded.take i).countP fun e => edgeTrackerIsTrusted edge e.shortId 0) maxEntries.toNat with
      left | full
    · obtain ⟨nodeId, time, same, -⟩ := gated e (mem_ingested.mpr ⟨header, decoded, i, accepted, at_i, trusted, left⟩)
      have short := nodeId.toNat_lt
      omega
    · exact full
  · intro narrow e member
    obtain ⟨header, decoded, i, accepted, at_i, trusted, left⟩ := mem_ingested.mp member
    have small : e.nodeId.toNat < 256 := by
      rcases Nat.lt_or_ge e.nodeId.toNat 256 with small | wide
      · exact small
      · exact absurd (narrow header decoded i e accepted at_i wide trusted) (Nat.not_le.mpr left)
    obtain ⟨time, latest⟩ := (edgeTrackerIsTrusted_zero_iff recorded e.shortId).mp trusted
    refine ⟨e.shortId, time, ?_, mem_of_lastAttested latest⟩
    rw [shortId_toNat, Nat.mod_eq_of_lt small]

def nodeFiveAttests : AttestCall :=
  { attestation := { keyTable := [{ nodeId := 5, key := Vector.replicate 32 3, active := true }], initialised := true }
    challenge := { challenge := Vector.replicate 16 1, timestampMs := 1000, senderId := 1 }
    response := { response := Vector.replicate 32 25, timestampMs := 1000, responderId := 5 }
    currentMs := 1000 }

def wideIdFrame : List UInt8 :=
  signedFrame lengthHmac sampleContext
    [{ nodeId := 0x0105, metricId := 31, value := ⟨0x41A00000⟩, valid := true, dirty := true }]

theorem wide_id_passes :
    ¬∀ e ∈ (gatewayIngestFrame lengthHmac sampleTracker
          (.tracker (finalState (attestStep lengthHmac) (edgeTrackerInit 0) [nodeFiveAttests])) wideIdFrame 22).entries,
        HasAttested ((outputs (attestStep lengthHmac) (edgeTrackerInit 0) [nodeFiveAttests]).flatMap Option.toList) e := by
  intro gated
  obtain ⟨nodeId, time, same, -⟩ := gated { nodeId := 0x0105, metricId := 31, value := ⟨0x41A00000⟩ } (by decide)
  have short := nodeId.toNat_lt
  have wide : nodeId.toNat = 0x0105 := same
  omega

end IotPlatform
