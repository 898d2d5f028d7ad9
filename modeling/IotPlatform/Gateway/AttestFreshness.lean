import IotPlatform.Gateway.TrustHistory

/-!
# How fresh an attestation has to be

`attestation_verify` compares the timestamp of the challenge with the one the response itself carries, which no HMAC
covers; the hub's clock takes part in recording trust only.
-/

namespace IotPlatform
open Table

def EdgeNodeTracker.HasRoom (t : EdgeNodeTracker) (nodeId : UInt8) : Prop :=
  t.entries.find? (·.holds nodeId) ≠ none ∨ t.entries.length < edgeNodeTrackerMax

theorem recordTrust_ok_iff {t : EdgeNodeTracker} {nodeId : UInt8} {now : UInt64} :
    (recordTrust t nodeId now).2 = .ok ↔ t.HasRoom nodeId := by
  rw [recordTrust, EdgeNodeTracker.HasRoom]
  cases found : t.entries.find? (·.holds nodeId) with
  | some e => simp
  | none =>
    dsimp only
    split
    · rename_i full
      exact iff_of_false (by simp) fun room => room.elim (· rfl) (Nat.not_lt.mpr full)
    · rename_i room
      exact iff_of_true rfl (Or.inr (Nat.not_le.mp room))

/-- The clock decides nothing: a response that answers its challenge and agrees with it on the time is accepted whenever
it comes. -/
theorem edgeTrackerAttest_ok_iff {hmac : Hmac} {t : EdgeNodeTracker} {call : AttestCall} :
    (edgeTrackerAttest hmac call.attestation t call.challenge call.response call.currentMs).2 = .ok ↔
      call.attestation.initialised = true ∧ TimestampsAgree call.challenge call.response 5000 ∧
        AnswersChallenge hmac call.attestation call.challenge call.response ∧ t.HasRoom call.response.responderId := by
  have verified : attestationVerify hmac call.attestation call.challenge call.response 5000 = .ok ↔ _ :=
    attestationVerify_ok_iff
  rw [edgeTrackerAttest]
  split
  · rename_i ok
    obtain ⟨ready, agree, answers⟩ := verified.mp ok
    rw [recordTrust_ok_iff]
    exact ⟨fun room => ⟨ready, agree, answers, room⟩, fun all => all.2.2.2⟩
  · rename_i refused
    exact iff_of_false refused fun all => refused (verified.mpr ⟨all.1, all.2.1, all.2.2.1⟩)

def AttestCall.Late (call : AttestCall) : Prop := call.challenge.timestampMs.toNat + 5000 < call.currentMs.toNat

/-- A late attestation is refused exactly for the reasons that refuse a prompt one. -/
theorem attestation_freshness_exact (hmac : Hmac) (t : EdgeNodeTracker) (call : AttestCall) :
    (call.Late →
      (edgeTrackerAttest hmac call.attestation t call.challenge call.response call.currentMs).2 ≠ .ok ∧
        (edgeTrackerAttest hmac call.attestation t call.challenge call.response call.currentMs).1 = t) ↔
      (call.Late → call.attestation.initialised = false ∨ ¬TimestampsAgree call.challenge call.response 5000 ∨
        ¬AnswersChallenge hmac call.attestation call.challenge call.response ∨
        ¬t.HasRoom call.response.responderId) := by
  refine imp_congr_right fun _ => ?_
  have refused : (edgeTrackerAttest hmac call.attestation t call.challenge call.response call.currentMs).2 ≠ .ok ↔ _ :=
    not_congr edgeTrackerAttest_ok_iff
  rw [not_and_or, not_and_or, not_and_or, Bool.not_eq_true] at refused
  rw [← refused]
  exact ⟨And.left, fun failed => ⟨failed, edgeTrackerAttest_failed failed⟩⟩

theorem edgeTrackerAttest_trustOf {hmac : Hmac} {t : EdgeNodeTracker} {call : AttestCall}
    (accepted : (edgeTrackerAttest hmac call.attestation t call.challenge call.response call.currentMs).2 = .ok) :
    (edgeTrackerAttest hmac call.attestation t call.challenge call.response call.currentMs).1.trustOf
      call.response.responderId = some (true, call.currentMs) := by
  have output : (attestStep hmac t call).2 = some (call.response.responderId, call.currentMs) := if_pos accepted
  obtain failed | ⟨success, recorded⟩ := attestStep_cases hmac t call
  · rw [failed] at output
    cases output
  · have kept : (edgeTrackerAttest hmac call.attestation t call.challenge call.response call.currentMs).1 =
        (recordTrust t call.response.responderId call.currentMs).1 := (Prod.ext_iff.mp recorded).1
    rw [kept, recordTrust_trustOf _ _ success, if_pos rfl]

/-- A pair of challenge and response that was accepted once renews the node's trust at any later time. -/
theorem replay_renews_trust {hmac : Hmac} {t : EdgeNodeTracker} {call : AttestCall}
    (accepted : (edgeTrackerAttest hmac call.attestation t call.challenge call.response call.currentMs).2 = .ok)
    (now : UInt64) :
    let t' := (edgeTrackerAttest hmac call.attestation t call.challenge call.response call.currentMs).1
    let replayed := edgeTrackerAttest hmac call.attestation t' call.challenge call.response now
    replayed.2 = .ok ∧ replayed.1.trustOf call.response.responderId = some (true, now) := by
  intro t' replayed
  have known : t'.trustOf call.response.responderId = some (true, call.currentMs) := edgeTrackerAttest_trustOf accepted
  have room : t'.HasRoom call.response.responderId := by
    refine Or.inl fun absent => ?_
    rw [EdgeNodeTracker.trustOf, absent] at known
    cases known
  obtain ⟨ready, agree, answers, -⟩ := edgeTrackerAttest_ok_iff.mp accepted
  let later : AttestCall := { call with currentMs := now }
  have again : (edgeTrackerAttest hmac later.attestation t' later.challenge later.response later.currentMs).2 = .ok :=
    edgeTrackerAttest_ok_iff.mpr ⟨ready, agree, answers, room⟩
  exact ⟨again, edgeTrackerAttest_trustOf again⟩

def nodeFiveReplay : AttestCall := { nodeFiveAttests with currentMs := 80000000 }

/-- Node 5's response to the challenge of 1000 ms, sent again 22 hours later, keeps the node trusted. -/
theorem late_replay_accepted :
    let t := (attestStep lengthHmac (edgeTrackerInit 0) nodeFiveAttests).1
    let replayed := edgeTrackerAttest lengthHmac nodeFiveReplay.attestation t nodeFiveReplay.challenge
      nodeFiveReplay.response nodeFiveReplay.currentMs
    nodeFiveReplay.Late ∧ replayed.2 = .ok ∧ edgeTrackerIsTrusted t 5 100000000 = false ∧
      edgeTrackerIsTrusted replayed.1 5 100000000 = true :=
  ⟨show 1000 + 5000 < 80000000 by decide, by decide, by decide, by decide⟩

end IotPlatform
