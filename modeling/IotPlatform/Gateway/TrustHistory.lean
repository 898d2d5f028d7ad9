import IotPlatform.Gateway.TrustGate

/-!
# The trust tracker and the history of attestations

`edge_tracker_is_trusted` answers from a table that each attestation updates in place or extends. It stands for the latest
successful attestation of each node.
-/

namespace IotPlatform
open Table Run Latest

/-- The latest of the attestations of a node came at `time`. -/
def LatestAttested (successes : List (UInt8 × UInt64)) (nodeId : UInt8) (time : UInt64) : Prop :=
  ∃ before after, successes = before ++ (nodeId, time) :: after ∧ ∀ success ∈ after, success.1 ≠ nodeId

theorem lastAttested_eq_some {successes : List (UInt8 × UInt64)} {nodeId : UInt8} {time : UInt64} :
    lastAttested successes nodeId = some time ↔ LatestAttested successes nodeId time :=
  latest_eq_some_iff

/-! ### One entry for each node -/

/-- All entries are in use, each for a node of its own. -/
structure EdgeNodeTracker.WellFormed (t : EdgeNodeTracker) : Prop where
  distinct : (t.entries.map EdgeNodeTrackerEntry.nodeId).Nodup
  active : ∀ e ∈ t.entries, e.active = true

theorem EdgeNodeTracker.WellFormed.find?_eq_none {t : EdgeNodeTracker} (wf : t.WellFormed) {nodeId : UInt8} :
    t.entries.find? (·.holds nodeId) = none ↔ nodeId ∉ t.entries.map EdgeNodeTrackerEntry.nodeId := by
  rw [List.find?_eq_none, List.mem_map]
  constructor
  · rintro absent ⟨e, member, rfl⟩
    exact absent e member (by simp [EdgeNodeTrackerEntry.holds, wf.active e member])
  · intro absent e member holds
    simp only [EdgeNodeTrackerEntry.holds, Bool.and_eq_true, beq_iff_eq] at holds
    exact absent ⟨e, member, holds.2⟩

theorem edgeTrackerInit_wellFormed (expiryMs : UInt64) : (edgeTrackerInit expiryMs).WellFormed where
  distinct := List.nodup_nil
  active := fun _ member => absurd member List.not_mem_nil

section Renewal

variable {p : EdgeNodeTrackerEntry → Bool} {now : UInt64} {entries : List EdgeNodeTrackerEntry}

theorem renew_nodeIds : (updateFirst p (·.renew now) entries).map EdgeNodeTrackerEntry.nodeId =
    entries.map EdgeNodeTrackerEntry.nodeId := map_updateFirst fun _ => rfl

theorem renew_active (active : ∀ e ∈ entries, e.active = true) :
    ∀ e ∈ updateFirst p (·.renew now) entries, e.active = true := by
  have same : (updateFirst p (·.renew now) entries).map EdgeNodeTrackerEntry.active =
    entries.map EdgeNodeTrackerEntry.active := map_updateFirst fun _ => rfl
  intro e member
  obtain ⟨old, old_member, old_active⟩ := List.mem_map.mp (same ▸ List.mem_map_of_mem member)
  exact old_active ▸ active old old_member

end Renewal

theorem recordTrust_wellFormed {t : EdgeNodeTracker} (wf : t.WellFormed) (nodeId : UInt8) (now : UInt64) :
    (recordTrust t nodeId now).1.WellFormed := by
  unfold recordTrust
  cases found : t.entries.find? (·.holds nodeId) with
  | some e =>
    refine ⟨?_, renew_active wf.active⟩
    exact renew_nodeIds.symm ▸ wf.distinct
  | none =>
    dsimp only
    split
    · exact wf
    · constructor
      · rw [List.map_append, List.map_singleton, ← List.concat_eq_append]
        exact wf.distinct.concat (wf.find?_eq_none.mp found)
      · simp only [List.mem_append, List.mem_singleton]
        rintro e (old | rfl)
        · exact wf.active e old
        · rfl

theorem attestStep_wellFormed (hmac : Hmac) {t : EdgeNodeTracker} (wf : t.WellFormed) (call : AttestCall) :
    (attestStep hmac t call).1.WellFormed := by
  obtain failed | ⟨-, recorded⟩ := attestStep_cases hmac t call
  · rw [failed]
    exact wf
  · rw [recorded]
    exact recordTrust_wellFormed wf _ _

theorem attestRun_wellFormed (hmac : Hmac) (expiryMs : UInt64) (calls : List AttestCall) :
    (finalState (attestStep hmac) (edgeTrackerInit expiryMs) calls).WellFormed :=
  finalState_invariant (edgeTrackerInit_wellFormed expiryMs) (fun _ call wf => attestStep_wellFormed hmac wf call) calls

theorem edgeTrackerAttest_failed {hmac : Hmac} {t : EdgeNodeTracker} {call : AttestCall}
    (failed : (edgeTrackerAttest hmac call.attestation t call.challenge call.response call.currentMs).2 ≠ .ok) :
    (edgeTrackerAttest hmac call.attestation t call.challenge call.response call.currentMs).1 = t := by
  have step : (attestStep hmac t call).1 =
    (edgeTrackerAttest hmac call.attestation t call.challenge call.response call.currentMs).1 := rfl
  have output : (attestStep hmac t call).2 = none := if_neg failed
  obtain unchanged | ⟨-, recorded⟩ := attestStep_cases hmac t call
  · rw [← step, unchanged]
  · rw [recorded] at output
    cases output

theorem attested_time {hmac : Hmac} {t : EdgeNodeTracker} {calls : List AttestCall} {success : UInt8 × UInt64}
    (member : success ∈ (outputs (attestStep hmac) t calls).flatMap Option.toList) :
    ∃ call ∈ calls, success.2 = call.currentMs := by
  induction calls generalizing t with
  | nil => cases member
  | cons call rest ih =>
    rw [outputs, List.flatMap_cons, List.mem_append] at member
    rcases member with here | later
    · refine ⟨call, List.mem_cons_self, ?_⟩
      obtain failed | ⟨-, recorded⟩ := attestStep_cases hmac t call
      · rw [failed] at here
        cases here
      · rw [recorded] at here
        rw [List.mem_singleton.mp here]
    · obtain ⟨other, other_member, same⟩ := ih later
      exact ⟨other, List.mem_cons_of_mem _ other_member, same⟩

/-! ### Room for 32 nodes -/

def AttestCall.responder (call : AttestCall) : UInt8 := call.response.responderId

theorem attestStep_nodes {hmac : Hmac} {t : EdgeNodeTracker} {call : AttestCall} {nodeId : UInt8}
    (member : nodeId ∈ (attestStep hmac t call).1.entries.map EdgeNodeTrackerEntry.nodeId) :
    nodeId ∈ t.entries.map EdgeNodeTrackerEntry.nodeId ∨ nodeId = call.responder := by
  obtain failed | ⟨-, recorded⟩ := attestStep_cases hmac t call
  · rw [failed] at member
    exact .inl member
  · rw [recorded] at member
    unfold recordTrust at member
    split at member
    · exact .inl (renew_nodeIds ▸ member)
    · split at member
      · exact .inl member
      · rw [List.map_append, List.mem_append, List.map_singleton, List.mem_singleton] at member
        exact member

theorem attestRun_nodes {hmac : Hmac} {t : EdgeNodeTracker} {calls : List AttestCall} {nodeId : UInt8}
    (member : nodeId ∈ (finalState (attestStep hmac) t calls).entries.map EdgeNodeTrackerEntry.nodeId) :
    nodeId ∈ t.entries.map EdgeNodeTrackerEntry.nodeId ∨ nodeId ∈ calls.map AttestCall.responder := by
  induction calls generalizing t with
  | nil => exact .inl member
  | cons call rest ih =>
    rw [List.map_cons, List.mem_cons]
    rcases ih member with here | later
    · exact (attestStep_nodes here).imp_right .inl
    · exact .inr (.inr later)

/-- While at most 32 nodes attest the table is never full: an attestation succeeds exactly when its response verifies. -/
theorem attestation_has_room (hmac : Hmac) (expiryMs : UInt64) (calls : List AttestCall) (call : AttestCall)
    (few : ((call :: calls).map AttestCall.responder).dedup.length ≤ edgeNodeTrackerMax) :
    (edgeTrackerAttest hmac call.attestation (finalState (attestStep hmac) (edgeTrackerInit expiryMs) calls) call.challenge
        call.response call.currentMs).2 =
      attestationVerify hmac call.attestation call.challenge call.response 5000 := by
  have wf := attestRun_wellFormed hmac expiryMs calls
  unfold edgeTrackerAttest
  cases attestationVerify hmac call.attestation call.challenge call.response 5000 with
  | ok =>
    dsimp only
    unfold recordTrust
    split
    · rfl
    · rename_i absent
      have fresh := wf.find?_eq_none.mp absent
      have known : ∀ nodeId ∈ call.responder :: (finalState (attestStep hmac) (edgeTrackerInit expiryMs) calls).entries.map
          EdgeNodeTrackerEntry.nodeId, nodeId ∈ (call :: calls).map AttestCall.responder := by
        intro nodeId member
        rw [List.map_cons, List.mem_cons]
        exact (List.mem_cons.mp member).imp_right fun old => (attestRun_nodes old).resolve_left List.not_mem_nil
      have room := room_for_fresh wf.distinct fresh known few
      rw [List.length_map] at room
      rw [dif_neg (by omega)]
  | _ => rfl

/-- At a time that no attestation of the run comes after, a node is trusted exactly when its latest successful attestation is
at most the expiry old. The table has one entry for each node, and a failed attestation leaves it as it was. -/
theorem edge_trust_history (hmac : Hmac) (expiryMs : UInt64) (calls : List AttestCall) (nodeId : UInt8) (now : UInt64)
    (positive : 0 < now) (last : ∀ call ∈ calls, call.currentMs ≤ now) :
    let t := finalState (attestStep hmac) (edgeTrackerInit expiryMs) calls
    let successes := (outputs (attestStep hmac) (edgeTrackerInit expiryMs) calls).flatMap Option.toList
    (edgeTrackerIsTrusted t nodeId now = true ↔ ∃ time, LatestAttested successes nodeId time ∧
      now.toNat - time.toNat ≤ (edgeTrackerInit expiryMs).expiryMs.toNat) ∧
    (t.entries.map EdgeNodeTrackerEntry.nodeId).Nodup ∧
    ∀ call : AttestCall, (edgeTrackerAttest hmac call.attestation t call.challenge call.response call.currentMs).2 ≠ .ok →
      (edgeTrackerAttest hmac call.attestation t call.challenge call.response call.currentMs).1 = t := by
  intro t successes
  have recorded : TrustRecorded t successes := attestRun_recorded hmac expiryMs calls
  have wf : t.WellFormed := attestRun_wellFormed hmac expiryMs calls
  have expiry : t.expiryMs = (edgeTrackerInit expiryMs).expiryMs :=
    finalState_invariant (P := fun t => t.expiryMs = (edgeTrackerInit expiryMs).expiryMs) rfl
      (fun t call same => (attestStep_expiryMs hmac t call).trans same) calls
  have expires : t.expiryMs > 0 := expiry ▸ edgeTrackerInit_expires expiryMs
  refine ⟨?_, wf.distinct, fun _ failed => edgeTrackerAttest_failed failed⟩
  rw [edgeTrackerIsTrusted_iff recorded, ← expiry]
  refine exists_congr fun time => ?_
  rw [lastAttested_eq_some]
  refine and_congr_right fun latest => ?_
  obtain ⟨call, member, same⟩ := attested_time (mem_of_lastAttested (lastAttested_eq_some.mpr latest))
  have before : time ≤ now := (show time = call.currentMs from same) ▸ last call member
  rw [← UInt64.toNat_sub_of_le _ _ before, ← UInt64.le_iff_toNat_le]
  exact ⟨fun fresh => fresh positive expires, fun fresh _ _ => fresh⟩

/-- Node 5 attests again before its first attestation expires. -/
def nodeFiveRenews : List AttestCall := [nodeFiveAttests, { nodeFiveAttests with currentMs := 80000000 }]

theorem edge_trust_history_renewed :
    edgeTrackerIsTrusted (finalState (attestStep lengthHmac) (edgeTrackerInit 0) nodeFiveRenews) 5 100000000 = true :=
  (edge_trust_history lengthHmac 0 nodeFiveRenews 5 100000000 (by decide) (by decide)).1.mpr
    ⟨80000000, ⟨[(5, 1000)], [], by decide, by simp⟩, by decide⟩

end IotPlatform
