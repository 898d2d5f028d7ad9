import IotPlatform.Lib.Table
import IotPlatform.Lib.Bytes

/-!
# Challenge-response attestation

`attestation.c`. HMAC-SHA256 comes from mbedTLS and is a parameter: a function of key and data with a
32-byte digest.
-/

namespace IotPlatform
open Table Bytes

/-- `ATTESTATION_HMAC_SIZE` bytes; keys have the same size. -/
abbrev Digest := Vector UInt8 32

/-- `iot_hmac_sha256(key, data)`. -/
abbrev Hmac := List UInt8 → List UInt8 → Digest

structure AttestationChallenge where
  challenge : Vector UInt8 16
  timestampMs : UInt64
  senderId : UInt8

structure AttestationResponse where
  response : Digest
  timestampMs : UInt64
  responderId : UInt8

inductive AttestationResult where
  | ok | errHmacMismatch | errStaleTimestamp | errUnknownNode | errParamNull
  deriving DecidableEq, Repr

structure AttestationKeyRecord where
  nodeId : UInt8
  key : Digest
  active : Bool

def attestationMaxKeys : Nat := 32

/-- The module's statics: the first `g_key_count` records and `g_initialised`. -/
structure Attestation where
  keyTable : List AttestationKeyRecord := []
  initialised : Bool := false

def attestationInit : Attestation := { keyTable := [], initialised := true }

def attestationRegisterKey (s : Attestation) (record : AttestationKeyRecord) : Attestation × AttestationResult :=
  if !s.initialised then (s, .errParamNull)
  else if s.keyTable.length ≥ attestationMaxKeys then (s, .errParamNull)
  else
    match s.keyTable.find? (·.nodeId == record.nodeId) with
    | some _ => ({ s with keyTable := updateFirst (·.nodeId == record.nodeId) (fun _ => record) s.keyTable }, .ok)
    | none => ({ s with keyTable := s.keyTable ++ [record] }, .ok)

/-- Challenge bytes, the timestamp in 8 big-endian bytes, sender. -/
def attestationComputeResponse (hmac : Hmac) (key : Digest) (challenge : AttestationChallenge) : Digest :=
  hmac key.toList
    (challenge.challenge.toList ++ (leBytes 8 challenge.timestampMs.toNat).reverse ++ [challenge.senderId])

def attestationVerify (hmac : Hmac) (s : Attestation) (challenge : AttestationChallenge)
    (response : AttestationResponse) (maxDriftMs : UInt64) : AttestationResult :=
  if !s.initialised then .errParamNull
  else
    let diff := if challenge.timestampMs > response.timestampMs then challenge.timestampMs - response.timestampMs
      else response.timestampMs - challenge.timestampMs
    if diff > maxDriftMs then .errStaleTimestamp
    else
      match s.keyTable.find? (fun record => record.nodeId == response.responderId && record.active) with
      | none => .errUnknownNode
      | some record =>
        let expected := attestationComputeResponse hmac record.key challenge
        if differenceByte response.response.toList expected.toList = 0 then .ok else .errHmacMismatch

/-! ### When a response verifies -/

def TimestampsAgree (challenge : AttestationChallenge) (response : AttestationResponse) (maxDriftMs : UInt64) : Prop :=
  challenge.timestampMs.toNat ≤ response.timestampMs.toNat + maxDriftMs.toNat ∧
    response.timestampMs.toNat ≤ challenge.timestampMs.toNat + maxDriftMs.toNat

/-- Some active key of the responder gives the response's bytes for the challenge. -/
def AnswersChallenge (hmac : Hmac) (s : Attestation) (challenge : AttestationChallenge) (response : AttestationResponse) :
    Prop :=
  ∃ record, s.keyTable.find? (fun record => record.nodeId == response.responderId && record.active) = some record ∧
    response.response = attestationComputeResponse hmac record.key challenge

theorem drift_le_iff (a b maxDriftMs : UInt64) :
    ¬(if a > b then a - b else b - a) > maxDriftMs ↔
      a.toNat ≤ b.toNat + maxDriftMs.toNat ∧ b.toNat ≤ a.toNat + maxDriftMs.toNat := by
  by_cases above : a > b
  · have order : b.toNat < a.toNat := UInt64.lt_iff_toNat_lt.mp above
    rw [if_pos above, gt_iff_lt, UInt64.lt_iff_toNat_lt, UInt64.toNat_sub_of_le _ _ (UInt64.le_of_lt above)]
    omega
  · have order : a ≤ b := UInt64.not_lt.mp above
    have order' : a.toNat ≤ b.toNat := UInt64.le_iff_toNat_le.mp order
    rw [if_neg above, gt_iff_lt, UInt64.lt_iff_toNat_lt, UInt64.toNat_sub_of_le _ _ order]
    omega

theorem attestationVerify_ok_iff {hmac : Hmac} {s : Attestation} {challenge : AttestationChallenge}
    {response : AttestationResponse} {maxDriftMs : UInt64} :
    attestationVerify hmac s challenge response maxDriftMs = .ok ↔
      s.initialised = true ∧ TimestampsAgree challenge response maxDriftMs ∧ AnswersChallenge hmac s challenge response := by
  have sameLength : ∀ d : Digest, response.response.toList.length = d.toList.length := by simp
  have drift := drift_le_iff challenge.timestampMs response.timestampMs maxDriftMs
  rw [TimestampsAgree, ← drift, attestationVerify, AnswersChallenge]
  dsimp only
  generalize (if challenge.timestampMs > response.timestampMs then challenge.timestampMs - response.timestampMs
    else response.timestampMs - challenge.timestampMs) = diff
  cases s.initialised with
  | false => simp
  | true =>
    rw [Bool.not_true, if_neg Bool.false_ne_true]
    by_cases stale : diff > maxDriftMs
    · rw [if_pos stale]
      exact iff_of_false (by decide) fun both => both.2.1 stale
    · rw [if_neg stale]
      cases found : s.keyTable.find? (fun record => record.nodeId == response.responderId && record.active) with
      | none => simp
      | some record =>
        dsimp only
        have compared := Bytes.differenceByte_eq_zero (sameLength (attestationComputeResponse hmac record.key challenge))
        rw [Vector.toList_inj] at compared
        by_cases same : response.response = attestationComputeResponse hmac record.key challenge
        · rw [if_pos (compared.mpr same)]
          exact iff_of_true rfl ⟨rfl, stale, record, rfl, same⟩
        · rw [if_neg (mt compared.mp same)]
          refine iff_of_false (by decide) fun ⟨_, _, other, chosen, answered⟩ => same ?_
          rw [Option.some.inj chosen, answered]

end IotPlatform
