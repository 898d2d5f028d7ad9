import IotPlatform.Lib.CText
import IotPlatform.Shared.Attestation

/-!
# Verified boot

`verified_boot.c`: the descriptor of the image in the active slot is checked against an HMAC under a key derived from the
device's identity, and a failed check rolls the boot slot back.
-/

namespace IotPlatform
open Bytes

def verifiedBootKeySize : Nat := 32

inductive VerifiedBootResult where
  | ok | errIntegrity | errKeyDerivation | errNotProvisioned | errParamNull
  deriving DecidableEq, Repr

structure BootVerification where
  result : VerifiedBootResult := .ok
  imageValid : Bool := false
  rollbackTriggered : Bool := false
  fwVersion : UInt32 := 0
  deriving DecidableEq

structure FlashImageDescriptor where
  slot : UInt32
  size : UInt32
  version : UInt32
  hash : Digest
  present : Bool

def verifiedBootDeriveKey (hmac : Hmac) (identityKey : List UInt8) : Except VerifiedBootResult Digest :=
  if identityKey.length ≠ verifiedBootKeySize then .error .errKeyDerivation
  else .ok (hmac identityKey (asciiBytes "verified_boot_key_derivation"))

/-- Version and size in four big-endian bytes each, and the low byte of the slot. -/
def FlashImageDescriptor.dataToHash (descriptor : FlashImageDescriptor) : List UInt8 :=
  (leBytes 4 descriptor.version.toNat).reverse ++ (leBytes 4 descriptor.size.toNat).reverse ++ [descriptor.slot.toUInt8]

def verifiedBootCheck (hmac : Hmac) (descriptor : FlashImageDescriptor) (identityKey : List UInt8) : BootVerification :=
  let result : BootVerification := { fwVersion := descriptor.version }
  if !descriptor.present then { result with result := .errIntegrity, imageValid := false }
  else
    match verifiedBootDeriveKey hmac identityKey with
    | .error dkResult => { result with result := dkResult, imageValid := false }
    | .ok derivedKey =>
      let imageValid := decide (hmac derivedKey.toList descriptor.dataToHash = descriptor.hash)
      { result with imageValid := imageValid, result := if imageValid then .ok else .errIntegrity }

/-- What a boot check reports, and the slots it called the rollback callback with. -/
structure BootCheckOutcome where
  verification : BootVerification
  rollbackCalls : List UInt32
  deriving DecidableEq

/-- `readImage` gives the descriptor it fills in, or nothing when it fails; `rollback` may be missing. -/
def verifiedBootFullCheck (hmac : Hmac) (readImage : UInt32 → Option FlashImageDescriptor)
    (rollback : Option (UInt32 → Bool)) (identityKey : List UInt8) (activeSlot : UInt32) : BootCheckOutcome :=
  match readImage activeSlot with
  | none => { verification := { result := .errNotProvisioned, imageValid := false }, rollbackCalls := [] }
  | some desc =>
    let verification := verifiedBootCheck hmac desc identityKey
    match verification.imageValid, rollback with
    | false, some rollback =>
      let otherSlot : UInt32 := if activeSlot = 0 then 1 else 0
      { verification := { verification with rollbackTriggered := rollback otherSlot }, rollbackCalls := [otherSlot] }
    | _, _ => { verification := verification, rollbackCalls := [] }

/-! ### Failing closed -/

/-- The descriptor's hash is the HMAC of its fields under the key derived from the identity. -/
def FlashImageDescriptor.Authentic (hmac : Hmac) (identityKey : List UInt8) (desc : FlashImageDescriptor) : Prop :=
  desc.present = true ∧ ∃ key, verifiedBootDeriveKey hmac identityKey = .ok key ∧ desc.hash = hmac key.toList desc.dataToHash

def ActiveImageAuthentic (hmac : Hmac) (readImage : UInt32 → Option FlashImageDescriptor) (identityKey : List UInt8)
    (activeSlot : UInt32) : Prop :=
  ∃ desc, readImage activeSlot = some desc ∧ desc.Authentic hmac identityKey ∧ desc.slot = activeSlot

/-- Only an authentic image of the active slot is reported valid; without one the other slot is rolled back to, once. -/
def BootFailsClosed (hmac : Hmac) (readImage : UInt32 → Option FlashImageDescriptor) (rollback : Option (UInt32 → Bool))
    (identityKey : List UInt8) (activeSlot : UInt32) : Prop :=
  let outcome := verifiedBootFullCheck hmac readImage rollback identityKey activeSlot
  (outcome.verification.imageValid = true → ActiveImageAuthentic hmac readImage identityKey activeSlot) ∧
    (¬ActiveImageAuthentic hmac readImage identityKey activeSlot → rollback.isSome = true →
      outcome.rollbackCalls = [if activeSlot = 0 then 1 else 0])

theorem verifiedBootCheck_imageValid (hmac : Hmac) (desc : FlashImageDescriptor) (identityKey : List UInt8) :
    (verifiedBootCheck hmac desc identityKey).imageValid = true ↔ desc.Authentic hmac identityKey := by
  rw [verifiedBootCheck, FlashImageDescriptor.Authentic]
  cases desc.present with
  | false => simp
  | true =>
    cases verifiedBootDeriveKey hmac identityKey with
    | error dkResult => simp
    | ok key => simp [eq_comm]

section Exact

variable (hmac : Hmac) {readImage : UInt32 → Option FlashImageDescriptor} (rollback : Option (UInt32 → Bool))
  (identityKey : List UInt8) {activeSlot : UInt32}

theorem bootFailsClosed_of_unread (unread : readImage activeSlot = none) :
    BootFailsClosed hmac readImage rollback identityKey activeSlot ↔ rollback = none := by
  have nothing : ¬ActiveImageAuthentic hmac readImage identityKey activeSlot := by
    rintro ⟨desc, read, -⟩
    rw [unread] at read
    cases read
  have called : verifiedBootFullCheck hmac readImage rollback identityKey activeSlot =
      { verification := { result := .errNotProvisioned, imageValid := false }, rollbackCalls := [] } := by
    rw [verifiedBootFullCheck, unread]
  rw [BootFailsClosed, called]
  cases rollback with
  | none => simp
  | some rollback => simp [nothing]

theorem bootFailsClosed_of_read {desc : FlashImageDescriptor} (read : readImage activeSlot = some desc) :
    BootFailsClosed hmac readImage rollback identityKey activeSlot ↔
      (desc.Authentic hmac identityKey → desc.slot = activeSlot) := by
  have active : ActiveImageAuthentic hmac readImage identityKey activeSlot ↔
      desc.Authentic hmac identityKey ∧ desc.slot = activeSlot := by
    simp [ActiveImageAuthentic, read]
  have valid := verifiedBootCheck_imageValid hmac desc identityKey
  have called : verifiedBootFullCheck hmac readImage rollback identityKey activeSlot =
      match (verifiedBootCheck hmac desc identityKey).imageValid, rollback with
      | false, some rollback =>
        { verification := { verifiedBootCheck hmac desc identityKey with
            rollbackTriggered := rollback (if activeSlot = 0 then 1 else 0) }
          rollbackCalls := [if activeSlot = 0 then 1 else 0] }
      | _, _ => { verification := verifiedBootCheck hmac desc identityKey, rollbackCalls := [] } := by
    rw [verifiedBootFullCheck, read]
  rw [BootFailsClosed, called, active]
  cases passed : (verifiedBootCheck hmac desc identityKey).imageValid with
  | false =>
    have forged : ¬desc.Authentic hmac identityKey := by
      rw [← valid, passed]
      exact Bool.false_ne_true
    cases rollback <;> simp [passed, forged]
  | true =>
    have authentic := valid.mp passed
    by_cases own : desc.slot = activeSlot
    · simp [authentic, own]
    · simp [passed, authentic, own]

/-- The boot check fails closed exactly when the active image is read, or there is no callback to roll back with, and a
descriptor that is authentic is one of the active slot. -/
theorem verified_boot_exact (hmac : Hmac) (readImage : UInt32 → Option FlashImageDescriptor)
    (rollback : Option (UInt32 → Bool)) (identityKey : List UInt8) (activeSlot : UInt32) :
    BootFailsClosed hmac readImage rollback identityKey activeSlot ↔
      (readImage activeSlot = none → rollback = none) ∧
        ∀ desc, readImage activeSlot = some desc → desc.Authentic hmac identityKey → desc.slot = activeSlot := by
  cases read : readImage activeSlot with
  | none => simp [bootFailsClosed_of_unread hmac rollback identityKey read]
  | some desc => simp [bootFailsClosed_of_read hmac rollback identityKey read]

end Exact

/-- A digest that repeats the last byte. -/
def lastByteHmac : Hmac := fun _ data => Vector.replicate 32 (data.getLastD 0)

/-- The image of slot 0. -/
def slotZeroImage : FlashImageDescriptor :=
  { slot := 0, size := 4096, version := 7, hash := Vector.replicate 32 0, present := true }

/-- Slot 1 holds a copy of slot 0's descriptor and boots; a slot that cannot be read is not rolled back from. -/
theorem boots_copy_and_keeps_unread_slot :
    ¬BootFailsClosed lastByteHmac (fun _ => some slotZeroImage) (some fun _ => true) (List.replicate 32 1) 1 ∧
      ¬BootFailsClosed lastByteHmac (fun _ => none) (some fun _ => true) (List.replicate 32 1) 1 := by
  constructor
  · rintro ⟨valid, -⟩
    obtain ⟨desc, read, -, own⟩ := valid (by decide)
    cases read
    exact absurd own (by decide)
  · rintro ⟨-, rolls_back⟩
    have calls := rolls_back (by rintro ⟨desc, read, -⟩; cases read) rfl
    cases calls

end IotPlatform
