import Mathlib.Logic.Function.Basic
import IotPlatform.Lib.CText
import IotPlatform.Shared.Attestation

/-!
# The audit log

`audit_log.c`: a ring of events, each with an HMAC of itself and of the HMAC before it. A modelled function that logs
returns the events of its calls in order, as `AuditEvent`.
-/

namespace IotPlatform
open Bytes

inductive AuditEventType where
  | authSuccess | authFailure | safetyLockedRejected | configWrite | sessionCreated | sessionExpired
  | tamperDetected | moduleAttestationFail
  deriving DecidableEq, Repr

structure AuditEvent where
  eventType : AuditEventType
  sessionId : UInt8
  ruleId : UInt16
  detail : String
  deriving DecidableEq, Repr

/-! ### Entries -/

def auditLogMaxEntries : Nat := 32

def auditDetailSize : Nat := 64

def AuditEventType.code : AuditEventType → UInt32
  | .authSuccess => 0
  | .authFailure => 1
  | .safetyLockedRejected => 2
  | .configWrite => 3
  | .sessionCreated => 4
  | .sessionExpired => 5
  | .tamperDetected => 6
  | .moduleAttestationFail => 7

/-- An entry as it lies in memory: `eventType` is whatever the four bytes of the enumeration hold, and `padding` the byte
that aligns `ruleId`. -/
structure AuditLogEntry where
  timestampMs : UInt64
  eventType : UInt32
  sessionId : UInt8
  padding : UInt8
  ruleId : UInt16
  detail : Vector UInt8 64
  chainHmac : Digest
  deriving DecidableEq

def zeroDigest : Digest := Vector.replicate 32 0

def zeroAuditEntry : AuditLogEntry :=
  { timestampMs := 0, eventType := 0, sessionId := 0, padding := 0, ruleId := 0, detail := Vector.replicate 64 0
    chainHmac := zeroDigest }

/-- The bytes in front of `chain_hmac`. -/
def AuditLogEntry.content (entry : AuditLogEntry) : List UInt8 :=
  leBytes 8 entry.timestampMs.toNat ++ leBytes 4 entry.eventType.toNat ++ [entry.sessionId, entry.padding] ++
    leBytes 2 entry.ruleId.toNat ++ entry.detail.toList

/-- The arguments of `audit_log_add`, and the time it reads. `detail` are the bytes of a C string, `none` is `NULL`. -/
structure AuditCall where
  eventType : AuditEventType
  sessionId : UInt8
  ruleId : UInt16
  detail : Option (List UInt8)
  nowMs : UInt64

/-- `strncpy` fills up with zeros; without a text the first byte alone is cleared. -/
def auditDetail (before : Vector UInt8 64) : Option (List UInt8) → Vector UInt8 64
  | some detail =>
    let text := (cString detail).take (auditDetailSize - 1)
    Vector.ofFn fun i => text.getD i 0
  | none => before.set 0 0

/-! ### State -/

/-- What a backend gives back at start. -/
structure AuditLogImage where
  entries : Nat → AuditLogEntry
  writeIndex : UInt8
  authFailureCount : UInt32

/-- The callbacks of a backend with state `σ`; `none` is a null function pointer. `load` fills the entries it finds. -/
structure AuditLogStorage (σ : Type) where
  save : Option ((store : σ) → (entries : Nat → AuditLogEntry) → (count writeIndex : UInt8) →
    (authFailureCount : UInt32) → σ × Bool)
  load : Option ((store : σ) → (entries : Nat → AuditLogEntry) → AuditLogImage)

/-- The statics of the module, and the state of the backend. -/
structure AuditLog (σ : Type) where
  entries : Nat → AuditLogEntry
  writeIndex : UInt8
  authFailureCount : UInt32
  chainKey : Option Digest
  initialised : Bool
  store : σ

section Operations

variable {σ : Type} (hmac : Hmac) (storage : Option (AuditLogStorage σ)) (s : AuditLog σ)

def auditEntriesInUse : UInt8 := if s.writeIndex < 32 then s.writeIndex else 32

def auditLogPersist : AuditLog σ :=
  match storage.bind AuditLogStorage.save with
  | none => s
  | some save => { s with store := (save s.store s.entries (auditEntriesInUse s) s.writeIndex s.authFailureCount).1 }

def auditLogInit : AuditLog σ :=
  let cleared : AuditLog σ := { s with writeIndex := 0, authFailureCount := 0, chainKey := none, initialised := true }
  match storage.bind AuditLogStorage.load with
  | some load =>
    let image := load s.store s.entries
    { cleared with
      entries := image.entries, writeIndex := image.writeIndex, authFailureCount := image.authFailureCount }
  | none => { cleared with entries := fun _ => zeroAuditEntry }

/-- Keys are cut off or filled up with zeros to 32 bytes. -/
def auditLogSetChainKey (key : List UInt8) : AuditLog σ :=
  if key.length = 0 then s else { s with chainKey := some (Vector.ofFn fun i => key.getD i 0) }

def auditLogComputeChainHmac (entry : AuditLogEntry) (prevHmac : Digest) : Digest :=
  match s.chainKey with
  | none => zeroDigest
  | some key => hmac key.toList (entry.content ++ prevHmac.toList)

def auditPrevHmac : Digest :=
  if s.writeIndex > 0 then (s.entries ((s.writeIndex.toNat - 1) % auditLogMaxEntries)).chainHmac else zeroDigest

def auditEntry (call : AuditCall) : AuditLogEntry :=
  let before := s.entries (s.writeIndex.toNat % auditLogMaxEntries)
  let entry :=
    { before with
      timestampMs := call.nowMs, eventType := call.eventType.code, sessionId := call.sessionId, ruleId := call.ruleId
      detail := auditDetail before.detail call.detail }
  { entry with chainHmac := auditLogComputeChainHmac hmac s entry (auditPrevHmac s) }

def auditLogAdd (call : AuditCall) : AuditLog σ :=
  if !s.initialised then s
  else
    auditLogPersist storage
      { s with
        entries := Function.update s.entries (s.writeIndex.toNat % auditLogMaxEntries) (auditEntry hmac s call)
        writeIndex := s.writeIndex + 1
        authFailureCount := if call.eventType = .authFailure then s.authFailureCount + 1 else s.authFailureCount }

def auditLogGetCount : UInt8 := if !s.initialised then 0 else auditEntriesInUse s

def auditStartIndex : UInt8 := if s.writeIndex ≥ 32 then s.writeIndex % 32 else 0

/-- The first `n` entries from the start index on. -/
def auditEntriesFrom (n : Nat) : List AuditLogEntry :=
  (List.range n).map fun i => s.entries (((auditStartIndex s).toNat + i) % auditLogMaxEntries)

def auditLogGetEntries (maxEntries : UInt8) : List AuditLogEntry :=
  if maxEntries = 0 then []
  else if !s.initialised then []
  else
    let count := auditEntriesInUse s
    auditEntriesFrom s (if count < maxEntries then count else maxEntries).toNat

def verifyAuditEntries (key : List UInt8) (prevHmac : Digest) : List AuditLogEntry → Bool
  | [] => true
  | entry :: rest =>
    let expected := hmac key (entry.content ++ prevHmac.toList)
    if differenceByte entry.chainHmac.toList expected.toList ≠ 0 then false
    else verifyAuditEntries key entry.chainHmac rest

def auditLogVerifyChain (key : List UInt8) : Bool :=
  if key.length = 0 then false
  else if !s.initialised then false
  else if auditLogGetCount s = 0 then true
  else verifyAuditEntries hmac key zeroDigest (auditEntriesFrom s (auditLogGetCount s).toNat)

end Operations

end IotPlatform
