import IotPlatform.Shared.DeviceIdentity
import IotPlatform.Shared.FlashPartition

/-!
# OTA sessions

`ota_manifest.c` and `ota_session.c`: the compatibility check, the chunk state machine of one session and the
self-check that confirms or rolls back an update. The module reads and writes the device identity and the flash
partitions, so a session runs against an `OtaDevice` that holds both.
-/

namespace IotPlatform

structure FirmwareManifest where
  targetDomainProfileId : DomainProfileId
  targetHwVariantId : UInt8
  fwVersion : UInt32
  imageSize : UInt32
  imageHmac : Vector UInt8 32
  deriving DecidableEq, Repr

inductive OtaCompatResult where
  | ok | errDomainMismatch | errVariantMismatch | errVersionDowngrade | errParamNull
  deriving DecidableEq, Repr

def otaCompatibilityCheck (device : DeviceIdentity) (manifest : FirmwareManifest) : OtaCompatResult :=
  if device.domainProfileId ≠ manifest.targetDomainProfileId then .errDomainMismatch
  else if device.hwVariantId ≠ manifest.targetHwVariantId then .errVariantMismatch
  else if manifest.fwVersion ≤ device.fwVersion then .errVersionDowngrade
  else .ok

def otaSessionMaxChunkSize : UInt16 := 256

def otaSessionMaxImageSize : UInt32 := 128 * 1024

inductive OtaSessionState where
  | idle | manifest | transfer | verify | complete | error
  deriving DecidableEq, Repr

inductive OtaSessionResult where
  | ok | errCompat | errSequence | errSize | errIntegrity | errFlash | errState | errParamNull
  deriving DecidableEq, Repr

structure OtaChunk where
  sequence : UInt32
  offset : UInt32
  dataLen : UInt16
  data : Vector UInt8 256
  deriving DecidableEq, Repr

def OtaChunk.payload (chunk : OtaChunk) : List UInt8 := chunk.data.toList.take chunk.dataLen.toNat

structure OtaSessionStats where
  chunksReceived : UInt32 := 0
  chunksAccepted : UInt32 := 0
  chunksRejected : UInt32 := 0
  bytesWritten : UInt32 := 0
  retriesRequested : UInt32 := 0
  deriving DecidableEq, Repr

structure OtaSessionContext where
  state : OtaSessionState
  manifest : FirmwareManifest
  imageSize : UInt32
  chunksExpected : UInt32
  nextSequence : UInt32
  bytesReceived : UInt32
  stats : OtaSessionStats
  deriving DecidableEq, Repr

def zeroManifest : FirmwareManifest :=
  { targetDomainProfileId := .none, targetHwVariantId := 0, fwVersion := 0, imageSize := 0
    imageHmac := Vector.replicate 32 0 }

def zeroContext : OtaSessionContext :=
  { state := .idle, manifest := zeroManifest, imageSize := 0, chunksExpected := 0, nextSequence := 0, bytesReceived := 0
    stats := {} }

/-- What the sessions of one device share: the flag of the module and the two modules it drives. -/
structure OtaDevice (σ β : Type) where
  sessionInitialised : Bool
  identity : DeviceIdentityModule σ
  partitions : FlashPartition β

section Sessions

variable {σ β : Type} (storage : Option (DeviceIdentityStorage σ)) (backend : FlashPartitionBackend β)
  (d : OtaDevice σ β) (ctx : OtaSessionContext)

def otaSessionInit : OtaDevice σ β := { d with sessionInitialised := true }

def otaSessionBegin (manifest : FirmwareManifest) : OtaDevice σ β × OtaSessionContext × OtaSessionResult :=
  if !d.sessionInitialised then (d, ctx, .errState)
  else
    let cleared : OtaSessionContext := { zeroContext with state := .manifest }
    match deviceIdentityGet d.identity with
    | .error _ => (d, { cleared with state := .error }, .errCompat)
    | .ok device =>
      if otaCompatibilityCheck device manifest ≠ .ok then (d, { cleared with state := .error }, .errCompat)
      else
        let named : OtaSessionContext := { cleared with manifest := manifest, imageSize := manifest.imageSize }
        if named.imageSize = 0 ∨ named.imageSize > otaSessionMaxImageSize then
          (d, { named with state := .error }, .errSize)
        else
          let (partitions, begun) := flashPartitionOtaBegin backend d.partitions named.imageSize
          if !begun then ({ d with partitions := partitions }, { named with state := .error }, .errFlash)
          else ({ d with partitions := partitions }, { named with state := .transfer }, .ok)

def OtaSessionStats.received (stats : OtaSessionStats) : OtaSessionStats :=
  { stats with chunksReceived := stats.chunksReceived + 1 }

def OtaSessionStats.rejected (stats : OtaSessionStats) : OtaSessionStats :=
  { stats with chunksRejected := stats.chunksRejected + 1 }

/-- The tests a chunk passes before it is written; `none` lets it through. -/
def chunkFault (chunk : OtaChunk) : Option (OtaSessionStats × OtaSessionResult) :=
  let stats := ctx.stats.received
  if chunk.sequence ≠ ctx.nextSequence then
    some ({ stats.rejected with retriesRequested := stats.retriesRequested + 1 }, .errSequence)
  else if chunk.dataLen = 0 ∨ chunk.dataLen > otaSessionMaxChunkSize then some (stats.rejected, .errSize)
  else if chunk.offset ≠ ctx.bytesReceived then some (stats.rejected, .errSize)
  else if chunk.offset + chunk.dataLen.toUInt32 > otaSessionMaxImageSize then some (stats.rejected, .errSize)
  else none

/-- The counters after a chunk has been written. -/
def OtaSessionContext.accepted (chunk : OtaChunk) : OtaSessionContext :=
  { ctx with
    nextSequence := ctx.nextSequence + 1
    bytesReceived := ctx.bytesReceived + chunk.dataLen.toUInt32
    stats :=
      { ctx.stats.received with
        chunksAccepted := ctx.stats.chunksAccepted + 1
        bytesWritten := ctx.stats.bytesWritten + chunk.dataLen.toUInt32 } }

/-- What follows the write of the last chunk. The image HMAC of the manifest is read by nothing in it. -/
def finishImage : OtaDevice σ β × OtaSessionContext × OtaSessionResult :=
  let (partitions, ended) := flashPartitionOtaEnd backend d.partitions
  if !ended then ({ d with partitions := partitions }, { ctx with state := .error }, .errFlash)
  else
    let identity := (deviceIdentitySetPendingVersion storage d.identity ctx.manifest.fwVersion).1
    let partitions := (flashPartitionSetBoot backend partitions).1
    ({ d with identity := identity, partitions := partitions }, { ctx with state := .complete }, .ok)

def otaSessionProcessChunk (chunk : OtaChunk) : OtaDevice σ β × OtaSessionContext × OtaSessionResult :=
  if ctx.state ≠ .transfer then (d, ctx, .errState)
  else
    match chunkFault ctx chunk with
    | some (stats, result) => (d, { ctx with stats := stats }, result)
    | none =>
      let (partitions, written) := flashPartitionOtaWrite backend d.partitions chunk.offset chunk.payload
      let stored : OtaDevice σ β := { d with partitions := partitions }
      if !written then (stored, { ctx with state := .error, stats := ctx.stats.received }, .errFlash)
      else
        let taken := ctx.accepted chunk
        if taken.bytesReceived ≥ taken.imageSize then finishImage storage backend stored { taken with state := .verify }
        else (stored, taken, .ok)

def otaSessionAbort : OtaSessionContext := { ctx with state := .error }

/-- What the four module initialisations of the self-check return. -/
structure BootChecks where
  attestationInit : Bool := true
  ruleEngineInit : Bool := true
  sensorValidationInit : Bool := true
  actuatorFailsafeInit : Bool := true
  deriving DecidableEq, Repr

def BootChecks.passed (checks : BootChecks) : Bool :=
  checks.attestationInit && checks.ruleEngineInit && checks.sensorValidationInit && checks.actuatorFailsafeInit

def otaSessionBootSelfCheck (checks : BootChecks) : OtaDevice σ β × Bool :=
  if !deviceIdentityHasPendingVersion d.identity then (d, true)
  else if checks.passed then ({ d with identity := (deviceIdentityConfirmBoot storage d.identity).1 }, true)
  else ({ d with partitions := (flashPartitionRollback backend d.partitions).1 }, false)

end Sessions

/-! ### What a call can do -/

/-- A manifest that `ota_session_begin` passes on to the flash layer. -/
def Admissible (identity : DeviceIdentity) (manifest : FirmwareManifest) : Prop :=
  otaCompatibilityCheck identity manifest = .ok ∧ manifest.imageSize ≠ 0 ∧ manifest.imageSize ≤ otaSessionMaxImageSize

theorem Admissible.fwVersion_lt {identity : DeviceIdentity} {manifest : FirmwareManifest}
    (admissible : Admissible identity manifest) : identity.fwVersion < manifest.fwVersion := by
  have compatible := admissible.1
  unfold otaCompatibilityCheck at compatible
  split at compatible
  · cases compatible
  · split at compatible
    · cases compatible
    · split at compatible
      · cases compatible
      · exact UInt32.not_le.mp ‹_›

theorem Admissible.fwVersion_ne {identity : DeviceIdentity} {manifest : FirmwareManifest}
    (admissible : Admissible identity manifest) : manifest.fwVersion ≠ deviceIdNoVersion := by
  intro zero
  have above := admissible.fwVersion_lt
  rw [zero] at above
  exact absurd above (UInt32.not_lt.mpr UInt32.zero_le)

section Cases

variable {σ β : Type} {storage : Option (DeviceIdentityStorage σ)} {backend : FlashPartitionBackend β}
  {d : OtaDevice σ β} {ctx : OtaSessionContext}

def startedContext (manifest : FirmwareManifest) : OtaSessionContext :=
  { zeroContext with state := .transfer, manifest := manifest, imageSize := manifest.imageSize }

theorem otaSessionBegin_of_admissible (initialised : d.sessionInitialised = true) {identity : DeviceIdentity}
    (known : deviceIdentityGet d.identity = .ok identity) {manifest : FirmwareManifest}
    (admissible : Admissible identity manifest) :
    otaSessionBegin backend d ctx manifest =
      ({ d with partitions := (flashPartitionOtaBegin backend d.partitions manifest.imageSize).1 },
        if (flashPartitionOtaBegin backend d.partitions manifest.imageSize).2 then (startedContext manifest, .ok)
        else ({ startedContext manifest with state := .error }, .errFlash)) := by
  obtain ⟨compatible, nonzero, small⟩ := admissible
  unfold otaSessionBegin
  have fits : ¬(manifest.imageSize = 0 ∨ manifest.imageSize > otaSessionMaxImageSize) :=
    fun outside => outside.elim nonzero (UInt32.not_lt.mpr small)
  simp only [initialised, known, compatible, fits, Bool.not_true, Bool.false_eq_true, if_false, ne_eq, not_true_eq_false]
  cases begun : (flashPartitionOtaBegin backend d.partitions manifest.imageSize).2 <;> simp [startedContext, zeroContext]

/-- A begin that does not reach the flash layer leaves the device alone and no session in TRANSFER behind it. -/
theorem otaSessionBegin_of_refused {manifest : FirmwareManifest}
    (refused : ∀ identity, deviceIdentityGet d.identity = .ok identity → ¬Admissible identity manifest)
    (initialised : d.sessionInitialised = true) :
    (otaSessionBegin backend d ctx manifest).1 = d ∧ (otaSessionBegin backend d ctx manifest).2.1.state = .error ∧
      (otaSessionBegin backend d ctx manifest).2.2 ≠ .ok := by
  unfold otaSessionBegin
  simp only [initialised, Bool.not_true, Bool.false_eq_true, if_false]
  cases known : deviceIdentityGet d.identity with
  | error _ => simp
  | ok identity =>
    by_cases compatible : otaCompatibilityCheck identity manifest = .ok
    · by_cases fits : manifest.imageSize = 0 ∨ manifest.imageSize > otaSessionMaxImageSize
      · simp [compatible, fits]
      · rw [not_or] at fits
        exact absurd ⟨compatible, fits.1, UInt32.not_lt.mp fits.2⟩ (refused identity known)
    · simp [compatible]

def begunPartitions (backend : FlashPartitionBackend β) (p : FlashPartition β) (imageSize : UInt32) : FlashPartition β :=
  { p with
    originalBootPartition := p.bootPartition, otaTarget := p.bootPartition.other
    flash := (backend.begin p.flash p.bootPartition.other imageSize).1
    otaInProgress := (backend.begin p.flash p.bootPartition.other imageSize).2 }

/-- A begin with this manifest calls the backend's begin. -/
structure BeginReaches (d : OtaDevice σ β) (manifest : FirmwareManifest) : Prop where
  initialised : d.sessionInitialised = true
  admissible : ∃ identity, deviceIdentityGet d.identity = .ok identity ∧ Admissible identity manifest
  ready : d.partitions.Ready
  free : d.partitions.otaInProgress = false

inductive BeginOutcome (backend : FlashPartitionBackend β) (d : OtaDevice σ β) (ctx : OtaSessionContext)
    (manifest : FirmwareManifest) : OtaDevice σ β × OtaSessionContext × OtaSessionResult → Prop
  | uninitialised (uninitialised : d.sessionInitialised = false) : BeginOutcome backend d ctx manifest (d, ctx, .errState)
  | refused {after : OtaSessionContext} {result : OtaSessionResult} (refused : ¬BeginReaches d manifest)
      (error : after.state = .error) (bad : result ≠ .ok) : BeginOutcome backend d ctx manifest (d, after, result)
  | failed (reaches : BeginReaches d manifest)
      (failed : (backend.begin d.partitions.flash d.partitions.bootPartition.other manifest.imageSize).2 = false) :
      BeginOutcome backend d ctx manifest
        ({ d with partitions := begunPartitions backend d.partitions manifest.imageSize },
          { startedContext manifest with state := .error }, .errFlash)
  | accepted (reaches : BeginReaches d manifest)
      (begun : (backend.begin d.partitions.flash d.partitions.bootPartition.other manifest.imageSize).2 = true) :
      BeginOutcome backend d ctx manifest
        ({ d with partitions := begunPartitions backend d.partitions manifest.imageSize }, startedContext manifest, .ok)

theorem otaBegin_of_shut {p : FlashPartition β} (shut : ¬(p.Ready ∧ p.otaInProgress = false)) (imageSize : UInt32) :
    flashPartitionOtaBegin backend p imageSize = (p, false) := by
  by_cases ready : p.Ready
  · exact otaBegin_of_busy (by simpa [ready] using shut) imageSize
  · exact otaBegin_of_not_ready ready imageSize

theorem otaSessionBegin_outcome (manifest : FirmwareManifest) :
    BeginOutcome backend d ctx manifest (otaSessionBegin backend d ctx manifest) := by
  cases initialised : d.sessionInitialised with
  | false =>
    have unchanged : otaSessionBegin backend d ctx manifest = (d, ctx, .errState) := by simp [otaSessionBegin, initialised]
    rw [unchanged]
    exact .uninitialised initialised
  | true =>
    by_cases admissible : ∃ identity, deviceIdentityGet d.identity = .ok identity ∧ Admissible identity manifest
    · obtain ⟨identity, known, admissible⟩ := admissible
      rw [otaSessionBegin_of_admissible initialised known admissible]
      by_cases shut : d.partitions.Ready ∧ d.partitions.otaInProgress = false
      · obtain ⟨ready, free⟩ := shut
        have reaches : BeginReaches d manifest := ⟨initialised, ⟨identity, known, admissible⟩, ready, free⟩
        rw [otaBegin_of_free ready free]
        cases begun : (backend.begin d.partitions.flash d.partitions.bootPartition.other manifest.imageSize).2 with
        | false =>
          have outcome : BeginOutcome backend d ctx manifest _ := .failed reaches begun
          simpa [begunPartitions, begun] using outcome
        | true =>
          have outcome : BeginOutcome backend d ctx manifest _ := .accepted reaches begun
          simpa [begunPartitions, begun] using outcome
      · rw [otaBegin_of_shut shut]
        exact .refused (fun reaches => shut ⟨reaches.ready, reaches.free⟩) rfl (by simp)
    · have refused : ∀ identity, deviceIdentityGet d.identity = .ok identity → ¬Admissible identity manifest :=
        fun identity known holds => admissible ⟨identity, known, holds⟩
      obtain ⟨same, error, bad⟩ : (otaSessionBegin backend d ctx manifest).1 = d ∧ _ ∧ _ :=
        otaSessionBegin_of_refused refused initialised
      have unchanged : otaSessionBegin backend d ctx manifest =
          (d, (otaSessionBegin backend d ctx manifest).2.1, (otaSessionBegin backend d ctx manifest).2.2) :=
        Prod.ext same rfl
      rw [unchanged]
      exact .refused (fun reaches => admissible reaches.admissible) error bad

theorem chunkFault_result {chunk : OtaChunk} {stats : OtaSessionStats} {result : OtaSessionResult}
    (fault : chunkFault ctx chunk = some (stats, result)) :
    (result = .errSequence ∨ result = .errSize) ∧ stats.chunksReceived = ctx.stats.chunksReceived + 1 ∧
      stats.chunksRejected = ctx.stats.chunksRejected + 1 ∧ stats.chunksAccepted = ctx.stats.chunksAccepted := by
  unfold chunkFault at fault
  simp only [OtaSessionStats.received, OtaSessionStats.rejected] at fault
  repeat' split at fault
  all_goals simp only [Option.some.injEq, Prod.mk.injEq, reduceCtorEq] at fault
  all_goals
    obtain ⟨rfl, rfl⟩ := fault
    simp

theorem chunkFault_none {chunk : OtaChunk} :
    chunkFault ctx chunk = none ↔
      chunk.sequence = ctx.nextSequence ∧ chunk.dataLen ≠ 0 ∧ chunk.dataLen ≤ otaSessionMaxChunkSize ∧
        chunk.offset = ctx.bytesReceived ∧ chunk.offset + chunk.dataLen.toUInt32 ≤ otaSessionMaxImageSize := by
  unfold chunkFault
  constructor
  · intro passed
    repeat' split at passed
    all_goals simp_all
  · rintro ⟨sequence, nonzero, small, offset, inside⟩
    simp [sequence, nonzero, ← offset, UInt16.not_lt.mpr small, UInt32.not_lt.mpr inside]

/-- The backend state after the write of a chunk, after the end that follows the last one, and after the switch of the
boot slot that follows the end. -/
def afterWrite (backend : FlashPartitionBackend β) (p : FlashPartition β) (chunk : OtaChunk) : β × Bool :=
  backend.write p.flash p.otaTarget chunk.offset chunk.payload

def afterEnd (backend : FlashPartitionBackend β) (p : FlashPartition β) (chunk : OtaChunk) : β × Bool :=
  backend.finish (afterWrite backend p chunk).1 p.otaTarget

def afterSwitch (backend : FlashPartitionBackend β) (p : FlashPartition β) (chunk : OtaChunk) : β × Bool :=
  backend.setBootPartition (afterEnd backend p chunk).1 p.otaTarget

def committedPartitions (backend : FlashPartitionBackend β) (p : FlashPartition β) (chunk : OtaChunk) : FlashPartition β :=
  { p with
    flash := (afterSwitch backend p chunk).1, otaInProgress := false
    bootPartition := if (afterSwitch backend p chunk).2 then p.otaTarget else p.bootPartition }

inductive ChunkOutcome (storage : Option (DeviceIdentityStorage σ)) (backend : FlashPartitionBackend β) (d : OtaDevice σ β)
    (ctx : OtaSessionContext) (chunk : OtaChunk) : OtaDevice σ β × OtaSessionContext × OtaSessionResult → Prop
  | closed (closed : ctx.state ≠ .transfer) : ChunkOutcome storage backend d ctx chunk (d, ctx, .errState)
  | rejected {stats : OtaSessionStats} {result : OtaSessionResult} (transfer : ctx.state = .transfer)
      (fault : chunkFault ctx chunk = some (stats, result)) :
      ChunkOutcome storage backend d ctx chunk (d, { ctx with stats := stats }, result)
  | unwritten (transfer : ctx.state = .transfer) (passed : chunkFault ctx chunk = none)
      (shut : ¬(d.partitions.Ready ∧ d.partitions.otaInProgress = true)) :
      ChunkOutcome storage backend d ctx chunk
        (d, { ctx with state := .error, stats := ctx.stats.received }, .errFlash)
  | writeFailed (transfer : ctx.state = .transfer) (passed : chunkFault ctx chunk = none) (ready : d.partitions.Ready)
      (busy : d.partitions.otaInProgress = true) (failed : (afterWrite backend d.partitions chunk).2 = false) :
      ChunkOutcome storage backend d ctx chunk
        ({ d with partitions := { d.partitions with flash := (afterWrite backend d.partitions chunk).1 } },
          { ctx with state := .error, stats := ctx.stats.received }, .errFlash)
  | stored (transfer : ctx.state = .transfer) (passed : chunkFault ctx chunk = none) (ready : d.partitions.Ready)
      (busy : d.partitions.otaInProgress = true) (written : (afterWrite backend d.partitions chunk).2 = true)
      (more : (ctx.accepted chunk).bytesReceived < ctx.imageSize) :
      ChunkOutcome storage backend d ctx chunk
        ({ d with partitions := { d.partitions with flash := (afterWrite backend d.partitions chunk).1 } },
          ctx.accepted chunk, .ok)
  | endFailed (transfer : ctx.state = .transfer) (passed : chunkFault ctx chunk = none) (ready : d.partitions.Ready)
      (busy : d.partitions.otaInProgress = true) (written : (afterWrite backend d.partitions chunk).2 = true)
      (last : ctx.imageSize ≤ (ctx.accepted chunk).bytesReceived)
      (failed : (afterEnd backend d.partitions chunk).2 = false) :
      ChunkOutcome storage backend d ctx chunk
        ({ d with partitions :=
            { d.partitions with flash := (afterEnd backend d.partitions chunk).1, otaInProgress := false } },
          { ctx.accepted chunk with state := .error }, .errFlash)
  | committed (transfer : ctx.state = .transfer) (passed : chunkFault ctx chunk = none) (ready : d.partitions.Ready)
      (busy : d.partitions.otaInProgress = true) (written : (afterWrite backend d.partitions chunk).2 = true)
      (last : ctx.imageSize ≤ (ctx.accepted chunk).bytesReceived)
      (ended : (afterEnd backend d.partitions chunk).2 = true) :
      ChunkOutcome storage backend d ctx chunk
        ({ d with
            identity := (deviceIdentitySetPendingVersion storage d.identity ctx.manifest.fwVersion).1
            partitions := committedPartitions backend d.partitions chunk },
          { ctx.accepted chunk with state := .complete }, .ok)

/-- The chunk completes the image of the session and the backend ends its update. -/
structure Commits (backend : FlashPartitionBackend β) (d : OtaDevice σ β) (ctx : OtaSessionContext) (chunk : OtaChunk) :
    Prop where
  transfer : ctx.state = .transfer
  passed : chunkFault ctx chunk = none
  ready : d.partitions.Ready
  busy : d.partitions.otaInProgress = true
  written : (afterWrite backend d.partitions chunk).2 = true
  last : ctx.imageSize ≤ (ctx.accepted chunk).bytesReceived
  ended : (afterEnd backend d.partitions chunk).2 = true

theorem finishImage_of_ended {partitions : FlashPartition β} (d : OtaDevice σ β) (ctx : OtaSessionContext)
    (ended : flashPartitionOtaEnd backend d.partitions = (partitions, true)) :
    finishImage storage backend d ctx =
      ({ d with
          identity := (deviceIdentitySetPendingVersion storage d.identity ctx.manifest.fwVersion).1
          partitions := (flashPartitionSetBoot backend partitions).1 }, { ctx with state := .complete }, .ok) := by
  simp [finishImage, ended]

theorem finishImage_of_not_ended {partitions : FlashPartition β} (d : OtaDevice σ β) (ctx : OtaSessionContext)
    (failed : flashPartitionOtaEnd backend d.partitions = (partitions, false)) :
    finishImage storage backend d ctx = ({ d with partitions := partitions }, { ctx with state := .error }, .errFlash) := by
  simp [finishImage, failed]

theorem finishImage_outcome {chunk : OtaChunk} (transfer : ctx.state = .transfer) (passed : chunkFault ctx chunk = none)
    (ready : d.partitions.Ready) (busy : d.partitions.otaInProgress = true)
    (written : (afterWrite backend d.partitions chunk).2 = true)
    (last : ctx.imageSize ≤ (ctx.accepted chunk).bytesReceived) :
    ChunkOutcome storage backend d ctx chunk
      (finishImage storage backend
        { d with partitions := { d.partitions with flash := (afterWrite backend d.partitions chunk).1 } }
        { ctx.accepted chunk with state := .verify }) := by
  have finished : flashPartitionOtaEnd backend
      { d.partitions with flash := (afterWrite backend d.partitions chunk).1 } =
        ({ d.partitions with flash := (afterEnd backend d.partitions chunk).1, otaInProgress := false },
          (afterEnd backend d.partitions chunk).2) :=
    otaEnd_of_busy (s := { d.partitions with flash := (afterWrite backend d.partitions chunk).1 }) ready busy
  cases ended : (afterEnd backend d.partitions chunk).2 with
  | false =>
    rw [ended] at finished
    rw [finishImage_of_not_ended _ _ finished]
    exact .endFailed transfer passed ready busy written last ended
  | true =>
    have switched : (flashPartitionSetBoot backend
        { d.partitions with flash := (afterEnd backend d.partitions chunk).1, otaInProgress := false }).1 =
          committedPartitions backend d.partitions chunk := by
      rw [flashPartitionSetBoot, switchBoot_of_ready]
      · rfl
      · exact ready
    rw [ended] at finished
    rw [finishImage_of_ended _ _ finished, switched]
    exact .committed transfer passed ready busy written last ended

theorem otaWrite_of_shut {p : FlashPartition β} (shut : ¬(p.Ready ∧ p.otaInProgress = true)) (offset : UInt32)
    (data : List UInt8) : flashPartitionOtaWrite backend p offset data = (p, false) := by
  by_cases ready : p.Ready
  · exact otaWrite_of_free (by simpa [ready] using shut) offset data
  · exact otaWrite_of_not_ready ready offset data

theorem otaSessionProcessChunk_outcome (chunk : OtaChunk) :
    ChunkOutcome storage backend d ctx chunk (otaSessionProcessChunk storage backend d ctx chunk) := by
  unfold otaSessionProcessChunk
  split
  · exact .closed ‹_›
  · rename_i transfer
    rw [ne_eq, not_not] at transfer
    cases fault : chunkFault ctx chunk with
    | some fault => exact .rejected transfer ‹_›
    | none =>
      by_cases shut : d.partitions.Ready ∧ d.partitions.otaInProgress = true
      · obtain ⟨ready, busy⟩ := shut
        have write : flashPartitionOtaWrite backend d.partitions chunk.offset chunk.payload =
            ({ d.partitions with flash := (afterWrite backend d.partitions chunk).1 },
              (afterWrite backend d.partitions chunk).2) := otaWrite_of_busy ready busy _ _
        cases written : (afterWrite backend d.partitions chunk).2 with
        | false =>
          simp only [write, written, Bool.not_false, if_true]
          exact .writeFailed transfer fault ready busy written
        | true =>
          simp only [write, written, Bool.not_true, Bool.false_eq_true, if_false]
          split
          · exact finishImage_outcome transfer fault ready busy written ‹_›
          · rename_i more
            exact .stored transfer fault ready busy written (UInt32.not_le.mp more)
      · simp only [otaWrite_of_shut shut]
        exact .unwritten transfer fault shut

/-- A call keeps the identity and the boot slot and completes no session. -/
def KeepsVersions (d : OtaDevice σ β) (ctx : OtaSessionContext)
    (after : OtaDevice σ β × OtaSessionContext × OtaSessionResult) : Prop :=
  after.1.identity = d.identity ∧ after.1.partitions.bootPartition = d.partitions.bootPartition ∧
    (ctx.state = .transfer → after.2.1.state ≠ .complete)

theorem otaSessionBegin_keepsVersions (manifest : FirmwareManifest) :
    KeepsVersions d ctx (otaSessionBegin backend d ctx manifest) := by
  have outcome : BeginOutcome backend d ctx manifest _ := otaSessionBegin_outcome manifest
  generalize otaSessionBegin backend d ctx manifest = after at outcome
  cases outcome with
  | uninitialised _ => exact ⟨rfl, rfl, fun transfer => by simp [transfer]⟩
  | refused _ error _ => exact ⟨rfl, rfl, fun _ => by simp [error]⟩
  | failed _ _ => exact ⟨rfl, rfl, fun _ => by simp⟩
  | accepted _ _ => exact ⟨rfl, rfl, fun _ => by simp [startedContext]⟩

theorem otaSessionProcessChunk_commit_cases (chunk : OtaChunk) :
    KeepsVersions d ctx (otaSessionProcessChunk storage backend d ctx chunk) ∨
      Commits backend d ctx chunk ∧
        (otaSessionProcessChunk storage backend d ctx chunk).1.identity =
          (deviceIdentitySetPendingVersion storage d.identity ctx.manifest.fwVersion).1 := by
  have outcome : ChunkOutcome storage backend d ctx chunk _ := otaSessionProcessChunk_outcome chunk
  generalize otaSessionProcessChunk storage backend d ctx chunk = after at outcome
  cases outcome with
  | closed closed => exact Or.inl ⟨rfl, rfl, fun transfer => absurd transfer closed⟩
  | rejected transfer _ => exact Or.inl ⟨rfl, rfl, fun _ => by simp [transfer]⟩
  | unwritten _ _ _ => exact Or.inl ⟨rfl, rfl, fun _ => by simp⟩
  | writeFailed _ _ _ _ _ => exact Or.inl ⟨rfl, rfl, fun _ => by simp⟩
  | stored transfer _ _ _ _ _ =>
    exact Or.inl ⟨rfl, rfl, fun _ => by simp [OtaSessionContext.accepted, transfer]⟩
  | endFailed _ _ _ _ _ _ _ => exact Or.inl ⟨rfl, rfl, fun _ => by simp⟩
  | committed transfer passed ready busy written last ended =>
    exact Or.inr ⟨⟨transfer, passed, ready, busy, written, last, ended⟩, rfl⟩

theorem otaSessionProcessChunk_of_commits {chunk : OtaChunk} (commits : Commits backend d ctx chunk) :
    (otaSessionProcessChunk storage backend d ctx chunk).1.identity =
      (deviceIdentitySetPendingVersion storage d.identity ctx.manifest.fwVersion).1 := by
  have outcome : ChunkOutcome storage backend d ctx chunk _ := otaSessionProcessChunk_outcome chunk
  generalize otaSessionProcessChunk storage backend d ctx chunk = after at outcome
  obtain ⟨transfer, passed, ready, busy, written, last, ended⟩ := commits
  cases outcome with
  | closed closed => exact absurd transfer closed
  | rejected _ fault => simp [passed] at fault
  | unwritten _ _ shut => exact absurd ⟨ready, busy⟩ shut
  | writeFailed _ _ _ _ failed => simp [written] at failed
  | stored _ _ _ _ _ more => exact absurd more (UInt32.not_lt.mpr last)
  | endFailed _ _ _ _ _ _ failed => simp [ended] at failed
  | committed _ _ _ _ _ _ _ => rfl

/-- Only an accepted begin takes a context into TRANSFER; a chunk that leaves it there leaves its manifest. -/
theorem otaSessionBegin_transfer {manifest : FirmwareManifest}
    (transfer : (otaSessionBegin backend d ctx manifest).2.1.state = .transfer) :
    (otaSessionBegin backend d ctx manifest).2.1 = ctx ∨
      (otaSessionBegin backend d ctx manifest).2.1.manifest = manifest ∧ BeginReaches d manifest := by
  have outcome : BeginOutcome backend d ctx manifest _ := otaSessionBegin_outcome manifest
  generalize otaSessionBegin backend d ctx manifest = after at outcome transfer
  cases outcome with
  | uninitialised _ => exact Or.inl rfl
  | refused _ error _ =>
    rw [error] at transfer
    cases transfer
  | failed _ _ => cases transfer
  | accepted reaches _ => exact Or.inr ⟨rfl, reaches⟩

theorem otaSessionProcessChunk_transfer {chunk : OtaChunk}
    (transfer : (otaSessionProcessChunk storage backend d ctx chunk).2.1.state = .transfer) :
    ctx.state = .transfer ∧ (otaSessionProcessChunk storage backend d ctx chunk).2.1.manifest = ctx.manifest := by
  have outcome : ChunkOutcome storage backend d ctx chunk _ := otaSessionProcessChunk_outcome chunk
  generalize otaSessionProcessChunk storage backend d ctx chunk = after at outcome transfer
  cases outcome with
  | closed _ => exact ⟨transfer, rfl⟩
  | rejected before _ => exact ⟨before, rfl⟩
  | unwritten _ _ _ => cases transfer
  | writeFailed _ _ _ _ _ => cases transfer
  | stored before _ _ _ _ _ => exact ⟨before, rfl⟩
  | endFailed _ _ _ _ _ _ _ => cases transfer
  | committed _ _ _ _ _ _ _ => cases transfer

inductive SelfCheckOutcome (storage : Option (DeviceIdentityStorage σ)) (backend : FlashPartitionBackend β)
    (d : OtaDevice σ β) (checks : BootChecks) : OtaDevice σ β × Bool → Prop
  | nothing (nothing : deviceIdentityHasPendingVersion d.identity = false) :
      SelfCheckOutcome storage backend d checks (d, true)
  | confirmed (pending : deviceIdentityHasPendingVersion d.identity = true) (passed : checks.passed = true) :
      SelfCheckOutcome storage backend d checks
        ({ d with identity := (deviceIdentityConfirmBoot storage d.identity).1 }, true)
  | rolledBack (pending : deviceIdentityHasPendingVersion d.identity = true) (failed : checks.passed = false) :
      SelfCheckOutcome storage backend d checks
        ({ d with partitions := (flashPartitionRollback backend d.partitions).1 }, false)

theorem otaSessionBootSelfCheck_outcome (checks : BootChecks) :
    SelfCheckOutcome storage backend d checks (otaSessionBootSelfCheck storage backend d checks) := by
  unfold otaSessionBootSelfCheck
  cases pending : deviceIdentityHasPendingVersion d.identity with
  | false => exact .nothing pending
  | true =>
    cases passed : checks.passed with
    | true => exact .confirmed pending passed
    | false => exact .rolledBack pending passed

end Cases

/-! ### A provisioned device -/

def sampleIdentity : DeviceIdentity :=
  { deviceUuid := Vector.replicate 16 0xA5, domainProfileId := .home, hwVariantId := 1, fwVersion := 100 }

/-- Firmware version 100 confirmed in slot A, over the in-memory backends. -/
def sampleDevice : OtaDevice (Option PersistedIdentity) (FlashSlot → MockSlot) :=
  { sessionInitialised := true
    identity :=
      { identity := sampleIdentity, provisioned := true, initialised := true, fwVersionPending := deviceIdNoVersion
        store := some { identity := sampleIdentity, provisioned := true, fwVersionPending := deviceIdNoVersion } }
    partitions := flashPartitionInit zeroPartition mockReset }

def sampleManifest (fwVersion : UInt32) : FirmwareManifest :=
  { targetDomainProfileId := .home, targetHwVariantId := 1, fwVersion := fwVersion, imageSize := 1
    imageHmac := Vector.replicate 32 0 }

def sampleChunk : OtaChunk := { sequence := 0, offset := 0, dataLen := 1, data := Vector.replicate 256 7 }

end IotPlatform
