import IotPlatform.Shared.OtaAssembly

/-!
# The size of an image

One session over any backend. `ota_session_begin` stores the image size of the manifest, `ota_session_process_chunk`
tests the end of a chunk against `OTA_SESSION_MAX_IMAGE_SIZE` and takes the image for complete once it has at least
`image_size` bytes, so the last chunk may end beyond the image.
-/

namespace IotPlatform

section ExactSize

variable {σ β : Type} (storage : Option (DeviceIdentityStorage σ)) (backend : FlashPartitionBackend β)

def receiveChunk (s : OtaDevice σ β × OtaSessionContext) (chunk : OtaChunk) :
    (OtaDevice σ β × OtaSessionContext) × OtaChunk × OtaSessionResult :=
  let (device, ctx, result) := otaSessionProcessChunk storage backend s.1 s.2 chunk
  ((device, ctx), chunk, result)

/-- The next chunk of a session in TRANSFER ends beyond the image but within `OTA_SESSION_MAX_IMAGE_SIZE`. -/
structure Overruns (imageSize : UInt32) (s : OtaDevice σ β × OtaSessionContext) (chunk : OtaChunk) : Prop where
  transfer : s.2.state = .transfer
  sequence : chunk.sequence = s.2.nextSequence
  nonempty : chunk.dataLen ≠ 0
  fits : chunk.dataLen ≤ otaSessionMaxChunkSize
  offset : chunk.offset = s.2.bytesReceived
  bounded : chunk.offset + chunk.dataLen.toUInt32 ≤ otaSessionMaxImageSize
  beyond : imageSize.toNat < chunk.offset.toNat + chunk.dataLen.toNat

/-- A chunk that ends beyond the image is refused and writes nothing; where the session has got as far as its size, with
ERR_SIZE. -/
def RefusesBeyond (imageSize : UInt32) (s : OtaDevice σ β × OtaSessionContext) (chunk : OtaChunk) : Prop :=
  imageSize.toNat < chunk.offset.toNat + chunk.dataLen.toNat →
    (receiveChunk storage backend s chunk).1.1 = s.1 ∧ (receiveChunk storage backend s chunk).2.2 ≠ .ok ∧
      (s.2.state = .transfer → chunk.sequence = s.2.nextSequence →
        (receiveChunk storage backend s chunk).2.2 = .errSize)

/-- A complete session has written the image and nothing more. -/
def CompletesExactly (imageSize : UInt32) (s : OtaDevice σ β × OtaSessionContext)
    (history : List (OtaChunk × OtaSessionResult)) : Prop :=
  s.2.state = .complete →
    s.2.bytesReceived = imageSize ∧ s.2.stats.bytesWritten = imageSize ∧
      (imageBytes (acceptedChunks history)).length = imageSize.toNat

variable {storage backend} {imageSize : UInt32} {s : OtaDevice σ β × OtaSessionContext} {taken : List OtaChunk}
  {chunk : OtaChunk}

theorem Overruns.passed (overruns : Overruns imageSize s chunk) : chunkFault s.2 chunk = none :=
  chunkFault_none.mpr ⟨overruns.sequence, overruns.nonempty, overruns.fits, overruns.offset, overruns.bounded⟩

theorem Overruns.of_passed (transfer : s.2.state = .transfer) (passed : chunkFault s.2 chunk = none)
    (beyond : imageSize.toNat < chunk.offset.toNat + chunk.dataLen.toNat) : Overruns imageSize s chunk := by
  obtain ⟨sequence, nonempty, fits, offset, bounded⟩ := chunkFault_none.mp passed
  exact ⟨transfer, sequence, nonempty, fits, offset, bounded, beyond⟩

/-! ### One chunk -/

theorem chunkFault_of_sequence {ctx : OtaSessionContext} {stats : OtaSessionStats} {result : OtaSessionResult}
    (fault : chunkFault ctx chunk = some (stats, result)) (expected : chunk.sequence = ctx.nextSequence) :
    result = .errSize := by
  unfold chunkFault at fault
  simp only [expected, ne_eq, not_true_eq_false, if_false] at fault
  repeat' split at fault
  all_goals simp only [Option.some.injEq, Prod.mk.injEq, reduceCtorEq] at fault
  all_goals exact fault.2.symm

theorem chunkFault_bytesWritten {ctx : OtaSessionContext} {stats : OtaSessionStats} {result : OtaSessionResult}
    (fault : chunkFault ctx chunk = some (stats, result)) : stats.bytesWritten = ctx.stats.bytesWritten := by
  unfold chunkFault at fault
  repeat' split at fault
  all_goals simp only [Option.some.injEq, Prod.mk.injEq, reduceCtorEq] at fault
  all_goals
    obtain ⟨rfl, -⟩ := fault
    rfl

theorem chunkFault_not_ok {ctx : OtaSessionContext} {stats : OtaSessionStats} {result : OtaSessionResult}
    (fault : chunkFault ctx chunk = some (stats, result)) : result ≠ .ok := by
  rcases (chunkFault_result fault).1 with refused | refused <;> simp [refused]

/-- ERR_SIZE comes from the tests only. -/
theorem receiveChunk_of_passed (transfer : s.2.state = .transfer) (passed : chunkFault s.2 chunk = none) :
    (receiveChunk storage backend s chunk).2.2 ≠ .errSize := by
  have outcome : ChunkOutcome storage backend s.1 s.2 chunk _ := otaSessionProcessChunk_outcome chunk
  unfold receiveChunk
  generalize otaSessionProcessChunk storage backend s.1 s.2 chunk = after at outcome
  cases outcome with
  | closed closed => exact absurd transfer closed
  | rejected _ fault => simp [passed] at fault
  | unwritten _ _ _ => simp
  | writeFailed _ _ _ _ _ => simp
  | stored _ _ _ _ _ _ => simp
  | endFailed _ _ _ _ _ _ _ => simp
  | committed _ _ _ _ _ _ _ => simp

/-- A chunk beyond the image is refused exactly when the tests of the session stop it. -/
theorem refusesBeyond_iff : RefusesBeyond storage backend imageSize s chunk ↔ ¬Overruns imageSize s chunk := by
  constructor
  · intro refuses overruns
    obtain ⟨-, -, size⟩ := refuses overruns.beyond
    exact receiveChunk_of_passed overruns.transfer overruns.passed
      (size overruns.transfer overruns.sequence)
  · intro within beyond
    have outcome : ChunkOutcome storage backend s.1 s.2 chunk _ := otaSessionProcessChunk_outcome chunk
    unfold receiveChunk
    generalize otaSessionProcessChunk storage backend s.1 s.2 chunk = after at outcome
    cases outcome with
    | closed closed => exact ⟨rfl, by simp, fun transfer => absurd transfer closed⟩
    | rejected _ fault => exact ⟨rfl, chunkFault_not_ok fault, fun _ expected => chunkFault_of_sequence fault expected⟩
    | unwritten transfer passed _ => exact absurd (.of_passed transfer passed beyond) within
    | writeFailed transfer passed _ _ _ => exact absurd (.of_passed transfer passed beyond) within
    | stored transfer passed _ _ _ _ => exact absurd (.of_passed transfer passed beyond) within
    | endFailed transfer passed _ _ _ _ _ => exact absurd (.of_passed transfer passed beyond) within
    | committed transfer passed _ _ _ _ _ => exact absurd (.of_passed transfer passed beyond) within

/-! ### Whole sessions -/

/-- The counters of a session that has taken the chunks `taken`. -/
structure Measured (imageSize : UInt32) (ctx : OtaSessionContext) (taken : List OtaChunk) : Prop where
  imageSize_eq : ctx.imageSize = imageSize
  received : ctx.bytesReceived.toNat = (imageBytes taken).length
  written : ctx.stats.bytesWritten = ctx.bytesReceived

/-- While it is in TRANSFER the image is unfinished; once it is complete, it has its size. -/
structure Fills (imageSize : UInt32) (s : OtaDevice σ β × OtaSessionContext) (taken : List OtaChunk) : Prop where
  transfer : s.2.state = .transfer →
    Measured imageSize s.2 taken ∧ (imageBytes taken).length < imageSize.toNat
  complete : s.2.state = .complete →
    Measured imageSize s.2 taken ∧ (imageBytes taken).length = imageSize.toNat

theorem Fills.of_error {taken' : List OtaChunk} (error : s.2.state = .error) : Fills imageSize s taken' :=
  ⟨fun transfer => (by simp [error] at transfer), fun complete => (by simp [error] at complete)⟩

theorem Measured.accepted {ctx : OtaSessionContext} (measured : Measured imageSize ctx taken)
    (small : imageSize ≤ otaSessionMaxImageSize) (unfinished : (imageBytes taken).length < imageSize.toNat)
    (passed : chunkFault ctx chunk = none) :
    Measured imageSize (ctx.accepted chunk) (taken ++ [chunk]) ∧
      (ctx.accepted chunk).bytesReceived.toNat = chunk.offset.toNat + chunk.dataLen.toNat := by
  obtain ⟨-, -, fits, offset, -⟩ := chunkFault_none.mp passed
  have bounded : chunk.dataLen.toNat ≤ 256 := UInt16.le_iff_toNat_le.mp fits
  have below : imageSize.toNat ≤ 131072 := UInt32.le_iff_toNat_le.mp small
  have received := measured.received
  have total : (ctx.accepted chunk).bytesReceived.toNat = (imageBytes taken).length + chunk.dataLen.toNat := by
    simp only [OtaSessionContext.accepted, UInt32.toNat_add, UInt16.toNat_toUInt32]
    omega
  refine ⟨⟨measured.imageSize_eq, ?_, ?_⟩, ?_⟩
  · rw [total, imageBytes_concat, List.length_append, length_payload bounded]
  · simp only [OtaSessionContext.accepted, measured.written]
  · rw [total, offset, received]

theorem receiveChunk_fills (storage : Option (DeviceIdentityStorage σ)) (backend : FlashPartitionBackend β)
    (small : imageSize ≤ otaSessionMaxImageSize) (fills : Fills imageSize s taken) (within : ¬Overruns imageSize s chunk) :
    Fills imageSize (receiveChunk storage backend s chunk).1
      (if (receiveChunk storage backend s chunk).2.2 = .ok then taken ++ [chunk] else taken) := by
  have outcome : ChunkOutcome storage backend s.1 s.2 chunk _ := otaSessionProcessChunk_outcome chunk
  unfold receiveChunk
  generalize otaSessionProcessChunk storage backend s.1 s.2 chunk = after at outcome
  cases outcome with
  | closed _ => exact fills
  | rejected transfer fault =>
    obtain ⟨measured, unfinished⟩ := fills.transfer transfer
    have written := chunkFault_bytesWritten fault
    rw [if_neg (chunkFault_not_ok fault)]
    exact ⟨fun _ => ⟨⟨measured.imageSize_eq, measured.received, written.trans measured.written⟩, unfinished⟩,
      fun complete => by simp [transfer] at complete⟩
  | unwritten _ _ _ => exact .of_error rfl
  | writeFailed _ _ _ _ _ => exact .of_error rfl
  | stored transfer passed _ _ _ more =>
    obtain ⟨measured, unfinished⟩ := fills.transfer transfer
    obtain ⟨after, -⟩ := measured.accepted small unfinished passed
    have below := UInt32.lt_iff_toNat_lt.mp more
    rw [measured.imageSize_eq, after.received] at below
    rw [if_pos rfl]
    refine ⟨fun _ => ⟨after, below⟩, fun complete => ?_⟩
    simp [OtaSessionContext.accepted, transfer] at complete
  | endFailed _ _ _ _ _ _ _ => exact .of_error rfl
  | committed transfer passed _ _ _ last _ =>
    obtain ⟨measured, unfinished⟩ := fills.transfer transfer
    obtain ⟨after, ends⟩ := measured.accepted small unfinished passed
    have above := UInt32.le_iff_toNat_le.mp last
    have inside : chunk.offset.toNat + chunk.dataLen.toNat ≤ imageSize.toNat :=
      Nat.not_lt.mp fun beyond => within (.of_passed transfer passed beyond)
    rw [measured.imageSize_eq] at above
    rw [if_pos rfl]
    refine ⟨fun transfer => (by simp at transfer), fun _ => ⟨⟨after.imageSize_eq, after.received, after.written⟩, ?_⟩⟩
    rw [← after.received]
    omega

theorem session_fills (small : imageSize ≤ otaSessionMaxImageSize) (fills : Fills imageSize s [])
    (chunks : List OtaChunk)
    (within : Run.EachStep (fun s chunk => ¬Overruns imageSize s chunk) (receiveChunk storage backend) s chunks) :
    Fills imageSize (Run.finalState (receiveChunk storage backend) s chunks)
      (acceptedChunks (Run.outputs (receiveChunk storage backend) s chunks)) := by
  induction chunks using List.reverseRecOn with
  | nil => exact fills
  | append_singleton chunks chunk ih =>
    obtain ⟨before, last, -⟩ := Run.eachStep_append.mp within
    have step := receiveChunk_fills storage backend small (ih before) last
    rw [Run.finalState_concat, Run.outputs_concat]
    have pair : ∀ s : OtaDevice σ β × OtaSessionContext, (receiveChunk storage backend s chunk).2 =
        (chunk, (receiveChunk storage backend s chunk).2.2) := fun _ => rfl
    rw [pair, acceptedChunks_concat]
    exact step

theorem Fills.begun {d : OtaDevice σ β} {ctx : OtaSessionContext} {manifest : FirmwareManifest}
    (accepted : (otaSessionBegin backend d ctx manifest).2.2 = .ok) :
    manifest.imageSize ≤ otaSessionMaxImageSize ∧
      Fills manifest.imageSize ((otaSessionBegin backend d ctx manifest).1, (otaSessionBegin backend d ctx manifest).2.1)
        [] := by
  have outcome : BeginOutcome backend d ctx manifest _ := otaSessionBegin_outcome manifest
  generalize otaSessionBegin backend d ctx manifest = after at outcome accepted
  cases outcome with
  | uninitialised _ => cases accepted
  | refused _ _ bad => exact absurd accepted bad
  | failed _ _ => cases accepted
  | accepted reaches _ =>
    obtain ⟨identity, -, -, nonzero, small⟩ := reaches.admissible
    have positive : 0 < manifest.imageSize.toNat :=
      Nat.pos_of_ne_zero fun zero => nonzero (UInt32.toNat_inj.mp zero)
    exact ⟨small, fun _ => ⟨⟨rfl, rfl, rfl⟩, positive⟩, fun complete => by simp [startedContext] at complete⟩

/-- A session completes with the size of its manifest and writes nothing beyond it exactly when no next
chunk ends beyond the image. -/
theorem otaSession_exactSize_iff {d : OtaDevice σ β} {ctx : OtaSessionContext} {manifest : FirmwareManifest}
    (accepted : (otaSessionBegin backend d ctx manifest).2.2 = .ok) (chunks : List OtaChunk) :
    let start := ((otaSessionBegin backend d ctx manifest).1, (otaSessionBegin backend d ctx manifest).2.1)
    let step := receiveChunk storage backend
    ((∀ n, CompletesExactly manifest.imageSize (Run.finalState step start (chunks.take n))
        (Run.outputs step start (chunks.take n))) ∧
      Run.EachStep (RefusesBeyond storage backend manifest.imageSize) step start chunks) ↔
        Run.EachStep (fun s chunk => ¬Overruns manifest.imageSize s chunk) step start chunks := by
  intro start step
  have refuses : Run.EachStep (RefusesBeyond storage backend manifest.imageSize) step start chunks ↔
      Run.EachStep (fun s chunk => ¬Overruns manifest.imageSize s chunk) step start chunks :=
    Run.eachStep_congr rfl (fun s t chunk same => same ▸ ⟨refusesBeyond_iff, rfl⟩) chunks
  refine ⟨fun exactly => refuses.mp exactly.2, fun within => ⟨fun n complete => ?_, refuses.mpr within⟩⟩
  obtain ⟨small, begun⟩ := Fills.begun accepted
  have before : Run.EachStep (fun s chunk => ¬Overruns manifest.imageSize s chunk) step start (chunks.take n) := by
    rw [← List.take_append_drop n chunks] at within
    exact (Run.eachStep_append.mp within).1
  obtain ⟨measured, full⟩ := (session_fills small begun _ before).complete complete
  have received : (Run.finalState step start (chunks.take n)).2.bytesReceived = manifest.imageSize :=
    UInt32.toNat_inj.mp (measured.received.trans full)
  exact ⟨received, measured.written.trans received, full⟩

/-- The update of one byte that its one chunk fills. -/
theorem otaSession_exactSize_one_byte :
    let start := ((otaSessionBegin mockBackend sampleDevice zeroContext (sampleManifest 200)).1,
      (otaSessionBegin mockBackend sampleDevice zeroContext (sampleManifest 200)).2.1)
    (Run.finalState (receiveChunk (some ramIdentityStorage) mockBackend) start [sampleChunk]).2.bytesReceived = 1 := by
  intro start
  have exactly := (@otaSession_exactSize_iff (Option PersistedIdentity) (FlashSlot → MockSlot) (some ramIdentityStorage)
    mockBackend sampleDevice zeroContext (sampleManifest 200) rfl [sampleChunk]).mpr
      ⟨fun overruns => absurd overruns.beyond (by decide), trivial⟩
  exact (exactly.1 1 rfl).1

/-- A one-byte image that a chunk of two bytes completes. -/
theorem otaSession_overruns_image :
    let start := ((otaSessionBegin mockBackend sampleDevice zeroContext (sampleManifest 200)).1,
      (otaSessionBegin mockBackend sampleDevice zeroContext (sampleManifest 200)).2.1)
    let chunk := { sampleChunk with dataLen := 2 }
    let after := receiveChunk (some ramIdentityStorage) mockBackend start chunk
    (otaSessionBegin mockBackend sampleDevice zeroContext (sampleManifest 200)).2.2 = .ok ∧ after.2.2 = .ok ∧
      after.1.2.state = .complete ∧ (after.1.1.partitions.flash .b).data 1 = 7 ∧
      ¬CompletesExactly (sampleManifest 200).imageSize after.1 [after.2] ∧
      ¬RefusesBeyond (some ramIdentityStorage) mockBackend (sampleManifest 200).imageSize start chunk := by
  intro start chunk after
  refine ⟨rfl, rfl, rfl, rfl, fun exactly => ?_, fun refuses => ?_⟩
  · exact absurd (exactly rfl).1 (by decide)
  · exact (refuses (by decide)).2.1 rfl

end ExactSize

end IotPlatform
