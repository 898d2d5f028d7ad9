import Mathlib.Data.List.Induction
import IotPlatform.Lib.Run
import IotPlatform.Shared.OtaSession

/-!
# Assembly of an image

One session over the in-memory backend, fed with any list of chunks. `takenChunks` says on the chunks alone which of
them make up the image; the session takes exactly these, and the target slot holds their bytes in order.
-/

namespace IotPlatform

/-! ### Which chunks make up an image -/

def imageBytes (taken : List OtaChunk) : List UInt8 := taken.flatMap OtaChunk.payload

/-- The chunk that continues `taken`: the next sequence number, at the next byte, of an admissible length. -/
def Continues (imageSize : UInt32) (taken : List OtaChunk) (chunk : OtaChunk) : Prop :=
  (imageBytes taken).length < imageSize.toNat ∧ chunk.sequence.toNat = taken.length ∧ 0 < chunk.dataLen.toNat ∧
    chunk.dataLen.toNat ≤ otaSessionMaxChunkSize.toNat ∧ chunk.offset.toNat = (imageBytes taken).length ∧
    chunk.offset.toNat + chunk.dataLen.toNat ≤ otaSessionMaxImageSize.toNat

instance (imageSize : UInt32) (taken : List OtaChunk) (chunk : OtaChunk) : Decidable (Continues imageSize taken chunk) :=
  inferInstanceAs (Decidable (_ ∧ _))

def takeChunk (imageSize : UInt32) (taken : List OtaChunk) (chunk : OtaChunk) : List OtaChunk :=
  if Continues imageSize taken chunk then taken ++ [chunk] else taken

def takenChunks (imageSize : UInt32) (chunks : List OtaChunk) : List OtaChunk :=
  chunks.foldl (takeChunk imageSize) []

theorem takenChunks_concat (imageSize : UInt32) (chunks : List OtaChunk) (chunk : OtaChunk) :
    takenChunks imageSize (chunks ++ [chunk]) = takeChunk imageSize (takenChunks imageSize chunks) chunk := by
  simp [takenChunks]

theorem imageBytes_concat (taken : List OtaChunk) (chunk : OtaChunk) :
    imageBytes (taken ++ [chunk]) = imageBytes taken ++ chunk.payload := by
  simp [imageBytes]

theorem length_payload {chunk : OtaChunk} (small : chunk.dataLen.toNat ≤ otaSessionMaxChunkSize.toNat) :
    chunk.payload.length = chunk.dataLen.toNat := by
  have fits : chunk.dataLen.toNat ≤ 256 := small
  simp [OtaChunk.payload, fits]

/-! ### The slot -/

def MockSlot.bytes (slot : MockSlot) (n : Nat) : List UInt8 := (List.range n).map slot.data

theorem copyInto_append {data : Nat → UInt8} {n : Nat} {bytes more : List UInt8}
    (holds : (List.range n).map data = bytes) :
    (List.range (n + more.length)).map (copyInto data n more) = bytes ++ more := by
  rw [List.range_add, List.map_append, List.map_map]
  congr 1
  · rw [← holds]
    apply List.map_congr_left
    intro i member
    have below := List.mem_range.mp member
    simp [copyInto, Nat.not_le.mpr below]
  · apply List.ext_getElem
    · simp
    · intro i _ inside
      simp [copyInto, List.getD_eq_getElem?_getD, inside]

/-! ### The session -/

section Session

variable {σ : Type} (storage : Option (DeviceIdentityStorage σ))

abbrev MockDevice (σ : Type) := OtaDevice σ (FlashSlot → MockSlot)

def chunkStep (s : MockDevice σ × OtaSessionContext) (chunk : OtaChunk) :
    (MockDevice σ × OtaSessionContext) × OtaChunk × OtaSessionResult :=
  let (device, ctx, result) := otaSessionProcessChunk storage mockBackend s.1 s.2 chunk
  ((device, ctx), chunk, result)

def acceptedChunks (history : List (OtaChunk × OtaSessionResult)) : List OtaChunk :=
  (history.filter fun entry => decide (entry.2 = .ok)).map Prod.fst

/-- A session in TRANSFER that was begun on `d` and has taken the chunks `taken`. -/
structure Assembling (d : MockDevice σ) (manifest : FirmwareManifest) (s : MockDevice σ × OtaSessionContext)
    (taken : List OtaChunk) : Prop where
  transfer : s.2.state = .transfer
  manifest_eq : s.2.manifest = manifest
  imageSize : s.2.imageSize = manifest.imageSize
  identity : s.1.identity = d.identity
  ready : s.1.partitions.Ready
  busy : s.1.partitions.otaInProgress = true
  boot : s.1.partitions.bootPartition = d.partitions.bootPartition
  target : s.1.partitions.otaTarget = d.partitions.bootPartition.other
  writing : (s.1.partitions.flash s.1.partitions.otaTarget).state = .writing
  untouched : s.1.partitions.flash d.partitions.bootPartition = d.partitions.flash d.partitions.bootPartition
  image : (s.1.partitions.flash s.1.partitions.otaTarget).bytes (imageBytes taken).length = imageBytes taken
  bytesReceived : s.2.bytesReceived.toNat = (imageBytes taken).length
  nextSequence : s.2.nextSequence.toNat = taken.length
  sequences : taken.map (fun chunk => chunk.sequence.toNat) = List.range taken.length
  nonempty : taken.length ≤ (imageBytes taken).length
  unfinished : (imageBytes taken).length < manifest.imageSize.toNat
  admissible : manifest.imageSize ≤ otaSessionMaxImageSize
  counted : s.2.stats.chunksReceived = s.2.stats.chunksAccepted + s.2.stats.chunksRejected

/-- A session that has committed the image made of `taken`. -/
structure Assembled (d : MockDevice σ) (manifest : FirmwareManifest) (s : MockDevice σ × OtaSessionContext)
    (taken : List OtaChunk) : Prop where
  complete : s.2.state = .complete
  image : (s.1.partitions.flash d.partitions.bootPartition.other).bytes (imageBytes taken).length = imageBytes taken
  finished : manifest.imageSize.toNat ≤ (imageBytes taken).length

def Receives (d : MockDevice σ) (manifest : FirmwareManifest) (s : MockDevice σ × OtaSessionContext)
    (taken : List OtaChunk) : Prop :=
  Assembling d manifest s taken ∨ Assembled d manifest s taken

variable {storage} {d : MockDevice σ} {manifest : FirmwareManifest} {s : MockDevice σ × OtaSessionContext}
  {taken : List OtaChunk} {chunk : OtaChunk}

theorem Assembling.received_lt (assembling : Assembling d manifest s taken) :
    s.2.bytesReceived.toNat < otaSessionMaxImageSize.toNat := by
  have admissible := UInt32.le_iff_toNat_le.mp assembling.admissible
  have unfinished := assembling.unfinished
  rw [assembling.bytesReceived]
  omega

/-- The tests of `ota_session_process_chunk` let through exactly the chunk that continues the image. -/
theorem Assembling.chunkFault_none_iff (assembling : Assembling d manifest s taken) :
    chunkFault s.2 chunk = none ↔ Continues manifest.imageSize taken chunk := by
  have below := assembling.received_lt
  have image : otaSessionMaxImageSize.toNat = 131072 := rfl
  have width := UInt16.toNat_lt chunk.dataLen
  rw [chunkFault_none, Continues, ← assembling.bytesReceived, ← assembling.nextSequence]
  have unfinished := assembling.unfinished
  rw [← assembling.bytesReceived] at unfinished
  simp only [ne_eq, ← UInt32.toNat_inj, ← UInt16.toNat_inj, UInt16.le_iff_toNat_le, UInt32.le_iff_toNat_le,
    UInt32.toNat_add, UInt16.toNat_toUInt32, UInt16.toNat_zero]
  constructor
  · rintro ⟨sequence, nonzero, small, offset, inside⟩
    rw [Nat.mod_eq_of_lt (by omega)] at inside
    exact ⟨unfinished, sequence, Nat.pos_of_ne_zero nonzero, small, offset, inside⟩
  · rintro ⟨-, sequence, positive, small, offset, inside⟩
    rw [Nat.mod_eq_of_lt (by omega)]
    exact ⟨sequence, Nat.ne_of_gt positive, small, offset, inside⟩

theorem Assembling.afterWrite_eq (assembling : Assembling d manifest s taken)
    (continues : Continues manifest.imageSize taken chunk) :
    afterWrite mockBackend s.1.partitions chunk =
      (Function.update s.1.partitions.flash s.1.partitions.otaTarget
        { (s.1.partitions.flash s.1.partitions.otaTarget) with
          data := copyInto (s.1.partitions.flash s.1.partitions.otaTarget).data (imageBytes taken).length chunk.payload
          writeOffset := chunk.offset + UInt32.ofNat chunk.payload.length }, true) := by
  obtain ⟨-, -, -, small, offset, inside⟩ := continues
  have image : otaSessionMaxImageSize.toNat = 131072 := rfl
  have slot : flashPartitionMaxSize.toNat = 262144 := rfl
  have width := UInt16.toNat_lt chunk.dataLen
  have fits : ¬chunk.offset + UInt32.ofNat chunk.payload.length > flashPartitionMaxSize := by
    rw [length_payload small, gt_iff_lt, UInt32.not_lt, UInt32.le_iff_toNat_le, UInt32.toNat_add, UInt32.toNat_ofNat']
    omega
  simp only [afterWrite, mockBackend, mockWrite, fits, assembling.writing, offset, if_false, ne_eq, not_true_eq_false]

theorem Assembling.image_after (assembling : Assembling d manifest s taken) :
    (List.range (imageBytes (taken ++ [chunk])).length).map
      (copyInto (s.1.partitions.flash s.1.partitions.otaTarget).data (imageBytes taken).length chunk.payload) =
        imageBytes (taken ++ [chunk]) := by
  rw [imageBytes_concat, List.length_append]
  exact copyInto_append assembling.image

theorem Assembling.accepted_bytesReceived (assembling : Assembling d manifest s taken)
    (continues : Continues manifest.imageSize taken chunk) :
    (s.2.accepted chunk).bytesReceived.toNat = (imageBytes (taken ++ [chunk])).length := by
  obtain ⟨-, -, -, small, offset, inside⟩ := continues
  have image : otaSessionMaxImageSize.toNat = 131072 := rfl
  have before := assembling.bytesReceived
  rw [imageBytes_concat, List.length_append, length_payload small]
  simp only [OtaSessionContext.accepted, UInt32.toNat_add, UInt16.toNat_toUInt32]
  omega

theorem Assembling.stored (assembling : Assembling d manifest s taken)
    (continues : Continues manifest.imageSize taken chunk)
    (more : (s.2.accepted chunk).bytesReceived < s.2.imageSize) :
    Assembling d manifest
      ({ s.1 with partitions := { s.1.partitions with flash := (afterWrite mockBackend s.1.partitions chunk).1 } },
        s.2.accepted chunk) (taken ++ [chunk]) := by
  have bytesReceived := assembling.accepted_bytesReceived continues
  have unfinished := UInt32.lt_iff_toNat_lt.mp more
  rw [bytesReceived, assembling.imageSize] at unfinished
  have admissible := UInt32.le_iff_toNat_le.mp assembling.admissible
  have image : otaSessionMaxImageSize.toNat = 131072 := rfl
  obtain ⟨-, sequence, positive, small, -, -⟩ := id continues
  have longer : taken.length + 1 ≤ (imageBytes (taken ++ [chunk])).length := by
    have nonempty := assembling.nonempty
    rw [imageBytes_concat, List.length_append, length_payload small]
    omega
  refine
    { transfer := assembling.transfer, manifest_eq := assembling.manifest_eq, imageSize := assembling.imageSize
      identity := assembling.identity, ready := assembling.ready, busy := assembling.busy, boot := assembling.boot
      target := assembling.target, writing := ?_, untouched := ?_, image := ?_, bytesReceived := bytesReceived
      nextSequence := ?_, sequences := ?_, nonempty := ?_, unfinished := unfinished
      admissible := assembling.admissible, counted := ?_ }
  · simp [assembling.afterWrite_eq continues, assembling.writing]
  · have other : d.partitions.bootPartition ≠ s.1.partitions.otaTarget := by simp [assembling.target]
    simp [assembling.afterWrite_eq continues, Function.update_of_ne other, assembling.untouched]
  · rw [assembling.afterWrite_eq continues]
    simpa [MockSlot.bytes] using assembling.image_after
  · have count := assembling.nextSequence
    simp only [OtaSessionContext.accepted, UInt32.toNat_add, UInt32.toNat_one, List.length_append, List.length_singleton]
    omega
  · simp [assembling.sequences, sequence, List.range_succ]
  · simpa using longer
  · simp only [OtaSessionContext.accepted, OtaSessionStats.received, assembling.counted]
    ac_rfl

theorem Assembling.afterEnd_eq (assembling : Assembling d manifest s taken)
    (continues : Continues manifest.imageSize taken chunk) :
    (afterEnd mockBackend s.1.partitions chunk).2 = true ∧
      ((afterEnd mockBackend s.1.partitions chunk).1 s.1.partitions.otaTarget).data =
        copyInto (s.1.partitions.flash s.1.partitions.otaTarget).data (imageBytes taken).length chunk.payload := by
  rw [afterEnd, assembling.afterWrite_eq continues]
  simp [mockBackend, mockEnd, assembling.writing]

theorem Assembling.committed (assembling : Assembling d manifest s taken)
    (continues : Continues manifest.imageSize taken chunk)
    (last : s.2.imageSize ≤ (s.2.accepted chunk).bytesReceived) {identity : DeviceIdentityModule σ} :
    Assembled d manifest
      ({ s.1 with identity := identity, partitions := committedPartitions mockBackend s.1.partitions chunk },
        { s.2.accepted chunk with state := .complete }) (taken ++ [chunk]) := by
  have finished := UInt32.le_iff_toNat_le.mp last
  rw [assembling.accepted_bytesReceived continues, assembling.imageSize] at finished
  refine ⟨rfl, ?_, finished⟩
  have switched : ((afterSwitch mockBackend s.1.partitions chunk).1 s.1.partitions.otaTarget).data =
      ((afterEnd mockBackend s.1.partitions chunk).1 s.1.partitions.otaTarget).data := by
    simp [afterSwitch, mockBackend, mockSetBootPartition]
  rw [← assembling.target, MockSlot.bytes, committedPartitions, switched, (assembling.afterEnd_eq continues).2]
  exact assembling.image_after

/-- One chunk: the session takes it exactly when it continues the image. -/
theorem chunkStep_receives (receives : Receives d manifest s taken) (chunk : OtaChunk) :
    Receives d manifest (chunkStep storage s chunk).1 (takeChunk manifest.imageSize taken chunk) ∧
      ((chunkStep storage s chunk).2.2 = .ok ↔ Continues manifest.imageSize taken chunk) := by
  have outcome : ChunkOutcome storage mockBackend s.1 s.2 chunk _ := otaSessionProcessChunk_outcome chunk
  unfold chunkStep takeChunk
  generalize otaSessionProcessChunk storage mockBackend s.1 s.2 chunk = after at outcome
  rcases receives with assembling | assembled
  · cases outcome with
    | closed closed => exact absurd assembling.transfer closed
    | rejected _ fault =>
      have breaks : ¬Continues manifest.imageSize taken chunk := by
        rw [← assembling.chunkFault_none_iff, fault]
        simp
      obtain ⟨result, received, rejected, accepted⟩ := chunkFault_result fault
      rw [if_neg breaks]
      refine ⟨Or.inl { assembling with counted := ?_ }, ?_⟩
      · simp only [received, rejected, accepted, assembling.counted]
        ac_rfl
      · rcases result with rfl | rfl <;> simp [breaks]
    | unwritten _ _ shut => exact absurd ⟨assembling.ready, assembling.busy⟩ shut
    | writeFailed _ passed _ _ failed =>
      rw [assembling.afterWrite_eq (assembling.chunkFault_none_iff.mp passed)] at failed
      cases failed
    | stored _ passed _ _ _ more =>
      have continues := assembling.chunkFault_none_iff.mp passed
      rw [if_pos continues]
      exact ⟨Or.inl (assembling.stored continues more), by simp [continues]⟩
    | endFailed _ passed _ _ _ _ failed =>
      rw [(assembling.afterEnd_eq (assembling.chunkFault_none_iff.mp passed)).1] at failed
      cases failed
    | committed _ passed _ _ _ last _ =>
      have continues := assembling.chunkFault_none_iff.mp passed
      rw [if_pos continues]
      exact ⟨Or.inr (assembling.committed continues last), by simp [continues]⟩
  · have breaks : ¬Continues manifest.imageSize taken chunk :=
      fun continues => absurd continues.1 (Nat.not_lt.mpr assembled.finished)
    have closed : s.2.state ≠ .transfer := by simp [assembled.complete]
    rw [if_neg breaks]
    cases outcome with
    | closed _ => exact ⟨Or.inr assembled, by simp [breaks]⟩
    | rejected transfer _ => exact absurd transfer closed
    | unwritten transfer _ _ => exact absurd transfer closed
    | writeFailed transfer _ _ _ _ => exact absurd transfer closed
    | stored transfer _ _ _ _ _ => exact absurd transfer closed
    | endFailed transfer _ _ _ _ _ _ => exact absurd transfer closed
    | committed transfer _ _ _ _ _ _ => exact absurd transfer closed

theorem chunkStep_refused {result : OtaSessionResult} (returned : (chunkStep storage s chunk).2.2 = result)
    (refused : result = .errSequence ∨ result = .errSize) :
    (chunkStep storage s chunk).1 = (s.1, { s.2 with stats := (chunkStep storage s chunk).1.2.stats }) := by
  have outcome : ChunkOutcome storage mockBackend s.1 s.2 chunk _ := otaSessionProcessChunk_outcome chunk
  unfold chunkStep at returned ⊢
  generalize otaSessionProcessChunk storage mockBackend s.1 s.2 chunk = after at outcome returned
  subst returned
  cases outcome with
  | closed _ => simp at refused
  | rejected _ _ => rfl
  | unwritten _ _ _ => simp at refused
  | writeFailed _ _ _ _ _ => simp at refused
  | stored _ _ _ _ _ _ => simp at refused
  | endFailed _ _ _ _ _ _ _ => simp at refused
  | committed _ _ _ _ _ _ _ => simp at refused

/-! ### Whole sessions -/

theorem Assembling.begun {ctx : OtaSessionContext} (accepted : (otaSessionBegin mockBackend d ctx manifest).2.2 = .ok) :
    Assembling d manifest
      ((otaSessionBegin mockBackend d ctx manifest).1, (otaSessionBegin mockBackend d ctx manifest).2.1) [] := by
  have outcome : BeginOutcome mockBackend d ctx manifest _ := otaSessionBegin_outcome manifest
  generalize otaSessionBegin mockBackend d ctx manifest = after at outcome accepted
  cases outcome with
  | uninitialised _ => cases accepted
  | refused _ _ bad => exact absurd accepted bad
  | failed _ _ => cases accepted
  | accepted reaches begun =>
    obtain ⟨identity, -, -, nonzero, small⟩ := reaches.admissible
    have fits : ¬manifest.imageSize > flashPartitionMaxSize :=
      UInt32.not_lt.mpr (UInt32.le_trans small (by decide))
    have erased : (mockBackend.begin d.partitions.flash d.partitions.bootPartition.other manifest.imageSize).1 =
        Function.update d.partitions.flash d.partitions.bootPartition.other
          { data := fun i => if i < manifest.imageSize.toNat then 0xFF
              else (d.partitions.flash d.partitions.bootPartition.other).data i
            writeOffset := 0, state := .writing } := by
      simp [mockBackend, mockBegin, fits]
    exact
      { transfer := rfl, manifest_eq := rfl, imageSize := rfl, identity := rfl, ready := reaches.ready, busy := begun
        boot := rfl, target := rfl, writing := by simp [begunPartitions, erased]
        untouched := by simp [begunPartitions, erased], image := rfl, bytesReceived := rfl, nextSequence := rfl
        sequences := rfl, nonempty := Nat.le_refl _
        unfinished := Nat.pos_of_ne_zero fun zero => nonzero (UInt32.toNat_inj.mp zero), admissible := small
        counted := rfl }

theorem acceptedChunks_concat (history : List (OtaChunk × OtaSessionResult)) (chunk : OtaChunk)
    (result : OtaSessionResult) :
    acceptedChunks (history ++ [(chunk, result)]) =
      if result = .ok then acceptedChunks history ++ [chunk] else acceptedChunks history := by
  by_cases ok : result = .ok <;> simp [acceptedChunks, ok]

theorem session_receives (receives : Receives d manifest s []) (chunks : List OtaChunk) :
    Receives d manifest (Run.finalState (chunkStep storage) s chunks) (takenChunks manifest.imageSize chunks) ∧
      acceptedChunks (Run.outputs (chunkStep storage) s chunks) = takenChunks manifest.imageSize chunks := by
  induction chunks using List.reverseRecOn with
  | nil => exact ⟨receives, rfl⟩
  | append_singleton chunks chunk ih =>
    obtain ⟨receives, taken⟩ := ih
    obtain ⟨after, ok⟩ := chunkStep_receives receives chunk
    rw [Run.finalState_concat, Run.outputs_concat, takenChunks_concat]
    refine ⟨after, ?_⟩
    have pair : ∀ s : MockDevice σ × OtaSessionContext,
        (chunkStep storage s chunk).2 = (chunk, (chunkStep storage s chunk).2.2) := fun _ => rfl
    rw [pair, acceptedChunks_concat, taken]
    simp only [takeChunk, ok]

/-- An accepted session assembles its image: while it is in TRANSFER, the target slot starts with the bytes of the
chunks that returned OK, in sequence order, the counters count them and the other slot is as it was; a chunk refused for
its sequence number, size or offset changes the statistics only. -/
theorem otaImage_assembled {ctx : OtaSessionContext} (accepted : (otaSessionBegin mockBackend d ctx manifest).2.2 = .ok)
    (chunks : List OtaChunk) :
    let start := ((otaSessionBegin mockBackend d ctx manifest).1, (otaSessionBegin mockBackend d ctx manifest).2.1)
    let s := Run.finalState (chunkStep storage) start chunks
    let taken := acceptedChunks (Run.outputs (chunkStep storage) start chunks)
    (s.2.state = .transfer →
      s.1.partitions.otaTarget = d.partitions.bootPartition.other ∧
      (s.1.partitions.flash s.1.partitions.otaTarget).bytes s.2.bytesReceived.toNat = imageBytes taken ∧
      s.2.bytesReceived.toNat = (imageBytes taken).length ∧
      s.2.nextSequence.toNat = taken.length ∧
      taken.map (fun chunk => chunk.sequence.toNat) = List.range taken.length ∧
      s.1.partitions.flash d.partitions.bootPartition = d.partitions.flash d.partitions.bootPartition ∧
      s.2.stats.chunksReceived = s.2.stats.chunksAccepted + s.2.stats.chunksRejected) ∧
    ∀ chunk result, (chunkStep storage s chunk).2.2 = result → result = .errSequence ∨ result = .errSize →
      (chunkStep storage s chunk).1 = (s.1, { s.2 with stats := (chunkStep storage s chunk).1.2.stats }) := by
  intro start s taken
  obtain ⟨receives, same⟩ := session_receives (Or.inl (Assembling.begun accepted)) chunks
  constructor
  · intro transfer
    rcases receives with assembling | assembled
    · have bytes := assembling.image
      rw [← assembling.bytesReceived] at bytes
      rw [← same] at assembling bytes
      exact ⟨assembling.target, bytes, assembling.bytesReceived, assembling.nextSequence, assembling.sequences,
        assembling.untouched, assembling.counted⟩
    · rw [assembled.complete] at transfer
      cases transfer
  · intro chunk result returned refused
    exact chunkStep_refused returned refused

/-- A two-byte image of which a chunk with a gap and then the first chunk have arrived. -/
theorem otaImage_assembled_after_gap :
    ((Run.finalState (chunkStep (some ramIdentityStorage))
        ((otaSessionBegin mockBackend sampleDevice zeroContext { sampleManifest 200 with imageSize := 2 }).1,
          (otaSessionBegin mockBackend sampleDevice zeroContext { sampleManifest 200 with imageSize := 2 }).2.1)
        [{ sampleChunk with sequence := 1 }, sampleChunk]).1.partitions.flash .b).bytes 1 = [7] := by
  have assembled := @otaImage_assembled (Option PersistedIdentity) (some ramIdentityStorage) sampleDevice
    { sampleManifest 200 with imageSize := 2 } zeroContext rfl [{ sampleChunk with sequence := 1 }, sampleChunk]
  obtain ⟨-, bytes, -⟩ := assembled.1 rfl
  exact bytes

/-! ### Integrity of the committed image -/

/-- The image a stream of chunks completes, if it completes one. -/
def assembledImage (imageSize : UInt32) (chunks : List OtaChunk) : Option (List UInt8) :=
  if imageSize.toNat ≤ (imageBytes (takenChunks imageSize chunks)).length then
    some ((imageBytes (takenChunks imageSize chunks)).take imageSize.toNat)
  else none

theorem takenChunks_append_of_finished {imageSize : UInt32} {chunks : List OtaChunk}
    (finished : imageSize.toNat ≤ (imageBytes (takenChunks imageSize chunks)).length) (more : List OtaChunk) :
    takenChunks imageSize (chunks ++ more) = takenChunks imageSize chunks := by
  induction more using List.reverseRecOn with
  | nil => rw [List.append_nil]
  | append_singleton more chunk ih =>
    rw [← List.append_assoc, takenChunks_concat, ih, takeChunk, if_neg]
    exact fun continues => absurd continues.1 (Nat.not_lt.mpr finished)

theorem assembledImage_append {imageSize : UInt32} {chunks : List OtaChunk} {image : List UInt8}
    (complete : assembledImage imageSize chunks = some image) (more : List OtaChunk) :
    assembledImage imageSize (chunks ++ more) = some image := by
  unfold assembledImage at complete ⊢
  split at complete
  · rename_i finished
    rw [takenChunks_append_of_finished finished, if_pos finished]
    exact complete
  · cases complete

/-- What a session owes the image HMAC of its manifest: it completes, sets a pending version or moves the boot slot only
over an image with that HMAC, and the chunk that completes any other image is answered with ERR_INTEGRITY. -/
structure IntegrityEnforced {Key : Type} (hmac : Key → List UInt8 → Vector UInt8 32) (key : Key)
    (storage : Option (DeviceIdentityStorage σ)) (manifest : FirmwareManifest) (start : MockDevice σ × OtaSessionContext)
    (chunks : List OtaChunk) : Prop where
  guarded : ∀ n s, Run.finalState (chunkStep storage) start (chunks.take n) = s →
    s.2.state = .complete ∨ s.1.identity.fwVersionPending ≠ start.1.identity.fwVersionPending ∨
      s.1.partitions.bootPartition ≠ start.1.partitions.bootPartition →
    hmac key ((s.1.partitions.flash start.1.partitions.otaTarget).bytes manifest.imageSize.toNat) = manifest.imageHmac
  refused : ∀ before chunk after image, chunks = before ++ chunk :: after →
    assembledImage manifest.imageSize before = none →
    assembledImage manifest.imageSize (before ++ [chunk]) = some image → hmac key image ≠ manifest.imageHmac →
    ∀ s result, chunkStep storage (Run.finalState (chunkStep storage) start before) chunk = (s, chunk, result) →
      result = .errIntegrity ∧ s.1.identity.fwVersionPending = start.1.identity.fwVersionPending ∧
        s.1.partitions.bootPartition = start.1.partitions.bootPartition

theorem Assembled.assembledImage_eq {chunks : List OtaChunk}
    (assembled : Assembled d manifest s (takenChunks manifest.imageSize chunks)) :
    assembledImage manifest.imageSize chunks =
      some ((s.1.partitions.flash d.partitions.bootPartition.other).bytes manifest.imageSize.toNat) := by
  rw [assembledImage, if_pos assembled.finished, ← assembled.image, MockSlot.bytes, ← List.map_take, List.take_range,
    Nat.min_eq_left assembled.finished]
  rfl

/-- A session checks no HMAC, so it keeps what it owes the manifest exactly when the stream completes no image or one
that happens to have the HMAC of the manifest. -/
theorem integrityEnforced_iff {Key : Type} (hmac : Key → List UInt8 → Vector UInt8 32) (key : Key)
    {ctx : OtaSessionContext} (accepted : (otaSessionBegin mockBackend d ctx manifest).2.2 = .ok)
    (chunks : List OtaChunk) :
    IntegrityEnforced hmac key storage manifest
        ((otaSessionBegin mockBackend d ctx manifest).1, (otaSessionBegin mockBackend d ctx manifest).2.1) chunks ↔
      ∀ image, assembledImage manifest.imageSize chunks = some image → hmac key image = manifest.imageHmac := by
  have begun := Assembling.begun accepted
  generalize ((otaSessionBegin mockBackend d ctx manifest).1, (otaSessionBegin mockBackend d ctx manifest).2.1) = start
    at begun
  have receives : ∀ chunks, Receives d manifest (Run.finalState (chunkStep storage) start chunks)
      (takenChunks manifest.imageSize chunks) := fun chunks => (session_receives (Or.inl begun) chunks).1
  constructor
  · intro enforced image complete
    rcases receives chunks with assembling | assembled
    · rw [assembledImage, if_neg (Nat.not_le.mpr assembling.unfinished)] at complete
      cases complete
    · have matched := enforced.guarded chunks.length _ rfl
      rw [List.take_length, begun.target] at matched
      rw [assembled.assembledImage_eq] at complete
      rw [← Option.some.inj complete]
      exact matched (Or.inl assembled.complete)
  · intro matches_
    constructor
    · rintro n s rfl changed
      rcases receives (chunks.take n) with assembling | assembled
      · rw [assembling.transfer, assembling.identity, assembling.boot, begun.identity, begun.boot] at changed
        simp at changed
      · have complete := assembledImage_append assembled.assembledImage_eq (chunks.drop n)
        rw [List.take_append_drop] at complete
        rw [begun.target]
        exact matches_ _ complete
    · rintro before chunk after image rfl - complete mismatch
      have whole := assembledImage_append complete after
      rw [List.append_assoc, List.singleton_append] at whole
      exact absurd (matches_ image whole) mismatch

end Session

/-- A keyed checksum in the place of the HMAC. -/
def sumHmac (key : UInt8) (image : List UInt8) : Vector UInt8 32 := Vector.replicate 32 (image.foldl (· + ·) key)

theorem integrityEnforced_sample :
    IntegrityEnforced sumHmac 249 (some ramIdentityStorage) (sampleManifest 200)
      ((otaSessionBegin mockBackend sampleDevice zeroContext (sampleManifest 200)).1,
        (otaSessionBegin mockBackend sampleDevice zeroContext (sampleManifest 200)).2.1) [sampleChunk] := by
  refine (integrityEnforced_iff sumHmac 249 rfl [sampleChunk]).mpr fun image complete => ?_
  obtain rfl : [7] = image := Option.some.inj complete
  rfl

/-- One byte whose HMAC is not the one in the manifest: the session completes with OTA_RESULT_OK. -/
theorem integrity_not_enforced :
    ¬IntegrityEnforced sumHmac 0 (some ramIdentityStorage) (sampleManifest 200)
      ((otaSessionBegin mockBackend sampleDevice zeroContext (sampleManifest 200)).1,
        (otaSessionBegin mockBackend sampleDevice zeroContext (sampleManifest 200)).2.1) [sampleChunk] := by
  intro enforced
  have matched := enforced.guarded 1 _ rfl (Or.inl rfl)
  exact absurd matched (by decide +kernel)

end IotPlatform
