import IotPlatform.Lib.Run
import IotPlatform.Shared.OtaSession

/-!
# Runs of OTA sessions

Any number of session contexts over one device. The flash layer has one update in progress at most and the contexts do
not know of each other, so a session that leaves TRANSFER without `flash_partition_ota_end` keeps the flash layer busy
and every later begin is refused.
-/

namespace IotPlatform

structure OtaSystem (ι σ β : Type) where
  device : OtaDevice σ β
  contexts : ι → OtaSessionContext

inductive SessionOp (ι : Type) where
  | begin (i : ι) (manifest : FirmwareManifest)
  | chunk (i : ι) (chunk : OtaChunk)
  | abort (i : ι)
  deriving DecidableEq, Repr

def SessionOp.session {ι : Type} : SessionOp ι → ι
  | .begin i _ => i
  | .chunk i _ => i
  | .abort i => i

section Runs

variable {ι σ β : Type} [DecidableEq ι] (storage : Option (DeviceIdentityStorage σ)) (backend : FlashPartitionBackend β)

/-- The result of the call; `ota_session_abort` has none. -/
def sessionStep (s : OtaSystem ι σ β) : SessionOp ι → OtaSystem ι σ β × Option OtaSessionResult
  | .begin i manifest =>
    let (device, ctx, result) := otaSessionBegin backend s.device (s.contexts i) manifest
    ({ device := device, contexts := Function.update s.contexts i ctx }, some result)
  | .chunk i chunk =>
    let (device, ctx, result) := otaSessionProcessChunk storage backend s.device (s.contexts i) chunk
    ({ device := device, contexts := Function.update s.contexts i ctx }, some result)
  | .abort i => ({ s with contexts := Function.update s.contexts i (otaSessionAbort (s.contexts i)) }, none)

def Transferring (s : OtaSystem ι σ β) (i : ι) : Prop := (s.contexts i).state = .transfer

/-- A begin on a fresh context succeeds for every manifest the device admits whenever the backend's begin does. -/
def Restartable (s : OtaSystem ι σ β) : Prop :=
  ∀ ctx manifest identity, deviceIdentityGet s.device.identity = .ok identity → Admissible identity manifest →
    (backend.begin s.device.partitions.flash s.device.partitions.bootPartition.other manifest.imageSize).2 = true →
    (otaSessionBegin backend s.device ctx manifest).2.2 = .ok

/-- The calls that take a session out of TRANSFER and leave its flash update open: an abort, a begin on the same
context, and a chunk the backend fails to write. -/
def Leaks (s : OtaSystem ι σ β) : SessionOp ι → Prop
  | .begin i _ => Transferring s i
  | .chunk i chunk =>
    Transferring s i ∧ chunkFault (s.contexts i) chunk = none ∧ (afterWrite backend s.device.partitions chunk).2 = false
  | .abort i => Transferring s i

/-! ### One call -/

/-- The modules are initialised and at most one session is in TRANSFER, with the flash layer busy for it. -/
structure Exclusive (s : OtaSystem ι σ β) : Prop where
  initialised : s.device.sessionInitialised = true
  ready : s.device.partitions.Ready
  busy : ∀ i, Transferring s i → s.device.partitions.otaInProgress = true
  unique : ∀ i j, Transferring s i → Transferring s j → i = j

variable {storage backend} {s : OtaSystem ι σ β} {op : SessionOp ι}

theorem sessionStep_contexts {j : ι} (other : j ≠ op.session) :
    (sessionStep storage backend s op).1.contexts j = s.contexts j := by
  cases op <;> exact Function.update_of_ne other _ _

/-- What a call does to its own session and to the flash layer, next to whether it leaks. -/
inductive SessionEffect (backend : FlashPartitionBackend β) (s : OtaSystem ι σ β) (op : SessionOp ι)
    (after : OtaSystem ι σ β) : Prop
  | quiet (tight : ¬Leaks backend s op)
      (busy : after.device.partitions.otaInProgress = s.device.partitions.otaInProgress)
      (same : Transferring after op.session ↔ Transferring s op.session)
  | started (tight : ¬Leaks backend s op) (free : s.device.partitions.otaInProgress = false)
      (busy : after.device.partitions.otaInProgress = true) (transfer : Transferring after op.session)
  | ended (tight : ¬Leaks backend s op) (transfer : Transferring s op.session)
      (free : after.device.partitions.otaInProgress = false) (closed : ¬Transferring after op.session)
  | leaked (leaks : Leaks backend s op) (transfer : Transferring s op.session)
      (busy : after.device.partitions.otaInProgress = s.device.partitions.otaInProgress)
      (closed : ¬Transferring after op.session)

omit [DecidableEq ι] in
/-- While the flash layer takes a begin, no session is in TRANSFER. -/
theorem Exclusive.idle_of_reaches (exclusive : Exclusive s) {manifest : FirmwareManifest}
    (reaches : BeginReaches s.device manifest) (i : ι) : ¬Transferring s i := by
  intro transfer
  have busy := exclusive.busy i transfer
  rw [reaches.free] at busy
  cases busy

omit [DecidableEq ι] in
theorem not_leaks_of_written {i : ι} {chunk : OtaChunk} (written : (afterWrite backend s.device.partitions chunk).2 = true) :
    ¬Leaks backend s (.chunk i chunk) := by
  rintro ⟨-, -, failed⟩
  rw [written] at failed
  cases failed

theorem begin_effect (exclusive : Exclusive s) (i : ι) (manifest : FirmwareManifest) :
    SessionEffect backend s (.begin i manifest) (sessionStep storage backend s (.begin i manifest)).1 := by
  have outcome : BeginOutcome backend s.device (s.contexts i) manifest _ := otaSessionBegin_outcome manifest
  simp only [sessionStep]
  generalize otaSessionBegin backend s.device (s.contexts i) manifest = after at outcome
  cases outcome with
  | uninitialised uninitialised =>
    rw [exclusive.initialised] at uninitialised
    cases uninitialised
  | refused _ error _ =>
    by_cases transfer : Transferring s i
    · exact .leaked transfer transfer rfl (by simp [Transferring, SessionOp.session, error])
    · exact .quiet transfer rfl (by simpa [Transferring, SessionOp.session, error] using transfer)
  | failed reaches failed =>
    have idle := exclusive.idle_of_reaches reaches i
    refine .quiet idle ?_ ?_
    · simp [begunPartitions, failed, reaches.free]
    · simpa [Transferring, SessionOp.session] using idle
  | accepted reaches begun =>
    have idle := exclusive.idle_of_reaches reaches i
    exact .started idle reaches.free (by simp [begunPartitions, begun])
      (by simp [Transferring, SessionOp.session, startedContext])

theorem chunk_effect (exclusive : Exclusive s) (i : ι) (chunk : OtaChunk) :
    SessionEffect backend s (.chunk i chunk) (sessionStep storage backend s (.chunk i chunk)).1 := by
  have outcome : ChunkOutcome storage backend s.device (s.contexts i) chunk _ := otaSessionProcessChunk_outcome chunk
  simp only [sessionStep]
  generalize otaSessionProcessChunk storage backend s.device (s.contexts i) chunk = after at outcome
  cases outcome with
  | closed closed =>
    exact .quiet (fun leaks => closed leaks.1) rfl (by simp [Transferring, SessionOp.session])
  | rejected _ fault =>
    refine .quiet ?_ rfl (by simp [Transferring, SessionOp.session])
    rintro ⟨-, passed, -⟩
    rw [fault] at passed
    cases passed
  | unwritten transfer _ shut => exact absurd ⟨exclusive.ready, exclusive.busy i transfer⟩ shut
  | writeFailed transfer passed _ _ failed =>
    exact .leaked ⟨transfer, passed, failed⟩ transfer rfl (by simp [Transferring, SessionOp.session])
  | stored transfer _ _ _ written _ =>
    refine .quiet (not_leaks_of_written written) rfl ?_
    simp [Transferring, SessionOp.session, OtaSessionContext.accepted]
  | endFailed transfer _ _ _ written _ _ =>
    refine .ended (not_leaks_of_written written) transfer rfl ?_
    simp [Transferring, SessionOp.session]
  | committed transfer _ _ _ written _ _ =>
    refine .ended (not_leaks_of_written written) transfer rfl ?_
    simp [Transferring, SessionOp.session]

theorem sessionStep_effect (exclusive : Exclusive s) :
    SessionEffect backend s op (sessionStep storage backend s op).1 := by
  cases op with
  | begin i manifest => exact begin_effect exclusive i manifest
  | chunk i chunk => exact chunk_effect exclusive i chunk
  | abort i =>
    by_cases transfer : Transferring s i
    · exact .leaked transfer transfer rfl (by simp [sessionStep, Transferring, SessionOp.session, otaSessionAbort])
    · refine .quiet transfer rfl ?_
      simpa [sessionStep, Transferring, SessionOp.session, otaSessionAbort] using transfer

/-! ### The flash layer over a run -/

theorem sessionStep_keeps (storage : Option (DeviceIdentityStorage σ)) (backend : FlashPartitionBackend β)
    (s : OtaSystem ι σ β) (op : SessionOp ι) :
    (sessionStep storage backend s op).1.device.sessionInitialised = s.device.sessionInitialised ∧
      ((sessionStep storage backend s op).1.device.partitions.Ready ↔ s.device.partitions.Ready) := by
  cases op with
  | begin i manifest =>
    have outcome : BeginOutcome backend s.device (s.contexts i) manifest _ := otaSessionBegin_outcome manifest
    simp only [sessionStep]
    generalize otaSessionBegin backend s.device (s.contexts i) manifest = after at outcome
    cases outcome <;> exact ⟨rfl, Iff.rfl⟩
  | chunk i chunk =>
    have outcome : ChunkOutcome storage backend s.device (s.contexts i) chunk _ := otaSessionProcessChunk_outcome chunk
    simp only [sessionStep]
    generalize otaSessionProcessChunk storage backend s.device (s.contexts i) chunk = after at outcome
    cases outcome <;> exact ⟨rfl, Iff.rfl⟩
  | abort i => exact ⟨rfl, Iff.rfl⟩

theorem transferring_other {j : ι} (other : j ≠ op.session) :
    Transferring (sessionStep storage backend s op).1 j ↔ Transferring s j := by
  unfold Transferring
  rw [sessionStep_contexts other]

theorem Exclusive.none_of_closed (exclusive : Exclusive s) (transfer : Transferring s op.session)
    (closed : ¬Transferring (sessionStep storage backend s op).1 op.session) (j : ι) :
    ¬Transferring (sessionStep storage backend s op).1 j := by
  intro after
  by_cases same : j = op.session
  · exact closed (same ▸ after)
  · exact same (exclusive.unique j op.session ((transferring_other same).mp after) transfer)

theorem sessionStep_exclusive (exclusive : Exclusive s) : Exclusive (sessionStep storage backend s op).1 := by
  obtain ⟨initialised, ready⟩ := sessionStep_keeps storage backend s op
  have transfers : (∀ i, Transferring (sessionStep storage backend s op).1 i →
      (sessionStep storage backend s op).1.device.partitions.otaInProgress = true) ∧
      ∀ i j, Transferring (sessionStep storage backend s op).1 i → Transferring (sessionStep storage backend s op).1 j →
        i = j := by
    cases (sessionStep_effect exclusive : SessionEffect backend s op (sessionStep storage backend s op).1) with
    | quiet _ busy same =>
      have same_all : ∀ i, Transferring (sessionStep storage backend s op).1 i → Transferring s i := by
        intro i after
        by_cases own : i = op.session
        · subst own
          exact same.mp after
        · exact (transferring_other own).mp after
      refine ⟨fun i after => ?_, fun i j left right => exclusive.unique i j (same_all i left) (same_all j right)⟩
      rw [busy]
      exact exclusive.busy i (same_all i after)
    | started _ free busy _ =>
      have only : ∀ i, Transferring (sessionStep storage backend s op).1 i → i = op.session := by
        intro i after
        by_cases own : i = op.session
        · exact own
        · have before := exclusive.busy i ((transferring_other own).mp after)
          rw [free] at before
          cases before
      exact ⟨fun _ _ => busy, fun i j left right => (only i left).trans (only j right).symm⟩
    | ended _ transfer _ closed =>
      have none := exclusive.none_of_closed transfer closed
      exact ⟨fun i after => absurd after (none i), fun i _ after => absurd after (none i)⟩
    | leaked _ transfer _ closed =>
      have none := exclusive.none_of_closed transfer closed
      exact ⟨fun i after => absurd after (none i), fun i _ after => absurd after (none i)⟩
  exact ⟨initialised.trans exclusive.initialised, ready.mpr exclusive.ready, transfers.1, transfers.2⟩

/-- The flash layer is busy only for a session in TRANSFER. -/
def Released (s : OtaSystem ι σ β) : Prop :=
  s.device.partitions.otaInProgress = true → ∃ i, Transferring s i

/-- The flash layer is busy and no session is left that could end its update. -/
def Stuck (s : OtaSystem ι σ β) : Prop :=
  s.device.partitions.otaInProgress = true ∧ ∀ i, ¬Transferring s i

theorem sessionStep_released (exclusive : Exclusive s) (released : Released s) (tight : ¬Leaks backend s op) :
    Released (sessionStep storage backend s op).1 := by
  intro open_
  cases (sessionStep_effect exclusive : SessionEffect backend s op (sessionStep storage backend s op).1) with
  | quiet _ busy same =>
    rw [busy] at open_
    obtain ⟨i, transfer⟩ := released open_
    by_cases own : i = op.session
    · subst own
      exact ⟨_, same.mpr transfer⟩
    · exact ⟨i, (transferring_other own).mpr transfer⟩
  | started _ _ _ transfer => exact ⟨_, transfer⟩
  | ended _ _ free _ =>
    rw [free] at open_
    cases open_
  | leaked leaks _ _ _ => exact absurd leaks tight

theorem sessionStep_stuck_of_leak (exclusive : Exclusive s) (leaks : Leaks backend s op) :
    Stuck (sessionStep storage backend s op).1 := by
  cases (sessionStep_effect exclusive : SessionEffect backend s op (sessionStep storage backend s op).1) with
  | quiet tight _ _ => exact absurd leaks tight
  | started tight _ _ _ => exact absurd leaks tight
  | ended tight _ _ _ => exact absurd leaks tight
  | leaked _ transfer busy closed =>
    exact ⟨busy.trans (exclusive.busy _ transfer), exclusive.none_of_closed transfer closed⟩

theorem sessionStep_stuck (exclusive : Exclusive s) (stuck : Stuck s) : Stuck (sessionStep storage backend s op).1 := by
  obtain ⟨open_, none⟩ := stuck
  cases (sessionStep_effect exclusive : SessionEffect backend s op (sessionStep storage backend s op).1) with
  | quiet _ busy same =>
    refine ⟨busy.trans open_, fun i after => ?_⟩
    by_cases own : i = op.session
    · subst own
      exact none _ (same.mp after)
    · exact none i ((transferring_other own).mp after)
  | started _ free _ _ =>
    rw [open_] at free
    cases free
  | ended _ transfer _ _ => exact absurd transfer (none _)
  | leaked _ transfer _ _ => exact absurd transfer (none _)

omit [DecidableEq ι] in
theorem Stuck.begin_fails (stuck : Stuck s) (ctx : OtaSessionContext) (manifest : FirmwareManifest) :
    (otaSessionBegin backend s.device ctx manifest).2.2 ≠ .ok := by
  have outcome : BeginOutcome backend s.device ctx manifest _ := otaSessionBegin_outcome manifest
  generalize otaSessionBegin backend s.device ctx manifest = after at outcome
  cases outcome with
  | uninitialised _ => simp
  | refused _ _ bad => exact bad
  | failed _ _ => simp
  | accepted reaches _ =>
    have busy := stuck.1
    rw [reaches.free] at busy
    cases busy

omit [DecidableEq ι] in
theorem Released.restartable (exclusive : Exclusive s) (released : Released s) (idle : ∀ i, ¬Transferring s i) :
    Restartable backend s := by
  intro ctx manifest identity known admissible begins
  have free : s.device.partitions.otaInProgress = false := by
    cases busy : s.device.partitions.otaInProgress with
    | false => rfl
    | true =>
      obtain ⟨i, transfer⟩ := released busy
      exact absurd transfer (idle i)
  rw [otaSessionBegin_of_admissible exclusive.initialised known admissible, otaBegin_of_free exclusive.ready free]
  simp [begins]

/-- The state after the initialisations: no session in TRANSFER and no flash update in progress. -/
structure SessionsIdle (s : OtaSystem ι σ β) : Prop where
  initialised : s.device.sessionInitialised = true
  ready : s.device.partitions.Ready
  free : s.device.partitions.otaInProgress = false
  idle : ∀ i, ¬Transferring s i

omit [DecidableEq ι] in
theorem SessionsIdle.exclusive (start : SessionsIdle s) : Exclusive s :=
  ⟨start.initialised, start.ready, fun i transfer => absurd transfer (start.idle i),
    fun i _ transfer => absurd transfer (start.idle i)⟩

omit [DecidableEq ι] in
theorem SessionsIdle.released (start : SessionsIdle s) : Released s := by
  intro busy
  rw [start.free] at busy
  cases busy

/-- In a run without a leaking call every state with no session in TRANSFER can start a new session; after a leaking
call no session is in TRANSFER again and no later begin succeeds. -/
theorem restartable_unless_leaked (start : SessionsIdle s) (ops : List (SessionOp ι)) :
    (Run.EachStep (fun s op => ¬Leaks backend s op) (sessionStep storage backend) s ops →
      Run.Always (fun s => (∀ i, ¬Transferring s i) → Restartable backend s) (sessionStep storage backend) s ops) ∧
    ∀ before op after, ops = before ++ op :: after →
      Leaks backend (Run.finalState (sessionStep storage backend) s before) op →
      (∀ i, ¬Transferring (Run.finalState (sessionStep storage backend) s ops) i) ∧
      ∀ ctx manifest,
        (otaSessionBegin backend (Run.finalState (sessionStep storage backend) s ops).device ctx manifest).2.2 ≠ .ok := by
  constructor
  · intro tight
    refine Run.always_of_eachStep (J := fun s => Exclusive s ∧ Released s) ⟨start.exclusive, start.released⟩ ?_ ?_ tight
    · rintro s ⟨exclusive, released⟩ idle
      exact released.restartable exclusive idle
    · rintro s op ⟨exclusive, released⟩ tight
      exact ⟨sessionStep_exclusive exclusive, sessionStep_released exclusive released tight⟩
  · rintro before op after rfl leaks
    have exclusive : Exclusive (Run.finalState (sessionStep storage backend) s before) :=
      Run.finalState_invariant start.exclusive (fun _ _ => sessionStep_exclusive) before
    rw [Run.finalState_append]
    have stuck : Exclusive (Run.finalState (sessionStep storage backend)
        (Run.finalState (sessionStep storage backend) s before) (op :: after)) ∧
        Stuck (Run.finalState (sessionStep storage backend)
          (Run.finalState (sessionStep storage backend) s before) (op :: after)) := by
      apply Run.finalState_invariant (P := fun s => Exclusive s ∧ Stuck s)
        ⟨sessionStep_exclusive exclusive, sessionStep_stuck_of_leak exclusive leaks⟩
      rintro s op ⟨exclusive, stuck⟩
      exact ⟨sessionStep_exclusive exclusive, sessionStep_stuck exclusive stuck⟩
    exact ⟨stuck.2.2, stuck.2.begin_fails⟩

end Runs

def sampleSystem : OtaSystem (Fin 2) (Option PersistedIdentity) (FlashSlot → MockSlot) :=
  { device := sampleDevice, contexts := fun _ => zeroContext }

theorem sampleSystem_idle : SessionsIdle sampleSystem := by
  refine ⟨rfl, ⟨rfl, rfl⟩, rfl, fun i => ?_⟩
  simp [Transferring, sampleSystem, zeroContext]

/-- One update that completes: the device can begin another session. -/
theorem restartable_after_update :
    Run.Always (fun s => (∀ i, ¬Transferring s i) → Restartable mockBackend s)
      (sessionStep (some ramIdentityStorage) mockBackend) sampleSystem
      [.begin 0 (sampleManifest 200), .chunk 0 sampleChunk] := by
  refine (restartable_unless_leaked sampleSystem_idle _).1 ⟨?_, ?_, trivial⟩
  · exact sampleSystem_idle.idle 0
  · rintro ⟨-, -, failed⟩
    exact absurd failed (by decide +kernel)

/-- One session that is begun and aborted: no session is in TRANSFER, and yet the next begin is refused although the
manifest is admissible and the backend would begin. -/
theorem abort_blocks_restart :
    ¬Run.Always (fun s => (∀ i, ¬Transferring s i) → Restartable mockBackend s)
      (sessionStep (some ramIdentityStorage) mockBackend) sampleSystem [.begin 0 (sampleManifest 200), .abort 0] := by
  intro always
  have idle : ∀ i, ¬Transferring (Run.finalState (sessionStep (some ramIdentityStorage) mockBackend) sampleSystem
      [.begin 0 (sampleManifest 200), .abort 0]) i := by
    unfold Transferring
    decide +kernel
  have restarted := always 2 idle zeroContext (sampleManifest 201) sampleIdentity rfl
    ⟨by decide, by decide, by decide⟩ rfl
  exact absurd restarted (by decide +kernel)

end IotPlatform
