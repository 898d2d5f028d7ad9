import IotPlatform.Lib.Fifo
import IotPlatform.Lib.Binary32

/-!
# Network resilience

`net_resilience.c`: the offline queue, the pressure level that throttles publishing, and the reconnection delay.
-/

namespace IotPlatform
open Run Fifo

abbrev offlineQueueMaxRecords : Nat := 512

def reconnectMaxDelayMs : UInt32 := 300000

def reconnectBaseDelayMs : UInt32 := 1000

def reconnectMultiplier : UInt32 := 2

structure OfflineRecord where
  timestampMs : UInt32 := 0
  nodeId : UInt8 := 0
  metricId : UInt8 := 0
  value : Binary32 := ⟨0⟩
  valid : Bool := false
  deriving DecidableEq

structure OfflineQueue where
  records : Nat → OfflineRecord := fun _ => {}
  head : UInt16 := 0
  count : UInt16 := 0
  overflow : Bool := false

inductive BackpressureLevel where
  | ok | moderate | high | critical
  deriving DecidableEq, Repr

structure ReconnectStrategy where
  attempt : UInt32 := 0
  delayMs : UInt32 := 0
  maxDelayMs : UInt32 := 0
  waiting : Bool := false

structure NetResilienceContext where
  queue : OfflineQueue := {}
  reconnect : ReconnectStrategy := {}
  pressure : BackpressureLevel := .ok
  cloudPublishRateMs : UInt32 := 0
  lastPublishMs : UInt32 := 0
  cloudConnected : Bool := false
  initialized : Bool := false

def netResilienceInit : NetResilienceContext :=
  { reconnect := { maxDelayMs := reconnectMaxDelayMs, delayMs := reconnectBaseDelayMs }
    pressure := .ok
    cloudConnected := true
    initialized := true }

def netResilienceEnqueue (ctx : NetResilienceContext) (record : OfflineRecord) : NetResilienceContext × Bool :=
  if !ctx.initialized then (ctx, false)
  else if ctx.queue.count.toNat ≥ offlineQueueMaxRecords then
    ({ ctx with queue := { ctx.queue with overflow := true } }, false)
  else
    let slot := (ctx.queue.head.toNat + ctx.queue.count.toNat) % offlineQueueMaxRecords
    ({ ctx with queue := { ctx.queue with
        records := Function.update ctx.queue.records slot record, count := ctx.queue.count + 1 } }, true)

def netResilienceDequeue (ctx : NetResilienceContext) : NetResilienceContext × Option OfflineRecord :=
  if !ctx.initialized then (ctx, none)
  else if ctx.queue.count = 0 then (ctx, none)
  else
    ({ ctx with queue := { ctx.queue with
        head := UInt16.ofNat ((ctx.queue.head.toNat + 1) % offlineQueueMaxRecords), count := ctx.queue.count - 1 } },
      some (ctx.queue.records ctx.queue.head.toNat))

def netResilienceQueueCount (ctx : NetResilienceContext) : UInt16 := if !ctx.initialized then 0 else ctx.queue.count

def netResilienceQueueOverflowed (ctx : NetResilienceContext) : Bool :=
  if !ctx.initialized then false else ctx.queue.overflow

def netResilienceUpdateConnection (ctx : NetResilienceContext) (connected : Bool) (freeHeap : UInt32) :
    NetResilienceContext × BackpressureLevel :=
  if !ctx.initialized then (ctx, .critical)
  else
    let pressure :=
      if !connected then .high
      else if freeHeap < 10240 then .critical
      else if freeHeap < 32768 then .high
      else if freeHeap < 65536 then .moderate
      else .ok
    ({ ctx with cloudConnected := connected, pressure := pressure }, pressure)

def netResilienceCanPublish (ctx : NetResilienceContext) (nowMs : UInt32) : Bool :=
  if !ctx.initialized then false
  else if !ctx.cloudConnected then false
  else
    let allowed (interval : UInt32) : Bool := nowMs - ctx.lastPublishMs ≥ if interval = 0 then 1000 else interval
    match ctx.pressure with
    | .critical => false
    | .high => false
    | .moderate => allowed (ctx.cloudPublishRateMs * 4)
    | .ok => allowed ctx.cloudPublishRateMs

def netResilienceReportPublish (ctx : NetResilienceContext) (nowMs : UInt32) : NetResilienceContext :=
  if !ctx.initialized then ctx else { ctx with lastPublishMs := nowMs }

def netResilienceReportReconnectFail (ctx : NetResilienceContext) : NetResilienceContext :=
  if !ctx.initialized then ctx
  else
    let delayMs := ctx.reconnect.delayMs * reconnectMultiplier
    { ctx with reconnect := { ctx.reconnect with
        attempt := ctx.reconnect.attempt + 1
        delayMs := if delayMs > ctx.reconnect.maxDelayMs then ctx.reconnect.maxDelayMs else delayMs
        waiting := true } }

def netResilienceReportReconnectSuccess (ctx : NetResilienceContext) : NetResilienceContext :=
  if !ctx.initialized then ctx
  else
    { ctx with
      reconnect := { ctx.reconnect with attempt := 0, delayMs := reconnectBaseDelayMs, waiting := false }
      cloudConnected := true }

/-! ### The queue is a bounded FIFO -/

/-- A call on the queue and its answer. -/
def offlineQueueStep (ctx : NetResilienceContext) : Op OfflineRecord → NetResilienceContext × Answer OfflineRecord
  | .enqueue record =>
    let (ctx, stored) := netResilienceEnqueue ctx record
    (ctx, if stored then .accepted else .refused)
  | .dequeue =>
    match netResilienceDequeue ctx with
    | (ctx, none) => (ctx, .empty)
    | (ctx, some record) => (ctx, .dequeued record)

structure QueueHolds (ctx : NetResilienceContext) (records : List OfflineRecord) : Prop where
  ready : ctx.initialized = true
  ring : Queues offlineQueueMaxRecords ctx.queue.head.toNat ctx.queue.records records
  count : ctx.queue.count.toNat = records.length

theorem netResilienceInit_holds : QueueHolds netResilienceInit [] :=
  ⟨rfl, Queues.nil _ (by decide), rfl⟩

section Calls

variable {ctx : NetResilienceContext} {records : List OfflineRecord}

theorem QueueHolds.length_le (holds : QueueHolds ctx records) : records.length ≤ offlineQueueMaxRecords :=
  holds.ring.2.fits

theorem QueueHolds.enqueue_room (holds : QueueHolds ctx records) (room : records.length < offlineQueueMaxRecords)
    (record : OfflineRecord) :
    (netResilienceEnqueue ctx record).2 = true ∧
      QueueHolds (netResilienceEnqueue ctx record).1 (records ++ [record]) ∧
      (netResilienceEnqueue ctx record).1.queue.overflow = ctx.queue.overflow := by
  have notFull : ¬ctx.queue.count.toNat ≥ offlineQueueMaxRecords := by
    rw [holds.count]
    omega
  have called : netResilienceEnqueue ctx record =
      ({ ctx with queue := { ctx.queue with
          records := Function.update ctx.queue.records
            ((ctx.queue.head.toNat + ctx.queue.count.toNat) % offlineQueueMaxRecords) record
          count := ctx.queue.count + 1 } }, true) := by
    simp [netResilienceEnqueue, holds.ready, notFull]
  rw [called]
  refine ⟨rfl, ⟨holds.ready, ?_, ?_⟩, rfl⟩
  · rw [holds.count]
    exact holds.ring.enqueue room record
  · show (ctx.queue.count + 1).toNat = (records ++ [record]).length
    have small : offlineQueueMaxRecords < 2 ^ 16 := by decide
    rw [UInt16.toNat_add, holds.count, List.length_append, List.length_singleton, UInt16.toNat_one]
    omega

theorem QueueHolds.enqueue_full (holds : QueueHolds ctx records) (full : records.length = offlineQueueMaxRecords)
    (record : OfflineRecord) :
    (netResilienceEnqueue ctx record).2 = false ∧ QueueHolds (netResilienceEnqueue ctx record).1 records ∧
      (netResilienceEnqueue ctx record).1.queue.overflow = true := by
  have isFull : ctx.queue.count.toNat ≥ offlineQueueMaxRecords := by
    rw [holds.count]
    omega
  have called : netResilienceEnqueue ctx record = ({ ctx with queue := { ctx.queue with overflow := true } }, false) := by
    simp [netResilienceEnqueue, holds.ready, isFull]
  rw [called]
  exact ⟨rfl, ⟨holds.ready, holds.ring, holds.count⟩, rfl⟩

theorem QueueHolds.dequeue_empty (holds : QueueHolds ctx []) : netResilienceDequeue ctx = (ctx, none) := by
  have empty : ctx.queue.count = 0 := UInt16.toNat_inj.mp holds.count
  simp [netResilienceDequeue, holds.ready, empty]

theorem QueueHolds.dequeue_cons {record : OfflineRecord} (holds : QueueHolds ctx (record :: records)) :
    (netResilienceDequeue ctx).2 = some record ∧ QueueHolds (netResilienceDequeue ctx).1 records ∧
      (netResilienceDequeue ctx).1.queue.overflow = ctx.queue.overflow := by
  have count := holds.count
  have fits := holds.length_le
  rw [List.length_cons] at count fits
  have used : ctx.queue.count ≠ 0 := by
    intro zero
    rw [zero] at count
    cases count
  have called : netResilienceDequeue ctx =
      ({ ctx with queue := { ctx.queue with
          head := UInt16.ofNat ((ctx.queue.head.toNat + 1) % offlineQueueMaxRecords), count := ctx.queue.count - 1 } },
        some (ctx.queue.records ctx.queue.head.toNat)) := by
    simp [netResilienceDequeue, holds.ready, used]
  rw [called]
  refine ⟨congrArg some holds.ring.oldest, ⟨holds.ready, ?_, ?_⟩, rfl⟩
  · have next : (UInt16.ofNat ((ctx.queue.head.toNat + 1) % offlineQueueMaxRecords)).toNat =
        (ctx.queue.head.toNat + 1) % offlineQueueMaxRecords :=
      UInt16.toNat_ofNat_of_lt (Nat.lt_trans (Nat.mod_lt _ (by decide)) (by decide))
    show Queues _ (UInt16.ofNat _).toNat _ _
    rw [next]
    exact holds.ring.dequeue
  · have one : (1 : UInt16) ≤ ctx.queue.count := by
      rw [UInt16.le_iff_toNat_le, UInt16.toNat_one]
      omega
    show (ctx.queue.count - 1).toNat = records.length
    rw [UInt16.toNat_sub_of_le _ _ one, UInt16.toNat_one]
    omega

end Calls

/-- One call answers as the list does, and marks the overflow when it refuses. -/
theorem offlineQueueStep_refines {ctx : NetResilienceContext} {records : List OfflineRecord} (holds : QueueHolds ctx records)
    (op : Op OfflineRecord) :
    (offlineQueueStep ctx op).2 = (Fifo.step offlineQueueMaxRecords records op).2 ∧
      QueueHolds (offlineQueueStep ctx op).1 (Fifo.step offlineQueueMaxRecords records op).1 ∧
      ((offlineQueueStep ctx op).1.queue.overflow = true ↔
        ctx.queue.overflow = true ∨ (offlineQueueStep ctx op).2 = .refused) := by
  cases op with
  | enqueue record =>
    by_cases room : records.length < offlineQueueMaxRecords
    · obtain ⟨stored, after, kept⟩ := holds.enqueue_room room record
      refine ⟨?_, ?_, ?_⟩
      · simp [offlineQueueStep, Fifo.step, stored, room]
      · rw [Fifo.step, if_pos room]
        exact after
      · simp [offlineQueueStep, stored, kept]
    · have full := Nat.le_antisymm holds.length_le (Nat.le_of_not_lt room)
      obtain ⟨dropped, after, marked⟩ := holds.enqueue_full full record
      refine ⟨?_, ?_, ?_⟩
      · simp [offlineQueueStep, Fifo.step, dropped, room]
      · rw [Fifo.step, if_neg room]
        exact after
      · simp [offlineQueueStep, dropped, marked]
  | dequeue =>
    cases records with
    | nil =>
      have called : offlineQueueStep ctx .dequeue = (ctx, .empty) := by rw [offlineQueueStep, holds.dequeue_empty]
      rw [called]
      exact ⟨rfl, holds, by simp⟩
    | cons record rest =>
      obtain ⟨taken, after, kept⟩ := holds.dequeue_cons
      have called : offlineQueueStep ctx .dequeue = ((netResilienceDequeue ctx).1, .dequeued record) := by
        have whole : netResilienceDequeue ctx = ((netResilienceDequeue ctx).1, some record) := Prod.ext rfl taken
        rw [offlineQueueStep, whole]
      rw [called]
      exact ⟨rfl, after, by simp [kept]⟩

theorem offlineQueue_overflow (ops : List (Op OfflineRecord)) :
    (finalState offlineQueueStep netResilienceInit ops).queue.overflow = true ↔
      .refused ∈ outputs offlineQueueStep netResilienceInit ops := by
  let Kept : NetResilienceContext → List (Answer OfflineRecord) → Prop := fun ctx answers =>
    (∃ records, QueueHolds ctx records) ∧ (ctx.queue.overflow = true ↔ .refused ∈ answers)
  have start : Kept netResilienceInit [] := ⟨⟨[], netResilienceInit_holds⟩, by simp [netResilienceInit]⟩
  have keeps : ∀ ctx answers op, Kept ctx answers →
      Kept (offlineQueueStep ctx op).1 (answers ++ [(offlineQueueStep ctx op).2]) := by
    rintro ctx answers op ⟨⟨records, holds⟩, before⟩
    obtain ⟨-, after, marks⟩ := offlineQueueStep_refines holds op
    refine ⟨⟨_, after⟩, ?_⟩
    rw [marks, before, List.mem_append, List.mem_singleton]
    exact or_congr_right eq_comm
  exact (history_invariant start keeps ops).2

/-- The answers and the count are those of a list of at most 512 records that keeps every record it accepted, in order,
until it is taken; the overflow is reported exactly when a record was refused. -/
theorem offline_queue_fifo (ops : List (Op OfflineRecord)) :
    let ctx := finalState offlineQueueStep netResilienceInit ops
    let answers := outputs offlineQueueStep netResilienceInit ops
    let queued := finalState (Fifo.step offlineQueueMaxRecords) [] ops
    answers = outputs (Fifo.step offlineQueueMaxRecords) [] ops ∧
      (netResilienceQueueCount ctx).toNat = queued.length ∧
      (ops.zip answers).filterMap acceptedOf = answers.filterMap dequeuedOf ++ queued ∧
      (netResilienceQueueOverflowed ctx = true ↔ .refused ∈ answers) := by
  intro ctx answers queued
  obtain ⟨same, holds⟩ := simulation (R := QueueHolds) netResilienceInit_holds
    (fun ctx records op related =>
      ⟨(offlineQueueStep_refines related op).1, (offlineQueueStep_refines related op).2.1⟩) ops
  refine ⟨same, ?_, ?_, ?_⟩
  · rw [netResilienceQueueCount, holds.ready]
    exact holds.count
  · show (ops.zip (outputs _ _ _)).filterMap acceptedOf = (outputs _ _ _).filterMap dequeuedOf ++ _
    rw [same]
    exact conservation [] ops
  · rw [netResilienceQueueOverflowed, holds.ready]
    exact offlineQueue_overflow ops

/-! ### Pressure and connection -/

inductive ConnectionOp where
  | updateConnection (connected : Bool) (freeHeap : UInt32)
  | reportReconnectFail
  | reportReconnectSuccess
  | reportPublish (nowMs : UInt32)

/-- The context and the free heap reported last. -/
structure ConnectionLedger where
  ctx : NetResilienceContext := netResilienceInit
  lastHeap : Option UInt32 := none

def connectionStep (l : ConnectionLedger) : ConnectionOp → ConnectionLedger × Unit
  | .updateConnection connected freeHeap =>
    ({ ctx := (netResilienceUpdateConnection l.ctx connected freeHeap).1, lastHeap := some freeHeap }, ())
  | .reportReconnectFail => ({ l with ctx := netResilienceReportReconnectFail l.ctx }, ())
  | .reportReconnectSuccess => ({ l with ctx := netResilienceReportReconnectSuccess l.ctx }, ())
  | .reportPublish nowMs => ({ l with ctx := netResilienceReportPublish l.ctx nowMs }, ())

/-- The pressure that the memory alone asks for. -/
def heapPressure : Option UInt32 → BackpressureLevel
  | none => .ok
  | some freeHeap =>
    if freeHeap < 10240 then .critical
    else if freeHeap < 32768 then .high
    else if freeHeap < 65536 then .moderate
    else .ok

def PressureFollowsHeap (l : ConnectionLedger) : Prop :=
  l.ctx.cloudConnected = true → l.ctx.pressure = heapPressure l.lastHeap

/-- A reconnection reported to a client that is connected, or whose memory asks for the pressure of a lost connection. -/
def ReconnectHarmless (l : ConnectionLedger) : ConnectionOp → Prop
  | .reportReconnectSuccess => l.ctx.cloudConnected = true ∨ heapPressure l.lastHeap = .high
  | _ => True

structure ConnectionLedger.Tracked (l : ConnectionLedger) : Prop where
  ready : l.ctx.initialized = true
  connected : PressureFollowsHeap l
  disconnected : l.ctx.cloudConnected = false → l.ctx.pressure = .high

theorem startConnection_tracked : ({} : ConnectionLedger).Tracked :=
  ⟨rfl, fun _ => rfl, fun lost => absurd lost (by decide)⟩

theorem connectionStep_tracked (l : ConnectionLedger) (op : ConnectionOp) (tracked : l.Tracked)
    (harmless : ReconnectHarmless l op) : (connectionStep l op).1.Tracked := by
  obtain ⟨ready, connected, disconnected⟩ := tracked
  cases op with
  | updateConnection up freeHeap => cases up <;> constructor <;>
      simp [connectionStep, netResilienceUpdateConnection, PressureFollowsHeap, heapPressure, ready]
  | reportReconnectFail =>
    rw [connectionStep, netResilienceReportReconnectFail, ready]
    exact ⟨rfl, connected, disconnected⟩
  | reportReconnectSuccess =>
    rw [connectionStep, netResilienceReportReconnectSuccess, ready]
    refine ⟨rfl, fun _ => ?_, fun lost => absurd lost (by simp)⟩
    cases up : l.ctx.cloudConnected with
    | true => exact connected up
    | false =>
      have high : heapPressure l.lastHeap = .high := harmless.resolve_left (by simp [up])
      exact (disconnected up).trans high.symm
  | reportPublish nowMs =>
    rw [connectionStep, netResilienceReportPublish, ready]
    exact ⟨rfl, connected, disconnected⟩

theorem reconnectHarmless_of_follows (l : ConnectionLedger) (op : ConnectionOp) (tracked : l.Tracked)
    (follows : PressureFollowsHeap (connectionStep l op).1) : ReconnectHarmless l op := by
  cases op with
  | reportReconnectSuccess =>
    cases up : l.ctx.cloudConnected with
    | true => exact .inl up
    | false =>
      rw [connectionStep, netResilienceReportReconnectSuccess, tracked.ready] at follows
      exact .inr ((follows rfl).symm.trans (tracked.disconnected up))
  | _ => trivial

/-- The pressure of a connected client is the one its memory asks for throughout a run, exactly when every reconnection
reported comes to a client that is connected or short of memory. -/
theorem pressure_follows_heap_exact (ops : List ConnectionOp) :
    Always PressureFollowsHeap connectionStep {} ops ↔ EachStep ReconnectHarmless connectionStep {} ops :=
  always_iff_eachStep startConnection_tracked (fun _ tracked => tracked.connected) connectionStep_tracked
    reconnectHarmless_of_follows ops

/-- A client that lost its connection and got it back has memory and may never publish. -/
theorem reconnected_never_publishes :
    let ops : List ConnectionOp := [.updateConnection false 200000, .reportReconnectSuccess]
    ¬Always PressureFollowsHeap connectionStep {} ops ∧
      ∀ nowMs, netResilienceCanPublish (finalState connectionStep {} ops).ctx nowMs = false := by
  refine ⟨fun follows => ?_, fun nowMs => rfl⟩
  have last := follows 2 rfl
  revert last
  decide

end IotPlatform
