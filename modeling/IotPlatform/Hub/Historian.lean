import Mathlib.Logic.Function.Basic
import IotPlatform.Lib.Bytes
import IotPlatform.Lib.Binary32
import IotPlatform.Shared.AesCcm

/-!
# The historian

`historian.c`: a ring of encrypted records with age and capacity eviction, and batched appends to a storage
backend. AES-128-CCM comes from mbedTLS and the storage callbacks from the platform; both are parameters.
-/

namespace IotPlatform
open Bytes

structure HistorianRecord where
  timestampMs : UInt64
  value : Binary32
  sequence : UInt32
  nodeId : UInt16
  metricId : UInt8
  domainProfileId : UInt8
  reserved : UInt32
  deriving DecidableEq, Repr

/-- The packed little-endian image of a record; `reserved[4]` is read as one 32-bit word. -/
def encodeRecord (r : HistorianRecord) : List UInt8 :=
  leBytes 8 r.timestampMs.toNat ++ leBytes 4 r.value.bits.toNat ++ leBytes 4 r.sequence.toNat ++
    leBytes 2 r.nodeId.toNat ++ [r.metricId, r.domainProfileId] ++ leBytes 4 r.reserved.toNat

def decodeRecord (bytes : List UInt8) : HistorianRecord :=
  { timestampMs := UInt64.ofNat (leNat (bytes.take 8))
    value := ⟨UInt32.ofNat (leNat ((bytes.drop 8).take 4))⟩
    sequence := UInt32.ofNat (leNat ((bytes.drop 12).take 4))
    nodeId := UInt16.ofNat (leNat ((bytes.drop 16).take 2))
    metricId := bytes.getD 18 0
    domainProfileId := bytes.getD 19 0
    reserved := UInt32.ofNat (leNat ((bytes.drop 20).take 4)) }

/-! ### Encryption at rest -/

abbrev HistorianKey := Vector UInt8 16

def historianRecordSize : Nat := 24

/-- `HISTORIAN_CCM_NONCE_SIZE` bytes: index and counter in big-endian order, then zeros. -/
def buildNonce (recordIndex counter : UInt32) : List UInt8 :=
  (leBytes 4 recordIndex.toNat).reverse ++ (leBytes 4 counter.toNat).reverse ++ List.replicate 5 0

def encryptRecord (ccm : Ccm) (key : Option HistorianKey) (ringIndex counter : UInt32) (plaintext : HistorianRecord) :
    Option (List UInt8) :=
  key.bind fun key =>
    (ccm.encryptAndTag key (buildNonce ringIndex counter) (encodeRecord plaintext)).map fun (ciphertext, tag) =>
      ciphertext ++ tag

def decryptRecord (ccm : Ccm) (key : Option HistorianKey) (ringIndex counter : UInt32) (ondisk : List UInt8) :
    Option HistorianRecord :=
  key.bind fun key =>
    (ccm.authDecrypt key (buildNonce ringIndex counter) (ondisk.take historianRecordSize)
      (ondisk.drop historianRecordSize)).map decodeRecord

/-! ### State -/

/-- `HISTORIAN_CAPACITY`, chosen when the firmware is built. -/
structure HistorianCapacity where
  size : UInt32
  pos : 0 < size.toNat
  bounded : size.toNat ≤ 2 ^ 31

def defaultHistorianCapacity : HistorianCapacity := ⟨16384, by decide, by decide⟩

def historianOndiskRecordSize : Nat := 40

def historian30DayMs : UInt64 := 30 * 24 * 60 * 60 * 1000

def historianFlushIntervalMs : UInt64 := 60 * 1000

def historianPendingMax : UInt32 := 64

structure HistorianStats where
  recordsWritten : UInt32 := 0
  recordsEvicted : UInt32 := 0
  writeErrors : UInt32 := 0
  readErrors : UInt32 := 0
  encErrors : UInt32 := 0
  decErrors : UInt32 := 0
  deriving DecidableEq, Repr

structure LoadResult where
  ok : Bool
  records : Nat → List UInt8
  count : UInt32
  writeIndex : UInt32

/-- The callbacks of a backend with state `σ`; `none` is a null function pointer. -/
structure HistorianStorage (σ : Type) where
  append : Option ((flash : σ) → (index : UInt32) → (record : List UInt8) → (count writeIndex : UInt32) → σ × Bool)
  load : Option ((flash : σ) → (records : Nat → List UInt8) → (maxRecords : UInt32) → LoadResult)

/-- The statics of the module, and the state of the backend. -/
structure Historian (σ : Type) where
  ring : Nat → List UInt8
  writeIndex : UInt32
  count : UInt32
  pendingStart : UInt32
  pendingCount : UInt32
  lastFlushMs : UInt64
  key : Option HistorianKey
  stats : HistorianStats
  initialised : Bool
  flash : σ

section Operations

variable {σ : Type} (capacity : HistorianCapacity) (ccm : Ccm) (storage : Option (HistorianStorage σ))

def zeroRing : Nat → List UInt8 := fun _ => List.replicate historianOndiskRecordSize 0

def historianInit (s : Historian σ) : Historian σ :=
  let cleared : Historian σ :=
    { s with
      ring := zeroRing, writeIndex := 0, count := 0, pendingStart := 0, pendingCount := 0, lastFlushMs := 0
      stats := {}, initialised := true }
  match storage.bind HistorianStorage.load with
  | none => cleared
  | some load =>
    let loaded := load s.flash zeroRing capacity.size
    -- The callback fills the ring in place, whatever it returns.
    let filled := { cleared with ring := loaded.records }
    if loaded.ok then
      if loaded.count ≤ capacity.size then
        { filled with count := loaded.count, writeIndex := loaded.writeIndex % capacity.size }
      else filled
    else filled

def historianSetKey (s : Historian σ) (key : HistorianKey) : Historian σ := { s with key := some key }

def historianBufferForFlush (s : Historian σ) (ringIndex : UInt32) : Historian σ :=
  { s with
    pendingStart := if s.pendingCount = 0 then ringIndex else s.pendingStart
    pendingCount := s.pendingCount + 1 }

/-- The append loop of `historian_flush`: `remaining` records from offset `i` of the pending range. -/
def appendPending (append : σ → UInt32 → List UInt8 → UInt32 → UInt32 → σ × Bool) :
    (remaining : Nat) → (i : UInt32) → Historian σ → Historian σ
  | 0, _, s => s
  | remaining + 1, i, s =>
    let pos := (s.pendingStart + i) % capacity.size
    let (flash, ok) := append s.flash pos (s.ring pos.toNat) s.count s.writeIndex
    let stats := if ok then s.stats else { s.stats with writeErrors := s.stats.writeErrors + 1 }
    appendPending append remaining (i + 1) { s with flash := flash, stats := stats }

def historianFlush (s : Historian σ) (currentMs : UInt64) : Historian σ :=
  if !s.initialised then s
  else if s.pendingCount = 0 then s
  else
    match storage.bind HistorianStorage.append with
    | none => s
    | some append =>
      { appendPending capacity append s.pendingCount.toNat 0 s with
        pendingCount := 0, pendingStart := 0, lastFlushMs := currentMs }

def historianAutoFlush (s : Historian σ) (currentMs : UInt64) : Historian σ :=
  if s.pendingCount ≥ historianPendingMax then historianFlush capacity storage s currentMs
  else if s.lastFlushMs > 0 ∧ currentMs - s.lastFlushMs ≥ historianFlushIntervalMs then
    historianFlush capacity storage s currentMs
  else s

def oldestPos (s : Historian σ) : UInt32 := (s.writeIndex - s.count + capacity.size) % capacity.size

def tooOld (currentMs : UInt64) (r : HistorianRecord) : Bool :=
  currentMs > 0 && r.timestampMs > 0 && currentMs - r.timestampMs > historian30DayMs

def evictOldest (s : Historian σ) : Historian σ :=
  { s with count := s.count - 1, stats := { s.stats with recordsEvicted := s.stats.recordsEvicted + 1 } }

/-- The first loop of `historian_evict`, which takes one record a round. -/
def evictByAge (currentMs : UInt64) : (records : Nat) → Historian σ → Historian σ
  | 0, s => s
  | records + 1, s =>
    let pos := oldestPos capacity s
    match decryptRecord ccm s.key pos pos (s.ring pos.toNat) with
    | some oldest => if tooOld currentMs oldest then evictByAge currentMs records (evictOldest s) else s
    | none =>
      let evicted := evictOldest s
      evictByAge currentMs records { evicted with stats := { evicted.stats with decErrors := evicted.stats.decErrors + 1 } }

def evictByCapacity : (records : Nat) → Historian σ → Historian σ
  | 0, s => s
  | records + 1, s => if s.count ≥ capacity.size then evictByCapacity records (evictOldest s) else s

def historianEvict (s : Historian σ) (currentMs : UInt64) : Historian σ :=
  let aged := evictByAge capacity ccm currentMs s.count.toNat s
  evictByCapacity capacity aged.count.toNat aged

def putRecord (s : Historian σ) (ondisk : List UInt8) : Historian σ :=
  { s with
    ring := Function.update s.ring s.writeIndex.toNat ondisk
    writeIndex := (s.writeIndex + 1) % capacity.size
    count := if s.count < capacity.size then s.count + 1 else s.count
    stats := { s.stats with recordsWritten := s.stats.recordsWritten + 1 } }

def historianWrite (s : Historian σ) (record : HistorianRecord) : Historian σ × Bool :=
  if !s.initialised then (s, false)
  else if s.key.isNone then ({ s with stats := { s.stats with writeErrors := s.stats.writeErrors + 1 } }, false)
  else
    let s := historianEvict capacity ccm s record.timestampMs
    match encryptRecord ccm s.key s.writeIndex s.writeIndex record with
    | none =>
      ({ s with stats := { s.stats with
          encErrors := s.stats.encErrors + 1, writeErrors := s.stats.writeErrors + 1 } }, false)
    | some ondisk =>
      let buffered := historianBufferForFlush (putRecord capacity s ondisk) s.writeIndex
      (historianAutoFlush capacity storage buffered record.timestampMs, true)

structure HistorianQuery where
  timeStartMs : UInt64
  timeEndMs : UInt64
  nodeId : UInt16
  metricId : UInt8

/-- The query filter; zero fields match everything, and a null query does. -/
def HistorianQuery.accepts (query : Option HistorianQuery) (r : HistorianRecord) : Bool :=
  match query with
  | none => true
  | some q =>
    !(q.timeStartMs > 0 && r.timestampMs < q.timeStartMs) && !(q.timeEndMs > 0 && r.timestampMs > q.timeEndMs) &&
      !(q.nodeId != 0 && r.nodeId != q.nodeId) && !(q.metricId != 0 && r.metricId != q.metricId)

/-- The loop of `historian_read` over `remaining` records from offset `j`, with `room` output slots left: the records
found and the number of failed decryptions. -/
def readLoop (s : Historian σ) (query : Option HistorianQuery) :
    (remaining : Nat) → (j : UInt32) → (room : Nat) → List HistorianRecord × UInt32
  | 0, _, _ => ([], 0)
  | _, _, 0 => ([], 0)
  | remaining + 1, j, room + 1 =>
    let pos := (oldestPos capacity s + j) % capacity.size
    match decryptRecord ccm s.key pos pos (s.ring pos.toNat) with
    | none =>
      let (found, failed) := readLoop s query remaining (j + 1) (room + 1)
      (found, failed + 1)
    | some r =>
      if HistorianQuery.accepts query r then
        let (found, failed) := readLoop s query remaining (j + 1) room
        (r :: found, failed)
      else readLoop s query remaining (j + 1) (room + 1)

def historianRead (s : Historian σ) (query : Option HistorianQuery) (maxRecords : UInt32) :
    Historian σ × List HistorianRecord :=
  if !s.initialised then (s, [])
  else if maxRecords = 0 then (s, [])
  else
    let (found, failed) := readLoop capacity ccm s query s.count.toNat 0 maxRecords.toNat
    ({ s with stats := { s.stats with decErrors := s.stats.decErrors + failed } }, found)

def historianCount (s : Historian σ) : UInt32 := s.count

end Operations

/-! ### What a flush can do -/

theorem historianFlush_append {σ : Type} (capacity : HistorianCapacity) {storage : HistorianStorage σ}
    {append : σ → UInt32 → List UInt8 → UInt32 → UInt32 → σ × Bool} (appends : storage.append = some append)
    {s : Historian σ} (initialised : s.initialised = true) (now : UInt64) :
    historianFlush capacity (some storage) s now =
      if s.pendingCount = 0 then s
      else
        { appendPending capacity append s.pendingCount.toNat 0 s with
          pendingCount := 0, pendingStart := 0, lastFlushMs := now } := by
  unfold historianFlush
  rw [initialised, if_neg (by decide), Option.bind_some, appends]

theorem historianAutoFlush_cases {σ : Type} (capacity : HistorianCapacity) (storage : Option (HistorianStorage σ))
    (s : Historian σ) (now : UInt64) :
    historianAutoFlush capacity storage s now = historianFlush capacity storage s now ∨
      historianAutoFlush capacity storage s now = s ∧ s.pendingCount.toNat < 64 := by
  unfold historianAutoFlush
  split
  · exact .inl rfl
  · rename_i few
    split
    · exact .inl rfl
    · rw [ge_iff_le, UInt32.le_iff_toNat_le, Nat.not_le] at few
      exact .inr ⟨rfl, few⟩

/-! ### What eviction can do -/

section Eviction

variable {σ : Type} (capacity : HistorianCapacity) (ccm : Ccm)

/-- Eviction lowers the count and touches nothing else but the statistics, which count what it evicts. -/
structure Evicts (s s' : Historian σ) : Prop where
  ring : s'.ring = s.ring
  writeIndex : s'.writeIndex = s.writeIndex
  pendingStart : s'.pendingStart = s.pendingStart
  pendingCount : s'.pendingCount = s.pendingCount
  key : s'.key = s.key
  initialised : s'.initialised = s.initialised
  flash : s'.flash = s.flash
  count_le : s'.count.toNat ≤ s.count.toNat
  written : s'.stats.recordsWritten = s.stats.recordsWritten
  accounted : s'.count + s'.stats.recordsEvicted = s.count + s.stats.recordsEvicted

theorem Evicts.refl (s : Historian σ) : Evicts s s := ⟨rfl, rfl, rfl, rfl, rfl, rfl, rfl, Nat.le_refl _, rfl, rfl⟩

theorem Evicts.trans {s₁ s₂ s₃ : Historian σ} (first : Evicts s₁ s₂) (second : Evicts s₂ s₃) : Evicts s₁ s₃ where
  ring := second.ring.trans first.ring
  writeIndex := second.writeIndex.trans first.writeIndex
  pendingStart := second.pendingStart.trans first.pendingStart
  pendingCount := second.pendingCount.trans first.pendingCount
  key := second.key.trans first.key
  initialised := second.initialised.trans first.initialised
  flash := second.flash.trans first.flash
  count_le := second.count_le.trans first.count_le
  written := second.written.trans first.written
  accounted := second.accounted.trans first.accounted

theorem evictOldest_count {s : Historian σ} {n : Nat} (counted : s.count.toNat = n + 1) :
    (evictOldest s).count.toNat = n := by
  have one_le : 1 ≤ s.count := UInt32.le_iff_toNat_le.mpr (by rw [counted, UInt32.toNat_one]; omega)
  change (s.count - 1).toNat = n
  rw [UInt32.toNat_sub_of_le _ _ one_le, counted, UInt32.toNat_one, Nat.add_sub_cancel]

theorem evictOldest_evicts {s : Historian σ} {n : Nat} (counted : s.count.toNat = n + 1) : Evicts s (evictOldest s) := by
  have count_le : (evictOldest s).count.toNat ≤ s.count.toNat := by
    rw [evictOldest_count counted, counted]
    exact Nat.le_succ n
  refine ⟨rfl, rfl, rfl, rfl, rfl, rfl, rfl, count_le, rfl, ?_⟩
  change s.count - 1 + (s.stats.recordsEvicted + 1) = s.count + s.stats.recordsEvicted
  rw [UInt32.add_comm s.stats.recordsEvicted 1, ← UInt32.add_assoc, UInt32.sub_add_cancel]

theorem evictByAge_evicts (now : UInt64) {n : Nat} {s : Historian σ} (counted : s.count.toNat = n) :
    Evicts s (evictByAge capacity ccm now n s) := by
  induction n generalizing s with
  | zero => exact Evicts.refl s
  | succ n ih =>
    have evicts := evictOldest_evicts counted
    have after := evictOldest_count counted
    rw [evictByAge]
    dsimp only
    split
    · split
      · exact evicts.trans (ih after)
      · exact Evicts.refl s
    · have corrupt : Evicts s { evictOldest s with
          stats := { (evictOldest s).stats with decErrors := (evictOldest s).stats.decErrors + 1 } } :=
        ⟨rfl, rfl, rfl, rfl, rfl, rfl, rfl, evicts.count_le, rfl, evicts.accounted⟩
      exact corrupt.trans (ih after)

theorem evictByCapacity_evicts {n : Nat} {s : Historian σ} (counted : s.count.toNat = n) :
    Evicts s (evictByCapacity capacity n s) ∧ (evictByCapacity capacity n s).count.toNat < capacity.size.toNat := by
  induction n generalizing s with
  | zero => exact ⟨Evicts.refl s, by rw [evictByCapacity, counted]; exact capacity.pos⟩
  | succ n ih =>
    rw [evictByCapacity]
    split
    · obtain ⟨evicts, below⟩ := ih (evictOldest_count counted)
      exact ⟨(evictOldest_evicts counted).trans evicts, below⟩
    · rename_i room
      rw [ge_iff_le, UInt32.le_iff_toNat_le, Nat.not_le] at room
      exact ⟨Evicts.refl s, room⟩

theorem historianEvict_evicts (s : Historian σ) (now : UInt64) :
    Evicts s (historianEvict capacity ccm s now) ∧ (historianEvict capacity ccm s now).count.toNat < capacity.size.toNat := by
  have aged : Evicts s (evictByAge capacity ccm now s.count.toNat s) := evictByAge_evicts capacity ccm now rfl
  obtain ⟨evicts, below⟩ := evictByCapacity_evicts capacity (s := evictByAge capacity ccm now s.count.toNat s) rfl
  exact ⟨aged.trans evicts, below⟩

theorem putRecord_indices {capacity : HistorianCapacity} {s : Historian σ}
    (inside : s.writeIndex.toNat < capacity.size.toNat) (room : s.count.toNat < capacity.size.toNat) (ondisk : List UInt8) :
    (putRecord capacity s ondisk).writeIndex.toNat = (s.writeIndex.toNat + 1) % capacity.size.toNat ∧
      (putRecord capacity s ondisk).count.toNat = s.count.toNat + 1 := by
  have bounded := capacity.bounded
  constructor
  · have sum : (s.writeIndex + 1).toNat = s.writeIndex.toNat + 1 := by
      rw [UInt32.toNat_add, UInt32.toNat_one]
      omega
    change ((s.writeIndex + 1) % capacity.size).toNat = _
    rw [UInt32.toNat_mod, sum]
  · change (if s.count < capacity.size then s.count + 1 else s.count).toNat = _
    rw [if_pos (UInt32.lt_iff_toNat_lt.mpr room), UInt32.toNat_add, UInt32.toNat_one]
    omega

/-- A write with a key, once its record has been encrypted. -/
theorem historianWrite_eq {s : Historian σ} (storage : Option (HistorianStorage σ)) (initialised : s.initialised = true)
    (keyed : s.key ≠ none) (r : HistorianRecord) {ondisk : List UInt8} :
    let evicted := historianEvict capacity ccm s r.timestampMs
    encryptRecord ccm s.key s.writeIndex s.writeIndex r = some ondisk →
    historianWrite capacity ccm storage s r =
      (historianAutoFlush capacity storage
        (historianBufferForFlush (putRecord capacity evicted ondisk) evicted.writeIndex) r.timestampMs, true) := by
  intro evicted encrypted
  obtain ⟨evicts, -⟩ := historianEvict_evicts capacity ccm s r.timestampMs
  rw [← evicts.key, ← evicts.writeIndex] at encrypted
  have present : s.key.isNone = false := Option.isNone_eq_false_iff.mpr (Option.isSome_iff_ne_none.mpr keyed)
  unfold historianWrite
  rw [initialised, present, if_neg (by decide), if_neg (by decide)]
  dsimp only
  rw [encrypted]

/-- A write evicts; then it fails, or it puts its record and comes to the automatic flush. -/
theorem historianWrite_cases (storage : Option (HistorianStorage σ)) (s : Historian σ) (r : HistorianRecord) :
    (∃ evicted stats, Evicts s evicted ∧
      historianWrite capacity ccm storage s r = ({ evicted with stats := stats }, false)) ∨
    ∃ evicted ondisk, Evicts s evicted ∧ evicted.count.toNat < capacity.size.toNat ∧
      historianWrite capacity ccm storage s r =
        (historianAutoFlush capacity storage
          (historianBufferForFlush (putRecord capacity evicted ondisk) evicted.writeIndex) r.timestampMs, true) := by
  obtain ⟨evicts, room⟩ := historianEvict_evicts capacity ccm s r.timestampMs
  unfold historianWrite
  split
  · exact .inl ⟨s, s.stats, Evicts.refl s, rfl⟩
  · split
    · exact .inl ⟨s, _, Evicts.refl s, rfl⟩
    · dsimp only
      split
      · exact .inl ⟨_, _, evicts, rfl⟩
      · exact .inr ⟨_, _, evicts, room, rfl⟩

end Eviction

end IotPlatform
