import IotPlatform.Hub.HistorianEviction

/-!
# What a power loss can take

The timer of `historian_auto_flush` runs from the last flush and `historian_init` sets that time to zero, which stands for
no flush yet. Until 64 records are pending for the first time, the timer is off.
-/

namespace IotPlatform
open Run

section LossBound

variable {σ : Type} {capacity : HistorianCapacity} {ccm : Ccm} {storage : HistorianStorage σ} {s : Historian σ}
  {written : List HistorianRecord} {r : HistorianRecord}

/-- The records written since the last flush; every record written joins the pending range. -/
def pendingRecords (s : Historian σ) (written : List HistorianRecord) : List HistorianRecord :=
  written.drop (written.length - s.pendingCount.toNat)

/-- A power loss at `now` takes fewer than 64 records, none of them a flush interval old. -/
def LossBounded (s : Historian σ) (written : List HistorianRecord) (now : UInt64) : Prop :=
  s.pendingCount.toNat < historianPendingMax.toNat ∧
    ∀ old ∈ pendingRecords s written, now.toNat < old.timestampMs.toNat + historianFlushIntervalMs.toNat

/-! ### The clock of the last flush -/

theorem evictByAge_lastFlushMs (now : UInt64) (n : Nat) (s : Historian σ) :
    (evictByAge capacity ccm now n s).lastFlushMs = s.lastFlushMs := by
  induction n generalizing s with
  | zero => rfl
  | succ n ih =>
    rw [evictByAge]
    dsimp only
    split
    · split
      · exact ih _
      · rfl
    · exact ih _

theorem evictByCapacity_lastFlushMs (n : Nat) (s : Historian σ) :
    (evictByCapacity capacity n s).lastFlushMs = s.lastFlushMs := by
  induction n generalizing s with
  | zero => rfl
  | succ n ih =>
    rw [evictByCapacity]
    split
    · exact ih _
    · rfl

theorem historianEvict_lastFlushMs (s : Historian σ) (now : UInt64) :
    (historianEvict capacity ccm s now).lastFlushMs = s.lastFlushMs :=
  (evictByCapacity_lastFlushMs ..).trans (evictByAge_lastFlushMs ..)

theorem historianFlush_clock (capacity : HistorianCapacity) {append : σ → UInt32 → List UInt8 → UInt32 → UInt32 → σ × Bool}
    (appends : storage.append = some append) (initialised : s.initialised = true) (pending : s.pendingCount ≠ 0)
    (now : UInt64) :
    let after := historianFlush capacity (some storage) s now
    after.initialised = true ∧ after.key = s.key ∧ after.pendingCount = 0 ∧ after.lastFlushMs = now := by
  obtain ⟨flash, stats, looped⟩ := appendPending_frame capacity append s.pendingCount.toNat 0 s
  rw [historianFlush_append capacity appends initialised, if_neg pending, looped]
  exact ⟨initialised, rfl, rfl, rfl⟩

/-- Before the first flush everything written is pending; after it, the pending records and the last one written are less
than a flush interval younger than it. -/
structure FlushClock (key : HistorianKey) (s : Historian σ) (written : List HistorianRecord) : Prop where
  initialised : s.initialised = true
  keyed : s.key = some key
  few : s.pendingCount.toNat < 64
  pending_le : s.pendingCount.toNat ≤ written.length
  idle : s.lastFlushMs = 0 → s.pendingCount.toNat = written.length
  started : s.lastFlushMs ≠ 0 → 64 ≤ written.length ∧ (∀ old ∈ pendingRecords s written, s.lastFlushMs ≤ old.timestampMs) ∧
    ∀ last, written.getLast? = some last →
      s.lastFlushMs ≤ last.timestampMs ∧ last.timestampMs.toNat < s.lastFlushMs.toNat + 60000

variable {key : HistorianKey}

theorem FlushClock.buffered (capacity : HistorianCapacity) (ccm : Ccm) (clock : FlushClock key s written)
    (ondisk : List UInt8) (now : UInt64) :
    let evicted := historianEvict capacity ccm s now
    let t := historianBufferForFlush (putRecord capacity evicted ondisk) evicted.writeIndex
    t.initialised = true ∧ t.key = some key ∧ t.pendingCount.toNat = s.pendingCount.toNat + 1 ∧
      t.lastFlushMs = s.lastFlushMs := by
  intro evicted t
  obtain ⟨evicts, -⟩ := historianEvict_evicts capacity ccm s now
  obtain ⟨count, -⟩ := buffered_pending capacity evicts clock.few ondisk
  exact ⟨evicts.initialised.trans clock.initialised, evicts.key.trans clock.keyed, count, historianEvict_lastFlushMs s now⟩

theorem pendingRecords_concat {t : Historian σ} (pending_le : s.pendingCount.toNat ≤ written.length)
    (count : t.pendingCount.toNat = s.pendingCount.toNat + 1) :
    pendingRecords t (written ++ [r]) = pendingRecords s written ++ [r] := by
  have start : (written ++ [r]).length - t.pendingCount.toNat = written.length - s.pendingCount.toNat := by
    rw [List.length_append, List.length_singleton, count]
    omega
  rw [pendingRecords, start, List.drop_append_of_le_length (Nat.sub_le ..), pendingRecords]

theorem FlushClock.of_flush {append : σ → UInt32 → List UInt8 → UInt32 → UInt32 → σ × Bool}
    (appends : storage.append = some append) {t : Historian σ} (initialised : t.initialised = true)
    (keyed : t.key = some key) (pending : t.pendingCount ≠ 0) (positive : 0 < r.timestampMs)
    (enough : 64 ≤ (written ++ [r]).length) :
    FlushClock key (historianFlush capacity (some storage) t r.timestampMs) (written ++ [r]) := by
  obtain ⟨initialised', keyed', none, last⟩ :=
    historianFlush_clock capacity appends initialised pending r.timestampMs
  generalize historianFlush capacity (some storage) t r.timestampMs = after at initialised' keyed' none last ⊢
  have empty : pendingRecords after (written ++ [r]) = [] := by
    rw [pendingRecords, none, UInt32.toNat_zero, Nat.sub_zero, List.drop_length]
  refine ⟨initialised', keyed'.trans keyed, ?_, ?_, fun zero => ?_, fun _ => ⟨enough, ?_, ?_⟩⟩
  · rw [none]
    exact Nat.succ_pos 63
  · rw [none]
    exact Nat.zero_le _
  · rw [last] at zero
    rw [zero] at positive
    exact absurd positive (UInt64.lt_irrefl 0)
  · rw [empty]
    exact fun _ member => absurd member List.not_mem_nil
  · intro newest found
    rw [List.getLast?_concat] at found
    obtain rfl := Option.some.inj found
    rw [last]
    exact ⟨UInt64.le_refl _, Nat.lt_add_of_pos_right (Nat.succ_pos 59999)⟩

theorem FlushClock.last_le (clock : FlushClock key s written) (ordered : Ordered (written ++ [r]))
    (nonzero : s.lastFlushMs ≠ 0) : s.lastFlushMs ≤ r.timestampMs := by
  obtain ⟨enough, -, newest⟩ := clock.started nonzero
  have some_written : written ≠ [] := by
    intro none
    rw [none] at enough
    exact absurd enough (by decide)
  have found := List.getLast?_eq_some_getLast some_written
  exact UInt64.le_trans (newest _ found).1 (ordered.le_last (List.getLast_mem some_written))

theorem FlushClock.unflushed (clock : FlushClock key s written) (ordered : Ordered (written ++ [r])) {t : Historian σ}
    (initialised : t.initialised = true) (keyed : t.key = some key)
    (count : t.pendingCount.toNat = s.pendingCount.toNat + 1) (last_eq : t.lastFlushMs = s.lastFlushMs)
    (few : t.pendingCount.toNat < 64)
    (early : ¬(t.lastFlushMs > 0 ∧ r.timestampMs - t.lastFlushMs ≥ historianFlushIntervalMs)) :
    FlushClock key t (written ++ [r]) := by
  have length : (written ++ [r]).length = written.length + 1 := List.length_append
  have pending_le := clock.pending_le
  refine ⟨initialised, keyed, few, by omega, fun zero => ?_, fun nonzero => ?_⟩
  · rw [count, length, clock.idle (last_eq ▸ zero)]
  · have running : 0 < t.lastFlushMs := UInt64.pos_iff_ne_zero.mpr nonzero
    rw [last_eq] at nonzero running early ⊢
    obtain ⟨enough, recent, -⟩ := clock.started nonzero
    have after := clock.last_le ordered nonzero
    have age : (r.timestampMs - s.lastFlushMs).toNat = r.timestampMs.toNat - s.lastFlushMs.toNat :=
      UInt64.toNat_sub_of_le _ _ after
    have interval : historianFlushIntervalMs.toNat = 60000 := rfl
    have young : ¬historianFlushIntervalMs ≤ r.timestampMs - s.lastFlushMs := fun due => early ⟨running, due⟩
    rw [UInt64.le_iff_toNat_le, age, interval] at young
    rw [pendingRecords_concat pending_le count]
    refine ⟨by omega, fun old member => ?_, fun last found => ?_⟩
    · rcases List.mem_append.mp member with earlier | this
      · exact recent old earlier
      · rw [List.mem_singleton.mp this]
        exact after
    · rw [List.getLast?_concat] at found
      obtain rfl := Option.some.inj found
      exact ⟨after, by omega⟩

theorem FlushClock.write {append : σ → UInt32 → List UInt8 → UInt32 → UInt32 → σ × Bool} (total : ccm.Total)
    (appends : storage.append = some append) (clock : FlushClock key s written) (ordered : Ordered (written ++ [r])) :
    FlushClock key (historianWrite capacity ccm (some storage) s r).1 (written ++ [r]) := by
  obtain ⟨ondisk, encrypted⟩ := encryptRecord_total total key s.writeIndex r
  rw [← clock.keyed] at encrypted
  rw [historianWrite_eq capacity ccm (some storage) clock.initialised (clock.keyed ▸ Option.some_ne_none key) r encrypted]
  dsimp only
  obtain ⟨initialised, keyed, count, last_eq⟩ : _ ∧ _ ∧ _ ∧ _ :=
    clock.buffered capacity ccm ondisk r.timestampMs
  generalize historianBufferForFlush _ _ = t at initialised keyed count last_eq ⊢
  have length : (written ++ [r]).length = written.length + 1 := List.length_append
  have pending_le := clock.pending_le
  have positive := ordered.1 r (List.mem_append_right _ List.mem_cons_self)
  have pending : t.pendingCount ≠ 0 := by
    intro none
    rw [none] at count
    cases count
  unfold historianAutoFlush
  split
  · rename_i full
    have full : 64 ≤ t.pendingCount.toNat := UInt32.le_iff_toNat_le.mp full
    exact .of_flush appends initialised keyed pending positive (by omega)
  · rename_i room
    have room : t.pendingCount.toNat < 64 := UInt32.lt_iff_toNat_lt.mp (UInt32.not_le.mp room)
    split
    · rename_i due
      have started : s.lastFlushMs ≠ 0 := by
        intro zero
        rw [last_eq, zero] at due
        exact absurd due.1 (UInt64.lt_irrefl 0)
      obtain ⟨enough, -⟩ := clock.started started
      exact .of_flush appends initialised keyed pending positive (by omega)
    · exact clock.unflushed ordered initialised keyed count last_eq room ‹_›

theorem FlushClock.start (capacity : HistorianCapacity) (storage : HistorianStorage σ) (key : HistorianKey) (flash : σ) :
    FlushClock key (firstInit capacity storage (some key) flash) [] := by
  obtain ⟨initialised, keyed, none, zero⟩ : _ ∧ _ ∧ _ ∧ _ :=
    historianInit_fresh capacity (some storage) { historianReset flash with key := some key }
  refine ⟨initialised, keyed, ?_, ?_, fun _ => congrArg UInt32.toNat none, fun nonzero => absurd zero nonzero⟩
  · rw [firstInit, none]
    exact Nat.succ_pos 63
  · rw [firstInit, none]
    exact Nat.zero_le _

theorem Ordered.of_append {later : List HistorianRecord} (ordered : Ordered (written ++ later)) : Ordered written :=
  ⟨fun x member => ordered.1 x (List.mem_append_left _ member), (List.pairwise_append.mp ordered.2).1⟩

theorem writeRun_clock (capacity : HistorianCapacity)
    {append : σ → UInt32 → List UInt8 → UInt32 → UInt32 → σ × Bool} (total : ccm.Total)
    (appends : storage.append = some append) (key : HistorianKey) (flash : σ) (records : List HistorianRecord)
    (ordered : Ordered records) :
    FlushClock key
      (finalState (historianWrite capacity ccm (some storage)) (firstInit capacity storage (some key) flash) records)
      records := by
  induction records using List.reverseRecOn with
  | nil => exact .start capacity storage key flash
  | append_singleton earlier r ih =>
    rw [finalState_concat]
    exact (ih ordered.of_append).write total appends ordered

/-! ### The first flush -/

/-- Once a flush has set the clock, no pending record is a flush interval old. -/
theorem FlushClock.bounded_of_started (clock : FlushClock key s (written ++ [r])) (nonzero : s.lastFlushMs ≠ 0) :
    LossBounded s (written ++ [r]) r.timestampMs := by
  obtain ⟨-, recent, newest⟩ := clock.started nonzero
  have interval : historianFlushIntervalMs.toNat = 60000 := rfl
  obtain ⟨-, young⟩ := newest r List.getLast?_concat
  refine ⟨clock.few, fun old member => ?_⟩
  have later := UInt64.le_iff_toNat_le.mp (recent old member)
  omega

/-- Before the first flush the oldest pending record is the first one written. -/
theorem FlushClock.bounded_of_idle (clock : FlushClock key s (written ++ [r])) (zero : s.lastFlushMs = 0)
    (ordered : Ordered (written ++ [r])) {first : HistorianRecord} (found : (written ++ [r])[0]? = some first) :
    LossBounded s (written ++ [r]) r.timestampMs ↔ r.timestampMs.toNat < first.timestampMs.toNat + 60000 := by
  have interval : historianFlushIntervalMs.toNat = 60000 := rfl
  have all : pendingRecords s (written ++ [r]) = written ++ [r] := by
    rw [pendingRecords, clock.idle zero, Nat.sub_self, List.drop_zero]
  rw [LossBounded, all, interval]
  constructor
  · rintro ⟨-, young⟩
    exact young first (List.mem_of_getElem? found)
  · intro young
    refine ⟨clock.few, fun old member => ?_⟩
    have later : first.timestampMs.toNat ≤ old.timestampMs.toNat := by
      cases whole : written ++ [r] with
      | nil => simp at whole
      | cons head rest =>
        rw [whole] at found member ordered
        obtain rfl := Option.some.inj found
        rcases List.mem_cons.mp member with rfl | later
        · exact Nat.le_refl _
        · exact UInt64.le_iff_toNat_le.mp ((List.pairwise_cons.mp ordered.2).1 old later)
    omega

theorem writeRun_clock_at (capacity : HistorianCapacity) {append : σ → UInt32 → List UInt8 → UInt32 → UInt32 → σ × Bool}
    (total : ccm.Total) (appends : storage.append = some append) (key : HistorianKey) (flash : σ)
    {records : List HistorianRecord} (ordered : Ordered records) {n : Nat} (found : records[n]? = some r) :
    records.take (n + 1) = records.take n ++ [r] ∧ Ordered (records.take (n + 1)) ∧
      (records.take (n + 1)).length = n + 1 ∧
      FlushClock key
        (finalState (historianWrite capacity ccm (some storage)) (firstInit capacity storage (some key) flash)
          (records.take (n + 1))) (records.take (n + 1)) := by
  have within := (List.getElem?_eq_some_iff.mp found).1
  have ordered_front : Ordered (records.take (n + 1)) := by
    rw [← List.take_append_drop (n + 1) records] at ordered
    exact ordered.of_append
  exact ⟨by rw [List.take_add_one, found, Option.toList_some], ordered_front, List.length_take_of_le within,
    writeRun_clock capacity total appends key flash _ ordered_front⟩

/-- A write before the 64th is bounded exactly within a flush interval of the first record. -/
theorem write_bounded_iff_early (capacity : HistorianCapacity)
    {append : σ → UInt32 → List UInt8 → UInt32 → UInt32 → σ × Bool} (total : ccm.Total)
    (appends : storage.append = some append) (key : HistorianKey) (flash : σ) {records : List HistorianRecord}
    (ordered : Ordered records) {n : Nat} (found : records[n]? = some r) (early : n + 1 < 64) {first : HistorianRecord}
    (first_found : records[0]? = some first) :
    LossBounded (finalState (historianWrite capacity ccm (some storage)) (firstInit capacity storage (some key) flash)
        (records.take (n + 1))) (records.take (n + 1)) r.timestampMs ↔
      r.timestampMs.toNat < first.timestampMs.toNat + 60000 := by
  obtain ⟨front, ordered_front, length, clock⟩ := writeRun_clock_at capacity total appends key flash ordered found
  generalize finalState _ _ (records.take (n + 1)) = s at clock ⊢
  have zero : s.lastFlushMs = 0 := by
    by_contra nonzero
    have enough := (clock.started nonzero).1
    omega
  rw [front] at clock ordered_front ⊢
  apply clock.bounded_of_idle zero ordered_front
  rw [← front, List.getElem?_take_of_lt (Nat.succ_pos n)]
  exact first_found

theorem write_bounded_late (capacity : HistorianCapacity)
    {append : σ → UInt32 → List UInt8 → UInt32 → UInt32 → σ × Bool} (total : ccm.Total)
    (appends : storage.append = some append) (key : HistorianKey) (flash : σ) {records : List HistorianRecord}
    (ordered : Ordered records) {n : Nat} (found : records[n]? = some r) (late : 64 ≤ n + 1) :
    LossBounded (finalState (historianWrite capacity ccm (some storage)) (firstInit capacity storage (some key) flash)
        (records.take (n + 1))) (records.take (n + 1)) r.timestampMs := by
  obtain ⟨front, -, length, clock⟩ := writeRun_clock_at capacity total appends key flash ordered found
  generalize finalState _ _ (records.take (n + 1)) = s at clock ⊢
  have few := clock.few
  have nonzero : s.lastFlushMs ≠ 0 := by
    intro zero
    have all := clock.idle zero
    omega
  rw [front] at clock ⊢
  exact clock.bounded_of_started nonzero

/-- After every write of a run with positive timestamps that never go back, fewer than 64 records are pending and none is a
minute older than the write, exactly when the first 63 records are written within a minute. -/
theorem historian_lossBounded_iff (capacity : HistorianCapacity) (ccm : Ccm) (total : ccm.Total)
    (storage : HistorianStorage σ) (append : σ → UInt32 → List UInt8 → UInt32 → UInt32 → σ × Bool)
    (appends : storage.append = some append) (key : HistorianKey) (flash : σ) (records : List HistorianRecord)
    (ordered : Ordered records) :
    let start := firstInit capacity storage (some key) flash
    (∀ n r, records[n]? = some r →
      LossBounded (finalState (historianWrite capacity ccm (some storage)) start (records.take (n + 1)))
        (records.take (n + 1)) r.timestampMs) ↔
    ∀ n r first, n + 1 < historianPendingMax.toNat → records[n]? = some r → records[0]? = some first →
      r.timestampMs.toNat < first.timestampMs.toNat + historianFlushIntervalMs.toNat := by
  intro start
  have cap : historianPendingMax.toNat = 64 := rfl
  have interval : historianFlushIntervalMs.toNat = 60000 := rfl
  rw [cap, interval]
  constructor
  · intro bounded n r first early found first_found
    exact (write_bounded_iff_early capacity total appends key flash ordered found early first_found).mp (bounded n r found)
  · intro young n r found
    rcases Nat.lt_or_ge (n + 1) 64 with early | late
    · have nonempty : 0 < records.length := Nat.zero_lt_of_lt (List.getElem?_eq_some_iff.mp found).1
      have first_found := List.getElem?_eq_getElem nonempty
      exact (write_bounded_iff_early capacity total appends key flash ordered found early first_found).mpr
        (young n r _ early found first_found)
    · exact write_bounded_late capacity total appends key flash ordered found late

end LossBound

theorem historian_lossBounded_one_record :
    (finalState (historianWrite defaultHistorianCapacity sampleCcm (some ramStorage))
      (firstInit defaultHistorianCapacity ramStorage (some sampleKey) blankFlash) [sampleRecord]).pendingCount.toNat < 64 := by
  have ordered : Ordered [sampleRecord] := ⟨by simp [sampleRecord], List.pairwise_singleton ..⟩
  have bounded := (historian_lossBounded_iff defaultHistorianCapacity sampleCcm sampleCcm_lawful.total ramStorage _ rfl
    sampleKey blankFlash [sampleRecord] ordered).mpr (fun n r first _ found first_found => by
      obtain rfl := Option.some.inj first_found
      cases n with
      | zero =>
        obtain rfl := Option.some.inj found
        decide
      | succ n => cases found)
  exact (bounded 0 sampleRecord rfl).1

/-- Two records an hour apart are both pending: no flush has started the timer. -/
theorem pending_for_an_hour :
    let late := { sampleRecord with timestampMs := 4600000 }
    let s := finalState (historianWrite defaultHistorianCapacity sampleCcm (some ramStorage))
      (firstInit defaultHistorianCapacity ramStorage (some sampleKey) blankFlash) [sampleRecord, late]
    Ordered [sampleRecord, late] ∧ s.pendingCount = 2 ∧ ¬LossBounded s [sampleRecord, late] late.timestampMs := by
  intro late s
  refine ⟨⟨by simp [sampleRecord, late], by simp [sampleRecord, late]⟩, by decide, fun bounded => ?_⟩
  have two : s.pendingCount = 2 := by decide
  have member : sampleRecord ∈ pendingRecords s [sampleRecord, late] := by
    rw [pendingRecords, two]
    exact List.mem_cons_self
  exact absurd (bounded.2 sampleRecord member) (by decide)

end IotPlatform
