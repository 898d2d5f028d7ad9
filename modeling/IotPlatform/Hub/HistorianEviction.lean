import Mathlib.Data.List.TakeWhile
import IotPlatform.Hub.HistorianCrash

/-!
# Eviction by age

The age of the oldest record is the 64-bit difference between the timestamp being written and its own, which wraps when
the oldest record is the newer of the two. Any backend, any cipher and any order of timestamps.
-/

namespace IotPlatform
open RingBuffer Run Suffix

section Ring

variable {σ : Type} (capacity : HistorianCapacity) (ccm : Ccm)

/-- What decrypting each record in use gives, oldest first. -/
def ringRecords (s : Historian σ) : List (Option HistorianRecord) :=
  (List.range s.count.toNat).map (recordAt capacity ccm s)

/-- The records that the first loop of `historian_evict` removes as too old; those it removes as corrupt decrypt to
nothing. -/
def removedByAge (s : Historian σ) (now : UInt64) : List HistorianRecord :=
  ((ringRecords capacity ccm s).take
    (s.count.toNat - (evictByAge capacity ccm now s.count.toNat s).count.toNat)).filterMap id

/-- Every record that the write removes for its age is more than thirty days older than the one written. -/
def AgesRightly (s : Historian σ) (r : HistorianRecord) : Prop :=
  ∀ old ∈ removedByAge capacity ccm s r.timestampMs,
    old.timestampMs.toNat + historian30DayMs.toNat < r.timestampMs.toNat

/-- A record that may go: it cannot be read, or it is more than thirty days older than `now`. -/
def spent (now : UInt64) : Option HistorianRecord → Bool
  | none => true
  | some old => decide (0 < old.timestampMs ∧ old.timestampMs.toNat + historian30DayMs.toNat < now.toNat)

/-- A record newer than `now`, whose wrapped age is more than thirty days. -/
def AgesBackwards (now : UInt64) (old : HistorianRecord) : Prop :=
  0 < now ∧ now < old.timestampMs ∧ old.timestampMs.toNat + historian30DayMs.toNat < now.toNat + 2 ^ 64

/-- The oldest record that should stay is newer than the one written. -/
def MeetsNewer (s : Historian σ) (r : HistorianRecord) : Prop :=
  ∃ newer, ((ringRecords capacity ccm s).dropWhile (spent r.timestampMs)).head? = some (some newer) ∧
    AgesBackwards r.timestampMs newer

end Ring

section Eviction

variable {σ : Type} {capacity : HistorianCapacity} {ccm : Ccm} {storage : Option (HistorianStorage σ)} {s : Historian σ}

/-! ### One round of the loop -/

def evictable (now : UInt64) : Option HistorianRecord → Bool
  | none => true
  | some old => tooOld now old

theorem tooOld_iff {now : UInt64} {old : HistorianRecord} :
    tooOld now old = true ↔ spent now (some old) = true ∨ AgesBackwards now old := by
  have days : historian30DayMs.toNat = 2592000000 := rfl
  have below := UInt64.toNat_lt now
  have below' := UInt64.toNat_lt old.timestampMs
  have age : (now - old.timestampMs).toNat = (2 ^ 64 - old.timestampMs.toNat + now.toNat) % 2 ^ 64 :=
    UInt64.toNat_sub ..
  simp only [tooOld, spent, AgesBackwards, gt_iff_lt, Bool.and_eq_true, decide_eq_true_eq, UInt64.lt_iff_toNat_lt, age,
    days, UInt64.toNat_zero]
  rcases Nat.lt_or_ge now.toNat old.timestampMs.toNat with newer | older
  · rw [Nat.mod_eq_of_lt (by omega)]
    omega
  · rw [show 2 ^ 64 - old.timestampMs.toNat + now.toNat = now.toNat - old.timestampMs.toNat + 2 ^ 64 by omega,
      Nat.add_mod_right, Nat.mod_eq_of_lt (by omega)]
    omega

theorem evictable_of_spent (now : UInt64) (entry : Option HistorianRecord) (goes : spent now entry = true) :
    evictable now entry = true := by
  cases entry with
  | none => rfl
  | some old => exact tooOld_iff.mpr (.inl goes)

theorem Placed.oldestPos_add_zero (placed : Placed capacity s) (used : 0 < s.count.toNat) :
    (oldestPos capacity s + UInt32.ofNat 0) % capacity.size = oldestPos capacity s := by
  apply UInt32.toNat_inj.mp
  rw [recordPos_toNat placed.inside placed.fits used, oldestPos_toNat placed.inside placed.fits]

theorem Placed.evictOldest (placed : Placed capacity s) {n : Nat} (counted : s.count.toNat = n + 1) :
    Placed capacity (IotPlatform.evictOldest s) where
  inside := placed.inside
  fits := by
    have fits := placed.fits
    rw [evictOldest_count counted]
    omega

theorem Placed.ringRecords_cons (placed : Placed capacity s) {n : Nat} (counted : s.count.toNat = n + 1) :
    ringRecords capacity ccm s =
      decryptRecord ccm s.key (oldestPos capacity s) (oldestPos capacity s) (s.ring (oldestPos capacity s).toNat) ::
        ringRecords capacity ccm (IotPlatform.evictOldest s) := by
  have fits := placed.fits
  have after := evictOldest_count counted
  rw [ringRecords, ringRecords, counted, after, List.range_succ_eq_map, List.map_cons, List.map_map]
  congr 1
  · rw [recordAt, placed.oldestPos_add_zero (by omega)]
  · apply List.map_congr_left
    intro j member
    have used := List.mem_range.mp member
    have shifted : (oldestPos capacity s + UInt32.ofNat (j + 1)) % capacity.size =
        (oldestPos capacity (IotPlatform.evictOldest s) + UInt32.ofNat j) % capacity.size := by
      apply UInt32.toNat_inj.mp
      rw [recordPos_toNat placed.inside fits (by omega),
        recordPos_toNat (placed.evictOldest counted).inside (placed.evictOldest counted).fits (by omega)]
      have cell : slot capacity.size.toNat s.writeIndex.toNat (s.count.toNat - 1) j =
          slot capacity.size.toNat s.writeIndex.toNat s.count.toNat (1 + j) := slot_drop 1 j (by omega) fits
      rw [Nat.add_comm j 1, ← cell, after, counted]
      rfl
    change recordAt capacity ccm s (j + 1) = recordAt capacity ccm (IotPlatform.evictOldest s) j
    unfold recordAt
    rw [shifted]
    rfl

/-- The loop takes the records from the front as long as they are unreadable or too old. -/
theorem evictByAge_takes (ccm : Ccm) (now : UInt64) {n : Nat} (placed : Placed capacity s) (counted : s.count.toNat = n) :
    (evictByAge capacity ccm now n s).count.toNat +
      ((ringRecords capacity ccm s).takeWhile (evictable now)).length = n := by
  induction n generalizing s with
  | zero => simp [evictByAge, ringRecords, counted]
  | succ n ih =>
    have after := evictOldest_count counted
    rw [evictByAge, placed.ringRecords_cons counted]
    dsimp only
    cases opened : decryptRecord ccm s.key (oldestPos capacity s) (oldestPos capacity s)
        (s.ring (oldestPos capacity s).toNat) with
    | none =>
      have rest := ih (s := { IotPlatform.evictOldest s with
        stats := { (IotPlatform.evictOldest s).stats with
          decErrors := (IotPlatform.evictOldest s).stats.decErrors + 1 } })
        ⟨(placed.evictOldest counted).inside, (placed.evictOldest counted).fits⟩ after
      rw [List.takeWhile_cons_of_pos rfl, List.length_cons, ← Nat.add_assoc]
      exact congrArg (· + 1) rest
    | some old =>
      dsimp only
      cases gone : tooOld now old with
      | true =>
        rw [if_pos rfl, List.takeWhile_cons_of_pos (show evictable now (some old) = true from gone), List.length_cons,
          ← Nat.add_assoc]
        exact congrArg (· + 1) (ih (placed.evictOldest counted) after)
      | false =>
        rw [if_neg (by decide), List.takeWhile_cons_of_neg (by simp [evictable, gone])]
        exact counted

theorem Placed.removedByAge_eq (placed : Placed capacity s) (now : UInt64) :
    removedByAge capacity ccm s now = ((ringRecords capacity ccm s).takeWhile (evictable now)).filterMap id := by
  have takes : _ + _ = s.count.toNat := evictByAge_takes ccm now placed rfl
  have front := List.prefix_iff_eq_take.mp
    (List.takeWhile_prefix (evictable now) (l := ringRecords capacity ccm s))
  have taken : s.count.toNat - (evictByAge capacity ccm now s.count.toNat s).count.toNat =
      ((ringRecords capacity ccm s).takeWhile (evictable now)).length := by omega
  rw [removedByAge, taken, ← front]

/-- The records that go for their age, those that cannot be read aside, are all old ones. -/
theorem Placed.agesRightly_iff_spent (placed : Placed capacity s) (r : HistorianRecord) :
    AgesRightly capacity ccm s r ↔
      ∀ entry ∈ (ringRecords capacity ccm s).takeWhile (evictable r.timestampMs), spent r.timestampMs entry = true := by
  rw [AgesRightly, placed.removedByAge_eq]
  constructor
  · intro rightly entry member
    cases entry with
    | none => rfl
    | some old =>
      have expired := rightly old (List.mem_filterMap.mpr ⟨some old, member, rfl⟩)
      have taken : evictable r.timestampMs (some old) = true := List.mem_takeWhile_imp member
      obtain goes | ⟨-, newer, -⟩ := tooOld_iff.mp taken
      · exact goes
      · rw [UInt64.lt_iff_toNat_lt] at newer
        omega
  · intro goes old member
    obtain ⟨entry, taken, rfl⟩ := List.mem_filterMap.mp member
    exact (of_decide_eq_true (goes (some old) taken)).2

/-- A write removes a record wrongly exactly when it meets a newer one at the front. -/
theorem Placed.agesRightly_iff (placed : Placed capacity s) (r : HistorianRecord) :
    AgesRightly capacity ccm s r ↔ ¬MeetsNewer capacity ccm s r := by
  rw [placed.agesRightly_iff_spent, forall_takeWhile_iff (evictable_of_spent r.timestampMs), MeetsNewer, not_exists]
  constructor
  · rintro stays newer ⟨first, backwards⟩
    have kept := stays _ first
    rw [show evictable r.timestampMs (some newer) = true from tooOld_iff.mpr (.inr backwards)] at kept
    cases kept
  · intro free entry first
    rw [← Bool.not_eq_true]
    intro goes
    have stays := List.head?_dropWhile_not (spent r.timestampMs) (ringRecords capacity ccm s)
    rw [first] at stays
    change spent r.timestampMs entry = false at stays
    cases entry with
    | none => cases stays
    | some newer =>
      obtain old | backwards := tooOld_iff.mp goes
      · rw [old] at stays
        cases stays
      · exact free newer ⟨first, backwards⟩

/-! ### Runs -/

theorem historianFlush_frame (capacity : HistorianCapacity) (storage : Option (HistorianStorage σ)) (s : Historian σ)
    (now : UInt64) :
    ∃ start pending last flash stats, historianFlush capacity storage s now =
      { s with pendingStart := start, pendingCount := pending, lastFlushMs := last, flash := flash, stats := stats } := by
  unfold historianFlush
  split
  · exact ⟨_, _, _, _, _, rfl⟩
  · split
    · exact ⟨_, _, _, _, _, rfl⟩
    · split
      · exact ⟨_, _, _, _, _, rfl⟩
      · rename_i append _
        obtain ⟨flash, stats, looped⟩ := appendPending_frame capacity append s.pendingCount.toNat 0 s
        rw [looped]
        exact ⟨_, _, _, _, _, rfl⟩

theorem Placed.autoFlush (placed : Placed capacity s) (now : UInt64) :
    Placed capacity (historianAutoFlush capacity storage s now) := by
  obtain flushes | ⟨same, -⟩ := historianAutoFlush_cases capacity storage s now
  · obtain ⟨_, _, _, _, _, flushed⟩ := historianFlush_frame capacity storage s now
    rw [flushes, flushed]
    exact ⟨placed.inside, placed.fits⟩
  · rw [same]
    exact placed

theorem Placed.write (placed : Placed capacity s) (r : HistorianRecord) :
    Placed capacity (historianWrite capacity ccm storage s r).1 := by
  obtain ⟨evicted, stats, evicts, result⟩ | ⟨evicted, ondisk, evicts, room, result⟩ :=
    historianWrite_cases capacity ccm storage s r
  · rw [result]
    exact ⟨evicts.writeIndex ▸ placed.inside, evicts.count_le.trans placed.fits⟩
  · rw [result]
    exact (placed.put evicts room ondisk).autoFlush r.timestampMs

theorem historianInit_placed (capacity : HistorianCapacity) (storage : Option (HistorianStorage σ)) (s : Historian σ) :
    Placed capacity (historianInit capacity storage s) := by
  have empty : ∀ {t : Historian σ}, t.writeIndex = 0 → t.count = 0 → Placed capacity t := by
    intro t writeIndex count
    refine ⟨?_, ?_⟩
    · rw [writeIndex]
      exact capacity.pos
    · rw [count]
      exact Nat.zero_le _
  unfold historianInit
  split
  · exact empty rfl rfl
  · dsimp only
    split
    · split
      · rename_i fits
        refine ⟨?_, UInt32.le_iff_toNat_le.mp fits⟩
        rw [UInt32.toNat_mod]
        exact Nat.mod_lt _ capacity.pos
      · exact empty rfl rfl
    · exact empty rfl rfl

theorem historianInit_fresh (capacity : HistorianCapacity) (storage : Option (HistorianStorage σ)) (s : Historian σ) :
    let start := historianInit capacity storage s
    start.initialised = true ∧ start.key = s.key ∧ start.pendingCount = 0 ∧ start.lastFlushMs = 0 := by
  dsimp only
  unfold historianInit
  split
  · exact ⟨rfl, rfl, rfl, rfl⟩
  · dsimp only
    split
    · split <;> exact ⟨rfl, rfl, rfl, rfl⟩
    · exact ⟨rfl, rfl, rfl, rfl⟩

/-- Along any run of writes, whatever the storage, the cipher and the timestamps, eviction by age removes only records
more than thirty days older than the one written exactly when no write meets a newer record at the front. -/
theorem historian_agesRightly_iff (capacity : HistorianCapacity) (ccm : Ccm) (storage : Option (HistorianStorage σ))
    (s : Historian σ) (key : HistorianKey) (records : List HistorianRecord) :
    let start := historianInit capacity storage (historianSetKey s key)
    EachStep (AgesRightly capacity ccm) (historianWrite capacity ccm storage) start records ↔
      EachStep (fun s r => ¬MeetsNewer capacity ccm s r) (historianWrite capacity ccm storage) start records := by
  intro start
  have placed : Placed capacity start := historianInit_placed capacity storage _
  apply eachStep_iff_of_invariant placed
  · intro s r placed
    exact placed.write r
  · intro s r placed
    exact placed.agesRightly_iff r

/-- A record whose timestamp is a millisecond before the only one of the ring takes its place. -/
theorem historian_backward_write_evicts :
    let start := historianInit defaultHistorianCapacity none (historianSetKey (historianReset ()) sampleKey)
    let older := { sampleRecord with timestampMs := 999999 }
    let s := (historianWrite defaultHistorianCapacity sampleCcm none start sampleRecord).1
    removedByAge defaultHistorianCapacity sampleCcm s older.timestampMs = [sampleRecord] ∧
      historianCount (historianWrite defaultHistorianCapacity sampleCcm none s older).1 = 1 ∧
      ¬EachStep (AgesRightly defaultHistorianCapacity sampleCcm)
        (historianWrite defaultHistorianCapacity sampleCcm none) start [sampleRecord, older] := by
  intro start older s
  have removed : removedByAge defaultHistorianCapacity sampleCcm s older.timestampMs = [sampleRecord] := by decide
  have present : sampleRecord ∈ removedByAge defaultHistorianCapacity sampleCcm s older.timestampMs := by
    rw [removed]
    exact List.mem_singleton_self _
  refine ⟨removed, by decide, fun each => ?_⟩
  have rightly : AgesRightly defaultHistorianCapacity sampleCcm s older := each.2.1
  exact absurd (rightly sampleRecord present) (by decide)

end Eviction

end IotPlatform
