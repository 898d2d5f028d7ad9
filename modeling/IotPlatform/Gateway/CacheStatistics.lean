import Mathlib.Data.List.Range
import IotPlatform.Lib.Run
import IotPlatform.Lib.Distinct
import IotPlatform.Gateway.StatefulCache

/-!
# What the cache says of itself

The statistics of the value cache against the writes it was asked for. The table has room for 1024 entries, and the count of
the active ones has eight bits.
-/

namespace IotPlatform
open Run Distinct

/-- One write; the output is its key and whether it was accepted. -/
def cacheWriteStep (c : Cache) (write : CacheKey × Binary32) : Cache × (CacheKey × Bool) :=
  ((cacheWrite c write.1 write.2).1, (write.1, (cacheWrite c write.1 write.2).2))

def cacheAfter (writes : List (CacheKey × Binary32)) : Cache := finalState cacheWriteStep cacheInit writes

def acceptedKeys (history : List (CacheKey × Bool)) : List CacheKey := (history.filter Prod.snd).map Prod.fst

def refusedWrites (history : List (CacheKey × Bool)) : Nat := history.countP fun outcome => !outcome.2

/-- After the writes the statistics count the keys accepted and the writes, the counters of writes as far as their width
goes. -/
structure StatisticsExact (writes : List (CacheKey × Binary32)) : Prop where
  activeEntries : (cacheGetStats (cacheAfter writes)).activeEntries.toNat =
    distinct (acceptedKeys (outputs cacheWriteStep cacheInit writes))
  entryCount : (cacheEntryCount (cacheAfter writes)).toNat = distinct (acceptedKeys (outputs cacheWriteStep cacheInit writes))
  keysDistinct : ((cacheAfter writes).entries.map CacheEntry.key).Nodup
  totalUpdates : (cacheGetStats (cacheAfter writes)).totalUpdates =
    (cacheGetStats (cacheAfter writes)).totalHits + (cacheGetStats (cacheAfter writes)).totalSuppressed +
      UInt32.ofNat (refusedWrites (outputs cacheWriteStep cacheInit writes))
  totalUpdates_toNat : writes.length < 2 ^ 32 → (cacheGetStats (cacheAfter writes)).totalUpdates.toNat =
    (cacheGetStats (cacheAfter writes)).totalHits.toNat + (cacheGetStats (cacheAfter writes)).totalSuppressed.toNat +
      refusedWrites (outputs cacheWriteStep cacheInit writes)

/-- What the counters of writes have counted, before it is cut to their width. -/
structure CacheStats.Counts (stats : CacheStats) (hits suppressed refused : Nat) : Prop where
  totalUpdates : stats.totalUpdates = UInt32.ofNat (hits + suppressed + refused)
  totalHits : stats.totalHits = UInt32.ofNat hits
  totalSuppressed : stats.totalSuppressed = UInt32.ofNat suppressed

variable {c : Cache} {key : CacheKey} {history : List (CacheKey × Bool)} {stats : CacheStats} {hits suppressed refused : Nat}

theorem ofNat_succ32 (n : Nat) : UInt32.ofNat n + 1 = UInt32.ofNat (n + 1) := (UInt32.ofNat_add n 1).symm

theorem CacheStats.Counts.hit (counts : stats.Counts hits suppressed refused) :
    ({ stats with totalUpdates := stats.totalUpdates + 1, totalHits := stats.totalHits + 1 } : CacheStats).Counts
      (hits + 1) suppressed refused where
  totalUpdates := by
    dsimp only
    rw [counts.totalUpdates, ofNat_succ32]
    congr 1
    omega
  totalHits := by
    dsimp only
    rw [counts.totalHits, ofNat_succ32]
  totalSuppressed := counts.totalSuppressed

theorem CacheStats.Counts.suppress (counts : stats.Counts hits suppressed refused) :
    ({ stats with totalUpdates := stats.totalUpdates + 1, totalSuppressed := stats.totalSuppressed + 1 } : CacheStats).Counts
      hits (suppressed + 1) refused where
  totalUpdates := by
    dsimp only
    rw [counts.totalUpdates, ofNat_succ32]
    congr 1
    omega
  totalHits := counts.totalHits
  totalSuppressed := by
    dsimp only
    rw [counts.totalSuppressed, ofNat_succ32]

theorem CacheStats.Counts.refuse (counts : stats.Counts hits suppressed refused) :
    ({ stats with totalUpdates := stats.totalUpdates + 1 } : CacheStats).Counts hits suppressed (refused + 1) where
  totalUpdates := by
    dsimp only
    rw [counts.totalUpdates, ofNat_succ32]
    rfl
  totalHits := counts.totalHits
  totalSuppressed := counts.totalSuppressed

/-- The cache after writes with these outcomes. -/
structure CacheCounts (c : Cache) (history : List (CacheKey × Bool)) : Prop where
  wellFormed : c.WellFormed
  fits : c.entries.length ≤ cacheCapacity
  keys : ∀ key, key ∈ c.entries.map CacheEntry.key ↔ (key, true) ∈ history
  full : ∀ key, (key, false) ∈ history → c.entries.length = cacheCapacity
  counts : ∃ hits suppressed, c.stats.Counts hits suppressed (refusedWrites history) ∧
    history.length = hits + suppressed + refusedWrites history

theorem refusedWrites_accepted (history : List (CacheKey × Bool)) (key : CacheKey) :
    refusedWrites (history ++ [(key, true)]) = refusedWrites history := List.countP_append

theorem refusedWrites_refused (history : List (CacheKey × Bool)) (key : CacheKey) :
    refusedWrites (history ++ [(key, false)]) = refusedWrites history + 1 := List.countP_append

theorem cacheInit_counts : CacheCounts cacheInit [] where
  wellFormed := cacheInit_wellFormed
  fits := Nat.zero_le _
  keys := by simp [cacheInit]
  full := by
    rintro key ⟨⟩
  counts := ⟨0, 0, ⟨rfl, rfl, rfl⟩, rfl⟩

theorem CacheCounts.known (counts : CacheCounts c history) {e : CacheEntry} (found : findEntry c key = some e)
    (value : Binary32) : CacheCounts (cacheWrite c key value).1 (history ++ [(key, (cacheWrite c key value).2)]) := by
  have wellFormed := cacheWrite_wellFormed counts.wellFormed key value
  obtain ⟨member, same⟩ := counts.wellFormed.findEntry_eq_some.mp found
  have before : (key, true) ∈ history := (counts.keys key).mp (same ▸ List.mem_map_of_mem member)
  obtain ⟨hits, suppressed, counted, total⟩ := counts.counts
  have kept : (cacheWrite c key value).2 = true ∧
      (cacheWrite c key value).1.entries.map CacheEntry.key = c.entries.map CacheEntry.key ∧
      ((cacheWrite c key value).1.stats.Counts hits (suppressed + 1) (refusedWrites history) ∨
        (cacheWrite c key value).1.stats.Counts (hits + 1) suppressed (refusedWrites history)) := by
    unfold cacheWrite
    rw [found]
    dsimp only
    split
    · exact ⟨rfl, rfl, .inl counted.suppress⟩
    · exact ⟨rfl, Table.map_updateFirst fun _ => rfl, .inr counted.hit⟩
  obtain ⟨accepted, keys, counted⟩ := kept
  have length : (cacheWrite c key value).1.entries.length = c.entries.length := by
    rw [← List.length_map CacheEntry.key, keys, List.length_map]
  rw [accepted]
  refine ⟨wellFormed, length ▸ counts.fits, fun other => ?_, fun other refused => ?_, ?_⟩
  · rw [keys, counts.keys, List.mem_append, List.mem_singleton]
    constructor
    · exact .inl
    · rintro (old | new)
      · exact old
      · rwa [new]
  · rcases List.mem_append.mp refused with old | new
    · exact length ▸ counts.full other old
    · simp at new
  · rw [refusedWrites_accepted, List.length_append, List.length_singleton, total]
    rcases counted with suppresses | hit
    · exact ⟨_, _, suppresses, by omega⟩
    · exact ⟨_, _, hit, by omega⟩

theorem CacheCounts.unknown (counts : CacheCounts c history) (absent : findEntry c key = none) (value : Binary32) :
    CacheCounts (cacheWrite c key value).1 (history ++ [(key, (cacheWrite c key value).2)]) := by
  have wellFormed := cacheWrite_wellFormed counts.wellFormed key value
  obtain ⟨hits, suppressed, counted, total⟩ := counts.counts
  unfold cacheWrite at wellFormed ⊢
  rw [absent] at wellFormed ⊢
  dsimp only at wellFormed ⊢
  split
  · rename_i full
    have whole := Nat.le_antisymm counts.fits full
    refine ⟨⟨counts.wellFormed.distinct, counts.wellFormed.valid⟩, counts.fits, fun other => ?_, fun _ _ => whole, ?_⟩
    · rw [counts.keys, List.mem_append]
      exact (or_iff_left (by simp)).symm
    · rw [refusedWrites_refused, List.length_append, List.length_singleton, total]
      exact ⟨_, _, counted.refuse, by omega⟩
  · rename_i room
    rw [if_neg room] at wellFormed
    refine ⟨wellFormed, ?_, fun other => ?_, fun other refused => ?_, ?_⟩
    · rw [List.length_append, List.length_singleton]
      omega
    · rw [List.map_append, List.mem_append, counts.keys, List.mem_append, List.map_singleton, List.mem_singleton,
        List.mem_singleton]
      exact or_congr_right (by simp [CacheEntry.key])
    · rcases List.mem_append.mp refused with old | new
      · exact absurd (Nat.le_of_eq (counts.full other old).symm) room
      · simp at new
    · rw [refusedWrites_accepted, List.length_append, List.length_singleton, total]
      exact ⟨_, _, counted.hit, by omega⟩

theorem cacheWriteStep_counts (c : Cache) (history : List (CacheKey × Bool)) (write : CacheKey × Binary32)
    (counts : CacheCounts c history) : CacheCounts (cacheWriteStep c write).1 (history ++ [(cacheWriteStep c write).2]) := by
  cases found : findEntry c write.1 with
  | some e => exact counts.known found write.2
  | none => exact counts.unknown found write.2

theorem cacheAfter_counts (writes : List (CacheKey × Binary32)) :
    CacheCounts (cacheAfter writes) (outputs cacheWriteStep cacheInit writes) :=
  history_invariant cacheInit_counts cacheWriteStep_counts writes

/-! ### The counts against the table -/

theorem CacheCounts.distinct_acceptedKeys (counts : CacheCounts c history) :
    distinct (acceptedKeys history) = c.entries.length := by
  have same : (acceptedKeys history).toFinset = (c.entries.map CacheEntry.key).toFinset := by
    ext key
    rw [List.mem_toFinset, List.mem_toFinset, counts.keys, acceptedKeys, List.mem_map]
    constructor
    · rintro ⟨⟨_, accepted⟩, member, rfl⟩
      obtain ⟨inHistory, rfl⟩ := List.mem_filter.mp member
      exact inHistory
    · exact fun member => ⟨(key, true), List.mem_filter.mpr ⟨member, rfl⟩, rfl⟩
  rw [distinct, same, ← distinct, distinct_of_nodup counts.wellFormed.distinct, List.length_map]

theorem CacheCounts.entryCount (counts : CacheCounts c history) : (cacheEntryCount c).toNat = c.entries.length :=
  UInt16.toNat_ofNat_of_lt' (Nat.lt_of_le_of_lt counts.fits (by decide))

theorem CacheCounts.activeEntries (counts : CacheCounts c history) :
    (cacheGetStats c).activeEntries.toNat = c.entries.length % 256 := by
  have active : c.entries.countP (·.valid) = c.entries.length := List.countP_eq_length.mpr counts.wellFormed.valid
  rw [cacheGetStats, active]
  exact UInt8.toNat_ofNat'

theorem CacheCounts.totalUpdates (counts : CacheCounts c history) :
    c.stats.totalUpdates = c.stats.totalHits + c.stats.totalSuppressed + UInt32.ofNat (refusedWrites history) := by
  obtain ⟨hits, suppressed, counted, -⟩ := counts.counts
  rw [counted.totalUpdates, counted.totalHits, counted.totalSuppressed, UInt32.ofNat_add, UInt32.ofNat_add]

theorem CacheCounts.totalUpdates_toNat (counts : CacheCounts c history) (few : history.length < 2 ^ 32) :
    c.stats.totalUpdates.toNat = c.stats.totalHits.toNat + c.stats.totalSuppressed.toNat + refusedWrites history := by
  obtain ⟨hits, suppressed, counted, total⟩ := counts.counts
  have narrow : ∀ n ≤ history.length, (UInt32.ofNat n).toNat = n :=
    fun n le => UInt32.toNat_ofNat_of_lt' (Nat.lt_of_le_of_lt le few)
  rw [counted.totalUpdates, counted.totalHits, counted.totalSuppressed, narrow _ (by omega), narrow _ (by omega),
    narrow _ (by omega)]

/-- A table that is not full holds every key written. -/
theorem CacheCounts.length_eq (counts : CacheCounts c history) (room : c.entries.length < cacheCapacity) :
    c.entries.length = distinct (history.map Prod.fst) := by
  have all : acceptedKeys history = history.map Prod.fst := by
    rw [acceptedKeys, List.filter_eq_self.mpr]
    rintro ⟨key, accepted⟩ member
    cases accepted with
    | true => rfl
    | false => exact absurd (counts.full key member) (Nat.ne_of_lt room)
  rw [← counts.distinct_acceptedKeys, all]

theorem CacheCounts.length_le (counts : CacheCounts c history) : c.entries.length ≤ distinct (history.map Prod.fst) := by
  rw [← counts.distinct_acceptedKeys]
  exact distinct_le_of_subset (List.map_subset _ (List.filter_subset_self _))

theorem map_fst_outputs (c : Cache) (writes : List (CacheKey × Binary32)) :
    (outputs cacheWriteStep c writes).map Prod.fst = writes.map Prod.fst := by
  induction writes generalizing c with
  | nil => rfl
  | cons write rest ih => rw [outputs, List.map_cons, List.map_cons, ih, cacheWriteStep]

/-- The statistics are right exactly while fewer than 256 keys have been written. -/
theorem cache_statistics_exact (writes : List (CacheKey × Binary32)) :
    StatisticsExact writes ↔ distinct (writes.map Prod.fst) < 256 := by
  have counts := cacheAfter_counts writes
  have capacity : 256 < cacheCapacity := by decide
  have length : (cacheAfter writes).entries.length < 256 ↔ distinct (writes.map Prod.fst) < 256 := by
    rw [← map_fst_outputs cacheInit writes]
    constructor
    · intro few
      rwa [← counts.length_eq (Nat.lt_trans few capacity)]
    · exact Nat.lt_of_le_of_lt counts.length_le
  rw [← length]
  constructor
  · intro exact
    have active := exact.activeEntries
    rw [counts.activeEntries, counts.distinct_acceptedKeys] at active
    omega
  · intro few
    refine ⟨?_, ?_, counts.wellFormed.distinct, counts.totalUpdates, ?_⟩
    · rw [counts.activeEntries, counts.distinct_acceptedKeys, Nat.mod_eq_of_lt few]
    · rw [counts.entryCount, counts.distinct_acceptedKeys]
    · rw [← show (outputs cacheWriteStep cacheInit writes).length = writes.length from length_outputs writes]
      exact counts.totalUpdates_toNat

def manyNodes : List (CacheKey × Binary32) := (List.range 256).map fun i => ((UInt16.ofNat i, 0), ⟨0⟩)

theorem distinct_manyNodes : distinct (manyNodes.map Prod.fst) = 256 := by
  have nodup : (manyNodes.map Prod.fst).Nodup := by
    rw [manyNodes, List.map_map]
    refine List.Nodup.map_on (fun i inI j inJ same => ?_) List.nodup_range
    have low : ∀ {k}, k ∈ List.range 256 → (UInt16.ofNat k).toNat = k := fun member =>
      UInt16.toNat_ofNat_of_lt' (Nat.lt_trans (List.mem_range.mp member) (by decide))
    have nodes : UInt16.ofNat i = UInt16.ofNat j := congrArg Prod.fst same
    rw [← low inI, ← low inJ, nodes]
  rw [distinct_of_nodup nodup, manyNodes, List.length_map, List.length_map, List.length_range]

/-- With 256 nodes of one metric each, the statistics say that none is active. -/
theorem cache_active_entries_wrap :
    (cacheGetStats (cacheAfter manyNodes)).activeEntries = 0 ∧ cacheEntryCount (cacheAfter manyNodes) = 256 ∧
      ¬StatisticsExact manyNodes := by
  have counts := cacheAfter_counts manyNodes
  have keys : distinct ((outputs cacheWriteStep cacheInit manyNodes).map Prod.fst) = 256 := by
    rw [map_fst_outputs, distinct_manyNodes]
  have room : (cacheAfter manyNodes).entries.length < cacheCapacity :=
    Nat.lt_of_le_of_lt (keys ▸ counts.length_le) (by decide)
  have length : (cacheAfter manyNodes).entries.length = 256 := by rw [counts.length_eq room, keys]
  have active := counts.activeEntries
  have count := counts.entryCount
  rw [length] at active count
  refine ⟨UInt8.toNat_inj.mp active, UInt16.toNat_inj.mp count, fun exact => ?_⟩
  have claimed := exact.activeEntries
  rw [active, counts.distinct_acceptedKeys, length] at claimed
  cases claimed

end IotPlatform
