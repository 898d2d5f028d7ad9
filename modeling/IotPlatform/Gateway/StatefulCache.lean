import Mathlib.Data.List.Nodup
import IotPlatform.Lib.Table
import IotPlatform.Lib.Binary32

/-!
# The gateway's value cache

`stateful_cache.c`: one entry for each (node, metric) pair ever written, with a dirty flag for the batch
forwarder.
-/

namespace IotPlatform
open Table

/-- `GATEWAY_MAX_NODES * GATEWAY_MAX_METRICS`. -/
def cacheCapacity : Nat := 64 * 16

structure CacheEntry where
  nodeId : UInt16
  metricId : UInt8
  value : Binary32
  valid : Bool
  dirty : Bool
  deriving DecidableEq, Repr

structure CacheStats where
  totalUpdates : UInt32 := 0
  totalHits : UInt32 := 0
  totalSuppressed : UInt32 := 0
  activeEntries : UInt8 := 0
  deriving DecidableEq, Repr

/-- The first `s_entry_count` entries and the statistics. -/
structure Cache where
  entries : List CacheEntry := []
  stats : CacheStats := {}

abbrev CacheKey := UInt16 × UInt8

def CacheEntry.key (e : CacheEntry) : CacheKey := (e.nodeId, e.metricId)

def CacheEntry.holds (key : CacheKey) (e : CacheEntry) : Bool :=
  e.valid && e.nodeId == key.1 && e.metricId == key.2

def cacheInit : Cache := {}

def findEntry (c : Cache) (key : CacheKey) : Option CacheEntry := c.entries.find? (·.holds key)

def cacheWrite (c : Cache) (key : CacheKey) (value : Binary32) : Cache × Bool :=
  let stats := { c.stats with totalUpdates := c.stats.totalUpdates + 1 }
  match findEntry c key with
  | some e =>
    -- The change test is C's `==` on floats.
    if Binary32.eq e.value value then
      ({ c with stats := { stats with totalSuppressed := stats.totalSuppressed + 1 } }, true)
    else
      ({ entries := updateFirst (·.holds key) (fun e => { e with value := value, dirty := true }) c.entries
         stats := { stats with totalHits := stats.totalHits + 1 } }, true)
  | none =>
    if c.entries.length ≥ cacheCapacity then ({ c with stats := stats }, false)
    else
      ({ entries := c.entries ++ [{ nodeId := key.1, metricId := key.2, value := value, valid := true, dirty := true }]
         stats := { stats with totalHits := stats.totalHits + 1 } }, true)

def cacheRead (c : Cache) (key : CacheKey) : Option Binary32 := (findEntry c key).map CacheEntry.value

def cacheIsDirty (c : Cache) (key : CacheKey) : Bool :=
  match findEntry c key with
  | some e => e.valid && e.dirty
  | none => false

def cacheClearDirty (c : Cache) (key : CacheKey) : Cache × Bool :=
  match findEntry c key with
  | some _ => ({ c with entries := updateFirst (·.holds key) (fun e => { e with dirty := false }) c.entries }, true)
  | none => (c, false)

def cacheGetDirty (c : Cache) (maxEntries : UInt8) : List CacheEntry :=
  (c.entries.filter fun e => e.valid && e.dirty).take maxEntries.toNat

/-- `active_entries` is an 8-bit count. -/
def cacheGetStats (c : Cache) : CacheStats :=
  { c.stats with activeEntries := UInt8.ofNat (c.entries.countP (·.valid)) }

def cacheEntryCount (c : Cache) : UInt16 := UInt16.ofNat c.entries.length

/-! ### The table keeps one valid entry for each key -/

structure Cache.WellFormed (c : Cache) : Prop where
  distinct : (c.entries.map CacheEntry.key).Nodup
  valid : ∀ e ∈ c.entries, e.valid = true

namespace Cache.WellFormed

variable {c : Cache} {key : CacheKey} {e : CacheEntry}

theorem holds_iff (wf : c.WellFormed) (member : e ∈ c.entries) : e.holds key = true ↔ e.key = key := by
  simp [CacheEntry.holds, CacheEntry.key, wf.valid e member, Prod.ext_iff]

theorem findEntry_eq_some (wf : c.WellFormed) : findEntry c key = some e ↔ e ∈ c.entries ∧ e.key = key := by
  constructor
  · intro found
    have member := List.mem_of_find?_eq_some found
    exact ⟨member, (wf.holds_iff member).mp (List.find?_some found)⟩
  · rintro ⟨member, same⟩
    cases found : findEntry c key with
    | none => exact absurd ((wf.holds_iff member).mpr same) (List.find?_eq_none.mp found e member)
    | some other =>
      have other_member := List.mem_of_find?_eq_some found
      have other_key := (wf.holds_iff other_member).mp (List.find?_some found)
      rw [List.inj_on_of_nodup_map wf.distinct other_member member (other_key.trans same.symm)]

theorem cacheRead_eq_some (wf : c.WellFormed) {value : Binary32} :
    cacheRead c key = some value ↔ ∃ e ∈ c.entries, e.key = key ∧ e.value = value := by
  simp [cacheRead, Option.map_eq_some_iff, wf.findEntry_eq_some, and_assoc]

theorem cacheIsDirty_iff (wf : c.WellFormed) :
    cacheIsDirty c key = true ↔ ∃ e ∈ c.entries, e.key = key ∧ e.dirty = true := by
  rw [cacheIsDirty]
  cases found : findEntry c key with
  | none =>
    refine ⟨fun (h : false = true) => Bool.noConfusion h, ?_⟩
    rintro ⟨e, member, same, -⟩
    rw [wf.findEntry_eq_some.mpr ⟨member, same⟩] at found
    cases found
  | some e =>
    obtain ⟨member, same⟩ := wf.findEntry_eq_some.mp found
    simp only [wf.valid e member, Bool.true_and]
    refine ⟨fun dirty => ⟨e, member, same, dirty⟩, ?_⟩
    rintro ⟨other, other_member, other_key, dirty⟩
    rwa [List.inj_on_of_nodup_map wf.distinct member other_member (same.trans other_key.symm)]

theorem updateFirst_eq (wf : c.WellFormed) (f : CacheEntry → CacheEntry) :
    updateFirst (·.holds key) f c.entries = c.entries.map fun e => if e.key = key then f e else e :=
  updateFirst_eq_map wf.distinct fun _ member => wf.holds_iff member

theorem map (wf : c.WellFormed) {c' : Cache} {f : CacheEntry → CacheEntry} (mapped : c'.entries = c.entries.map f)
    (keeps_key : ∀ e, (f e).key = e.key) (keeps_valid : ∀ e, (f e).valid = e.valid) : c'.WellFormed where
  distinct := by
    have same : CacheEntry.key ∘ f = CacheEntry.key := funext keeps_key
    rw [mapped, List.map_map, same]
    exact wf.distinct
  valid := by
    intro e member
    rw [mapped] at member
    obtain ⟨old, old_member, rfl⟩ := List.mem_map.mp member
    rw [keeps_valid, wf.valid old old_member]

end Cache.WellFormed

theorem cacheInit_wellFormed : cacheInit.WellFormed := ⟨List.nodup_nil, by simp [cacheInit]⟩

/-- The entries after a write: the same table, one entry set and marked dirty, or a dirty one at the end. -/
theorem cacheWrite_cases {c : Cache} (wf : c.WellFormed) (key : CacheKey) (value : Binary32) :
    (cacheWrite c key value).1.entries = c.entries ∨
    (cacheWrite c key value).1.entries =
      c.entries.map (fun e => if e.key = key then { e with value := value, dirty := true } else e) ∨
    (∀ e ∈ c.entries, e.key ≠ key) ∧
      (cacheWrite c key value).1.entries =
        c.entries ++ [{ nodeId := key.1, metricId := key.2, value := value, valid := true, dirty := true }] := by
  unfold cacheWrite
  cases found : findEntry c key with
  | some e =>
    dsimp only
    split
    · exact .inl rfl
    · exact .inr (.inl (wf.updateFirst_eq _))
  | none =>
    dsimp only
    split
    · exact .inl rfl
    · refine .inr (.inr ⟨fun e member same => ?_, rfl⟩)
      rw [wf.findEntry_eq_some.mpr ⟨member, same⟩] at found
      cases found

theorem cacheWrite_wellFormed {c : Cache} (wf : c.WellFormed) (key : CacheKey) (value : Binary32) :
    (cacheWrite c key value).1.WellFormed := by
  rcases cacheWrite_cases wf key value with same | updated | ⟨absent, added⟩
  · exact ⟨same ▸ wf.distinct, same ▸ wf.valid⟩
  · exact wf.map updated (fun e => by split <;> rfl) (fun e => by split <;> rfl)
  · constructor
    · rw [added, List.map_append, List.map_singleton, ← List.concat_eq_append]
      refine List.Nodup.concat (fun member => ?_) wf.distinct
      obtain ⟨e, e_member, same⟩ := List.mem_map.mp member
      exact absent e e_member same
    · intro e member
      rw [added] at member
      rcases List.mem_append.mp member with old | new
      · exact wf.valid e old
      · rw [List.mem_singleton.mp new]

theorem CacheEntry.holds_oneKey : OneKey CacheEntry.holds := by
  intro e key key' holds holds'
  simp only [CacheEntry.holds, Bool.and_eq_true, beq_iff_eq] at holds holds'
  exact Prod.ext (holds.1.2.symm.trans holds'.1.2) (holds.2.symm.trans holds'.2)

/-- A write seen by a read of any key: equal values change nothing, and a full cache takes no new key. -/
theorem cacheRead_cacheWrite (c : Cache) (key : CacheKey) (value : Binary32) (other : CacheKey) :
    cacheRead (cacheWrite c key value).1 other =
      if key = other then
        match cacheRead c key with
        | some old => some (if Binary32.eq old value then old else value)
        | none => if c.entries.length ≥ cacheCapacity then none else some value
      else cacheRead c other := by
  rw [cacheWrite]
  cases found : findEntry c key with
  | some e =>
    have read : cacheRead c key = some e.value := by rw [cacheRead, found, Option.map_some]
    rw [read]
    dsimp only
    by_cases same : Binary32.eq e.value value = true
    · rw [if_pos same, if_pos same]
      split
      · rename_i own
        rw [← own]
        exact read
      · rfl
    · have keeps : ∀ (key : CacheKey) (e : CacheEntry), e.holds key = { e with value := value, dirty := true }.holds key :=
        fun _ _ => rfl
      rw [if_neg same, if_neg same, cacheRead, findEntry]
      refine (congrArg (Option.map CacheEntry.value)
        (find?_updateFirst_key CacheEntry.holds_oneKey (fun key e => (keeps key e).symm) key other)).trans ?_
      split
      · exact congrArg (Option.map _) (congrArg (Option.map _) found)
      · rfl
  | none =>
    have read : cacheRead c key = none := by rw [cacheRead, found, Option.map_none]
    rw [read]
    dsimp only
    by_cases full : c.entries.length ≥ cacheCapacity
    · rw [if_pos full, if_pos full]
      split
      · rename_i own
        rw [← own]
        exact read
      · rfl
    · have own : CacheEntry.holds key
          { nodeId := key.1, metricId := key.2, value := value, valid := true, dirty := true } = true := by
        simp [CacheEntry.holds]
      rw [if_neg full, if_neg full, cacheRead, findEntry]
      dsimp only
      rw [find?_concat_key CacheEntry.holds_oneKey own found]
      split <;> rfl

theorem cacheClearDirty_entries {c : Cache} (wf : c.WellFormed) (key : CacheKey) :
    (cacheClearDirty c key).1.entries = c.entries.map fun e => if e.key = key then { e with dirty := false } else e := by
  unfold cacheClearDirty
  cases found : findEntry c key with
  | some e => exact wf.updateFirst_eq _
  | none =>
    refine (List.map_id' _).symm.trans (List.map_congr_left fun e member => ?_)
    rw [if_neg]
    intro same
    rw [wf.findEntry_eq_some.mpr ⟨member, same⟩] at found
    cases found

theorem cacheClearDirty_wellFormed {c : Cache} (wf : c.WellFormed) (key : CacheKey) :
    (cacheClearDirty c key).1.WellFormed :=
  wf.map (cacheClearDirty_entries wf key) (fun e => by split <;> rfl) (fun e => by split <;> rfl)

end IotPlatform
