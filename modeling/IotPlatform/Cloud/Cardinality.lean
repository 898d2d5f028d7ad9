import Mathlib.Data.List.Induction
import IotPlatform.Lib.Distinct
import IotPlatform.Lib.Latest
import IotPlatform.Lib.Segments
import IotPlatform.Lib.Registry
import IotPlatform.Cloud.TelemetryStore

/-!
# The number of series of a tenant

A series is named by its site, node and metric. The store counts the names as it prints them.
-/

namespace IotPlatform
open Run Table Distinct

/-- `tenantId` is a C string. -/
def telemetryStoreGetCardinality (s : TelemetryStore) (tenantId : List UInt8) : UInt32 :=
  if !s.initialised then 0
  else
    match s.cardinality.find? fun entry => entry.active && decide (entry.tenantId.text = cString tenantId) with
    | some entry => entry.seriesCount
    | none => 0

/-- The ids a series is named by. -/
def TelemetryDataPoint.series (point : TelemetryDataPoint) : List UInt8 × List UInt8 × List UInt8 :=
  (point.siteId.text, point.nodeId.text, point.metricId.text)

def tenantsOf (writes : List TelemetryDataPoint) : List (List UInt8) := writes.map fun point => point.tenantId.text

/-- The keys of a tenant's points. -/
def seriesKeys (tenantId : List UInt8) (writes : List TelemetryDataPoint) : List (List UInt8) :=
  (tenantView tenantId writes).map makeSeriesKey

/-- The entry that is found for a tenant. -/
def TenantCardinality.isOf (tenantId : List UInt8) (entry : TenantCardinality) : Bool :=
  entry.active && decide (entry.tenantId.text = tenantId)

def TenantCardinality.count (seriesCount : UInt32) (entry : TenantCardinality) : TenantCardinality :=
  { entry with seriesCount := seriesCount }

variable {s : TelemetryStore} {writes : List TelemetryDataPoint} {point : TelemetryDataPoint}

/-! ### The recount -/

theorem uniqueSeries_eq (tenantId : Tag) (seen : List (List UInt8)) (points : List TelemetryDataPoint) :
    uniqueSeries tenantId seen points = UInt32.ofNat (meet seen (seriesKeys tenantId.text points)).length := by
  induction points generalizing seen with
  | nil => rfl
  | cons point rest ih =>
    rw [uniqueSeries]
    by_cases own : point.tenantId.text = tenantId.text
    · rw [if_neg (not_not_intro own), seriesKeys, tenantView_cons_own own, List.map_cons, meet]
      split
      · exact ih seen
      · exact ih _
    · rw [if_pos own, ih, seriesKeys, seriesKeys, tenantView_cons_other own]

theorem uniqueSeries_distinct (tenantId : Tag) (points : List TelemetryDataPoint) :
    uniqueSeries tenantId [] points = UInt32.ofNat (distinct (seriesKeys tenantId.text points)) := by
  rw [uniqueSeries_eq, length_meet_nil]

theorem tenantView_concat_other {tenantId : List UInt8} (other : point.tenantId.text ≠ tenantId)
    (writes : List TelemetryDataPoint) : tenantView tenantId (writes ++ [point]) = tenantView tenantId writes := by
  have left : tenantView tenantId [point] = [] := tenantView_cons_other other []
  rw [tenantView, List.filter_append, ← tenantView, ← tenantView, left, List.append_nil]

/-! ### The table -/

theorem findOrCreateCardinality_found {cardinality : List TenantCardinality} {tenantId : Tag} {i : Nat}
    (found : cardinality.findIdx? (·.isOf tenantId.text) = some i) :
    findOrCreateCardinality cardinality tenantId = (cardinality, some i) := by
  have search : cardinality.findIdx? (fun entry => entry.active && decide (entry.tenantId.text = tenantId.text)) = some i :=
    found
  simp only [findOrCreateCardinality, search]

/-- The entry made for a new tenant. -/
def newCardinality (tenantId : Tag) : TenantCardinality :=
  { tenantId := strncpy (telemetryStoreMaxTagLen - 1) tenantId.text, seriesCount := 0, active := true }

theorem newCardinality_text (tenantId : Tag) : (newCardinality tenantId).tenantId.text = tenantId.text := by
  have short := tenantId.length_text
  rw [newCardinality, strncpy_text, CArray.text, cString_cString]
  exact List.take_of_length_le (Nat.le_pred_of_lt short)

theorem findOrCreateCardinality_fresh {cardinality : List TenantCardinality} {tenantId : Tag}
    (absent : cardinality.findIdx? (·.isOf tenantId.text) = none) (room : cardinality.length < telemetryStoreMaxTenants) :
    findOrCreateCardinality cardinality tenantId = (cardinality ++ [newCardinality tenantId], some cardinality.length) := by
  have search : cardinality.findIdx? (fun entry => entry.active && decide (entry.tenantId.text = tenantId.text)) = none :=
    absent
  simp only [findOrCreateCardinality, search, Nat.not_le.mpr room, if_false, newCardinality]

theorem telemetryStoreWrite_found (ready : s.initialised = true) (room : s.store.length < telemetryStoreMaxSeries) {i : Nat}
    (found : s.cardinality.findIdx? (·.isOf point.tenantId.text) = some i) :
    (telemetryStoreWrite s point).1.cardinality = updateFirst (·.isOf point.tenantId.text)
      (·.count (UInt32.ofNat (distinct (seriesKeys point.tenantId.text (s.store ++ [point]))))) s.cardinality := by
  have notFull : ¬telemetryStoreMaxSeries ≤ s.store.length := Nat.not_le_of_lt room
  rw [← modify_findIdx? found, ← uniqueSeries_distinct]
  simp [telemetryStoreWrite, ready, notFull, findOrCreateCardinality_found found, TenantCardinality.count]

theorem telemetryStoreWrite_fresh (ready : s.initialised = true) (room : s.store.length < telemetryStoreMaxSeries)
    (absent : s.cardinality.findIdx? (·.isOf point.tenantId.text) = none)
    (spare : s.cardinality.length < telemetryStoreMaxTenants) :
    (telemetryStoreWrite s point).1.cardinality = s.cardinality ++ [(newCardinality point.tenantId).count
      (UInt32.ofNat (distinct (seriesKeys point.tenantId.text (s.store ++ [point]))))] := by
  have notFull : ¬telemetryStoreMaxSeries ≤ s.store.length := Nat.not_le_of_lt room
  rw [← uniqueSeries_distinct]
  simp [telemetryStoreWrite, ready, notFull, findOrCreateCardinality_fresh absent spare, TenantCardinality.count,
    modify_concat]

theorem TenantCardinality.isOf_iff {tenantId : List UInt8} {entry : TenantCardinality} :
    entry.isOf tenantId = true ↔ entry.active = true ∧ entry.tenantId.text = tenantId := by
  rw [isOf, Bool.and_eq_true, decide_eq_true_eq]

@[simp] theorem TenantCardinality.tenantId_count (seriesCount : UInt32) (entry : TenantCardinality) :
    (entry.count seriesCount).tenantId = entry.tenantId := by rw [count]

@[simp] theorem TenantCardinality.active_count (seriesCount : UInt32) (entry : TenantCardinality) :
    (entry.count seriesCount).active = entry.active := by rw [count]

@[simp] theorem TenantCardinality.seriesCount_count (seriesCount : UInt32) (entry : TenantCardinality) :
    (entry.count seriesCount).seriesCount = seriesCount := by rw [count]

theorem TenantCardinality.isOf_count (tenantId : List UInt8) (seriesCount : UInt32) (entry : TenantCardinality) :
    (entry.count seriesCount).isOf tenantId = entry.isOf tenantId := by
  rw [isOf, isOf, tenantId_count, active_count]

theorem oneKey_isOf : OneKey TenantCardinality.isOf := fun _ _ _ own other =>
  (TenantCardinality.isOf_iff.mp own).2.symm.trans (TenantCardinality.isOf_iff.mp other).2

theorem mem_tenantsOf_concat {tenantId : List UInt8} :
    tenantId ∈ tenantsOf (writes ++ [point]) ↔ tenantId ∈ tenantsOf writes ∨ point.tenantId.text = tenantId := by
  simp [tenantsOf, eq_comm]

theorem seriesKeys_concat_other {tenantId : List UInt8} (other : point.tenantId.text ≠ tenantId) :
    seriesKeys tenantId (writes ++ [point]) = seriesKeys tenantId writes := by
  rw [seriesKeys, tenantView_concat_other other, seriesKeys]

/-- What the table says of a tenant. -/
def countOf (tenantId : List UInt8) (cardinality : List TenantCardinality) : UInt32 :=
  ((cardinality.find? (·.isOf tenantId)).map TenantCardinality.seriesCount).getD 0

/-- One active entry for each tenant of the writes, with the number of its keys. -/
structure TelemetryStore.Counts (s : TelemetryStore) (writes : List TelemetryDataPoint) : Prop where
  ready : s.initialised = true
  stored : s.store = writes
  active : ∀ entry ∈ s.cardinality, entry.active = true
  separate : (s.cardinality.map fun entry => entry.tenantId.text).Nodup
  owned : ∀ tenantId ∈ s.cardinality.map (fun entry => entry.tenantId.text), tenantId ∈ tenantsOf writes
  counted : ∀ tenantId, countOf tenantId s.cardinality = UInt32.ofNat (distinct (seriesKeys tenantId writes))

theorem TelemetryStore.Counts.recount (counts : s.Counts writes) (room : writes.length < telemetryStoreMaxSeries) {i : Nat}
    (found : s.cardinality.findIdx? (·.isOf point.tenantId.text) = some i) :
    (telemetryStoreWrite s point).1.Counts (writes ++ [point]) := by
  have room' : s.store.length < telemetryStoreMaxSeries := counts.stored ▸ room
  obtain ⟨ready, stored⟩ := telemetryStoreWrite_store counts.ready room' point
  have table := telemetryStoreWrite_found counts.ready room' found
  rw [counts.stored] at stored table
  have ids : (telemetryStoreWrite s point).1.cardinality.map (fun entry => entry.tenantId.text) =
      s.cardinality.map fun entry => entry.tenantId.text := by
    rw [table]
    exact map_updateFirst fun entry => by rw [entry.tenantId_count]
  refine ⟨ready, stored, ?_, ?_, fun tenantId member => ?_, fun tenantId => ?_⟩
  · rw [table]
    exact forall_updateFirst counts.active fun entry active => (entry.active_count _).trans active
  · rw [ids]
    exact counts.separate
  · rw [ids] at member
    exact mem_tenantsOf_concat.mpr (.inl (counts.owned tenantId member))
  · rw [table, countOf, find?_updateFirst_key oneKey_isOf fun tenantId entry => entry.isOf_count tenantId _]
    by_cases own : point.tenantId.text = tenantId
    · have present : (s.cardinality.find? (·.isOf point.tenantId.text)).isSome = true := by
        rw [List.find?_isSome, ← List.any_eq_true, ← List.findIdx?_isSome, found]
        rfl
      obtain ⟨entry, entryFound⟩ := Option.isSome_iff_exists.mp present
      rw [if_pos own, entryFound, Option.map_some, Option.map_some, entry.seriesCount_count, Option.getD_some, own]
    · rw [if_neg own, seriesKeys_concat_other own]
      exact counts.counted tenantId

theorem TelemetryStore.Counts.fresh (counts : s.Counts writes)
    (absent : s.cardinality.findIdx? (·.isOf point.tenantId.text) = none) :
    point.tenantId.text ∉ s.cardinality.map fun entry => entry.tenantId.text := by
  intro listed
  obtain ⟨entry, member, same⟩ := List.mem_map.mp listed
  have unnamed := List.findIdx?_eq_none_iff.mp absent entry member
  rw [TenantCardinality.isOf_iff.mpr ⟨counts.active entry member, same⟩] at unnamed
  cases unnamed

theorem TelemetryStore.Counts.spare (counts : s.Counts writes)
    (few : (tenantsOf (writes ++ [point])).dedup.length ≤ telemetryStoreMaxTenants)
    (absent : s.cardinality.findIdx? (·.isOf point.tenantId.text) = none) :
    s.cardinality.length < telemetryStoreMaxTenants := by
  have spareIds := Latest.room_for_fresh counts.separate (counts.fresh absent) ?_ few
  · rwa [List.length_map] at spareIds
  · intro tenantId member
    rcases List.mem_cons.mp member with rfl | old
    · exact mem_tenantsOf_concat.mpr (.inr rfl)
    · exact mem_tenantsOf_concat.mpr (.inl (counts.owned tenantId old))

theorem TelemetryStore.Counts.create (counts : s.Counts writes) (room : writes.length < telemetryStoreMaxSeries)
    (few : (tenantsOf (writes ++ [point])).dedup.length ≤ telemetryStoreMaxTenants)
    (absent : s.cardinality.findIdx? (·.isOf point.tenantId.text) = none) :
    (telemetryStoreWrite s point).1.Counts (writes ++ [point]) := by
  have room' : s.store.length < telemetryStoreMaxSeries := counts.stored ▸ room
  obtain ⟨ready, stored⟩ := telemetryStoreWrite_store counts.ready room' point
  have table := telemetryStoreWrite_fresh counts.ready room' absent (counts.spare few absent)
  rw [counts.stored] at stored table
  obtain ⟨recounted, number⟩ : ∃ recounted,
      recounted = UInt32.ofNat (distinct (seriesKeys point.tenantId.text (writes ++ [point]))) := ⟨_, rfl⟩
  rw [← number] at table
  have text : ((newCardinality point.tenantId).count recounted).tenantId.text = point.tenantId.text := by
    rw [TenantCardinality.tenantId_count, newCardinality_text]
  refine ⟨ready, stored, fun entry member => ?_, ?_, fun tenantId member => ?_, fun tenantId => ?_⟩
  · rw [table] at member
    rcases List.mem_append.mp member with old | new
    · exact counts.active entry old
    · rw [List.mem_singleton.mp new, TenantCardinality.active_count]
      rfl
  · rw [table]
    refine Registry.distinct_concat ?_ counts.separate
    rw [text]
    exact counts.fresh absent
  · rw [table, List.map_append, List.mem_append, List.map_singleton, List.mem_singleton, text] at member
    rcases member with old | rfl
    · exact mem_tenantsOf_concat.mpr (.inl (counts.owned tenantId old))
    · exact mem_tenantsOf_concat.mpr (.inr rfl)
  · have named : ((newCardinality point.tenantId).count recounted).isOf point.tenantId.text = true :=
      TenantCardinality.isOf_iff.mpr ⟨TenantCardinality.active_count .., text⟩
    have missing : s.cardinality.find? (·.isOf point.tenantId.text) = none := by
      rw [List.find?_eq_none]
      exact fun entry member => Bool.not_eq_true _ ▸ List.findIdx?_eq_none_iff.mp absent entry member
    rw [table, countOf, find?_concat_key oneKey_isOf named missing]
    by_cases own : point.tenantId.text = tenantId
    · rw [if_pos own, Option.map_some, TenantCardinality.seriesCount_count, number, Option.getD_some, own]
    · rw [if_neg own, seriesKeys_concat_other own]
      exact counts.counted tenantId

/-! ### All writes -/

/-- Writes that all succeed are no more than the store holds. -/
theorem length_of_successes {writes : List TelemetryDataPoint}
    (successes : ∀ result ∈ outputs telemetryStoreWrite telemetryStoreInit writes, result = .ok) :
    writes.length ≤ telemetryStoreMaxSeries := by
  apply Nat.le_of_not_lt
  intro more
  obtain ⟨ready, stored⟩ := storeAfter_store (List.length_take_le telemetryStoreMaxSeries writes)
  have result : (outputs telemetryStoreWrite telemetryStoreInit writes)[telemetryStoreMaxSeries]? = _ :=
    getElem?_outputs writes telemetryStoreMaxSeries
  rw [List.getElem?_eq_getElem more, Option.map_some, ← storeAfter] at result
  have full : telemetryStoreMaxSeries ≤ (storeAfter (writes.take telemetryStoreMaxSeries)).store.length := by
    rw [stored, List.length_take]
    omega
  have refused := successes _ (List.mem_of_getElem? result)
  simp [telemetryStoreWrite, ready, full] at refused

theorem storeAfter_counts {writes : List TelemetryDataPoint} (within : writes.length ≤ telemetryStoreMaxSeries)
    (few : (tenantsOf writes).dedup.length ≤ telemetryStoreMaxTenants) : (storeAfter writes).Counts writes := by
  induction writes using List.reverseRecOn with
  | nil => exact ⟨rfl, rfl, fun _ member => absurd member List.not_mem_nil, List.nodup_nil,
      fun _ member => absurd member List.not_mem_nil, fun _ => rfl⟩
  | append_singleton writes point ih =>
    rw [List.length_append, List.length_singleton] at within
    have fewer := Latest.length_dedup_le_append (tenantsOf writes) (tenantsOf [point])
    rw [tenantsOf, tenantsOf, ← List.map_append, ← tenantsOf, ← tenantsOf] at fewer
    have counts := ih (by omega) (Nat.le_trans fewer few)
    rw [storeAfter, finalState_concat, ← storeAfter]
    cases found : (storeAfter writes).cardinality.findIdx? (·.isOf point.tenantId.text) with
    | some i => exact counts.recount within found
    | none => exact counts.create within few found

theorem telemetryStoreGetCardinality_eq {s : TelemetryStore} (counts : s.Counts writes)
    (within : writes.length ≤ telemetryStoreMaxSeries) (tenantId : List UInt8) :
    (telemetryStoreGetCardinality s tenantId).toNat = distinct (seriesKeys (cString tenantId) writes) := by
  have few : distinct (seriesKeys (cString tenantId) writes) ≤ telemetryStoreMaxSeries := calc
    distinct (seriesKeys (cString tenantId) writes) ≤ (seriesKeys (cString tenantId) writes).length := distinct_le_length _
    _ = (tenantView (cString tenantId) writes).length := List.length_map _
    _ ≤ writes.length := List.length_filter_le _ _
    _ ≤ telemetryStoreMaxSeries := within
  have small : telemetryStoreMaxSeries < 2 ^ 32 := by decide
  have number : telemetryStoreGetCardinality s tenantId = countOf (cString tenantId) s.cardinality := by
    rw [telemetryStoreGetCardinality, counts.ready, countOf]
    change (match s.cardinality.find? (TenantCardinality.isOf (cString tenantId)) with
      | some entry => entry.seriesCount
      | none => 0) = _
    cases s.cardinality.find? (TenantCardinality.isOf (cString tenantId)) <;> rfl
  rw [number, counts.counted, UInt32.toNat_ofNat', Nat.mod_eq_of_lt (Nat.lt_of_le_of_lt few small)]

/-- The key as a function of the three ids. -/
def printSeries (series : List UInt8 × List UInt8 × List UInt8) : List UInt8 :=
  series.1 ++ asciiBytes ":" ++ series.2.1 ++ asciiBytes ":" ++ series.2.2

theorem makeSeriesKey_printSeries (point : TelemetryDataPoint) : makeSeriesKey point = printSeries point.series :=
  makeSeriesKey_eq point

/-- Ids without a colon can be read back from the key. -/
theorem series_of_makeSeriesKey {p q : TelemetryDataPoint} (left : 0x3A ∉ p.siteId.text ∧ 0x3A ∉ p.nodeId.text)
    (right : 0x3A ∉ q.siteId.text ∧ 0x3A ∉ q.nodeId.text) (same : makeSeriesKey p = makeSeriesKey q) :
    p.series = q.series := by
  have colon : asciiBytes ":" = [0x3A] := by decide
  rw [makeSeriesKey_eq, makeSeriesKey_eq, colon] at same
  simp only [List.append_assoc, List.singleton_append] at same
  obtain ⟨site, rest⟩ := Segments.append_sep_inj left.1 right.1 same
  obtain ⟨node, metric⟩ := Segments.append_sep_inj left.2 right.2 rest
  rw [TelemetryDataPoint.series, TelemetryDataPoint.series, site, node, metric]

/-- The cardinality of a tenant is the number of its series exactly when no two of them print one key. -/
theorem cardinality_exact (writes : List TelemetryDataPoint)
    (successes : ∀ result ∈ outputs telemetryStoreWrite telemetryStoreInit writes, result = .ok)
    (few : (tenantsOf writes).dedup.length ≤ telemetryStoreMaxTenants) (tenantId : List UInt8) :
    (telemetryStoreGetCardinality (storeAfter writes) tenantId).toNat =
        distinct ((tenantView (cString tenantId) (storeAfter writes).store).map TelemetryDataPoint.series) ↔
      ∀ p ∈ tenantView (cString tenantId) (storeAfter writes).store,
        ∀ q ∈ tenantView (cString tenantId) (storeAfter writes).store,
          makeSeriesKey p = makeSeriesKey q → p.series = q.series := by
  have within := length_of_successes successes
  have counts := storeAfter_counts within few
  rw [telemetryStoreGetCardinality_eq counts within, counts.stored, seriesKeys]
  rw [show makeSeriesKey = fun point => printSeries point.series from funext makeSeriesKey_printSeries]
  exact distinct_map_iff printSeries TelemetryDataPoint.series (tenantView (cString tenantId) writes)

def seriesPoint (siteId nodeId : String) : TelemetryDataPoint :=
  { pointOf "t" 0 with siteId := strncpy 63 (asciiBytes siteId), nodeId := strncpy 63 (asciiBytes nodeId) }

theorem cardinality_exact_two_sites :
    (telemetryStoreGetCardinality (storeAfter [seriesPoint "a" "n", seriesPoint "b" "n"]) (asciiBytes "t")).toNat = 2 := by
  have exact := (cardinality_exact [seriesPoint "a" "n", seriesPoint "b" "n"] (by decide +kernel) (by decide +kernel)
    (asciiBytes "t")).mpr
  refine (exact ?_).trans (by decide +kernel)
  decide +kernel

/-- Site `a:b` with node `c` and site `a` with node `b:c` are counted as one series. -/
theorem two_series_one_key :
    let writes := [seriesPoint "a:b" "c", seriesPoint "a" "b:c"]
    outputs telemetryStoreWrite telemetryStoreInit writes = [.ok, .ok] ∧ (tenantsOf writes).dedup.length = 1 ∧
      (telemetryStoreGetCardinality (storeAfter writes) (asciiBytes "t")).toNat = 1 ∧
      distinct ((tenantView (cString (asciiBytes "t")) (storeAfter writes).store).map TelemetryDataPoint.series) = 2 := by
  decide +kernel

end IotPlatform
