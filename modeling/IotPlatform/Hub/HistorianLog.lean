import Mathlib.Data.List.Induction
import IotPlatform.Lib.RingBuffer
import IotPlatform.Lib.Run
import IotPlatform.Lib.Suffix
import IotPlatform.Hub.Historian

/-!
# The historian as a bounded, age-limited log

Without storage, a run of writes leaves the ring holding the last records that fit and are at most thirty days
older than the newest one, and reading returns them in write order.
-/

namespace IotPlatform
open Bytes RingBuffer Run Suffix

/-! ### Records at rest -/

@[simp] theorem length_encodeRecord (r : HistorianRecord) : (encodeRecord r).length = historianRecordSize := by
  simp [encodeRecord, historianRecordSize]

theorem decodeRecord_encodeRecord (r : HistorianRecord) : decodeRecord (encodeRecord r) = r := by
  have nested : encodeRecord r =
      leBytes 8 r.timestampMs.toNat ++ (leBytes 4 r.value.bits.toNat ++ (leBytes 4 r.sequence.toNat ++
        (leBytes 2 r.nodeId.toNat ++ ([r.metricId, r.domainProfileId] ++ leBytes 4 r.reserved.toNat)))) := by
    simp [encodeRecord]
  have at8 : (encodeRecord r).drop 8 = leBytes 4 r.value.bits.toNat ++ (leBytes 4 r.sequence.toNat ++
      (leBytes 2 r.nodeId.toNat ++ ([r.metricId, r.domainProfileId] ++ leBytes 4 r.reserved.toNat))) := by
    rw [nested, List.drop_left' (length_leBytes ..)]
  have at12 : (encodeRecord r).drop 12 = leBytes 4 r.sequence.toNat ++
      (leBytes 2 r.nodeId.toNat ++ ([r.metricId, r.domainProfileId] ++ leBytes 4 r.reserved.toNat)) := by
    rw [show 12 = 8 + 4 from rfl, ← List.drop_drop, at8, List.drop_left' (length_leBytes ..)]
  have at16 : (encodeRecord r).drop 16 =
      leBytes 2 r.nodeId.toNat ++ ([r.metricId, r.domainProfileId] ++ leBytes 4 r.reserved.toNat) := by
    rw [show 16 = 12 + 4 from rfl, ← List.drop_drop, at12, List.drop_left' (length_leBytes ..)]
  have at18 : (encodeRecord r).drop 18 = [r.metricId, r.domainProfileId] ++ leBytes 4 r.reserved.toNat := by
    rw [show 18 = 16 + 2 from rfl, ← List.drop_drop, at16, List.drop_left' (length_leBytes ..)]
  have at19 : (encodeRecord r).drop 19 = [r.domainProfileId] ++ leBytes 4 r.reserved.toNat := by
    rw [show 19 = 18 + 1 from rfl, ← List.drop_drop, at18]
    rfl
  have at20 : (encodeRecord r).drop 20 = leBytes 4 r.reserved.toNat := by
    rw [show 20 = 19 + 1 from rfl, ← List.drop_drop, at19]
    rfl
  have metric : (encodeRecord r).getD 18 0 = r.metricId := by
    rw [List.getD_eq_getElem?_getD, ← List.head?_drop, at18]
    rfl
  have profile : (encodeRecord r).getD 19 0 = r.domainProfileId := by
    rw [List.getD_eq_getElem?_getD, ← List.head?_drop, at19]
    rfl
  have reserved : (leBytes 4 r.reserved.toNat).take 4 = leBytes 4 r.reserved.toNat :=
    List.take_of_length_le (by simp)
  rw [decodeRecord, at8, at12, at16, at20, metric, profile, reserved, nested, List.take_left' (length_leBytes ..),
    List.take_left' (length_leBytes ..), List.take_left' (length_leBytes ..), List.take_left' (length_leBytes ..),
    ofNat_leNat64, ofNat_leNat32, ofNat_leNat32, ofNat_leNat16, ofNat_leNat32]

@[simp] theorem length_buildNonce (recordIndex counter : UInt32) : (buildNonce recordIndex counter).length = 13 := by
  simp [buildNonce]

/-- What the code relies on: encrypting a record under a 13-byte nonce succeeds, keeps the length and is undone by
decrypting under the same key and nonce. -/
def Ccm.Lawful (ccm : Ccm) : Prop :=
  ∀ key nonce plaintext, nonce.length = 13 → plaintext.length = historianRecordSize →
    ∃ ciphertext tag, ccm.encryptAndTag key nonce plaintext = some (ciphertext, tag) ∧
      ciphertext.length = plaintext.length ∧ ccm.authDecrypt key nonce ciphertext tag = some plaintext

def ondiskAt (ccm : Ccm) (key : HistorianKey) (pos : Nat) (r : HistorianRecord) : List UInt8 :=
  (encryptRecord ccm (some key) (UInt32.ofNat pos) (UInt32.ofNat pos) r).getD []

theorem encryptRecord_lawful {ccm : Ccm} (lawful : ccm.Lawful) (key : HistorianKey) (pos : UInt32) (r : HistorianRecord) :
    encryptRecord ccm (some key) pos pos r = some (ondiskAt ccm key pos.toNat r) := by
  obtain ⟨ciphertext, tag, encrypted, -, -⟩ :=
    lawful key (buildNonce pos pos) (encodeRecord r) (length_buildNonce ..) (length_encodeRecord r)
  simp [ondiskAt, encryptRecord, encrypted]

theorem decryptRecord_lawful {ccm : Ccm} (lawful : ccm.Lawful) (key : HistorianKey) (pos : UInt32) (r : HistorianRecord) :
    decryptRecord ccm (some key) pos pos (ondiskAt ccm key pos.toNat r) = some r := by
  obtain ⟨ciphertext, tag, encrypted, length, decrypted⟩ :=
    lawful key (buildNonce pos pos) (encodeRecord r) (length_buildNonce ..) (length_encodeRecord r)
  have ondisk : ondiskAt ccm key pos.toNat r = ciphertext ++ tag := by simp [ondiskAt, encryptRecord, encrypted]
  rw [length_encodeRecord] at length
  rw [ondisk, decryptRecord, Option.bind_some, List.take_left' length, List.drop_left' length, decrypted, Option.map_some,
    decodeRecord_encodeRecord]

/-! ### Reading -/

section Reading

variable {σ : Type} (capacity : HistorianCapacity) (ccm : Ccm)

/-- What decrypting the record number `j`, counted from the oldest, gives. -/
def recordAt (s : Historian σ) (j : Nat) : Option HistorianRecord :=
  let pos := (oldestPos capacity s + UInt32.ofNat j) % capacity.size
  decryptRecord ccm s.key pos pos (s.ring pos.toNat)

def liveRecords (s : Historian σ) : List HistorianRecord :=
  (List.range s.count.toNat).filterMap (recordAt capacity ccm s)

theorem length_liveRecords_le (s : Historian σ) : (liveRecords capacity ccm s).length ≤ s.count.toNat := by
  have filtered := List.length_filterMap_le (recordAt capacity ccm s) (List.range s.count.toNat)
  rw [List.length_range] at filtered
  exact filtered

theorem readLoop_eq (s : Historian σ) (query : Option HistorianQuery) (remaining n room : Nat) :
    (readLoop capacity ccm s query remaining (UInt32.ofNat n) room).1 =
      (((List.range' n remaining).filterMap (recordAt capacity ccm s)).filter (HistorianQuery.accepts query)).take room := by
  induction remaining generalizing n room with
  | zero => simp [readLoop]
  | succ remaining ih =>
    cases room with
    | zero => simp [readLoop]
    | succ room =>
      have next : UInt32.ofNat n + 1 = UInt32.ofNat (n + 1) := (UInt32.ofNat_add n 1).symm
      rw [readLoop, next, List.range'_succ, List.filterMap_cons]
      have opened : decryptRecord ccm s.key ((oldestPos capacity s + UInt32.ofNat n) % capacity.size)
          ((oldestPos capacity s + UInt32.ofNat n) % capacity.size)
          (s.ring ((oldestPos capacity s + UInt32.ofNat n) % capacity.size).toNat) = recordAt capacity ccm s n := rfl
      dsimp only
      rw [opened]
      cases recordAt capacity ccm s n with
      | none => exact ih (n + 1) (room + 1)
      | some r =>
        dsimp only
        cases accepted : HistorianQuery.accepts query r with
        | true =>
          rw [if_pos rfl, List.filter_cons_of_pos accepted, List.take_succ_cons]
          exact congrArg _ (ih (n + 1) room)
        | false =>
          rw [if_neg (by decide), List.filter_cons_of_neg (by simp [accepted])]
          exact ih (n + 1) (room + 1)

theorem historianRead_eq {s : Historian σ} (initialised : s.initialised = true) (query : Option HistorianQuery)
    {maxRecords : UInt32} (some_room : maxRecords ≠ 0) :
    (historianRead capacity ccm s query maxRecords).2 =
      ((liveRecords capacity ccm s).filter (HistorianQuery.accepts query)).take maxRecords.toNat := by
  rw [historianRead, initialised, if_neg (by decide), if_neg some_room, liveRecords, List.range_eq_range']
  exact readLoop_eq capacity ccm s query s.count.toNat 0 maxRecords.toNat

theorem historianRead_all {s : Historian σ} (initialised : s.initialised = true) (maxRecords : UInt32) :
    (historianRead capacity ccm s none maxRecords).2 = (liveRecords capacity ccm s).take maxRecords.toNat := by
  by_cases no_room : maxRecords = 0
  · rw [no_room, historianRead, initialised, if_neg (by decide), if_pos rfl, UInt32.toNat_zero, List.take_zero]
  · have all : (liveRecords capacity ccm s).filter (HistorianQuery.accepts none) = liveRecords capacity ccm s :=
      List.filter_eq_self.mpr fun _ _ => rfl
    rw [historianRead_eq capacity ccm initialised none no_room, all]

end Reading

/-! ### Ring positions in 32-bit arithmetic -/

section Positions

variable {σ : Type} {capacity : HistorianCapacity} {s : Historian σ}

theorem oldestPos_toNat (inside : s.writeIndex.toNat < capacity.size.toNat) (fits : s.count.toNat ≤ capacity.size.toNat) :
    (oldestPos capacity s).toNat = slot capacity.size.toNat s.writeIndex.toNat s.count.toNat 0 := by
  have bounded := capacity.bounded
  have sum : (s.writeIndex - s.count + capacity.size).toNat =
      s.writeIndex.toNat + capacity.size.toNat - s.count.toNat := by
    rw [UInt32.toNat_add, UInt32.toNat_sub]
    omega
  rw [oldestPos, UInt32.toNat_mod, sum, slot, Nat.add_zero]

theorem recordPos_toNat (inside : s.writeIndex.toNat < capacity.size.toNat) (fits : s.count.toNat ≤ capacity.size.toNat)
    {j : Nat} (used : j < s.count.toNat) :
    ((oldestPos capacity s + UInt32.ofNat j) % capacity.size).toNat =
      slot capacity.size.toNat s.writeIndex.toNat s.count.toNat j := by
  have bounded := capacity.bounded
  have oldest := oldestPos_toNat inside fits
  have oldest_lt := slot_lt inside s.count.toNat 0
  have sum : (oldestPos capacity s + UInt32.ofNat j).toNat =
      slot capacity.size.toNat s.writeIndex.toNat s.count.toNat 0 + j := by
    rw [UInt32.toNat_add, UInt32.toNat_ofNat', oldest]
    omega
  rw [UInt32.toNat_mod, sum, slot, slot, Nat.add_zero, Nat.mod_add_mod]

end Positions

/-! ### The ring holds a list of records -/

/-- The records in use are the list, oldest first, encrypted under the key. -/
structure HoldsLog {σ : Type} (capacity : HistorianCapacity) (ccm : Ccm) (key : HistorianKey) (s : Historian σ)
    (records : List HistorianRecord) : Prop where
  keyed : s.key = some key
  counted : s.count.toNat = records.length
  stored : Stores capacity.size.toNat s.writeIndex.toNat s.ring (ondiskAt ccm key) records

section Log

variable {σ : Type} {capacity : HistorianCapacity} {ccm : Ccm} {key : HistorianKey} {s : Historian σ}
  {records : List HistorianRecord} {r : HistorianRecord}

theorem HoldsLog.recordAt (holds : HoldsLog capacity ccm key s records) (lawful : ccm.Lawful) {j : Nat}
    (found : records[j]? = some r) : recordAt capacity ccm s j = some r := by
  have used : j < s.count.toNat := by
    rw [holds.counted]
    exact (List.getElem?_eq_some_iff.mp found).1
  have fits : s.count.toNat ≤ capacity.size.toNat := holds.counted ▸ holds.stored.fits
  have pos := recordPos_toNat holds.stored.inside fits used
  have cell := holds.stored.cell j r found
  rw [← holds.counted, ← pos] at cell
  rw [IotPlatform.recordAt, holds.keyed, cell, decryptRecord_lawful lawful]

theorem filterMap_range_getElem? {α : Type} {xs : List α} {n : Nat} (enough : xs.length ≤ n) :
    (List.range n).filterMap (fun j => xs[j]?) = xs := by
  induction xs generalizing n with
  | nil => simp
  | cons x xs ih =>
    obtain ⟨n, rfl⟩ : ∃ m, n = m + 1 := ⟨n - 1, by rw [List.length_cons] at enough; omega⟩
    rw [List.range_succ_eq_map, List.filterMap_cons, List.filterMap_map]
    exact congrArg _ (ih (Nat.le_of_succ_le_succ enough))

theorem HoldsLog.liveRecords (holds : HoldsLog capacity ccm key s records) (lawful : ccm.Lawful) :
    liveRecords capacity ccm s = records := by
  rw [IotPlatform.liveRecords, holds.counted]
  refine (List.filterMap_congr fun j member => ?_).trans (filterMap_range_getElem? (Nat.le_refl _))
  have used := List.mem_range.mp member
  rw [List.getElem?_eq_getElem used]
  exact holds.recordAt lawful (List.getElem?_eq_getElem used)

theorem HoldsLog.oldest {rest : List HistorianRecord} (holds : HoldsLog capacity ccm key s (r :: rest))
    (lawful : ccm.Lawful) :
    decryptRecord ccm s.key (oldestPos capacity s) (oldestPos capacity s) (s.ring (oldestPos capacity s).toNat) =
      some r := by
  have fits : s.count.toNat ≤ capacity.size.toNat := holds.counted ▸ holds.stored.fits
  have cell := holds.stored.cell 0 r rfl
  rw [← holds.counted, ← oldestPos_toNat holds.stored.inside fits] at cell
  rw [holds.keyed, cell, decryptRecord_lawful lawful]

theorem HoldsLog.evictOldest {rest : List HistorianRecord} (holds : HoldsLog capacity ccm key s (r :: rest)) :
    HoldsLog capacity ccm key (evictOldest s) rest where
  keyed := holds.keyed
  counted := evictOldest_count (holds.counted.trans List.length_cons)
  stored := holds.stored.drop 1 (by simp)

theorem evictByAge_holds (holds : HoldsLog capacity ccm key s records) (lawful : ccm.Lawful) (now : UInt64) :
    HoldsLog capacity ccm key (evictByAge capacity ccm now records.length s) (records.dropWhile (tooOld now)) := by
  induction records generalizing s with
  | nil => exact holds
  | cons r rest ih =>
    rw [List.length_cons, evictByAge]
    dsimp only
    rw [holds.oldest lawful]
    dsimp only
    cases old : tooOld now r with
    | true =>
      rw [if_pos rfl, List.dropWhile_cons_of_pos old]
      exact ih holds.evictOldest
    | false =>
      rw [if_neg (by decide), List.dropWhile_cons_of_neg (by simp [old])]
      exact holds

theorem evictByCapacity_holds (holds : HoldsLog capacity ccm key s records) :
    HoldsLog capacity ccm key (evictByCapacity capacity records.length s)
      (records.drop (records.length - (capacity.size.toNat - 1))) := by
  have pos := capacity.pos
  have fits := holds.stored.fits
  -- A round below capacity stops the loop.
  have stops : ∀ (n : Nat) {s : Historian σ}, s.count.toNat < capacity.size.toNat → evictByCapacity capacity n s = s := by
    intro n s below
    cases n with
    | zero => rfl
    | succ n => rw [evictByCapacity, if_neg (by rw [ge_iff_le, UInt32.le_iff_toNat_le]; omega)]
  rcases Nat.lt_or_ge records.length capacity.size.toNat with below | full
  · rw [stops _ (holds.counted ▸ below), show records.length - (capacity.size.toNat - 1) = 0 by omega]
    exact holds
  · cases records with
    | nil =>
      rw [List.length_nil] at full
      omega
    | cons r rest =>
      have counted := holds.counted
      rw [List.length_cons] at full fits counted
      have after := holds.evictOldest
      rw [List.length_cons, evictByCapacity, if_pos (by rw [ge_iff_le, UInt32.le_iff_toNat_le]; omega),
        stops _ (after.counted ▸ (by omega)), show rest.length + 1 - (capacity.size.toNat - 1) = 1 by omega]
      exact after

/-- What eviction leaves of a log for a record written at `now`. -/
def evictLog (capacity : Nat) (now : UInt64) (records : List HistorianRecord) : List HistorianRecord :=
  let aged := records.dropWhile (tooOld now)
  aged.drop (aged.length - (capacity - 1))

theorem historianEvict_holds (holds : HoldsLog capacity ccm key s records) (lawful : ccm.Lawful) (now : UInt64) :
    HoldsLog capacity ccm key (historianEvict capacity ccm s now) (evictLog capacity.size.toNat now records) := by
  have aged := evictByAge_holds holds lawful now
  rw [historianEvict, holds.counted, aged.counted]
  exact evictByCapacity_holds aged

theorem historianAutoFlush_none (s : Historian σ) (now : UInt64) : historianAutoFlush capacity none s now = s := by
  have idle : historianFlush capacity none s now = s := by
    unfold historianFlush
    split
    · rfl
    · split <;> rfl
  obtain flushed | ⟨same, -⟩ := historianAutoFlush_cases capacity none s now
  · exact flushed.trans idle
  · exact same

theorem HoldsLog.putRecord (holds : HoldsLog capacity ccm key s records) (room : records.length < capacity.size.toNat)
    (r : HistorianRecord) :
    HoldsLog capacity ccm key (putRecord capacity s (ondiskAt ccm key s.writeIndex.toNat r)) (records ++ [r]) where
  keyed := holds.keyed
  counted := by
    rw [(putRecord_indices holds.stored.inside (holds.counted ▸ room) _).2, holds.counted, List.length_append,
      List.length_singleton]
  stored := by
    rw [(putRecord_indices holds.stored.inside (holds.counted ▸ room) _).1]
    exact holds.stored.push room r

/-- What a run of writes keeps: the ring holds the log, and the counters account for every record. -/
structure LogInvariant (capacity : HistorianCapacity) (ccm : Ccm) (key : HistorianKey) (s : Historian σ)
    (records : List HistorianRecord) : Prop where
  initialised : s.initialised = true
  holds : HoldsLog capacity ccm key s records
  accounted : s.count + s.stats.recordsEvicted = s.stats.recordsWritten

theorem historianWrite_invariant (lawful : ccm.Lawful) (inv : LogInvariant capacity ccm key s records)
    (r : HistorianRecord) :
    LogInvariant capacity ccm key (historianWrite capacity ccm none s r).1
        (evictLog capacity.size.toNat r.timestampMs records ++ [r]) ∧
      (historianWrite capacity ccm none s r).2 = true := by
  have kept := historianEvict_holds inv.holds lawful r.timestampMs
  obtain ⟨evicts, room⟩ := historianEvict_evicts capacity ccm s r.timestampMs
  have below : (historianEvict capacity ccm s r.timestampMs).count < capacity.size := UInt32.lt_iff_toNat_lt.mpr room
  have put := kept.putRecord (kept.counted ▸ room) r
  have keyed : s.key ≠ none := inv.holds.keyed ▸ Option.some_ne_none key
  have encrypted := encryptRecord_lawful lawful key s.writeIndex r
  rw [← inv.holds.keyed] at encrypted
  rw [evicts.writeIndex] at put
  rw [historianWrite_eq capacity ccm none inv.initialised keyed r encrypted, historianAutoFlush_none]
  refine ⟨⟨evicts.initialised.trans inv.initialised, ⟨put.keyed, put.counted, put.stored⟩, ?_⟩, rfl⟩
  have accounted := evicts.accounted.trans inv.accounted
  rw [← evicts.written] at accounted
  generalize historianEvict capacity ccm s r.timestampMs = evicted at accounted below ⊢
  change (if evicted.count < capacity.size then evicted.count + 1 else evicted.count) + evicted.stats.recordsEvicted =
    evicted.stats.recordsWritten + 1
  rw [if_pos below, ← accounted, UInt32.add_assoc, UInt32.add_comm 1, ← UInt32.add_assoc]

end Log

/-! ### The log a run of writes leaves -/

def withinThirtyDays (now : UInt64) (r : HistorianRecord) : Bool :=
  decide (now.toNat - r.timestampMs.toNat ≤ 30 * 24 * 60 * 60 * 1000)

/-- Those of the last `capacity` records that are at most thirty days older than the last one. -/
def retained (capacity : Nat) (written : List HistorianRecord) : List HistorianRecord :=
  match written.getLast? with
  | none => []
  | some last => (written.drop (written.length - capacity)).filter (withinThirtyDays last.timestampMs)

/-- Positive timestamps that never go back. -/
def Ordered (written : List HistorianRecord) : Prop :=
  (∀ r ∈ written, 0 < r.timestampMs) ∧ written.Pairwise fun r r' => r.timestampMs ≤ r'.timestampMs

theorem tooOld_eq {now : UInt64} {r : HistorianRecord} (positive : 0 < r.timestampMs) (past : r.timestampMs ≤ now) :
    tooOld now r = !withinThirtyDays now r := by
  have later : 0 < now := UInt64.lt_of_lt_of_le positive past
  have age : (now - r.timestampMs).toNat = now.toNat - r.timestampMs.toNat := UInt64.toNat_sub_of_le _ _ past
  have days : historian30DayMs.toNat = 30 * 24 * 60 * 60 * 1000 := rfl
  rw [Bool.eq_iff_iff]
  simp only [tooOld, later, positive, gt_iff_lt, decide_true, Bool.true_and, decide_eq_true_eq, UInt64.lt_iff_toNat_lt,
    age, days, withinThirtyDays, Bool.not_eq_eq_eq_not, Bool.not_true, decide_eq_false_iff_not]
  omega

theorem withinThirtyDays_mono {now : UInt64} {r r' : HistorianRecord} (later : r.timestampMs ≤ r'.timestampMs)
    (fresh : withinThirtyDays now r = true) : withinThirtyDays now r' = true := by
  have le := UInt64.le_iff_toNat_le.mp later
  simp only [withinThirtyDays, decide_eq_true_eq] at fresh ⊢
  omega

theorem withinThirtyDays_earlier {now now' : UInt64} (later : now ≤ now') {r : HistorianRecord}
    (fresh : withinThirtyDays now' r = true) : withinThirtyDays now r = true := by
  have le := UInt64.le_iff_toNat_le.mp later
  simp only [withinThirtyDays, decide_eq_true_eq] at fresh ⊢
  omega

section Retained

variable {written : List HistorianRecord} {r : HistorianRecord}

theorem Ordered.le_last (ordered : Ordered (written ++ [r])) {x : HistorianRecord} (member : x ∈ written) :
    x.timestampMs ≤ r.timestampMs :=
  (List.pairwise_append.mp ordered.2).2.2 x member r (List.mem_singleton.mpr rfl)

theorem Ordered.rising (ordered : Ordered (written ++ [r])) : Rising (withinThirtyDays r.timestampMs) written :=
  (List.pairwise_append.mp ordered.2).1.imp fun later => withinThirtyDays_mono later

theorem Ordered.dropWhile_tooOld {part : List HistorianRecord} (ordered : Ordered (written ++ [r]))
    (part_of : part.Sublist written) :
    part.dropWhile (tooOld r.timestampMs) = part.filter (withinThirtyDays r.timestampMs) := by
  refine (ordered.rising.sublist part_of).dropWhile_eq_filter fun x member => ?_
  have written_member := part_of.subset member
  exact tooOld_eq (ordered.1 x (List.mem_append_left _ written_member)) (ordered.le_last written_member)

theorem Ordered.filter_retained (ordered : Ordered (written ++ [r])) (capacity : Nat) :
    (retained capacity written).filter (withinThirtyDays r.timestampMs) =
      (written.drop (written.length - capacity)).filter (withinThirtyDays r.timestampMs) := by
  unfold retained
  cases found : written.getLast? with
  | none => rw [List.getLast?_eq_none_iff.mp found, List.drop_nil]
  | some last =>
    dsimp only
    rw [List.filter_filter]
    refine List.filter_congr fun x _ => ?_
    have order := ordered.le_last (List.mem_of_getLast? found)
    cases fresh : withinThirtyDays r.timestampMs x with
    | false => rfl
    | true => rw [withinThirtyDays_earlier order fresh]; rfl

theorem retained_sublist (capacity : Nat) (written : List HistorianRecord) : (retained capacity written).Sublist written := by
  unfold retained
  cases written.getLast? with
  | none => exact List.nil_sublist _
  | some last => exact List.filter_sublist.trans (List.drop_sublist ..)

/-- One write turns the retained log into the retained log of the longer run. -/
theorem retained_concat {capacity : Nat} (pos : 0 < capacity) (ordered : Ordered (written ++ [r])) :
    retained capacity (written ++ [r]) = evictLog capacity r.timestampMs (retained capacity written) ++ [r] := by
  obtain ⟨cut, cut_le, cuts⟩ := ordered.rising.filter_drop
  have aged : (retained capacity written).dropWhile (tooOld r.timestampMs) =
      written.drop (max (written.length - capacity) cut) := by
    rw [ordered.dropWhile_tooOld (retained_sublist capacity written), ordered.filter_retained, cuts]
  have self : withinThirtyDays r.timestampMs r = true := by simp [withinThirtyDays]
  have total : (written ++ [r]).length = written.length + 1 := List.length_append
  rw [retained, List.getLast?_concat]
  dsimp only
  rw [total, List.drop_append_of_le_length (by omega), List.filter_append, List.filter_cons_of_pos self, List.filter_nil,
    cuts, evictLog, aged, List.drop_drop, List.length_drop]
  congr 2
  omega

end Retained

/-! ### Runs of writes -/

def writeStep (capacity : HistorianCapacity) (ccm : Ccm) (s : Historian Unit) (r : HistorianRecord) :
    Historian Unit × Option HistorianRecord :=
  ((historianWrite capacity ccm none s r).1, if (historianWrite capacity ccm none s r).2 then some r else none)

def historianReset {σ : Type} (flash : σ) : Historian σ :=
  { ring := zeroRing, writeIndex := 0, count := 0, pendingStart := 0, pendingCount := 0, lastFlushMs := 0, key := none
    stats := {}, initialised := false, flash := flash }

/-- The historian after `historian_set_key` and `historian_init` without storage. -/
def historianStart (capacity : HistorianCapacity) (key : HistorianKey) : Historian Unit :=
  historianInit capacity none (historianSetKey (historianReset ()) key)

theorem historianStart_invariant (capacity : HistorianCapacity) (ccm : Ccm) (key : HistorianKey) :
    LogInvariant capacity ccm key (historianStart capacity key) [] where
  initialised := rfl
  holds := ⟨rfl, rfl, ⟨capacity.pos, Nat.zero_le _, fun _ _ found => nomatch found⟩⟩
  accounted := rfl

theorem writeRun_invariant (capacity : HistorianCapacity) {ccm : Ccm} (lawful : ccm.Lawful) (key : HistorianKey)
    (records : List HistorianRecord) (ordered : Ordered records) :
    LogInvariant capacity ccm key (finalState (writeStep capacity ccm) (historianStart capacity key) records)
        (retained capacity.size.toNat records) ∧
      outputs (writeStep capacity ccm) (historianStart capacity key) records = records.map some := by
  induction records using List.reverseRecOn with
  | nil => exact ⟨historianStart_invariant capacity ccm key, rfl⟩
  | append_singleton earlier r ih =>
    have earlier_ordered : Ordered earlier :=
      ⟨fun x member => ordered.1 x (List.mem_append_left _ member), (List.pairwise_append.mp ordered.2).1⟩
    obtain ⟨inv, earlier_outputs⟩ := ih earlier_ordered
    obtain ⟨next, written⟩ := historianWrite_invariant lawful inv r
    rw [finalState_concat, outputs_concat, retained_concat capacity.pos ordered, earlier_outputs, List.map_append]
    refine ⟨next, congrArg _ ?_⟩
    rw [writeStep, written]
    rfl

/-- After any run of writes with positive timestamps that never go back, a read of everything returns the retained
log in write order, and the counters agree with it. -/
theorem historian_refines_log (capacity : HistorianCapacity) (ccm : Ccm) (lawful : ccm.Lawful) (key : HistorianKey)
    (records : List HistorianRecord) (ordered : Ordered records) (maxRecords : UInt32)
    (enough : capacity.size ≤ maxRecords) :
    let s := finalState (writeStep capacity ccm) (historianStart capacity key) records
    outputs (writeStep capacity ccm) (historianStart capacity key) records = records.map some ∧
      (historianRead capacity ccm s none maxRecords).2 = retained capacity.size.toNat records ∧
      historianCount s = s.stats.recordsWritten - s.stats.recordsEvicted ∧
      (historianCount s).toNat = (historianRead capacity ccm s none maxRecords).2.length := by
  intro s
  obtain ⟨inv, written⟩ := writeRun_invariant capacity lawful key records ordered
  have enough := UInt32.le_iff_toNat_le.mp enough
  have read : (historianRead capacity ccm s none maxRecords).2 = retained capacity.size.toNat records := by
    rw [historianRead_all capacity ccm inv.initialised, inv.holds.liveRecords lawful,
      List.take_of_length_le (inv.holds.stored.fits.trans enough)]
  refine ⟨written, read, ?_, ?_⟩
  · rw [← inv.accounted, UInt32.add_sub_cancel]
    rfl
  · rw [read]
    exact inv.holds.counted

def sampleKey : HistorianKey :=
  #v[0xA1, 0xB2, 0xC3, 0xD4, 0xE5, 0xF6, 0x07, 0x18, 0x29, 0x3A, 0x4B, 0x5C,
    0x6D, 0x7E, 0x8F, 0x90]

def sampleRecord : HistorianRecord :=
  { timestampMs := 1000000, value := ⟨0x422A0000⟩, sequence := 0, nodeId := 1, metricId := 10, domainProfileId := 0
    reserved := 0 }

/-- AES-128-CCM of the sample record under the sample key at ring position 0. -/
def sampleCiphertext : List UInt8 :=
  [0xC3, 0xD5, 0xD4, 0xC0, 0x60, 0xB8, 0x43, 0x2E, 0x44, 0xC4, 0x15, 0x98,
    0xC4, 0xB1, 0x7E, 0xA6, 0x66, 0x04, 0x9A, 0x5C, 0xEE, 0x59, 0x3E, 0x57]

def sampleTag : List UInt8 :=
  [0xA7, 0x56, 0x00, 0xBD, 0xDD, 0x82, 0xE4, 0x7E, 0x3A, 0x05, 0x3E, 0xD1,
    0x32, 0xB9, 0x3E, 0x75]

/-- AES-128-CCM on the sample record, and a tag of zeros on anything else. -/
def sampleCcm : Ccm where
  encryptAndTag key nonce plaintext :=
    if key = sampleKey ∧ nonce = buildNonce 0 0 ∧ plaintext = encodeRecord sampleRecord then
      some (sampleCiphertext, sampleTag)
    else some (plaintext, List.replicate 16 0)
  authDecrypt key nonce ciphertext tag :=
    if key = sampleKey ∧ nonce = buildNonce 0 0 ∧ ciphertext = sampleCiphertext ∧ tag = sampleTag then
      some (encodeRecord sampleRecord)
    else if tag = List.replicate 16 0 then some ciphertext
    else none

theorem sampleCcm_lawful : sampleCcm.Lawful := by
  intro key nonce plaintext _ _
  by_cases sample : key = sampleKey ∧ nonce = buildNonce 0 0 ∧ plaintext = encodeRecord sampleRecord
  · refine ⟨sampleCiphertext, sampleTag, if_pos sample, by rw [sample.2.2]; rfl, ?_⟩
    rw [sample.2.2]
    exact if_pos ⟨sample.1, sample.2.1, rfl, rfl⟩
  · have other : List.replicate 16 0 ≠ sampleTag := by decide
    refine ⟨plaintext, List.replicate 16 0, if_neg sample, rfl, ?_⟩
    exact (if_neg fun same => other same.2.2.2).trans (if_pos rfl)

theorem historian_refines_log_one_record :
    (historianRead defaultHistorianCapacity sampleCcm
        (finalState (writeStep defaultHistorianCapacity sampleCcm) (historianStart defaultHistorianCapacity sampleKey)
          [sampleRecord]) none 16384).2 = [sampleRecord] := by
  have ordered : Ordered [sampleRecord] := ⟨by simp [sampleRecord], List.pairwise_singleton ..⟩
  obtain ⟨-, read, -, -⟩ := historian_refines_log defaultHistorianCapacity sampleCcm sampleCcm_lawful sampleKey
    [sampleRecord] ordered 16384 (by decide)
  rw [read]
  decide

end IotPlatform
