import IotPlatform.Hub.HistorianPersistence

/-!
# The historian across a power loss

A flush appends the pending records one by one, but passes the count and the write index of the whole batch with each
of them. `Journal` says what the ring and the flash hold of everything written; from it follows what a power loss
between two appends of a flush leaves behind, and when the historian that starts from it reads a segment of the log.
-/

namespace IotPlatform
open RingBuffer Run

/-! ### Power loss -/

section PowerLoss

variable {σ : Type}

/-- The state in which an operation comes to its flush; a write without a backend stops there. -/
def flushEntry (capacity : HistorianCapacity) (ccm : Ccm) (s : Historian σ) : HistorianOp → Historian σ
  | .write r => (historianWrite capacity ccm none s r).1
  | .flush _ => s

def flashAfterAppends (capacity : HistorianCapacity) (storage : HistorianStorage σ) (s : Historian σ) (k : Nat) : σ :=
  match storage.append with
  | none => s.flash
  | some append => (appendPending capacity append k 0 s).flash

/-- The historian that starts after a power loss `k` appends into the flush of `op`. -/
def afterPowerLoss (capacity : HistorianCapacity) (ccm : Ccm) (storage : HistorianStorage σ) (key : HistorianKey)
    (s : Historian σ) (op : HistorianOp) (k : Nat) : Historian σ :=
  firstInit capacity storage (some key) (flashAfterAppends capacity storage (flushEntry capacity ccm s op) k)

def writtenRecord : HistorianOp → Option HistorianRecord
  | .write r => some r
  | .flush _ => none

def writtenRecords (ops : List HistorianOp) : List HistorianRecord := ops.filterMap writtenRecord

/-- Reading everything returns a segment of the log that ends with a record no older than the last one of the flush
before. -/
def CrashConsistent (capacity : HistorianCapacity) (ccm : Ccm) (written : List HistorianRecord) (pending : Nat)
    (s : Historian σ) : Prop :=
  ∃ durable segment, written.length - pending ≤ durable ∧ durable ≤ written.length ∧ segment <:+ written.take durable ∧
    ∀ maxRecords, (historianRead capacity ccm s none maxRecords).2 = segment.take maxRecords.toNat

/-- No append was made, or every position of the batch was reached, or the ring has not come round yet. -/
def CutHarmless (capacity written pending k : Nat) : Prop := written ≤ capacity ∨ k = 0 ∨ min pending capacity ≤ k

/-- A flash that was never written: nothing to load, and bytes that no position decrypts. -/
structure Erased (capacity : HistorianCapacity) (ccm : Ccm) (key : HistorianKey) (image : FlashImage) : Prop where
  absent : image.present = false
  unreadable : ∀ pos : UInt32, pos.toNat < capacity.size.toNat →
    decryptRecord ccm (some key) pos pos (image.records pos.toNat) = none

end PowerLoss

/-! ### What the ring and the flash hold of everything written -/

/-- The flash after a complete flush of the list. -/
structure FlashHolds (capacity : HistorianCapacity) (ccm : Ccm) (key : HistorianKey) (image : FlashImage)
    (records : List HistorianRecord) : Prop where
  lap : LastLap capacity.size.toNat image.records (ondiskAt ccm key) records
  blank : ∀ pos : UInt32, records.length ≤ pos.toNat → pos.toNat < capacity.size.toNat →
    decryptRecord ccm (some key) pos pos (image.records pos.toNat) = none
  count_le : (image.restored capacity).1.toNat ≤ records.length
  next : (image.restored capacity).2.toNat = records.length % capacity.size.toNat

/-- The ring holds the last lap of everything written, and the flash what was written before the pending records. -/
structure Journal {σ : Type} (capacity : HistorianCapacity) (ccm : Ccm) (key : HistorianKey) (view : σ → FlashImage)
    (s : Historian σ) (written : List HistorianRecord) : Prop where
  initialised : s.initialised = true
  keyed : s.key = some key
  lap : LastLap capacity.size.toNat s.ring (ondiskAt ccm key) written
  next : s.writeIndex.toNat = written.length % capacity.size.toNat
  count_le : s.count.toNat ≤ written.length
  fits : s.count.toNat ≤ capacity.size.toNat
  pending_written : s.pendingCount.toNat ≤ written.length
  pending_le : s.pendingCount.toNat ≤ 64
  pending_start : s.pendingCount ≠ 0 →
    s.pendingStart.toNat = (written.length - s.pendingCount.toNat) % capacity.size.toNat ∧ 0 < s.count.toNat
  flashed : FlashHolds capacity ccm key (view s.flash) (written.take (written.length - s.pendingCount.toNat))

section Runs

variable {σ : Type} {capacity : HistorianCapacity} {ccm : Ccm} {key : HistorianKey} {storage : HistorianStorage σ}
  {view : σ → FlashImage} {s : Historian σ} {written : List HistorianRecord}

theorem firstInit_restores (capacity : HistorianCapacity) (faithful : storage.Faithful view) (key : HistorianKey) (flash : σ) :
    let s := firstInit capacity storage (some key) flash
    s.initialised = true ∧ s.key = some key ∧ s.flash = flash ∧ s.pendingCount = 0 ∧
      s.count = ((view flash).restored capacity).1 ∧ s.writeIndex = ((view flash).restored capacity).2 ∧
      (0 < s.count.toNat → s.ring = (view flash).records) := by
  obtain ⟨initialised, keyed, same_flash, pendingCount, indices, ring⟩ :=
    historianInit_restores capacity faithful { historianReset flash with key := some key }
  obtain ⟨count, writeIndex⟩ := Prod.mk.inj indices
  refine ⟨initialised, keyed, same_flash, pendingCount, count, writeIndex, fun used => ring ?_⟩
  exact present_of_restored (count ▸ used)

theorem Journal.start (faithful : storage.Faithful view) {flash : σ} (erased : Erased capacity ccm key (view flash)) :
    Journal capacity ccm key view (firstInit capacity storage (some key) flash) [] := by
  obtain ⟨initialised, keyed, same_flash, pendingCount, count, writeIndex, -⟩ :=
    firstInit_restores capacity faithful key flash
  have restored : (view flash).restored capacity = (0, 0) := by simp [FlashImage.restored, erased.absent]
  rw [restored] at count writeIndex
  refine ⟨initialised, keyed, LastLap.nil _ _, ?_, ?_, ?_, ?_, ?_, fun some => absurd pendingCount some, ?_⟩
  · simp [writeIndex]
  · simp [count]
  · simp [count]
  · simp [pendingCount]
  · simp [pendingCount]
  · rw [List.take_nil, same_flash]
    refine ⟨LastLap.nil _ _, fun pos _ inside => erased.unreadable pos inside, ?_, ?_⟩
    · simp [restored]
    · simp [restored]

/-! ### What a flush leaves when it is cut -/

/-- The flash after some appends: the present indices, and the bytes of the ring at the positions reached. -/
theorem Journal.view_flashAfterAppends (journal : Journal capacity ccm key view s written) (faithful : storage.Faithful view)
    {k : Nat} (cut : k ≤ s.pendingCount.toNat) :
    let flushed := written.length - s.pendingCount.toNat
    let image := view (flashAfterAppends capacity storage s k)
    (k = 0 ∧ image = view s.flash ∨ 0 < k ∧ image.restored capacity = (s.count, s.writeIndex)) ∧
      ∀ pos, image.records pos = s.ring pos ∧ (∃ i < k, pos = (flushed + i) % capacity.size.toNat) ∨
        image.records pos = (view s.flash).records pos ∧ ∀ i < k, pos ≠ (flushed + i) % capacity.size.toNat := by
  intro flushed image
  obtain ⟨append, appends, appended⟩ := faithful.appends
  have flash_eq : flashAfterAppends capacity storage s k = (appendPending capacity append k 0 s).flash := by
    rw [flashAfterAppends, appends]
  rcases Nat.eq_zero_or_pos k with rfl | some_appends
  · have same : image = view s.flash := congrArg view flash_eq
    exact ⟨.inl ⟨rfl, same⟩, fun pos => .inr ⟨by rw [same], fun i none => nomatch none⟩⟩
  · have pending : s.pendingCount ≠ 0 := by
      rintro none
      rw [none, UInt32.toNat_zero] at cut
      omega
    obtain ⟨start, -⟩ := journal.pending_start pending
    have inside : s.pendingStart.toNat < capacity.size.toNat := start ▸ Nat.mod_lt _ capacity.pos
    have pending_le := journal.pending_le
    obtain ⟨flash, result, last, records⟩ := appendPending_faithful appended k 0 s inside (by omega)
    have image_eq : image = view flash := by
      have looped : appendPending capacity append k 0 s = { s with flash := flash } := result
      change view (flashAfterAppends capacity storage s k) = view flash
      rw [flash_eq, looped]
    rw [image_eq]
    refine ⟨.inr ⟨some_appends, ?_⟩, fun pos => ?_⟩
    · obtain ⟨zero, -⟩ | ⟨present, count, writeIndex⟩ := last
      · omega
      · apply restored_header present count writeIndex journal.fits
        rw [journal.next]
        exact Nat.mod_lt _ capacity.pos
    · have visits : ∀ i, (s.pendingStart.toNat + (0 + i)) % capacity.size.toNat = (flushed + i) % capacity.size.toNat := by
        intro i
        rw [start, Nat.zero_add, Nat.mod_add_mod]
      simpa only [visits] using records pos

theorem Journal.fresh (journal : Journal capacity ccm key view s written) (faithful : storage.Faithful view) {k : Nat}
    (cut : k ≤ s.pendingCount.toNat) {n : Nat} {r : HistorianRecord} (found : written[n]? = some r)
    (recent : written.length ≤ n + capacity.size.toNat)
    (reached : n < written.length - s.pendingCount.toNat ∨
      ∃ i < k, n % capacity.size.toNat = (written.length - s.pendingCount.toNat + i) % capacity.size.toNat) :
    (view (flashAfterAppends capacity storage s k)).records (n % capacity.size.toNat) =
      ondiskAt ccm key (n % capacity.size.toNat) r := by
  obtain ⟨-, records⟩ := journal.view_flashAfterAppends faithful cut
  rcases records (n % capacity.size.toNat) with ⟨appended, -⟩ | ⟨kept, missed⟩
  · rw [appended]
    exact journal.lap n r found recent
  · rcases reached with flushed | ⟨i, bound, visited⟩
    · rw [kept]
      apply journal.flashed.lap
      · rw [List.getElem?_take_of_lt flushed]
        exact found
      · rw [List.length_take]
        omega
    · exact absurd visited (missed i bound)

theorem reached_of_lt {capacity flushed k n : Nat} (reached : n < flushed + k) :
    n < flushed ∨ ∃ i < k, n % capacity = (flushed + i) % capacity := by
  rcases Nat.lt_or_ge n flushed with before | after
  · exact .inl before
  · exact .inr ⟨n - flushed, by omega, by rw [Nat.add_sub_cancel' after]⟩

theorem reached_of_lap {capacity flushed k : Nat} (pos : 0 < capacity) (lap : capacity ≤ k) (n : Nat) :
    n < flushed ∨ ∃ i < k, n % capacity = (flushed + i) % capacity := by
  rcases Nat.lt_or_ge n flushed with before | after
  · exact .inl before
  · refine .inr ⟨(n - flushed) % capacity, Nat.lt_of_lt_of_le (Nat.mod_lt _ pos) lap, ?_⟩
    rw [Nat.add_mod_mod, Nat.add_sub_cancel' after]

/-- A position the ring has not come to is as blank as it was. -/
theorem Journal.unreached (journal : Journal capacity ccm key view s written) (faithful : storage.Faithful view) {k : Nat}
    (cut : k ≤ s.pendingCount.toNat) {pos : UInt32} (inside : pos.toNat < capacity.size.toNat)
    (beyond : written.length - s.pendingCount.toNat + k ≤ pos.toNat) :
    decryptRecord ccm (some key) pos pos ((view (flashAfterAppends capacity storage s k)).records pos.toNat) = none := by
  obtain ⟨-, records⟩ := journal.view_flashAfterAppends faithful cut
  rcases records pos.toNat with ⟨-, i, bound, visited⟩ | ⟨kept, -⟩
  · rw [Nat.mod_eq_of_lt (by omega)] at visited
    omega
  · rw [kept]
    apply journal.flashed.blank pos _ inside
    rw [List.length_take]
    omega

theorem Journal.flash_complete (journal : Journal capacity ccm key view s written) (faithful : storage.Faithful view) :
    FlashHolds capacity ccm key (view (flashAfterAppends capacity storage s s.pendingCount.toNat)) written := by
  have pending_written := journal.pending_written
  obtain ⟨header, -⟩ := journal.view_flashAfterAppends faithful (Nat.le_refl _)
  refine ⟨fun n r found recent => ?_, fun pos beyond inside => ?_, ?_, ?_⟩
  · obtain ⟨bound, -⟩ := List.getElem?_eq_some_iff.mp found
    exact journal.fresh faithful (Nat.le_refl _) found recent (reached_of_lt (by omega))
  · exact journal.unreached faithful (Nat.le_refl _) inside (by omega)
  · rcases header with ⟨none, same⟩ | ⟨-, restored⟩
    · have flashed := journal.flashed.count_le
      rw [none, Nat.sub_zero, List.take_length] at flashed
      rw [same]
      exact flashed
    · rw [restored]
      exact journal.count_le
  · rcases header with ⟨none, same⟩ | ⟨-, restored⟩
    · have flashed := journal.flashed.next
      rw [none, Nat.sub_zero, List.take_length] at flashed
      rw [same]
      exact flashed
    · rw [restored]
      exact journal.next

/-! ### Flushes and writes -/

theorem appendPending_frame (capacity : HistorianCapacity)
    (append : σ → UInt32 → List UInt8 → UInt32 → UInt32 → σ × Bool) (remaining : Nat) (i : UInt32) (s : Historian σ) :
    ∃ flash stats, appendPending capacity append remaining i s = { s with flash := flash, stats := stats } := by
  induction remaining generalizing i s with
  | zero => exact ⟨s.flash, s.stats, rfl⟩
  | succ remaining ih =>
    rw [appendPending]
    obtain ⟨flash, stats, rest⟩ := ih (i + 1) _
    exact ⟨flash, stats, rest⟩

theorem historianFlush_eq (capacity : HistorianCapacity) (faithful : storage.Faithful view)
    (initialised : s.initialised = true) (now : UInt64) :
    ∃ start last stats, historianFlush capacity (some storage) s now =
      { s with pendingCount := 0, pendingStart := start, lastFlushMs := last, stats := stats
               flash := flashAfterAppends capacity storage s s.pendingCount.toNat } := by
  obtain ⟨append, appends, -⟩ := faithful.appends
  unfold flashAfterAppends
  rw [historianFlush_append capacity appends initialised, appends]
  by_cases none : s.pendingCount = 0
  · rw [if_pos none]
    cases s
    cases none
    exact ⟨_, _, _, rfl⟩
  · rw [if_neg none]
    obtain ⟨flash, stats, looped⟩ := appendPending_frame capacity append s.pendingCount.toNat 0 s
    exact ⟨0, now, stats, by simp [looped]⟩

theorem Journal.flush (journal : Journal capacity ccm key view s written) (faithful : storage.Faithful view)
    (now : UInt64) :
    Journal capacity ccm key view (historianFlush capacity (some storage) s now) written ∧
      (historianFlush capacity (some storage) s now).pendingCount = 0 := by
  have complete := journal.flash_complete faithful
  obtain ⟨start, last, stats, flushed⟩ := historianFlush_eq capacity faithful journal.initialised now
  rw [flushed]
  refine ⟨⟨journal.initialised, journal.keyed, journal.lap, journal.next, journal.count_le, journal.fits, Nat.zero_le _,
    Nat.zero_le _, fun some => absurd rfl some, ?_⟩, rfl⟩
  rw [UInt32.toNat_zero, Nat.sub_zero, List.take_length]
  exact complete

theorem Journal.autoFlush (journal : Journal capacity ccm key view s written) (faithful : storage.Faithful view)
    (now : UInt64) :
    Journal capacity ccm key view (historianAutoFlush capacity (some storage) s now) written ∧
      (historianAutoFlush capacity (some storage) s now).pendingCount.toNat < 64 := by
  obtain ⟨flushed, none_left⟩ := journal.flush faithful now
  obtain flushing | ⟨same, few⟩ := historianAutoFlush_cases capacity (some storage) s now
  · rw [flushing]
    refine ⟨flushed, ?_⟩
    rw [none_left]
    decide
  · rw [same]
    exact ⟨journal, few⟩

theorem historianWrite_autoFlush (lawful : ccm.Lawful) (initialised : s.initialised = true) (keyed : s.key = some key)
    (backend : Option (HistorianStorage σ)) (r : HistorianRecord) :
    (historianWrite capacity ccm backend s r).1 =
      historianAutoFlush capacity backend (historianWrite capacity ccm none s r).1 r.timestampMs := by
  have encrypted := encryptRecord_lawful lawful key s.writeIndex r
  rw [← keyed] at encrypted
  have some_key : s.key ≠ none := keyed ▸ Option.some_ne_none key
  rw [historianWrite_eq capacity ccm backend initialised some_key r encrypted,
    historianWrite_eq capacity ccm none initialised some_key r encrypted, historianAutoFlush_none]

theorem Journal.write (lawful : ccm.Lawful) (journal : Journal capacity ccm key view s written)
    (few : s.pendingCount.toNat < 64) (r : HistorianRecord) :
    Journal capacity ccm key view (historianWrite capacity ccm none s r).1 (written ++ [r]) := by
  have inside : s.writeIndex.toNat < capacity.size.toNat := journal.next ▸ Nat.mod_lt _ capacity.pos
  have pending_written := journal.pending_written
  obtain ⟨ondisk, stored⟩ : ∃ ondisk, ondisk = ondiskAt ccm key s.writeIndex.toNat r := ⟨_, rfl⟩
  have encrypted := encryptRecord_lawful lawful key s.writeIndex r
  rw [← journal.keyed, ← stored] at encrypted
  obtain ⟨evicts, room⟩ := historianEvict_evicts capacity ccm s r.timestampMs
  rw [historianWrite_eq capacity ccm none journal.initialised (journal.keyed ▸ Option.some_ne_none key) r encrypted,
    historianAutoFlush_none]
  dsimp only
  generalize historianEvict capacity ccm s r.timestampMs = evicted at evicts room ⊢
  obtain ⟨writeIndex, count⟩ := putRecord_indices (evicts.writeIndex ▸ inside) room ondisk
  obtain ⟨buffered_count, buffered_start⟩ := buffered_pending capacity evicts few ondisk
  have count_le := evicts.count_le.trans journal.count_le
  have length : (written ++ [r]).length = written.length + 1 := List.length_append
  have flushed : written.length + 1 - (s.pendingCount.toNat + 1) = written.length - s.pendingCount.toNat := by omega
  refine ⟨evicts.initialised.trans journal.initialised, evicts.key.trans journal.keyed, ?_, ?_, ?_, ?_, ?_, ?_,
    fun _ => ⟨?_, ?_⟩, ?_⟩
  · have lap := journal.lap.push r
    rw [← journal.next, ← stored, ← evicts.ring] at lap
    change LastLap _ (Function.update evicted.ring evicted.writeIndex.toNat ondisk) _ _
    rw [evicts.writeIndex]
    exact lap
  · change (putRecord capacity evicted ondisk).writeIndex.toNat = _
    rw [writeIndex, evicts.writeIndex, journal.next, length, Nat.mod_add_mod]
  · change (putRecord capacity evicted ondisk).count.toNat ≤ _
    omega
  · change (putRecord capacity evicted ondisk).count.toNat ≤ _
    omega
  · omega
  · omega
  · rw [buffered_start, buffered_count, length, flushed]
    split
    · rename_i none
      rw [none, UInt32.toNat_zero, Nat.sub_zero]
      exact journal.next
    · rename_i some_pending
      exact (journal.pending_start some_pending).1
  · change 0 < (putRecord capacity evicted ondisk).count.toNat
    omega
  · rw [buffered_count, length, flushed, List.take_append_of_le_length (Nat.sub_le ..)]
    change FlashHolds _ _ _ (view evicted.flash) _
    rw [evicts.flash]
    exact journal.flashed

theorem Journal.entry (lawful : ccm.Lawful) (journal : Journal capacity ccm key view s written)
    (few : s.pendingCount.toNat < 64) (op : HistorianOp) :
    Journal capacity ccm key view (flushEntry capacity ccm s op) (written ++ writtenRecords [op]) := by
  cases op with
  | write r => exact journal.write lawful few r
  | flush now =>
    change Journal _ _ _ _ s (written ++ [])
    rw [List.append_nil]
    exact journal

theorem Journal.step (lawful : ccm.Lawful) (faithful : storage.Faithful view)
    (journal : Journal capacity ccm key view s written) (few : s.pendingCount.toNat < 64) (op : HistorianOp) :
    Journal capacity ccm key view (historianStep capacity ccm storage s op).1 (written ++ writtenRecords [op]) ∧
      (historianStep capacity ccm storage s op).1.pendingCount.toNat < 64 := by
  have entry := journal.entry lawful few op
  cases op with
  | write r =>
    change Journal _ _ _ _ (historianWrite capacity ccm (some storage) s r).1 _ ∧ _
    rw [historianStep, historianWrite_autoFlush lawful journal.initialised journal.keyed]
    exact entry.autoFlush faithful r.timestampMs
  | flush now =>
    obtain ⟨flushed, none_left⟩ := entry.flush faithful now
    refine ⟨flushed, ?_⟩
    change (historianFlush capacity (some storage) s now).pendingCount.toNat < 64
    rw [show (historianFlush capacity (some storage) s now).pendingCount = 0 from none_left]
    decide

theorem historianRun_journal (lawful : ccm.Lawful) (faithful : storage.Faithful view) {flash : σ}
    (erased : Erased capacity ccm key (view flash)) (ops : List HistorianOp) :
    let s := finalState (historianStep capacity ccm storage) (firstInit capacity storage (some key) flash) ops
    Journal capacity ccm key view s (writtenRecords ops) ∧ s.pendingCount.toNat < 64 := by
  induction ops using List.reverseRecOn with
  | nil =>
    have start := Journal.start faithful erased
    refine ⟨start, ?_⟩
    have none := start.pending_written
    rw [List.length_nil] at none
    change (firstInit capacity storage (some key) flash).pendingCount.toNat < 64
    omega
  | append_singleton earlier op ih =>
    obtain ⟨journal, few⟩ := ih
    rw [finalState_concat, writtenRecords, List.filterMap_append]
    exact journal.step lawful faithful few op

/-! ### What is read after the power loss -/

/-- Where the record number `j` in use is, when the next one written has the number `m`. -/
theorem recordAt_numbered (ccm : Ccm) {m : Nat} (next : s.writeIndex.toNat = m % capacity.size.toNat)
    (count_le : s.count.toNat ≤ m) (fits : s.count.toNat ≤ capacity.size.toNat) {j : Nat} (used : j < s.count.toNat) :
    ∃ pos : UInt32, pos.toNat = (m - s.count.toNat + j) % capacity.size.toNat ∧
      recordAt capacity ccm s j = decryptRecord ccm s.key pos pos (s.ring pos.toNat) := by
  have inside : s.writeIndex.toNat < capacity.size.toNat := next ▸ Nat.mod_lt _ capacity.pos
  refine ⟨(oldestPos capacity s + UInt32.ofNat j) % capacity.size, ?_, rfl⟩
  rw [recordPos_toNat inside fits used, next, slot_mod j count_le fits]

/-- A new start with a header for `m` records over a flash that holds the first of them and nothing readable for the
rest. -/
theorem liveRecords_firstInit (lawful : ccm.Lawful) (faithful : storage.Faithful view) {flash : σ} {m : Nat}
    {records : List HistorianRecord} (bound : records.length ≤ m)
    (count_le : ((view flash).restored capacity).1.toNat ≤ m)
    (next : ((view flash).restored capacity).2.toNat = m % capacity.size.toNat)
    (held : ∀ n r, records[n]? = some r → m ≤ n + capacity.size.toNat →
      (view flash).records (n % capacity.size.toNat) = ondiskAt ccm key (n % capacity.size.toNat) r)
    (gap : ∀ n (pos : UInt32), records.length ≤ n → n < m → pos.toNat = n % capacity.size.toNat →
      decryptRecord ccm (some key) pos pos ((view flash).records pos.toNat) = none) :
    liveRecords capacity ccm (firstInit capacity storage (some key) flash) =
      records.drop (m - ((view flash).restored capacity).1.toNat) := by
  obtain ⟨-, keyed, -, -, count, writeIndex, ring⟩ := firstInit_restores capacity faithful key flash
  obtain ⟨fits, -⟩ := restored_inside capacity (view flash)
  generalize firstInit capacity storage (some key) flash = s at count writeIndex keyed ring ⊢
  rw [← count] at fits count_le ⊢
  rw [← writeIndex] at next
  rw [liveRecords]
  refine (List.filterMap_congr fun j member => ?_).trans (filterMap_range_getElem? ?_)
  · have used := List.mem_range.mp member
    obtain ⟨pos, at_pos, opened⟩ := recordAt_numbered ccm next count_le fits used
    rw [opened, keyed, ring (Nat.zero_lt_of_lt used), List.getElem?_drop]
    cases found : records[m - s.count.toNat + j]? with
    | none => exact gap _ pos (List.getElem?_eq_none_iff.mp found) (by omega) at_pos
    | some r =>
      have cell := held _ r found (by omega)
      rw [← at_pos] at cell
      rw [cell]
      exact decryptRecord_lawful lawful key pos r
  · rw [List.length_drop]
    omega

theorem crashConsistent_of_live (faithful : storage.Faithful view) {flash : σ} {durable skipped pending : Nat}
    (flushed : written.length - pending ≤ durable) (durable_le : durable ≤ written.length)
    (live : liveRecords capacity ccm (firstInit capacity storage (some key) flash) = (written.take durable).drop skipped) :
    CrashConsistent capacity ccm written pending (firstInit capacity storage (some key) flash) := by
  obtain ⟨initialised, -⟩ := firstInit_restores capacity faithful key flash
  refine ⟨durable, _, flushed, durable_le, List.drop_suffix skipped _, fun maxRecords => ?_⟩
  rw [← live]
  exact historianRead_all capacity ccm initialised maxRecords

theorem Journal.consistent_before (lawful : ccm.Lawful) (faithful : storage.Faithful view)
    (journal : Journal capacity ccm key view s written) {flash : σ} (same : view flash = view s.flash) :
    CrashConsistent capacity ccm written s.pendingCount.toNat (firstInit capacity storage (some key) flash) := by
  apply crashConsistent_of_live faithful (Nat.le_refl _) (Nat.sub_le ..)
  apply liveRecords_firstInit lawful faithful (Nat.le_refl _)
  · rw [same]
    exact journal.flashed.count_le
  · rw [same]
    exact journal.flashed.next
  · intro n r found recent
    rw [same]
    exact journal.flashed.lap n r found recent
  · intro n pos beyond below
    exact absurd below (Nat.not_lt.mpr beyond)

/-- The flash holds the first `durable` records under the present header, and nothing readable for the others. -/
theorem Journal.consistent_after (lawful : ccm.Lawful) (faithful : storage.Faithful view)
    (journal : Journal capacity ccm key view s written) {flash : σ}
    (restored : (view flash).restored capacity = (s.count, s.writeIndex)) {durable : Nat}
    (flushed : written.length - s.pendingCount.toNat ≤ durable) (durable_le : durable ≤ written.length)
    (held : ∀ n r, n < durable → written[n]? = some r → written.length ≤ n + capacity.size.toNat →
      (view flash).records (n % capacity.size.toNat) = ondiskAt ccm key (n % capacity.size.toNat) r)
    (gap : ∀ n (pos : UInt32), durable ≤ n → n < written.length → pos.toNat = n % capacity.size.toNat →
      decryptRecord ccm (some key) pos pos ((view flash).records pos.toNat) = none) :
    CrashConsistent capacity ccm written s.pendingCount.toNat (firstInit capacity storage (some key) flash) := by
  have length : (written.take durable).length = durable := List.length_take_of_le durable_le
  apply crashConsistent_of_live faithful flushed durable_le
  apply liveRecords_firstInit lawful faithful (length.trans_le durable_le)
  · rw [restored]
    exact journal.count_le
  · rw [restored]
    exact journal.next
  · intro n r found recent
    obtain ⟨reached, -⟩ := List.getElem?_eq_some_iff.mp found
    rw [length] at reached
    rw [List.getElem?_take_of_lt reached] at found
    exact held n r reached found recent
  · intro n pos beyond below at_n
    exact gap n pos (length ▸ beyond) below at_n

theorem Journal.consistent (lawful : ccm.Lawful) (faithful : storage.Faithful view)
    (journal : Journal capacity ccm key view s written) {k : Nat} (cut : k ≤ s.pendingCount.toNat)
    (harmless : CutHarmless capacity.size.toNat written.length s.pendingCount.toNat k) :
    CrashConsistent capacity ccm written s.pendingCount.toNat
      (firstInit capacity storage (some key) (flashAfterAppends capacity storage s k)) := by
  have pending_written := journal.pending_written
  obtain ⟨⟨-, same⟩ | ⟨some_appends, restored⟩, -⟩ := journal.view_flashAfterAppends faithful cut
  · exact journal.consistent_before lawful faithful same
  · rcases harmless with first_lap | none | complete
    · -- The positions beyond the appends were never written.
      apply journal.consistent_after lawful faithful restored (Nat.le_add_right _ k) (by omega)
      · intro n r reached found recent
        exact journal.fresh faithful cut found recent (reached_of_lt reached)
      · intro n pos beyond below at_n
        rw [Nat.mod_eq_of_lt (by omega)] at at_n
        exact journal.unreached faithful cut (by omega) (by omega)
    · omega
    · apply journal.consistent_after lawful faithful restored (Nat.sub_le ..) (Nat.le_refl _)
      · intro n r bound found recent
        apply journal.fresh faithful cut found recent
        rcases Nat.le_total s.pendingCount.toNat capacity.size.toNat with one_lap | laps
        · exact reached_of_lt (by omega)
        · exact reached_of_lap capacity.pos (by omega) n
      · intro n pos beyond below
        exact absurd below (Nat.not_lt.mpr beyond)

/-- A cut batch in a ring that has come round: the newest position still holds the record of the lap before. -/
theorem Journal.stale_cell (faithful : storage.Faithful view) (journal : Journal capacity ccm key view s written) {k : Nat}
    (cut : k < s.pendingCount.toNat) (short : s.pendingCount.toNat < capacity.size.toNat)
    (round : capacity.size.toNat < written.length) {r : HistorianRecord}
    (older : written[written.length - 1 - capacity.size.toNat]? = some r) :
    (view (flashAfterAppends capacity storage s k)).records ((written.length - 1) % capacity.size.toNat) =
      ondiskAt ccm key ((written.length - 1) % capacity.size.toNat) r := by
  have pending_written := journal.pending_written
  have lap_before : (written.length - 1) % capacity.size.toNat =
      (written.length - 1 - capacity.size.toNat) % capacity.size.toNat := Nat.mod_eq_sub_mod (by omega)
  obtain ⟨-, records⟩ := journal.view_flashAfterAppends faithful (Nat.le_of_lt cut)
  rcases records ((written.length - 1) % capacity.size.toNat) with ⟨-, i, bound, visited⟩ | ⟨same, -⟩
  · exact absurd visited.symm (mod_ne_mod (by omega) (by omega))
  · rw [same, lap_before]
    apply journal.flashed.lap
    · rw [List.getElem?_take_of_lt (by omega)]
      exact older
    · rw [List.length_take]
      omega

theorem liveRecords_newest {t : Historian σ} {r : HistorianRecord} (some_used : 0 < t.count.toNat)
    (newest : recordAt capacity ccm t (t.count.toNat - 1) = some r) :
    ∃ front, liveRecords capacity ccm t = front ++ [r] := by
  refine ⟨(List.range (t.count.toNat - 1)).filterMap (recordAt capacity ccm t), ?_⟩
  rw [liveRecords, show t.count.toNat = t.count.toNat - 1 + 1 by omega, List.range_succ, List.filterMap_append,
    Nat.add_sub_cancel]
  simp [newest]

theorem Journal.stale (lawful : ccm.Lawful) (faithful : storage.Faithful view)
    (journal : Journal capacity ccm key view s written) {k : Nat} (some_appends : 0 < k)
    (cut : k < s.pendingCount.toNat) (short : s.pendingCount.toNat < capacity.size.toNat)
    (round : capacity.size.toNat < written.length) :
    ∃ front r, written[written.length - 1 - capacity.size.toNat]? = some r ∧
      liveRecords capacity ccm (firstInit capacity storage (some key) (flashAfterAppends capacity storage s k)) =
        front ++ [r] := by
  have fits := journal.fits
  have count_le := journal.count_le
  obtain ⟨header, -⟩ := journal.view_flashAfterAppends faithful (Nat.le_of_lt cut)
  obtain ⟨none, -⟩ | ⟨-, restored⟩ := header
  · omega
  have pending : s.pendingCount ≠ 0 := by
    intro none
    rw [none, UInt32.toNat_zero] at cut
    omega
  obtain ⟨-, some_used⟩ := journal.pending_start pending
  obtain ⟨r, older⟩ : ∃ r, written[written.length - 1 - capacity.size.toNat]? = some r :=
    ⟨_, List.getElem?_eq_getElem (by omega)⟩
  have kept := journal.stale_cell faithful cut short round older
  obtain ⟨-, keyed, -, -, count, writeIndex, ring⟩ :=
    firstInit_restores capacity faithful key (flashAfterAppends capacity storage s k)
  rw [restored] at count writeIndex
  dsimp only at count writeIndex
  generalize firstInit capacity storage (some key) (flashAfterAppends capacity storage s k) = t
    at count writeIndex keyed ring ⊢
  rw [← count] at fits count_le some_used
  have newest : recordAt capacity ccm t (t.count.toNat - 1) = some r := by
    obtain ⟨pos, at_pos, opened⟩ := recordAt_numbered ccm (by rw [writeIndex]; exact journal.next) count_le fits
      (Nat.sub_lt some_used Nat.one_pos)
    rw [show written.length - t.count.toNat + (t.count.toNat - 1) = written.length - 1 by omega] at at_pos
    rw [opened, keyed, ring some_used, at_pos, kept, ← at_pos]
    exact decryptRecord_lawful lawful key pos r
  obtain ⟨front, live⟩ := liveRecords_newest some_used newest
  exact ⟨front, r, older, live⟩

/-- A read with room for more than the ring holds returns the whole segment. -/
theorem CrashConsistent.live {t : Historian σ} {pending : Nat} (consistent : CrashConsistent capacity ccm written pending t)
    (initialised : t.initialised = true) (fits : t.count.toNat ≤ capacity.size.toNat) :
    ∃ durable, written.length - pending ≤ durable ∧ durable ≤ written.length ∧
      liveRecords capacity ccm t <:+ written.take durable := by
  obtain ⟨durable, segment, flushed, durable_le, suffix, read⟩ := consistent
  have bounded := capacity.bounded
  have small := (length_liveRecords_le capacity ccm t).trans fits
  have room : (0xFFFFFFFF : UInt32).toNat = 4294967295 := rfl
  have all := read 0xFFFFFFFF
  rw [historianRead_all capacity ccm initialised, room, List.take_of_length_le (by omega)] at all
  have whole : segment = liveRecords capacity ccm t := by
    rw [all, List.take_of_length_le]
    rw [all, List.length_take] at small
    omega
  exact ⟨durable, flushed, durable_le, whole ▸ suffix⟩

theorem getElem?_of_suffix_take {α : Type} {xs front : List α} {x : α} {n : Nat} (fits : n ≤ xs.length)
    (suffix : front ++ [x] <:+ xs.take n) : 0 < n ∧ xs[n - 1]? = some x := by
  obtain ⟨before, split⟩ := suffix
  rw [← List.append_assoc] at split
  have length : n = (before ++ front).length + 1 := by
    have lengths := congrArg List.length split
    rw [List.length_take_of_le fits, List.length_append, List.length_singleton] at lengths
    exact lengths.symm
  refine ⟨by omega, ?_⟩
  rw [← List.getElem?_take_of_lt (show n - 1 < n by omega), ← split, length, Nat.add_sub_cancel]
  exact List.getElem?_concat_length

theorem Journal.harmless (lawful : ccm.Lawful) (faithful : storage.Faithful view)
    (journal : Journal capacity ccm key view s written) {k : Nat} (cut : k ≤ s.pendingCount.toNat)
    (short : s.pendingCount.toNat < capacity.size.toNat) (distinct : written.Nodup)
    (consistent : CrashConsistent capacity ccm written s.pendingCount.toNat
      (firstInit capacity storage (some key) (flashAfterAppends capacity storage s k))) :
    CutHarmless capacity.size.toNat written.length s.pendingCount.toNat k := by
  by_contra harmful
  simp only [CutHarmless, not_or] at harmful
  obtain ⟨front, r, older, live⟩ :=
    journal.stale lawful faithful (k := k) (by omega) (by omega) short (by omega)
  obtain ⟨initialised, -, -, -, count, -⟩ :=
    firstInit_restores capacity faithful key (flashAfterAppends capacity storage s k)
  obtain ⟨durable, flushed, durable_le, suffix⟩ :=
    consistent.live initialised (count ▸ (restored_inside capacity _).1)
  rw [live] at suffix
  obtain ⟨some_durable, last⟩ := getElem?_of_suffix_take durable_le suffix
  have bound := (List.getElem?_eq_some_iff.mp last).1
  have same := (List.getElem?_inj bound distinct).mp (last.trans older.symm)
  omega

/-- A power loss during a flush leaves a segment of the log when no append was made, when the batch was complete or when
the ring has not come round; for distinct records and batches shorter than the ring, only then. -/
theorem historian_crash_consistent (capacity : HistorianCapacity) (ccm : Ccm) (lawful : ccm.Lawful)
    (storage : HistorianStorage σ) (view : σ → FlashImage) (faithful : storage.Faithful view) (key : HistorianKey) (flash : σ)
    (erased : Erased capacity ccm key (view flash)) (ops : List HistorianOp) (op : HistorianOp) (k : Nat) :
    let s := finalState (historianStep capacity ccm storage) (firstInit capacity storage (some key) flash) ops
    let written := writtenRecords (ops ++ [op])
    let pending := (flushEntry capacity ccm s op).pendingCount.toNat
    let rebooted := afterPowerLoss capacity ccm storage key s op k
    k ≤ pending →
    (CutHarmless capacity.size.toNat written.length pending k → CrashConsistent capacity ccm written pending rebooted) ∧
      (pending < capacity.size.toNat → written.Nodup → CrashConsistent capacity ccm written pending rebooted →
        CutHarmless capacity.size.toNat written.length pending k) := by
  intro s written pending rebooted cut
  obtain ⟨journal, few⟩ : Journal capacity ccm key view s (writtenRecords ops) ∧ _ :=
    historianRun_journal lawful faithful erased ops
  have entry : Journal capacity ccm key view (flushEntry capacity ccm s op) written := by
    have next := journal.entry lawful few op
    rwa [writtenRecords, writtenRecords, ← List.filterMap_append] at next
  exact ⟨entry.consistent lawful faithful cut, entry.harmless lawful faithful cut⟩

end Runs

structure SealedRecord where
  pos : UInt32
  record : HistorianRecord
  ciphertext : List UInt8
  tag : List UInt8

def numberedRecord (sequence : UInt32) : HistorianRecord := { sampleRecord with sequence := sequence }

/-- AES-128-CCM of four records under the sample key, at the positions a ring of two gives them. -/
def sealedRecords : List SealedRecord :=
  [⟨0, numberedRecord 0, sampleCiphertext, sampleTag⟩,
    ⟨1, numberedRecord 1,
      [0xDC, 0xEA, 0x64, 0x15, 0xD7, 0x30, 0x69, 0x2B, 0x0F, 0x55, 0xB1, 0xC9,
        0x7A, 0x42, 0x39, 0xE0, 0x6C, 0x91, 0xE9, 0x4A, 0xB0, 0x36, 0x55, 0x4D],
      [0x4A, 0xF5, 0xD4, 0xB8, 0x64, 0x94, 0x03, 0xD8, 0x46, 0xEA, 0xEE, 0xE7,
        0xB4, 0xA0, 0xB5, 0x19]⟩,
    ⟨0, numberedRecord 2,
      [0xC3, 0xD5, 0xD4, 0xC0, 0x60, 0xB8, 0x43, 0x2E, 0x44, 0xC4, 0x15, 0x98,
        0xC6, 0xB1, 0x7E, 0xA6, 0x66, 0x04, 0x9A, 0x5C, 0xEE, 0x59, 0x3E, 0x57],
      [0xEF, 0xD9, 0x73, 0xD9, 0x6B, 0xB7, 0xD4, 0x43, 0x52, 0x73, 0xC4, 0x92,
        0x31, 0x83, 0xD6, 0x3E]⟩,
    ⟨1, numberedRecord 3,
      [0xDC, 0xEA, 0x64, 0x15, 0xD7, 0x30, 0x69, 0x2B, 0x0F, 0x55, 0xB1, 0xC9,
        0x78, 0x42, 0x39, 0xE0, 0x6C, 0x91, 0xE9, 0x4A, 0xB0, 0x36, 0x55, 0x4D],
      [0xC9, 0x22, 0xC0, 0xBB, 0x94, 0x1A, 0xD0, 0x00, 0xF3, 0x70, 0xFE, 0x79,
        0x53, 0x64, 0x05, 0xB0]⟩]

def spareTag : List UInt8 := List.replicate 16 0x5A

def SealedRecord.sealing (key : HistorianKey) (nonce plaintext : List UInt8) : Option SealedRecord :=
  sealedRecords.find? fun e => key = sampleKey ∧ nonce = buildNonce e.pos e.pos ∧ plaintext = encodeRecord e.record

def SealedRecord.opening (key : HistorianKey) (nonce ciphertext tag : List UInt8) : Option SealedRecord :=
  sealedRecords.find? fun e =>
    key = sampleKey ∧ nonce = buildNonce e.pos e.pos ∧ ciphertext = e.ciphertext ∧ tag = e.tag

/-- AES-128-CCM on the sealed records, and a fixed tag on anything else. -/
def sealedCcm : Ccm where
  encryptAndTag key nonce plaintext :=
    match SealedRecord.sealing key nonce plaintext with
    | some e => some (e.ciphertext, e.tag)
    | none => some (plaintext, spareTag)
  authDecrypt key nonce ciphertext tag :=
    match SealedRecord.opening key nonce ciphertext tag with
    | some e => some (encodeRecord e.record)
    | none => if tag = spareTag then some ciphertext else none

theorem opening_eq_none (key : HistorianKey) (nonce ciphertext tag : List UInt8)
    (unknown : ∀ e ∈ sealedRecords, tag ≠ e.tag) : SealedRecord.opening key nonce ciphertext tag = none := by
  rw [SealedRecord.opening, List.find?_eq_none]
  intro e member found
  exact unknown e member (of_decide_eq_true found).2.2.2

theorem opening_of_sealing {key : HistorianKey} {nonce plaintext : List UInt8} {e : SealedRecord}
    (found : SealedRecord.sealing key nonce plaintext = some e) :
    ∃ e', SealedRecord.opening key nonce e.ciphertext e.tag = some e' ∧ encodeRecord e'.record = plaintext := by
  have distinct : ∀ e ∈ sealedRecords, ∀ e' ∈ sealedRecords, e.tag = e'.tag → e'.record = e.record := by decide
  have member := List.mem_of_find?_eq_some found
  have matched := List.find?_some found
  obtain ⟨keyed, numbered, rfl⟩ := of_decide_eq_true matched
  cases opened : SealedRecord.opening key nonce e.ciphertext e.tag with
  | none => exact absurd (decide_eq_true ⟨keyed, numbered, rfl, rfl⟩) (List.find?_eq_none.mp opened e member)
  | some e' =>
    have rematched := List.find?_some opened
    obtain ⟨-, -, -, same⟩ := of_decide_eq_true rematched
    exact ⟨e', rfl, by rw [distinct e member e' (List.mem_of_find?_eq_some opened) same]⟩

theorem sealedCcm_lawful : sealedCcm.Lawful := by
  intro key nonce plaintext _ plaintext_length
  cases found : SealedRecord.sealing key nonce plaintext with
  | none =>
    refine ⟨plaintext, spareTag, by simp only [sealedCcm, found], rfl, ?_⟩
    have unknown := opening_eq_none key nonce plaintext spareTag (by decide)
    simp only [sealedCcm, unknown, if_true]
  | some e =>
    have lengths : ∀ e ∈ sealedRecords, e.ciphertext.length = historianRecordSize := by decide
    obtain ⟨e', opened, same⟩ := opening_of_sealing found
    refine ⟨e.ciphertext, e.tag, by simp only [sealedCcm, found], ?_, by simp only [sealedCcm, opened, same]⟩
    rw [plaintext_length]
    exact lengths e (List.mem_of_find?_eq_some found)

theorem blankFlash_erased (capacity : HistorianCapacity) (key : HistorianKey) :
    Erased capacity sealedCcm key blankFlash := by
  refine ⟨rfl, fun pos _ => ?_⟩
  have unknown := opening_eq_none key (buildNonce pos pos) (List.replicate 24 0) (List.replicate 16 0) (by decide)
  have rejected : sealedCcm.authDecrypt key (buildNonce pos pos) (List.replicate 24 0) (List.replicate 16 0) = none := by
    simp only [sealedCcm, unknown]
    exact if_neg (by decide)
  exact congrArg (Option.map decodeRecord) rejected

theorem historian_crash_consistent_first_lap :
    let s := finalState (historianStep defaultHistorianCapacity sealedCcm ramStorage)
      (firstInit defaultHistorianCapacity ramStorage (some sampleKey) blankFlash)
      [.write (numberedRecord 0), .write (numberedRecord 1)]
    let rebooted := afterPowerLoss defaultHistorianCapacity sealedCcm ramStorage sampleKey s (.flush 1000000) 1
    CrashConsistent defaultHistorianCapacity sealedCcm [numberedRecord 0, numberedRecord 1] 2 rebooted ∧
      (historianRead defaultHistorianCapacity sealedCcm rebooted none 4).2 = [numberedRecord 0] := by
  obtain ⟨consistent, -⟩ := historian_crash_consistent defaultHistorianCapacity sealedCcm sealedCcm_lawful ramStorage id
    ramStorage_faithful sampleKey blankFlash (blankFlash_erased _ _) [.write (numberedRecord 0), .write (numberedRecord 1)]
    (.flush 1000000) 1 (by decide)
  exact ⟨consistent (.inl (by decide)), by decide⟩

def tinyHistorianCapacity : HistorianCapacity := ⟨2, by decide, by decide⟩

/-- The second of two appends is lost in a ring that has come round: a record of the lap before is read last. -/
theorem cut_flush_mixes_laps :
    let ops := [.write (numberedRecord 0), .write (numberedRecord 1), .flush 1000000, .write (numberedRecord 2),
      .write (numberedRecord 3)]
    let s := finalState (historianStep tinyHistorianCapacity sealedCcm ramStorage)
      (firstInit tinyHistorianCapacity ramStorage (some sampleKey) blankFlash) ops
    let rebooted := afterPowerLoss tinyHistorianCapacity sealedCcm ramStorage sampleKey s (.flush 1000000) 1
    (historianRead tinyHistorianCapacity sealedCcm rebooted none 4).2 = [numberedRecord 2, numberedRecord 1] ∧
      ¬ (historianRead tinyHistorianCapacity sealedCcm rebooted none 4).2 <:+: writtenRecords ops := by
  intro ops s rebooted
  have read : (historianRead tinyHistorianCapacity sealedCcm rebooted none 4).2 = [numberedRecord 2, numberedRecord 1] := by
    decide
  rw [read]
  exact ⟨rfl, by decide⟩

end IotPlatform
