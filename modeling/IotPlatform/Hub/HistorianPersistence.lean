import IotPlatform.Hub.HistorianLog

/-!
# The historian across a reboot

A flush appends only the pending records, each with the present count and write index. `Synced` says what the flash
image and the ring have in common between flushes; a flush makes them agree on every record in use, so that
initialising again reads the same log.
-/

namespace IotPlatform
open RingBuffer Run

/-! ### Faithful storage -/

/-- What a backend keeps: the bytes at every position, and the count and write index of the last append. -/
structure FlashImage where
  present : Bool
  records : Nat → List UInt8
  count : UInt32
  writeIndex : UInt32

def FlashImage.append (image : FlashImage) (index : UInt32) (record : List UInt8) (count writeIndex : UInt32) : FlashImage :=
  { present := true, records := Function.update image.records index.toNat record, count := count, writeIndex := writeIndex }

/-- Appending always succeeds and stores the record, count and write index; loading returns what is stored. -/
structure HistorianStorage.Faithful {σ : Type} (storage : HistorianStorage σ) (view : σ → FlashImage) : Prop where
  appends : ∃ append, storage.append = some append ∧ ∀ flash index record count writeIndex,
    (append flash index record count writeIndex).2 = true ∧
      view (append flash index record count writeIndex).1 = (view flash).append index record count writeIndex
  loads : ∃ load, storage.load = some load ∧ ∀ flash records maxRecords,
    let loaded := load flash records maxRecords
    loaded.ok = (view flash).present ∧
      (loaded.ok = true → loaded.records = (view flash).records ∧ loaded.count = (view flash).count ∧
        loaded.writeIndex = (view flash).writeIndex)

def Ccm.Total (ccm : Ccm) : Prop :=
  ∀ key nonce plaintext, nonce.length = 13 → plaintext.length = historianRecordSize →
    ∃ output, ccm.encryptAndTag key nonce plaintext = some output

theorem Ccm.Lawful.total {ccm : Ccm} (lawful : ccm.Lawful) : ccm.Total := by
  intro key nonce plaintext nonce_length plaintext_length
  obtain ⟨ciphertext, tag, encrypted, -, -⟩ := lawful key nonce plaintext nonce_length plaintext_length
  exact ⟨(ciphertext, tag), encrypted⟩

theorem encryptRecord_total {ccm : Ccm} (total : ccm.Total) (key : HistorianKey) (pos : UInt32) (r : HistorianRecord) :
    ∃ ondisk, encryptRecord ccm (some key) pos pos r = some ondisk := by
  obtain ⟨output, encrypted⟩ :=
    total key (buildNonce pos pos) (encodeRecord r) (length_buildNonce ..) (length_encodeRecord r)
  exact ⟨output.1 ++ output.2, by rw [encryptRecord, Option.bind_some, encrypted]; rfl⟩

section Persistence

variable {σ : Type} {capacity : HistorianCapacity} {ccm : Ccm} {storage : HistorianStorage σ} {view : σ → FlashImage}
  {s : Historian σ}

def FlashImage.restored (capacity : HistorianCapacity) (image : FlashImage) : UInt32 × UInt32 :=
  if image.present = true ∧ image.count ≤ capacity.size then (image.count, image.writeIndex % capacity.size) else (0, 0)

theorem restored_header {image : FlashImage} (present : image.present = true) (count : image.count = s.count)
    (writeIndex : image.writeIndex = s.writeIndex) (fits : s.count.toNat ≤ capacity.size.toNat)
    (inside : s.writeIndex.toNat < capacity.size.toNat) : image.restored capacity = (s.count, s.writeIndex) := by
  have fits : image.count ≤ capacity.size := UInt32.le_iff_toNat_le.mpr (count ▸ fits)
  have inside : s.writeIndex % capacity.size = s.writeIndex := by
    apply UInt32.toNat_inj.mp
    rw [UInt32.toNat_mod, Nat.mod_eq_of_lt inside]
  rw [FlashImage.restored, if_pos ⟨present, fits⟩, count, writeIndex, inside]

theorem historianInit_restores (capacity : HistorianCapacity) (faithful : storage.Faithful view) (s : Historian σ) :
    let s' := historianInit capacity (some storage) s
    s'.initialised = true ∧ s'.key = s.key ∧ s'.flash = s.flash ∧ s'.pendingCount = 0 ∧
      (s'.count, s'.writeIndex) = (view s.flash).restored capacity ∧
      ((view s.flash).present = true → s'.ring = (view s.flash).records) := by
  obtain ⟨load, loads, loaded_eq⟩ := faithful.loads
  obtain ⟨ok, stored⟩ := loaded_eq s.flash zeroRing capacity.size
  unfold historianInit
  rw [Option.bind_some, loads]
  dsimp only
  generalize load s.flash zeroRing capacity.size = loaded at ok stored ⊢
  cases answer : loaded.ok with
  | false =>
    have absent : (view s.flash).present = false := ok.symm.trans answer
    refine ⟨rfl, rfl, rfl, rfl, ?_, fun present => ?_⟩
    · simp [FlashImage.restored, absent]
    · rw [absent] at present
      cases present
  | true =>
    have present : (view s.flash).present = true := ok.symm.trans answer
    obtain ⟨records, count, writeIndex⟩ := stored answer
    rw [if_pos rfl]
    by_cases fits : loaded.count ≤ capacity.size
    · rw [if_pos fits]
      refine ⟨rfl, rfl, rfl, rfl, ?_, fun _ => records⟩
      rw [FlashImage.restored, if_pos ⟨present, count ▸ fits⟩, ← count, ← writeIndex]
    · rw [if_neg fits]
      refine ⟨rfl, rfl, rfl, rfl, ?_, fun _ => records⟩
      rw [FlashImage.restored, if_neg fun both => fits (count ▸ both.2)]

/-! ### Flushing -/

def Pending (capacity : HistorianCapacity) (s : Historian σ) (pos : Nat) : Prop :=
  ∃ i < s.pendingCount.toNat, pos = (s.pendingStart.toNat + i) % capacity.size.toNat

theorem pendingPos_toNat {start : UInt32} (inside : start.toNat < capacity.size.toNat) {i : Nat} (small : i ≤ 64) :
    ((start + UInt32.ofNat i) % capacity.size).toNat = (start.toNat + i) % capacity.size.toNat := by
  have bounded := capacity.bounded
  have sum : (start + UInt32.ofNat i).toNat = start.toNat + i := by
    rw [UInt32.toNat_add, UInt32.toNat_ofNat']
    omega
  rw [UInt32.toNat_mod, sum]

/-- The indices are those of a ring. -/
structure Placed (capacity : HistorianCapacity) (s : Historian σ) : Prop where
  inside : s.writeIndex.toNat < capacity.size.toNat
  fits : s.count.toNat ≤ capacity.size.toNat

/-- The pending range ends where the next record goes. -/
structure PendingRange (capacity : HistorianCapacity) (s : Historian σ) : Prop extends Placed capacity s where
  pending_le : s.pendingCount.toNat ≤ 64
  pending_end : s.pendingCount ≠ 0 → s.pendingStart.toNat < capacity.size.toNat ∧
    (s.pendingStart.toNat + s.pendingCount.toNat) % capacity.size.toNat = s.writeIndex.toNat

/-- Every position in use is pending or kept elsewhere. -/
def Covers (capacity : HistorianCapacity) (kept : Nat → Prop) (s : Historian σ) : Prop :=
  ∀ j < s.count.toNat,
    let pos := slot capacity.size.toNat s.writeIndex.toNat s.count.toNat j
    Pending capacity s pos ∨ kept pos

/-- The append loop changes the flash only, and there the header and the positions it visits. -/
theorem appendPending_faithful {append : σ → UInt32 → List UInt8 → UInt32 → UInt32 → σ × Bool}
    (appends : ∀ flash index record count writeIndex,
      (append flash index record count writeIndex).2 = true ∧
        view (append flash index record count writeIndex).1 = (view flash).append index record count writeIndex)
    (remaining n : Nat) (s : Historian σ) (inside : s.pendingStart.toNat < capacity.size.toNat)
    (small : n + remaining ≤ 64) :
    ∃ flash, appendPending capacity append remaining (UInt32.ofNat n) s = { s with flash := flash } ∧
      (remaining = 0 ∧ flash = s.flash ∨
        (view flash).present = true ∧ (view flash).count = s.count ∧ (view flash).writeIndex = s.writeIndex) ∧
      ∀ pos, (view flash).records pos = s.ring pos ∧
          (∃ i < remaining, pos = (s.pendingStart.toNat + (n + i)) % capacity.size.toNat) ∨
        (view flash).records pos = (view s.flash).records pos ∧
          ∀ i < remaining, pos ≠ (s.pendingStart.toNat + (n + i)) % capacity.size.toNat := by
  induction remaining generalizing n s with
  | zero => exact ⟨s.flash, rfl, .inl ⟨rfl, rfl⟩, fun pos => .inr ⟨rfl, fun i none => nomatch none⟩⟩
  | succ remaining ih =>
    have next : UInt32.ofNat n + 1 = UInt32.ofNat (n + 1) := (UInt32.ofNat_add n 1).symm
    have here := pendingPos_toNat inside (i := n) (by omega)
    obtain ⟨ok, stored⟩ := appends s.flash ((s.pendingStart + UInt32.ofNat n) % capacity.size)
      (s.ring ((s.pendingStart + UInt32.ofNat n) % capacity.size).toNat) s.count s.writeIndex
    rw [appendPending, next]
    dsimp only
    rw [ok, if_pos rfl]
    generalize (append s.flash ((s.pendingStart + UInt32.ofNat n) % capacity.size)
      (s.ring ((s.pendingStart + UInt32.ofNat n) % capacity.size).toNat) s.count s.writeIndex).1 = flash₁ at stored
    obtain ⟨flash, result, last, records⟩ := ih (n + 1) { s with flash := flash₁ } inside (by omega)
    refine ⟨flash, result, .inr ?_, fun pos => ?_⟩
    · rcases last with ⟨-, rfl⟩ | stored_last
      · exact ⟨by rw [stored]; rfl, by rw [stored]; rfl, by rw [stored]; rfl⟩
      · exact stored_last
    · rcases records pos with ⟨saved, i, bound, visited⟩ | ⟨same, not_later⟩
      · refine .inl ⟨saved, i + 1, by omega, ?_⟩
        rw [visited, show n + 1 + i = n + (i + 1) by omega]
      · dsimp only at same not_later
        rw [stored, FlashImage.append, here] at same
        dsimp only at same
        by_cases now : pos = (s.pendingStart.toNat + n) % capacity.size.toNat
        · refine .inl ⟨?_, 0, by omega, now⟩
          rw [same, ← now, Function.update_self]
        · right
          rw [Function.update_of_ne now] at same
          refine ⟨same, fun i bound => ?_⟩
          cases i with
          | zero => exact now
          | succ i =>
            have later := not_later i (by omega)
            rwa [show n + 1 + i = n + (i + 1) by omega] at later

/-- What the ring and the flash have in common between two flushes. -/
structure Synced (capacity : HistorianCapacity) (view : σ → FlashImage) (s : Historian σ) : Prop where
  initialised : s.initialised = true
  inside : s.writeIndex.toNat < capacity.size.toNat
  fits : s.count.toNat ≤ capacity.size.toNat
  pending_le : s.pendingCount.toNat ≤ 64
  pending_end : s.pendingCount ≠ 0 → s.pendingStart.toNat < capacity.size.toNat ∧
    (s.pendingStart.toNat + s.pendingCount.toNat) % capacity.size.toNat = s.writeIndex.toNat
  /-- With nothing pending, an initialisation restores the present indices. -/
  clean : s.pendingCount = 0 → (view s.flash).restored capacity = (s.count, s.writeIndex)
  saved : ∀ j < s.count.toNat,
    let pos := slot capacity.size.toNat s.writeIndex.toNat s.count.toNat j
    Pending capacity s pos ∨ (view s.flash).records pos = s.ring pos

theorem Synced.rekey (synced : Synced capacity view s) (key : Option HistorianKey) (stats : HistorianStats) :
    Synced capacity view { s with key := key, stats := stats } :=
  ⟨synced.initialised, synced.inside, synced.fits, synced.pending_le, synced.pending_end, synced.clean, synced.saved⟩

/-- A flush keeps everything but the pending range, the time of the last flush and the flash. -/
structure Flushes (s s' : Historian σ) : Prop where
  ring : s'.ring = s.ring
  writeIndex : s'.writeIndex = s.writeIndex
  count : s'.count = s.count
  key : s'.key = s.key
  initialised : s'.initialised = s.initialised
  pendingCount : s'.pendingCount = 0

theorem historianFlush_synced (faithful : storage.Faithful view) (synced : Synced capacity view s) (now : UInt64) :
    Synced capacity view (historianFlush capacity (some storage) s now) ∧
      Flushes s (historianFlush capacity (some storage) s now) := by
  obtain ⟨append, appends, appended⟩ := faithful.appends
  rw [historianFlush_append capacity appends synced.initialised]
  by_cases none : s.pendingCount = 0
  · rw [if_pos none]
    exact ⟨synced, ⟨rfl, rfl, rfl, rfl, rfl, none⟩⟩
  · rw [if_neg none]
    obtain ⟨inside, -⟩ := synced.pending_end none
    obtain ⟨flash, result, last, records⟩ :=
      appendPending_faithful appended s.pendingCount.toNat 0 s inside (by have := synced.pending_le; omega)
    have some_pending : s.pendingCount.toNat ≠ 0 := fun zero => none (UInt32.toNat_inj.mp zero)
    obtain ⟨zero, -⟩ | ⟨present, count, writeIndex⟩ := last
    · exact absurd zero some_pending
    have looped : appendPending capacity append s.pendingCount.toNat 0 s = { s with flash := flash } := result
    rw [looped]
    refine ⟨⟨synced.initialised, synced.inside, synced.fits, Nat.zero_le _, fun some => absurd rfl some, fun _ => ?_,
      fun j used => .inr ?_⟩, ⟨rfl, rfl, rfl, rfl, rfl, rfl⟩⟩
    · exact restored_header present count writeIndex synced.fits synced.inside
    · rcases records (slot capacity.size.toNat s.writeIndex.toNat s.count.toNat j) with ⟨stored, -⟩ | ⟨same, not_visited⟩
      · exact stored
      · rcases synced.saved j used with ⟨i, bound, visited⟩ | earlier
        · have missed := not_visited i bound
          rw [Nat.zero_add] at missed
          exact absurd visited missed
        · exact same.trans earlier

/-! ### Writing -/

theorem historianAutoFlush_synced (faithful : storage.Faithful view) (synced : Synced capacity view s) (now : UInt64) :
    Synced capacity view (historianAutoFlush capacity (some storage) s now) ∧
      (historianAutoFlush capacity (some storage) s now).pendingCount.toNat < 64 := by
  obtain ⟨flushed, flushes⟩ := historianFlush_synced faithful synced now
  obtain flushing | ⟨same, few⟩ := historianAutoFlush_cases capacity (some storage) s now
  · rw [flushing]
    refine ⟨flushed, ?_⟩
    rw [flushes.pendingCount]
    decide
  · rw [same]
    exact ⟨synced, few⟩

theorem Synced.range (synced : Synced capacity view s) : PendingRange capacity s :=
  ⟨⟨synced.inside, synced.fits⟩, synced.pending_le, synced.pending_end⟩

theorem PendingRange.start (range : PendingRange capacity s) :
    let start := if s.pendingCount = 0 then s.writeIndex else s.pendingStart
    start.toNat < capacity.size.toNat ∧
      (start.toNat + s.pendingCount.toNat) % capacity.size.toNat = s.writeIndex.toNat := by
  intro start
  by_cases none : s.pendingCount = 0
  · have first : start = s.writeIndex := if_pos none
    rw [first, none, UInt32.toNat_zero, Nat.add_zero, Nat.mod_eq_of_lt range.inside]
    exact ⟨range.inside, rfl⟩
  · have same : start = s.pendingStart := if_neg none
    rw [same]
    exact range.pending_end none

theorem Covers.evicted {kept : Nat → Prop} (covers : Covers capacity kept s) (fits : s.count.toNat ≤ capacity.size.toNat)
    {evicted : Historian σ} (evicts : Evicts s evicted) {j : Nat} (used : j < evicted.count.toNat) :
    let pos := slot capacity.size.toNat s.writeIndex.toNat evicted.count.toNat j
    Pending capacity s pos ∨ kept pos := by
  have count_le := evicts.count_le
  have renumbered : slot capacity.size.toNat s.writeIndex.toNat evicted.count.toNat j =
      slot capacity.size.toNat s.writeIndex.toNat s.count.toNat (s.count.toNat - evicted.count.toNat + j) := by
    rw [← slot_drop _ j (Nat.sub_le ..) fits, Nat.sub_sub_self count_le]
  rw [renumbered]
  exact covers _ (by omega)

theorem buffered_pending (capacity : HistorianCapacity) {evicted : Historian σ} (evicts : Evicts s evicted)
    (few : s.pendingCount.toNat < 64) (ondisk : List UInt8) :
    let buffered := historianBufferForFlush (putRecord capacity evicted ondisk) evicted.writeIndex
    buffered.pendingCount.toNat = s.pendingCount.toNat + 1 ∧
      buffered.pendingStart = if s.pendingCount = 0 then s.writeIndex else s.pendingStart := by
  intro buffered
  constructor
  · change (evicted.pendingCount + 1).toNat = _
    rw [evicts.pendingCount, UInt32.toNat_add, UInt32.toNat_one]
    omega
  · change (if evicted.pendingCount = 0 then evicted.writeIndex else evicted.pendingStart) = _
    rw [evicts.pendingCount, evicts.writeIndex, evicts.pendingStart]

theorem Placed.put (placed : Placed capacity s) {evicted : Historian σ} (evicts : Evicts s evicted)
    (room : evicted.count.toNat < capacity.size.toNat) (ondisk : List UInt8) :
    Placed capacity (historianBufferForFlush (putRecord capacity evicted ondisk) evicted.writeIndex) := by
  obtain ⟨writeIndex, count⟩ := putRecord_indices (evicts.writeIndex ▸ placed.inside) room ondisk
  constructor
  · change (putRecord capacity evicted ondisk).writeIndex.toNat < _
    rw [writeIndex]
    exact Nat.mod_lt _ capacity.pos
  · change (putRecord capacity evicted ondisk).count.toNat ≤ _
    rw [count]
    exact room

theorem PendingRange.put (range : PendingRange capacity s) (few : s.pendingCount.toNat < 64) {evicted : Historian σ}
    (evicts : Evicts s evicted) (room : evicted.count.toNat < capacity.size.toNat) (ondisk : List UInt8) :
    PendingRange capacity (historianBufferForFlush (putRecord capacity evicted ondisk) evicted.writeIndex) := by
  obtain ⟨start_inside, start_end⟩ := range.start
  obtain ⟨buffered_count, buffered_start⟩ := buffered_pending capacity evicts few ondisk
  obtain ⟨writeIndex, -⟩ := putRecord_indices (evicts.writeIndex ▸ range.inside) room ondisk
  rw [evicts.writeIndex] at writeIndex
  refine ⟨range.toPlaced.put evicts room ondisk, ?_, fun _ => ?_⟩
  · rw [buffered_count]
    exact few
  · rw [buffered_start, buffered_count]
    change _ ∧ _ = (putRecord capacity evicted ondisk).writeIndex.toNat
    rw [writeIndex, ← start_end, ← Nat.add_assoc, Nat.mod_add_mod]
    exact ⟨start_inside, rfl⟩

/-- The position of a record that is put into a ring with room is the only new pending one. -/
theorem Covers.put {kept : Nat → Prop} (covers : Covers capacity kept s) (range : PendingRange capacity s)
    (few : s.pendingCount.toNat < 64) {evicted : Historian σ} (evicts : Evicts s evicted)
    (room : evicted.count.toNat < capacity.size.toNat) (ondisk : List UInt8) :
    Covers capacity (fun pos => pos ≠ s.writeIndex.toNat ∧ kept pos)
      (historianBufferForFlush (putRecord capacity evicted ondisk) evicted.writeIndex) := by
  obtain ⟨buffered_count, buffered_start⟩ := buffered_pending capacity evicts few ondisk
  obtain ⟨-, start_end⟩ := range.start
  obtain ⟨writeIndex, count⟩ := putRecord_indices (evicts.writeIndex ▸ range.inside) room ondisk
  rw [evicts.writeIndex] at writeIndex
  intro j used pos
  have same_pos : pos = slot capacity.size.toNat s.writeIndex.toNat evicted.count.toNat j := by
    change slot _ (putRecord capacity evicted ondisk).writeIndex.toNat (putRecord capacity evicted ondisk).count.toNat j = _
    rw [writeIndex, count, slot_push j range.inside room]
  change j < (putRecord capacity evicted ondisk).count.toNat at used
  rw [count] at used
  rw [same_pos]
  rcases Nat.lt_or_ge j evicted.count.toNat with old | new
  · refine (covers.evicted range.fits evicts old).imp (fun ⟨i, bound, same⟩ => ?_)
      (fun kept => ⟨slot_ne_writeIndex range.inside room old, kept⟩)
    have some_pending : s.pendingCount ≠ 0 := by
      intro none
      rw [none] at bound
      exact absurd bound (Nat.not_lt_zero i)
    refine ⟨i, by omega, ?_⟩
    rw [buffered_start, if_neg some_pending]
    exact same
  · left
    have newest : j = evicted.count.toNat := by omega
    refine ⟨s.pendingCount.toNat, by omega, ?_⟩
    rw [buffered_start, start_end, newest, slot_newest range.inside room]

theorem putRecord_synced (synced : Synced capacity view s) (few : s.pendingCount.toNat < 64) {evicted : Historian σ}
    (evicts : Evicts s evicted) (room : evicted.count.toNat < capacity.size.toNat) (ondisk : List UInt8) :
    Synced capacity view (historianBufferForFlush (putRecord capacity evicted ondisk) evicted.writeIndex) := by
  obtain ⟨buffered_count, -⟩ := buffered_pending capacity evicts few ondisk
  have range := synced.range.put few evicts room ondisk
  have covers : Covers capacity (fun pos => (view s.flash).records pos = s.ring pos) s := synced.saved
  refine ⟨evicts.initialised.trans synced.initialised, range.inside, range.fits, range.pending_le, range.pending_end,
    fun none => ?_, fun j used => ?_⟩
  · rw [none] at buffered_count
    cases buffered_count
  · refine (covers.put synced.range few evicts room ondisk j used).imp_right fun ⟨other, stored⟩ => ?_
    change (view evicted.flash).records _ = Function.update evicted.ring evicted.writeIndex.toNat ondisk _
    have elsewhere : _ ≠ evicted.writeIndex.toNat := evicts.writeIndex.symm ▸ other
    rw [evicts.flash, evicts.ring, Function.update_of_ne elsewhere]
    exact stored

theorem historianWrite_synced (total : ccm.Total) (faithful : storage.Faithful view) (synced : Synced capacity view s)
    (few : s.pendingCount.toNat < 64) (r : HistorianRecord) :
    Synced capacity view (historianWrite capacity ccm (some storage) s r).1 ∧
      (historianWrite capacity ccm (some storage) s r).1.pendingCount.toNat < 64 := by
  cases keyed : s.key with
  | none =>
    have refused : (historianWrite capacity ccm (some storage) s r).1 =
        { s with stats := { s.stats with writeErrors := s.stats.writeErrors + 1 } } := by
      rw [historianWrite, synced.initialised, keyed]
      rfl
    rw [refused]
    exact ⟨synced.rekey s.key _, few⟩
  | some key =>
    obtain ⟨ondisk, encrypted⟩ := encryptRecord_total total key s.writeIndex r
    obtain ⟨evicts, room⟩ := historianEvict_evicts capacity ccm s r.timestampMs
    rw [historianWrite_eq capacity ccm (some storage) synced.initialised (keyed ▸ Option.some_ne_none key) r
      (keyed ▸ encrypted)]
    exact historianAutoFlush_synced faithful (putRecord_synced synced few evicts room ondisk) r.timestampMs

/-! ### Runs and reboots -/

inductive HistorianOp where
  | write (record : HistorianRecord)
  | flush (currentMs : UInt64)

def historianStep (capacity : HistorianCapacity) (ccm : Ccm) (storage : HistorianStorage σ) (s : Historian σ) :
    HistorianOp → Historian σ × Option Bool
  | .write r => ((historianWrite capacity ccm (some storage) s r).1, some (historianWrite capacity ccm (some storage) s r).2)
  | .flush now => (historianFlush capacity (some storage) s now, none)

/-- The first `historian_init`, with the storage registered and the key, if any, set before it. -/
def firstInit (capacity : HistorianCapacity) (storage : HistorianStorage σ) (key : Option HistorianKey) (flash : σ) :
    Historian σ :=
  historianInit capacity (some storage) { historianReset flash with key := key }

theorem restored_inside (capacity : HistorianCapacity) (image : FlashImage) :
    (image.restored capacity).1.toNat ≤ capacity.size.toNat ∧ (image.restored capacity).2.toNat < capacity.size.toNat := by
  unfold FlashImage.restored
  split
  · rename_i stored
    refine ⟨UInt32.le_iff_toNat_le.mp stored.2, ?_⟩
    rw [UInt32.toNat_mod]
    exact Nat.mod_lt _ capacity.pos
  · exact ⟨Nat.zero_le _, capacity.pos⟩

theorem present_of_restored {image : FlashImage} (some_used : 0 < (image.restored capacity).1.toNat) :
    image.present = true := by
  unfold FlashImage.restored at some_used
  split at some_used
  · rename_i stored
    exact stored.1
  · exact absurd some_used (Nat.lt_irrefl 0)

theorem historianInit_synced (faithful : storage.Faithful view) (s : Historian σ) :
    Synced capacity view (historianInit capacity (some storage) s) ∧
      (historianInit capacity (some storage) s).pendingCount.toNat < 64 := by
  obtain ⟨initialised, -, flash, pendingCount, indices, ring⟩ := historianInit_restores capacity faithful s
  have count := congrArg Prod.fst indices
  have writeIndex := congrArg Prod.snd indices
  dsimp only at count writeIndex
  obtain ⟨fits, inside⟩ := restored_inside capacity (view s.flash)
  rw [← count] at fits
  rw [← writeIndex] at inside
  have none : (historianInit capacity (some storage) s).pendingCount.toNat = 0 := congrArg UInt32.toNat pendingCount
  refine ⟨⟨initialised, inside, fits, by omega, fun some => absurd pendingCount some, fun _ => ?_, fun j used => .inr ?_⟩,
    by omega⟩
  · rw [flash]
    exact indices.symm
  · rw [count] at used
    rw [flash, ring (present_of_restored (Nat.zero_lt_of_lt used))]

theorem historianRun_synced (total : ccm.Total) (faithful : storage.Faithful view) (key : Option HistorianKey) (flash : σ)
    (ops : List HistorianOp) :
    let s := finalState (historianStep capacity ccm storage) (firstInit capacity storage key flash) ops
    Synced capacity view s ∧ s.pendingCount.toNat < 64 := by
  refine finalState_invariant (P := fun s => Synced capacity view s ∧ s.pendingCount.toNat < 64)
    (historianInit_synced faithful _) (fun s op inv => ?_) ops
  obtain ⟨synced, few⟩ := inv
  cases op with
  | write r => exact historianWrite_synced total faithful synced few r
  | flush now =>
    obtain ⟨flushed, flushes⟩ := historianFlush_synced faithful synced now
    refine ⟨flushed, ?_⟩
    change (historianFlush capacity (some storage) s now).pendingCount.toNat < 64
    rw [flushes.pendingCount]
    decide

/-- Reading sees only the indices, the key and the records in use. -/
theorem historianRead_congr {s s' : Historian σ} (initialised : s'.initialised = s.initialised) (key : s'.key = s.key)
    (count : s'.count = s.count) (writeIndex : s'.writeIndex = s.writeIndex)
    (inside : s.writeIndex.toNat < capacity.size.toNat) (fits : s.count.toNat ≤ capacity.size.toNat)
    (ring : ∀ j < s.count.toNat, s'.ring (slot capacity.size.toNat s.writeIndex.toNat s.count.toNat j) =
      s.ring (slot capacity.size.toNat s.writeIndex.toNat s.count.toNat j))
    (query : Option HistorianQuery) (maxRecords : UInt32) :
    (historianRead capacity ccm s' query maxRecords).2 = (historianRead capacity ccm s query maxRecords).2 := by
  have oldest : oldestPos capacity s' = oldestPos capacity s := by rw [oldestPos, oldestPos, count, writeIndex]
  have live : liveRecords capacity ccm s' = liveRecords capacity ccm s := by
    rw [liveRecords, liveRecords, count]
    refine List.filterMap_congr fun j member => ?_
    have pos := recordPos_toNat inside fits (List.mem_range.mp member)
    rw [recordAt, recordAt, oldest, key, pos, ring j (List.mem_range.mp member)]
  cases ready : s.initialised with
  | false =>
    rw [historianRead, historianRead, initialised, ready]
    rfl
  | true =>
    by_cases none : maxRecords = 0
    · have empty : ∀ t : Historian σ, (historianRead capacity ccm t query 0).2 = [] := by
        intro t
        unfold historianRead
        split <;> rfl
      rw [none, empty, empty]
    · rw [historianRead_eq capacity ccm (initialised.trans ready) query none,
        historianRead_eq capacity ccm ready query none, live]

/-- After any run of writes and flushes, a flush and a new initialisation leave the count and every query as they were. -/
theorem historian_survives_reboot (capacity : HistorianCapacity) (ccm : Ccm) (total : ccm.Total)
    (storage : HistorianStorage σ) (view : σ → FlashImage) (faithful : storage.Faithful view) (key : Option HistorianKey)
    (flash : σ) (ops : List HistorianOp) (now : UInt64) :
    let s := finalState (historianStep capacity ccm storage) (firstInit capacity storage key flash) ops
    let rebooted := historianInit capacity (some storage) (historianFlush capacity (some storage) s now)
    historianCount rebooted = historianCount s ∧
      ∀ query maxRecords,
        (historianRead capacity ccm rebooted query maxRecords).2 = (historianRead capacity ccm s query maxRecords).2 := by
  intro s rebooted
  obtain ⟨synced, -⟩ : Synced capacity view s ∧ _ := historianRun_synced total faithful key flash ops
  obtain ⟨flushed, flushes⟩ := historianFlush_synced faithful synced now
  obtain ⟨initialised, kept_key, -, -, indices, ring⟩ :=
    historianInit_restores capacity faithful (historianFlush capacity (some storage) s now)
  have restored := flushed.clean flushes.pendingCount
  rw [flushes.count, flushes.writeIndex] at restored
  obtain ⟨count, writeIndex⟩ := Prod.mk.inj (indices.trans restored)
  refine ⟨count, fun query maxRecords => ?_⟩
  refine historianRead_congr (initialised.trans synced.initialised.symm) (kept_key.trans flushes.key) count writeIndex
    synced.inside synced.fits (fun j used => ?_) query maxRecords
  have some_used : 0 < ((view (historianFlush capacity (some storage) s now).flash).restored capacity).1.toNat := by
    rw [restored]
    exact Nat.zero_lt_of_lt used
  have saved := flushed.saved j (flushes.count ▸ used)
  rw [flushes.count, flushes.writeIndex, flushes.ring] at saved
  rw [ring (present_of_restored some_used)]
  rcases saved with ⟨i, bound, -⟩ | stored
  · rw [flushes.pendingCount] at bound
    exact absurd bound (Nat.not_lt_zero i)
  · exact stored

end Persistence

def ramStorage : HistorianStorage FlashImage where
  append := some fun image index record count writeIndex => (image.append index record count writeIndex, true)
  load := some fun image _ _ =>
    { ok := image.present, records := image.records, count := image.count, writeIndex := image.writeIndex }

theorem ramStorage_faithful : ramStorage.Faithful id :=
  ⟨⟨_, rfl, fun _ _ _ _ _ => ⟨rfl, rfl⟩⟩, ⟨_, rfl, fun _ _ _ => ⟨rfl, fun _ => ⟨rfl, rfl, rfl⟩⟩⟩⟩

def blankFlash : FlashImage := { present := false, records := zeroRing, count := 0, writeIndex := 0 }

theorem historian_survives_reboot_one_record :
    let s := finalState (historianStep defaultHistorianCapacity sampleCcm ramStorage)
      (firstInit defaultHistorianCapacity ramStorage (some sampleKey) blankFlash) [.write sampleRecord]
    let rebooted := historianInit defaultHistorianCapacity (some ramStorage)
      (historianFlush defaultHistorianCapacity (some ramStorage) s 2000000)
    historianCount rebooted = 1 ∧
      (historianRead defaultHistorianCapacity sampleCcm rebooted none 4).2 = [sampleRecord] := by
  obtain ⟨count, reads⟩ := historian_survives_reboot defaultHistorianCapacity sampleCcm sampleCcm_lawful.total ramStorage id
    ramStorage_faithful (some sampleKey) blankFlash [.write sampleRecord] 2000000
  exact ⟨count.trans (by decide), (reads none 4).trans (by decide)⟩

end IotPlatform
