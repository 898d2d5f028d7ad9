import IotPlatform.Hub.HistorianEviction

/-!
# Failed appends

`historian_flush` empties the pending range whatever its appends return. A backend that logs the appends it is asked for
shows which record in use was appended last with what answer.
-/

namespace IotPlatform
open RingBuffer Run

/-! ### A backend that logs its appends -/

structure AppendCall where
  index : UInt32
  record : List UInt8
  ok : Bool
  deriving DecidableEq, Repr

/-- The answer of the last append at the position. -/
def lastAnswer (calls : List AppendCall) (pos : Nat) : Option Bool :=
  ((calls.filter fun call => decide (call.index.toNat = pos)).getLast?).map AppendCall.ok

theorem lastAnswer_of_mem {calls : List AppendCall} {call : AppendCall} (member : call ∈ calls) :
    ∃ ok, lastAnswer calls call.index.toNat = some ok := by
  have nonempty : calls.filter (fun other => decide (other.index.toNat = call.index.toNat)) ≠ [] :=
    List.ne_nil_of_mem (List.mem_filter.mpr ⟨member, decide_eq_true rfl⟩)
  obtain ⟨last, found⟩ := Option.isSome_iff_exists.mp (List.getLast?_isSome.mpr nonempty)
  exact ⟨last.ok, by rw [lastAnswer, found]; rfl⟩

section Log

variable {σ : Type} (append : σ → UInt32 → List UInt8 → UInt32 → UInt32 → σ × Bool)
  (load : Option (σ → (Nat → List UInt8) → UInt32 → LoadResult))

def loggingAppend (flash : σ × List AppendCall) (index : UInt32) (record : List UInt8) (count writeIndex : UInt32) :
    (σ × List AppendCall) × Bool :=
  let (after, ok) := append flash.1 index record count writeIndex
  ((after, flash.2 ++ [⟨index, record, ok⟩]), ok)

/-- Any backend whose append may fail, with a log. -/
def loggingStorage : HistorianStorage (σ × List AppendCall) where
  append := some (loggingAppend append)
  load := load.map fun load flash records maxRecords => load flash.1 records maxRecords

/-- The appends made between two states. -/
def appendCalls (s after : Historian (σ × List AppendCall)) : List AppendCall := after.flash.2.drop s.flash.2.length

/-- The historian and, for each ring position, whether the last append of the record there succeeded. A record that was
loaded is in the flash. -/
structure Observed (σ : Type) where
  historian : Historian (σ × List AppendCall)
  saved : Nat → Bool

variable (capacity : HistorianCapacity) (ccm : Ccm)

def observeStep (s : Observed σ) (op : HistorianOp) : Observed σ × Option Bool :=
  let (after, wrote) := historianStep capacity ccm (loggingStorage append load) s.historian op
  -- A record just put has not been appended, unless the same call flushes.
  let saved := if wrote = some true then Function.update s.saved s.historian.writeIndex.toNat false else s.saved
  ({ historian := after, saved := fun pos => (lastAnswer (appendCalls s.historian after) pos).getD (saved pos) }, wrote)

def observedStart (key : Option HistorianKey) (flash : σ) : Observed σ :=
  { historian := firstInit capacity (loggingStorage append load) key (flash, []), saved := fun _ => true }

/-- The next flush appends the record at the position. -/
def Offers (s : Historian (σ × List AppendCall)) (pos : Nat) : Prop :=
  ∀ now, ∃ call ∈ appendCalls s (historianFlush capacity (some (loggingStorage append load)) s now),
    call.index.toNat = pos ∧ call.record = s.ring pos

/-- Every record in use that is not saved is pending, and the next flush offers it. -/
def KeepsUnsaved (s : Observed σ) : Prop :=
  ∀ j < s.historian.count.toNat,
    let pos := slot capacity.size.toNat s.historian.writeIndex.toNat s.historian.count.toNat j
    s.saved pos = false → Pending capacity s.historian pos ∧ Offers append load capacity s.historian pos

/-- No position in use is left with a failed append of this operation. -/
def AppendsSucceed (s : Observed σ) (op : HistorianOp) : Prop :=
  let after := (historianStep capacity ccm (loggingStorage append load) s.historian op).1
  ∀ j < after.count.toNat,
    lastAnswer (appendCalls s.historian after) (slot capacity.size.toNat after.writeIndex.toNat after.count.toNat j) ≠
      some false

end Log

section Retry

variable {σ : Type} {append : σ → UInt32 → List UInt8 → UInt32 → UInt32 → σ × Bool}
  {load : Option (σ → (Nat → List UInt8) → UInt32 → LoadResult)} {capacity : HistorianCapacity} {ccm : Ccm}
  {s : Historian (σ × List AppendCall)}

/-! ### The appends of a flush -/

theorem appendPending_calls (capacity : HistorianCapacity)
    (append : σ → UInt32 → List UInt8 → UInt32 → UInt32 → σ × Bool) (remaining n : Nat)
    (s : Historian (σ × List AppendCall)) :
    ∃ flash stats calls,
      appendPending capacity (loggingAppend append) remaining (UInt32.ofNat n) s =
        { s with flash := (flash, s.flash.2 ++ calls), stats := stats } ∧
      calls.map (fun call => (call.index, call.record)) =
        (List.range' n remaining).map fun i =>
          let pos := (s.pendingStart + UInt32.ofNat i) % capacity.size
          (pos, s.ring pos.toNat) := by
  induction remaining generalizing n s with
  | zero => exact ⟨s.flash.1, s.stats, [], by rw [List.append_nil]; rfl, rfl⟩
  | succ remaining ih =>
    have next : UInt32.ofNat n + 1 = UInt32.ofNat (n + 1) := (UInt32.ofNat_add n 1).symm
    rw [appendPending, next]
    dsimp only [loggingAppend]
    generalize at_n : (s.pendingStart + UInt32.ofNat n) % capacity.size = pos
    generalize append s.flash.1 pos (s.ring pos.toNat) s.count s.writeIndex = answer
    obtain ⟨flash, stats, calls, looped, made⟩ := ih (n + 1)
      { s with
        flash := (answer.1, s.flash.2 ++ [⟨pos, s.ring pos.toNat, answer.2⟩])
        stats := if answer.2 then s.stats else { s.stats with writeErrors := s.stats.writeErrors + 1 } }
    refine ⟨flash, stats, ⟨pos, s.ring pos.toNat, answer.2⟩ :: calls, looped.trans ?_, ?_⟩
    · rw [List.append_assoc]
      rfl
    · rw [List.map_cons, made, List.range'_succ, List.map_cons, at_n]

/-- A flush appends the pending records in order and forgets them. -/
theorem historianFlush_calls (capacity : HistorianCapacity)
    (append : σ → UInt32 → List UInt8 → UInt32 → UInt32 → σ × Bool)
    (load : Option (σ → (Nat → List UInt8) → UInt32 → LoadResult)) (initialised : s.initialised = true) (now : UInt64) :
    ∃ flash stats start last calls,
      historianFlush capacity (some (loggingStorage append load)) s now =
        { s with
          flash := (flash, s.flash.2 ++ calls), stats := stats, pendingCount := 0, pendingStart := start
          lastFlushMs := last } ∧
      calls.map (fun call => (call.index, call.record)) =
        (List.range s.pendingCount.toNat).map fun i =>
          let pos := (s.pendingStart + UInt32.ofNat i) % capacity.size
          (pos, s.ring pos.toNat) := by
  have appends : (loggingStorage append load).append = some (loggingAppend append) := rfl
  rw [historianFlush_append capacity appends initialised]
  by_cases none : s.pendingCount = 0
  · rw [if_pos none, none]
    refine ⟨s.flash.1, s.stats, s.pendingStart, s.lastFlushMs, [], ?_, rfl⟩
    rw [List.append_nil, ← none]
  · rw [if_neg none]
    obtain ⟨flash, stats, calls, looped, made⟩ := appendPending_calls capacity append s.pendingCount.toNat 0 s
    refine ⟨flash, stats, 0, now, calls, ?_, by rw [List.range_eq_range']; exact made⟩
    change { appendPending capacity (loggingAppend append) s.pendingCount.toNat (UInt32.ofNat 0) s with
      pendingCount := 0, pendingStart := 0, lastFlushMs := now } = _
    rw [looped]

theorem Pending.offered (append : σ → UInt32 → List UInt8 → UInt32 → UInt32 → σ × Bool)
    (load : Option (σ → (Nat → List UInt8) → UInt32 → LoadResult)) (range : PendingRange capacity s)
    (initialised : s.initialised = true) {pos : Nat}
    (pending : Pending capacity s pos) : Offers append load capacity s pos := by
  intro now
  obtain ⟨i, bound, rfl⟩ := pending
  obtain ⟨flash, stats, start, last, calls, flushed, made⟩ :=
    historianFlush_calls capacity append load initialised now
  have some_pending : s.pendingCount ≠ 0 := by
    intro none
    rw [none] at bound
    exact absurd bound (Nat.not_lt_zero i)
  obtain ⟨inside, -⟩ := range.pending_end some_pending
  have pending_le := range.pending_le
  have at_i := pendingPos_toNat inside (i := i) (by omega)
  have offered : ((s.pendingStart + UInt32.ofNat i) % capacity.size,
      s.ring ((s.pendingStart + UInt32.ofNat i) % capacity.size).toNat) ∈
        calls.map fun call => (call.index, call.record) := by
    rw [made]
    exact List.mem_map.mpr ⟨i, List.mem_range.mpr bound, rfl⟩
  obtain ⟨call, member, same⟩ := List.mem_map.mp offered
  obtain ⟨index, record⟩ := Prod.mk.inj same
  refine ⟨call, ?_, by rw [index, at_i], by rw [record, at_i]⟩
  rw [appendCalls, flushed, List.drop_left]
  exact member

/-! ### One operation -/

/-- The pending range ends at the write index, and every position in use is pending or saved. -/
structure Observing (capacity : HistorianCapacity) (s : Historian (σ × List AppendCall)) (saved : Nat → Bool) : Prop where
  initialised : s.initialised = true
  range : PendingRange capacity s
  covers : Covers capacity (fun pos => saved pos = true) s

theorem Observing.keepsUnsaved {s : Observed σ} (observing : Observing capacity s.historian s.saved) :
    KeepsUnsaved append load capacity s := by
  intro j used pos unsaved
  rcases observing.covers j used with pending | saved
  · exact ⟨pending, pending.offered append load observing.range observing.initialised⟩
  · rw [unsaved] at saved
    cases saved

theorem Observing.flush {saved : Nat → Bool} (observing : Observing capacity s saved) (now : UInt64) :
    let after := historianFlush capacity (some (loggingStorage append load)) s now
    (∀ j < after.count.toNat,
      lastAnswer (appendCalls s after) (slot capacity.size.toNat after.writeIndex.toNat after.count.toNat j) ≠
        some false) →
    Observing capacity after (fun pos => (lastAnswer (appendCalls s after) pos).getD (saved pos)) := by
  intro after succeed
  obtain ⟨flash, stats, start, last, calls, flushed, -⟩ :=
    historianFlush_calls capacity append load observing.initialised now
  have after_eq : after = _ := flushed
  have offered : ∀ pos, Pending capacity s pos → ∃ call ∈ appendCalls s after, call.index.toNat = pos := by
    intro pos pending
    obtain ⟨call, member, index, -⟩ :=
      pending.offered append load observing.range observing.initialised now
    exact ⟨call, member, index⟩
  rw [after_eq] at succeed offered ⊢
  refine ⟨observing.initialised, ⟨⟨observing.range.inside, observing.range.fits⟩, Nat.zero_le _,
    fun some => absurd rfl some⟩, fun j used => .inr ?_⟩
  have answered := succeed j used
  generalize appendCalls s _ = made at answered offered ⊢
  rcases observing.covers j used with pending | kept
  · obtain ⟨call, member, index⟩ := offered _ pending
    obtain ⟨ok, last⟩ := lastAnswer_of_mem member
    rw [index] at last
    dsimp only at answered ⊢
    rw [last] at answered ⊢
    cases ok with
    | true => rfl
    | false => exact absurd rfl answered
  · dsimp only at answered ⊢
    cases answer : lastAnswer made (slot capacity.size.toNat s.writeIndex.toNat s.count.toNat j) with
    | none => exact kept
    | some ok =>
      rw [answer] at answered
      cases ok with
      | true => rfl
      | false => exact absurd rfl answered

theorem appendCalls_self : appendCalls s s = [] := List.drop_length

/-- The appends of an operation: none, or those of a flush that leaves nothing pending. -/
theorem historianStep_calls (capacity : HistorianCapacity) (ccm : Ccm)
    (append : σ → UInt32 → List UInt8 → UInt32 → UInt32 → σ × Bool)
    (load : Option (σ → (Nat → List UInt8) → UInt32 → LoadResult)) (initialised : s.initialised = true) (op : HistorianOp) :
    let after := (historianStep capacity ccm (loggingStorage append load) s op).1
    appendCalls s after = [] ∨ after.pendingCount = 0 := by
  intro after
  cases op with
  | flush now =>
    obtain ⟨_, _, _, _, _, flushed, -⟩ :=
      historianFlush_calls capacity append load initialised now
    right
    change (historianFlush capacity (some (loggingStorage append load)) s now).pendingCount = 0
    rw [flushed]
  | write r =>
    have after_eq : after = (historianWrite capacity ccm (some (loggingStorage append load)) s r).1 := rfl
    obtain ⟨evicted, stats, evicts, result⟩ | ⟨evicted, ondisk, evicts, -, result⟩ :=
      historianWrite_cases capacity ccm (some (loggingStorage append load)) s r
    · left
      rw [after_eq, result, appendCalls, evicts.flash, List.drop_length]
    · rw [after_eq, result]
      obtain flushes | ⟨same, -⟩ := historianAutoFlush_cases capacity (some (loggingStorage append load))
        (historianBufferForFlush (putRecord capacity evicted ondisk) evicted.writeIndex) r.timestampMs
      · obtain ⟨_, _, _, _, _, flushed, -⟩ := historianFlush_calls capacity append load
          (s := historianBufferForFlush (putRecord capacity evicted ondisk) evicted.writeIndex)
          (evicts.initialised.trans initialised) r.timestampMs
        right
        rw [flushes, flushed]
      · left
        rw [same]
        change evicted.flash.2.drop s.flash.2.length = []
        rw [evicts.flash, List.drop_length]

theorem Observing.evicted {saved : Nat → Bool} (observing : Observing capacity s saved)
    {evicted : Historian (σ × List AppendCall)} (evicts : Evicts s evicted) (stats : HistorianStats) :
    Observing capacity { evicted with stats := stats } saved := by
  obtain ⟨initialised, range, covers⟩ := observing
  refine ⟨evicts.initialised.trans initialised, ⟨⟨?_, evicts.count_le.trans range.fits⟩, ?_, ?_⟩, fun j used => ?_⟩
  · rw [evicts.writeIndex]
    exact range.inside
  · rw [evicts.pendingCount]
    exact range.pending_le
  · rw [evicts.pendingCount, evicts.pendingStart, evicts.writeIndex]
    exact range.pending_end
  · have kept := covers.evicted range.fits evicts used
    rw [← evicts.writeIndex] at kept
    refine kept.imp_left fun ⟨i, bound, same⟩ => ⟨i, ?_, ?_⟩
    · rw [evicts.pendingCount]
      exact bound
    · rw [evicts.pendingStart]
      exact same

theorem Observing.put {saved : Nat → Bool} (observing : Observing capacity s saved) (few : s.pendingCount.toNat < 64)
    {evicted : Historian (σ × List AppendCall)} (evicts : Evicts s evicted)
    (room : evicted.count.toNat < capacity.size.toNat) (ondisk : List UInt8) :
    Observing capacity (historianBufferForFlush (putRecord capacity evicted ondisk) evicted.writeIndex)
      (Function.update saved s.writeIndex.toNat false) := by
  obtain ⟨initialised, range, covers⟩ := observing
  refine ⟨evicts.initialised.trans initialised, range.put few evicts room ondisk, fun j used => ?_⟩
  refine (covers.put range few evicts room ondisk j used).imp_right fun ⟨other, kept⟩ => ?_
  dsimp only
  rw [Function.update_of_ne other]
  exact kept

theorem Observing.unchanged {saved : Nat → Bool} {after : Historian (σ × List AppendCall)}
    (observing : Observing capacity after saved) (quiet : appendCalls s after = []) :
    Observing capacity after (fun pos => (lastAnswer (appendCalls s after) pos).getD (saved pos)) := by
  rw [quiet]
  exact observing

theorem historianFlush_few (capacity : HistorianCapacity)
    (append : σ → UInt32 → List UInt8 → UInt32 → UInt32 → σ × Bool)
    (load : Option (σ → (Nat → List UInt8) → UInt32 → LoadResult)) (initialised : s.initialised = true) (now : UInt64) :
    (historianFlush capacity (some (loggingStorage append load)) s now).pendingCount.toNat < 64 := by
  obtain ⟨_, _, _, _, _, flushed, -⟩ :=
    historianFlush_calls capacity append load initialised now
  rw [flushed]
  exact Nat.succ_pos 63

theorem Observing.autoFlush {saved : Nat → Bool} {t : Historian (σ × List AppendCall)} (observing : Observing capacity t saved)
    (same_flash : t.flash = s.flash) (now : UInt64) :
    let after := historianAutoFlush capacity (some (loggingStorage append load)) t now
    (∀ j < after.count.toNat,
      lastAnswer (appendCalls s after) (slot capacity.size.toNat after.writeIndex.toNat after.count.toNat j) ≠
        some false) →
    Observing capacity after (fun pos => (lastAnswer (appendCalls s after) pos).getD (saved pos)) ∧
      after.pendingCount.toNat < 64 := by
  intro after succeed
  have from_entry : appendCalls s after = appendCalls t after := by rw [appendCalls, appendCalls, same_flash]
  rw [from_entry] at succeed ⊢
  have after_eq : after = historianAutoFlush capacity (some (loggingStorage append load)) t now := rfl
  obtain flushes | ⟨same, few⟩ := historianAutoFlush_cases capacity (some (loggingStorage append load)) t now
  · rw [flushes] at after_eq
    rw [after_eq] at succeed ⊢
    exact ⟨observing.flush now succeed, historianFlush_few capacity append load observing.initialised now⟩
  · rw [same] at after_eq
    rw [after_eq]
    exact ⟨observing.unchanged appendCalls_self, few⟩

/-- An operation whose last appends succeed loses nothing. -/
theorem observeStep_observing {s : Observed σ} (observing : Observing capacity s.historian s.saved)
    (few : s.historian.pendingCount.toNat < 64) {op : HistorianOp}
    (succeed : AppendsSucceed append load capacity ccm s op) :
    let after := (observeStep append load capacity ccm s op).1
    Observing capacity after.historian after.saved ∧ after.historian.pendingCount.toNat < 64 := by
  cases op with
  | flush now => exact ⟨observing.flush now succeed, historianFlush_few capacity append load observing.initialised now⟩
  | write r =>
    unfold AppendsSucceed at succeed
    rw [observeStep]
    dsimp only [historianStep] at succeed ⊢
    obtain ⟨evicted, stats, evicts, result⟩ | ⟨evicted, ondisk, evicts, room, result⟩ :=
      historianWrite_cases capacity ccm (some (loggingStorage append load)) s.historian r
    · rw [result]
      refine ⟨(observing.evicted evicts stats).unchanged ?_, ?_⟩
      · change evicted.flash.2.drop s.historian.flash.2.length = []
        rw [evicts.flash, List.drop_length]
      · change evicted.pendingCount.toNat < 64
        rw [evicts.pendingCount]
        exact few
    · rw [result] at succeed ⊢
      exact (observing.put few evicts room ondisk).autoFlush evicts.flash r.timestampMs succeed

theorem observedStart_observing (key : Option HistorianKey) (flash : σ) :
    let start := observedStart append load capacity key flash
    Observing capacity start.historian start.saved ∧ start.historian.pendingCount.toNat < 64 := by
  intro start
  obtain ⟨inside, fits⟩ : Placed capacity start.historian := historianInit_placed capacity _ _
  obtain ⟨initialised, -, none, -⟩ : _ ∧ _ ∧ start.historian.pendingCount = 0 ∧ _ := historianInit_fresh capacity _ _
  refine ⟨⟨initialised, ⟨⟨inside, fits⟩, ?_, fun some => absurd none some⟩, fun _ _ => .inr rfl⟩, ?_⟩
  · rw [none]
    exact Nat.zero_le _
  · rw [none]
    decide

/-- After a failed append of a record in use, nothing is pending and the record is not saved. -/
theorem appendsSucceed_of_keepsUnsaved {s : Observed σ} (initialised : s.historian.initialised = true) {op : HistorianOp}
    (keeps : KeepsUnsaved append load capacity (observeStep append load capacity ccm s op).1) :
    AppendsSucceed append load capacity ccm s op := by
  unfold AppendsSucceed
  intro after j used failed
  rcases historianStep_calls capacity ccm append load initialised op
    with quiet | none
  · have called : appendCalls s.historian after = [] := quiet
    rw [called] at failed
    cases failed
  · have unsaved : ∀ saved : Bool, (lastAnswer (appendCalls s.historian after)
        (slot capacity.size.toNat after.writeIndex.toNat after.count.toNat j)).getD saved = false := by
      intro saved
      rw [failed]
      rfl
    obtain ⟨⟨i, bound, -⟩, -⟩ := keeps j used (unsaved _)
    have emptied : after.pendingCount = 0 := none
    change i < after.pendingCount.toNat at bound
    rw [emptied] at bound
    exact absurd bound (Nat.not_lt_zero i)

/-- Over any backend, in any run of writes and flushes, every record in use whose last append failed or that was never
appended is pending and offered by the next flush exactly when no operation leaves a position in use with a failed
append. -/
theorem historian_keepsUnsaved_iff (capacity : HistorianCapacity) (ccm : Ccm)
    (append : σ → UInt32 → List UInt8 → UInt32 → UInt32 → σ × Bool)
    (load : Option (σ → (Nat → List UInt8) → UInt32 → LoadResult)) (key : Option HistorianKey) (flash : σ)
    (ops : List HistorianOp) :
    let start := observedStart append load capacity key flash
    Always (KeepsUnsaved append load capacity) (observeStep append load capacity ccm) start ops ↔
      EachStep (AppendsSucceed append load capacity ccm) (observeStep append load capacity ccm) start ops := by
  intro start
  refine always_iff_eachStep
    (J := fun s : Observed σ => Observing capacity s.historian s.saved ∧ s.historian.pendingCount.toNat < 64)
    (observedStart_observing key flash) (fun s inv => inv.1.keepsUnsaved) (fun s op inv succeed => ?_)
    (fun s op inv keeps => appendsSucceed_of_keepsUnsaved inv.1.initialised keeps) ops
  exact observeStep_observing inv.1 inv.2 succeed

end Retry

/-- A record is written and the only append of it fails: nothing is pending, and the next flush appends nothing. -/
theorem failed_append_is_forgotten :
    let refusing : Unit → UInt32 → List UInt8 → UInt32 → UInt32 → Unit × Bool := fun _ _ _ _ _ => ((), false)
    let start := observedStart refusing none defaultHistorianCapacity (some sampleKey) ()
    let ops := [.write sampleRecord, .flush 1000000]
    let s := finalState (observeStep refusing none defaultHistorianCapacity sampleCcm) start ops
    s.historian.count = 1 ∧ s.saved 0 = false ∧ s.historian.pendingCount = 0 ∧
      appendCalls s.historian
        (historianFlush defaultHistorianCapacity (some (loggingStorage refusing none)) s.historian 2000000) = [] ∧
      ¬Always (KeepsUnsaved refusing none defaultHistorianCapacity)
        (observeStep refusing none defaultHistorianCapacity sampleCcm) start ops := by
  intro refusing start ops s
  have none : s.historian.pendingCount = 0 := by decide
  refine ⟨by decide, by decide, none, by decide, fun always => ?_⟩
  obtain ⟨⟨i, bound, -⟩, -⟩ := always 2 0 (by decide) (by decide)
  change i < s.historian.pendingCount.toNat at bound
  rw [none] at bound
  exact absurd bound (Nat.not_lt_zero i)

end IotPlatform
