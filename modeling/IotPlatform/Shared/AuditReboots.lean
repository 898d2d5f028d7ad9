import IotPlatform.Shared.AuditTrail

/-!
# The audit log across reboots

With a backend that gives back what it was given, a reboot takes the chain key from the log and nothing else.
-/

namespace IotPlatform
open Run

section Backend

variable {σ : Type}

/-- What was saved is loaded. Slots behind those saved may come back as anything. -/
def AuditLogStorage.Faithful (storage : AuditLogStorage σ) : Prop :=
  ∃ save load, storage.save = some save ∧ storage.load = some load ∧
    ∀ store entries (count writeIndex : UInt8) authFailureCount before,
      let image := load (save store entries count writeIndex authFailureCount).1 before
      image.writeIndex = writeIndex ∧ image.authFailureCount = authFailureCount ∧
        ∀ i < count.toNat, image.entries i = entries i

/-- Nothing was ever saved: a load leaves everything as it is. -/
def AuditLogStorage.Blank (storage : AuditLogStorage σ) (store : σ) : Prop :=
  ∀ load, storage.load = some load → ∀ before, load store before = { entries := before, writeIndex := 0, authFailureCount := 0 }

inductive AuditOp where
  | add (call : AuditCall)
  | setChainKey (key : List UInt8)
  /-- The memory holds anything when `audit_log_init` is called again. -/
  | reboot (memory : Nat → AuditLogEntry)
  | getCount
  | getEntries (maxEntries : UInt8)
  | getAuthFailureCount

inductive AuditReport where
  | done
  | count (entries : UInt8)
  | records (records : List AuditRecord)
  | failures (count : UInt32)
  deriving DecidableEq

def auditLogStep (hmac : Hmac) (storage : AuditLogStorage σ) (s : AuditLog σ) : AuditOp → AuditLog σ × AuditReport
  | .add call => (auditLogAdd hmac (some storage) s call, .done)
  | .setChainKey key => (auditLogSetChainKey s key, .done)
  | .reboot memory => (auditLogInit (some storage) { s with entries := memory }, .done)
  | .getCount => (s, .count (auditLogGetCount s))
  | .getEntries maxEntries => (s, .records ((auditLogGetEntries s maxEntries).map AuditLogEntry.record))
  | .getAuthFailureCount => (s, .failures s.authFailureCount)

/-- A log without end: what of it is shown depends on how many events there were. -/
def auditHistoryStep (history : List AuditRecord) : AuditOp → List AuditRecord × AuditReport
  | .add call => (history ++ [call.record], .done)
  | .setChainKey _ | .reboot _ => (history, .done)
  | .getCount => (history, .count (UInt8.ofNat (auditCount history.length)))
  | .getEntries maxEntries =>
    (history, .records ((history.drop (history.length - auditCount history.length)).take maxEntries.toNat))
  | .getAuthFailureCount =>
    (history, .failures (UInt32.ofNat (history.countP (·.eventType == AuditEventType.authFailure.code))))

/-- The log shows the end of this history, and so will one that is loaded from the backend. -/
structure AuditLog.Shows (storage : AuditLogStorage σ) (s : AuditLog σ) (history : List AuditRecord) : Prop where
  ready : s.initialised = true
  index : s.writeIndex = UInt8.ofNat history.length
  failures : s.authFailureCount = UInt32.ofNat (history.countP (·.eventType == AuditEventType.authFailure.code))
  cells : ∀ m record, history[m]? = some record → history.length ≤ m + auditCount history.length →
    (s.entries (m % auditLogMaxEntries)).record = record
  stored : ∀ load, storage.load = some load → ∀ before,
    (load s.store before).writeIndex = s.writeIndex ∧ (load s.store before).authFailureCount = s.authFailureCount ∧
      ∀ i < auditCount history.length, (load s.store before).entries i = s.entries i

end Backend

/-! ### The ring -/

theorem auditCount_succ_le (n : Nat) : auditCount (n + 1) ≤ auditCount n + 1 := by
  unfold auditCount auditLogMaxEntries
  split <;> split <;> omega

/-- The slot of an event that is shown lies among those in use. -/
theorem slot_lt_auditCount {n m : Nat} (old : m < n) (shown : n ≤ m + auditCount n) :
    m % auditLogMaxEntries < auditCount n := by
  unfold auditCount auditLogMaxEntries at *
  split at shown <;> split <;> omega

section Shows

variable {σ : Type} {hmac : Hmac} {storage : AuditLogStorage σ} {s : AuditLog σ} {history : List AuditRecord}

theorem AuditLog.Shows.index_toNat (shows_history : s.Shows storage history) : s.writeIndex.toNat = history.length % 256 := by
  rw [shows_history.index]
  exact UInt8.toNat_ofNat'

theorem inUse_of_index {n : Nat} (index : s.writeIndex.toNat = n % 256) : auditEntriesInUse s = UInt8.ofNat (auditCount n) := by
  have few := auditCount_le n
  unfold auditLogMaxEntries at few
  apply UInt8.toNat_inj.mp
  rw [UInt8.toNat_ofNat', Nat.mod_eq_of_lt (by omega)]
  unfold auditEntriesInUse auditCount auditLogMaxEntries
  by_cases low : n % 256 < 32
  · rw [if_pos low, if_pos, index]
    rw [UInt8.lt_iff_toNat_lt, index]
    exact low
  · rw [if_neg low, if_neg]
    · rfl
    · rw [UInt8.lt_iff_toNat_lt, index]
      exact low

/-- The number of the oldest event that is shown, modulo the size of the ring. -/
theorem startIndex_of_index {n : Nat} (index : s.writeIndex.toNat = n % 256) :
    (auditStartIndex s).toNat = (n - auditCount n) % auditLogMaxEntries := by
  unfold auditStartIndex auditCount auditLogMaxEntries
  by_cases low : n % 256 < 32
  · rw [if_pos low, if_neg]
    · have turn : n - n % 256 = 32 * (8 * (n / 256)) := by omega
      rw [turn, Nat.mul_mod_right]
      rfl
    · rw [ge_iff_le, UInt8.le_iff_toNat_le, index]
      exact Nat.not_le.mpr low
  · rw [if_neg low, if_pos]
    · rw [UInt8.toNat_mod, index]
      show n % 256 % 32 = (n - 32) % 32
      omega
    · rw [ge_iff_le, UInt8.le_iff_toNat_le, index]
      exact Nat.not_lt.mp low

theorem AuditLog.Shows.add (faithful : storage.Faithful) (shows_history : s.Shows storage history) (call : AuditCall) :
    (auditLogAdd hmac (some storage) s call).Shows storage (history ++ [call.record]) := by
  obtain ⟨save, load, saves, loads, back⟩ := faithful
  have index := shows_history.index_toNat
  have slot : s.writeIndex.toNat % auditLogMaxEntries = history.length % auditLogMaxEntries := by
    rw [index]
    exact Nat.mod_mod_of_dvd _ (by decide)
  have length : (history ++ [call.record]).length = history.length + 1 := by simp
  have more := auditCount_succ_le history.length
  have few := auditCount_le (history.length + 1)
  let next : AuditLog σ :=
    { s with
      entries := Function.update s.entries (s.writeIndex.toNat % auditLogMaxEntries) (auditEntry hmac s call)
      writeIndex := s.writeIndex + 1
      authFailureCount := if call.eventType = .authFailure then s.authFailureCount + 1 else s.authFailureCount }
  have added : auditLogAdd hmac (some storage) s call =
      { next with store := (save s.store next.entries (auditEntriesInUse next) next.writeIndex next.authFailureCount).1 } := by
    rw [auditLogAdd, shows_history.ready, auditLogPersist, Option.bind_some, saves]
    rfl
  have nextIndex : next.writeIndex = UInt8.ofNat (history.length + 1) := by
    rw [UInt8.ofNat_add, ← shows_history.index]
    rfl
  have inUse : auditEntriesInUse next = UInt8.ofNat (auditCount (history.length + 1)) := by
    apply inUse_of_index
    rw [nextIndex, UInt8.toNat_ofNat']
  rw [added]
  refine ⟨shows_history.ready, by rw [length]; exact nextIndex, ?_, ?_, ?_⟩
  · show (if call.eventType = .authFailure then s.authFailureCount + 1 else s.authFailureCount) = _
    rw [List.countP_append, UInt32.ofNat_add, ← shows_history.failures]
    cases event : call.eventType <;> simp [AuditCall.record, event, AuditEventType.code]
  · intro m record found shown
    rw [length] at shown
    show (Function.update s.entries (s.writeIndex.toNat % auditLogMaxEntries) (auditEntry hmac s call)
      (m % auditLogMaxEntries)).record = record
    rw [slot]
    rcases Nat.lt_or_ge m history.length with old | new
    · rw [List.getElem?_append_left old] at found
      rw [Function.update_of_ne]
      · exact shows_history.cells m record found (by omega)
      · unfold auditLogMaxEntries at few ⊢
        omega
    · have inside := (List.getElem?_eq_some_iff.mp found).1
      obtain rfl : m = history.length := by omega
      rw [List.getElem?_concat_length] at found
      rw [Function.update_self, auditEntry_record, Option.some.inj found]
  · intro load' loads' before
    obtain rfl : load = load' := Option.some.inj (loads.symm.trans loads')
    obtain ⟨index', failures', entries'⟩ := back s.store next.entries (auditEntriesInUse next) next.writeIndex
      next.authFailureCount before
    refine ⟨index', failures', fun i inside => ?_⟩
    rw [length] at inside
    apply entries' i
    unfold auditLogMaxEntries at few
    rw [inUse, UInt8.toNat_ofNat', Nat.mod_eq_of_lt (by omega)]
    exact inside

theorem AuditLog.Shows.reboot (shows_history : s.Shows storage history) (loading : storage.load.isSome = true)
    (memory : Nat → AuditLogEntry) : (auditLogInit (some storage) { s with entries := memory }).Shows storage history := by
  obtain ⟨load, loads⟩ := Option.isSome_iff_exists.mp loading
  obtain ⟨index, failures, entries⟩ := shows_history.stored load loads memory
  have booted : auditLogInit (some storage) { s with entries := memory } =
      { s with
        entries := (load s.store memory).entries, writeIndex := (load s.store memory).writeIndex
        authFailureCount := (load s.store memory).authFailureCount, chainKey := none, initialised := true } := by
    rw [auditLogInit, Option.bind_some, loads]
  rw [booted]
  refine ⟨rfl, index.trans shows_history.index, failures.trans shows_history.failures, ?_, ?_⟩
  · intro m record found shown
    have old := (List.getElem?_eq_some_iff.mp found).1
    show ((load s.store memory).entries (m % auditLogMaxEntries)).record = record
    rw [entries _ (slot_lt_auditCount old shown)]
    exact shows_history.cells m record found shown
  · intro load' loads' before
    obtain rfl : load = load' := Option.some.inj (loads.symm.trans loads')
    obtain ⟨index', failures', entries'⟩ := shows_history.stored load loads before
    refine ⟨index'.trans index.symm, failures'.trans failures.symm, fun i inside => ?_⟩
    exact (entries' i inside).trans (entries i inside).symm

theorem AuditLog.Shows.getEntries (shows_history : s.Shows storage history) (maxEntries : UInt8) :
    (auditLogGetEntries s maxEntries).map AuditLogEntry.record =
      (history.drop (history.length - auditCount history.length)).take maxEntries.toNat := by
  have index := shows_history.index_toNat
  have few := auditCount_le history.length
  have some := auditCount_le_self history.length
  have copied : (if auditEntriesInUse s < maxEntries then auditEntriesInUse s else maxEntries).toNat =
      min (auditCount history.length) maxEntries.toNat := by
    unfold auditLogMaxEntries at few
    have count : (auditEntriesInUse s).toNat = auditCount history.length := by
      rw [inUse_of_index index, UInt8.toNat_ofNat', Nat.mod_eq_of_lt (by omega)]
    split
    · rename_i fewer
      have fewer := UInt8.lt_iff_toNat_lt.mp fewer
      omega
    · rename_i all
      have all := UInt8.le_iff_toNat_le.mp (UInt8.not_lt.mp all)
      omega
  rw [auditLogGetEntries]
  split
  · rename_i none_wanted
    rw [none_wanted]
    rfl
  · rw [shows_history.ready, Bool.not_true, if_neg Bool.false_ne_true]
    dsimp only
    rw [copied, auditEntriesFrom]
    apply List.ext_getElem
    · simp
      omega
    · intro i inside inside'
      simp only [List.length_map, List.length_range] at inside
      simp only [List.getElem_map, List.getElem_range, List.getElem_take, List.getElem_drop]
      rw [startIndex_of_index index, Nat.mod_add_mod]
      exact shows_history.cells _ _ (List.getElem?_eq_getElem _) (by omega)

theorem auditLogStep_shows (faithful : storage.Faithful) (shows_history : s.Shows storage history) (op : AuditOp) :
    (auditLogStep hmac storage s op).2 = (auditHistoryStep history op).2 ∧
      (auditLogStep hmac storage s op).1.Shows storage (auditHistoryStep history op).1 := by
  cases op with
  | add call => exact ⟨rfl, shows_history.add faithful call⟩
  | setChainKey key =>
    refine ⟨rfl, ?_⟩
    rw [auditLogStep, auditLogSetChainKey]
    split
    · exact shows_history
    · exact ⟨shows_history.ready, shows_history.index, shows_history.failures, shows_history.cells, shows_history.stored⟩
  | reboot memory =>
    obtain ⟨save, load, -, loads, -⟩ := faithful
    exact ⟨rfl, shows_history.reboot (Option.isSome_of_eq_some loads) memory⟩
  | getCount =>
    refine ⟨congrArg AuditReport.count ?_, shows_history⟩
    rw [auditLogGetCount, shows_history.ready]
    exact inUse_of_index shows_history.index_toNat
  | getEntries maxEntries => exact ⟨congrArg AuditReport.records (shows_history.getEntries maxEntries), shows_history⟩
  | getAuthFailureCount => exact ⟨congrArg AuditReport.failures shows_history.failures, shows_history⟩

theorem shows_start (blank : storage.Blank s.store) (loading : storage.load.isSome = true) :
    (auditLogInit (some storage) s).Shows storage [] := by
  obtain ⟨load, loads⟩ := Option.isSome_iff_exists.mp loading
  have booted : auditLogInit (some storage) s =
      { s with writeIndex := 0, authFailureCount := 0, chainKey := none, initialised := true } := by
    rw [auditLogInit, Option.bind_some, loads]
    dsimp only
    rw [blank load loads]
  rw [booted]
  refine ⟨rfl, rfl, rfl, by simp, ?_⟩
  intro load' loads' before
  rw [blank load' loads']
  exact ⟨rfl, rfl, fun i inside => absurd inside (Nat.not_lt_zero i)⟩

end Shows

/-- Over a backend that gives back what it was given, reboots are not seen in the log: every count, every list of events and
every number of failures is that of all events since the log was first started, whatever the memory held at the reboots. -/
theorem audit_log_survives_reboots {σ : Type} (hmac : Hmac) (storage : AuditLogStorage σ) (s : AuditLog σ)
    (faithful : storage.Faithful) (blank : storage.Blank s.store) (ops : List AuditOp) :
    outputs (auditLogStep hmac storage) (auditLogInit (some storage) s) ops = outputs auditHistoryStep [] ops := by
  have loading : storage.load.isSome = true := by
    obtain ⟨save, load, -, loads, -⟩ := faithful
    exact Option.isSome_of_eq_some loads
  exact (simulation (R := fun s history => s.Shows storage history) (shows_start blank loading)
    (fun _ _ op shows_history => auditLogStep_shows faithful shows_history op) ops).1

/-- A backend that keeps the entries in use. -/
def imageStorage : AuditLogStorage (Option (UInt8 × AuditLogImage)) where
  save := some fun _ entries count writeIndex authFailureCount =>
    (some (count, { entries := entries, writeIndex := writeIndex, authFailureCount := authFailureCount }), true)
  load := some fun store before =>
    match store with
    | none => { entries := before, writeIndex := 0, authFailureCount := 0 }
    | some (count, image) => { image with entries := fun i => if i < count.toNat then image.entries i else before i }

theorem audit_log_survives_reboots_tampered :
    let s : AuditLog (Option (UInt8 × AuditLogImage)) :=
      { entries := fun _ => zeroAuditEntry, writeIndex := 0, authFailureCount := 0, chainKey := none, initialised := false
        store := none }
    let ops : List AuditOp := [.add tamperCall, .reboot fun _ => zeroAuditEntry, .getCount, .getEntries 32]
    outputs (auditLogStep (fun _ _ => zeroDigest) imageStorage) (auditLogInit (some imageStorage) s) ops =
      outputs auditHistoryStep [] ops := by
  intro s ops
  refine audit_log_survives_reboots _ imageStorage s ⟨_, _, rfl, rfl, fun _ _ _ _ _ _ => ⟨rfl, rfl, fun _ inside => if_pos inside⟩⟩ ?_ ops
  rintro load ⟨⟩ before
  rfl

end IotPlatform
