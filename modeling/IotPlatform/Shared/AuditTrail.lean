import Mathlib.Data.List.GetD
import Mathlib.Data.List.TakeWhile
import IotPlatform.Lib.Run
import IotPlatform.Lib.RingBuffer
import IotPlatform.Shared.AuditLog

/-!
# What the audit log keeps

The write index is eight bits wide and tells both where the next entry goes and how many are in use. Once it has wrapped,
the log seems to be filling up for the first time again.
-/

namespace IotPlatform
open Run RingBuffer

/-- What a reader of the log wants to know of an event. -/
structure AuditRecord where
  timestampMs : UInt64
  eventType : UInt32
  sessionId : UInt8
  ruleId : UInt16
  detail : List UInt8
  deriving DecidableEq

def AuditLogEntry.record (entry : AuditLogEntry) : AuditRecord :=
  { timestampMs := entry.timestampMs, eventType := entry.eventType, sessionId := entry.sessionId, ruleId := entry.ruleId
    detail := cString entry.detail.toList }

/-- The event as it was reported, its text cut off to what fits. -/
def AuditCall.record (call : AuditCall) : AuditRecord :=
  { timestampMs := call.nowMs, eventType := call.eventType.code, sessionId := call.sessionId, ruleId := call.ruleId
    detail := (cString (call.detail.getD [])).take (auditDetailSize - 1) }

/-! ### The text of an entry -/

theorem cString_auditDetail (before : Vector UInt8 64) (detail : Option (List UInt8)) :
    cString (auditDetail before detail).toList = (cString (detail.getD [])).take (auditDetailSize - 1) := by
  cases detail with
  | none =>
    rw [auditDetail, Vector.toList_set]
    cases bytes : before.toList with
    | nil =>
      have length := congrArg List.length bytes
      simp at length
    | cons first rest => rfl
  | some detail =>
    have short : ((cString detail).take (auditDetailSize - 1)).length < 64 := by
      rw [List.length_take]
      exact Nat.lt_of_le_of_lt (Nat.min_le_left ..) (by decide)
    exact cString_ofFn short (cString_take_printable detail _)

section Trail

variable {σ : Type} {hmac : Hmac} {storage : Option (AuditLogStorage σ)} {s : AuditLog σ}

@[simp] theorem auditEntry_record (call : AuditCall) : (auditEntry hmac s call).record = call.record := by
  unfold AuditLogEntry.record AuditCall.record auditEntry
  dsimp only
  rw [cString_auditDetail]

/-! ### The trail of entries written -/

/-- One call; the output is the entry it writes. -/
def auditStep (hmac : Hmac) (storage : Option (AuditLogStorage σ)) (s : AuditLog σ) (call : AuditCall) :
    AuditLog σ × AuditLogEntry :=
  (auditLogAdd hmac storage s call, auditEntry hmac s call)

/-- The HMAC in front of the entry number `m`: the chain starts anew with every turn of the index. -/
def prevOf (written : List AuditLogEntry) (m : Nat) : Digest :=
  if m % 256 = 0 then zeroDigest else (written[m - 1]?.map AuditLogEntry.chainHmac).getD zeroDigest

/-- The log after the entries `written`, in a run from an empty one. -/
structure Logged (hmac : Hmac) (s : AuditLog σ) (written : List AuditLogEntry) : Prop where
  ready : s.initialised = true
  index : s.writeIndex = UInt8.ofNat written.length
  lap : LastLap auditLogMaxEntries s.entries (fun _ entry => entry) written
  linked : ∀ m entry, written[m]? = some entry →
    entry.chainHmac = auditLogComputeChainHmac hmac s entry (prevOf written m)

@[simp] theorem auditLogPersist_entries : (auditLogPersist storage s).entries = s.entries := by
  unfold auditLogPersist; split <;> rfl

@[simp] theorem auditLogPersist_writeIndex : (auditLogPersist storage s).writeIndex = s.writeIndex := by
  unfold auditLogPersist; split <;> rfl

@[simp] theorem auditLogPersist_chainKey : (auditLogPersist storage s).chainKey = s.chainKey := by
  unfold auditLogPersist; split <;> rfl

@[simp] theorem auditLogPersist_initialised : (auditLogPersist storage s).initialised = s.initialised := by
  unfold auditLogPersist; split <;> rfl

variable {written : List AuditLogEntry}

theorem Logged.index_toNat (logged : Logged hmac s written) : s.writeIndex.toNat = written.length % 256 := by
  rw [logged.index]
  exact UInt8.toNat_ofNat'

theorem Logged.slot (logged : Logged hmac s written) :
    s.writeIndex.toNat % auditLogMaxEntries = written.length % auditLogMaxEntries := by
  rw [logged.index_toNat]
  exact Nat.mod_mod_of_dvd _ (by decide)

theorem prevOf_append (entry : AuditLogEntry) {m : Nat} (old : m ≤ written.length) :
    prevOf (written ++ [entry]) m = prevOf written m := by
  unfold prevOf
  split
  · rfl
  · rename_i later
    rw [List.getElem?_append_left (by omega)]

theorem Logged.auditPrevHmac (logged : Logged hmac s written) :
    IotPlatform.auditPrevHmac s = prevOf written written.length := by
  have index := logged.index_toNat
  unfold IotPlatform.auditPrevHmac prevOf
  by_cases first : written.length % 256 = 0
  · rw [if_pos first, if_neg]
    rw [gt_iff_lt, UInt8.lt_iff_toNat_lt, index, first]
    exact Nat.lt_irrefl 0
  · rw [if_neg first, if_pos]
    · have before : written.length - 1 < written.length := by omega
      have cell := logged.lap (written.length - 1) _ (List.getElem?_eq_getElem before) (by unfold auditLogMaxEntries; omega)
      have slot : (s.writeIndex.toNat - 1) % auditLogMaxEntries = (written.length - 1) % auditLogMaxEntries := by
        unfold auditLogMaxEntries
        omega
      rw [slot, cell, List.getElem?_eq_getElem before]
      rfl
    · rw [gt_iff_lt, UInt8.lt_iff_toNat_lt, index]
      exact Nat.pos_of_ne_zero first

theorem Logged.add (logged : Logged hmac s written) (call : AuditCall) :
    Logged hmac (auditLogAdd hmac storage s call) (written ++ [auditEntry hmac s call]) := by
  have added : auditLogAdd hmac storage s call = auditLogPersist storage _ := if_neg (by rw [logged.ready]; decide)
  have keyed : ∀ entry prev, auditLogComputeChainHmac hmac (auditLogAdd hmac storage s call) entry prev =
      auditLogComputeChainHmac hmac s entry prev := by
    intro entry prev
    unfold auditLogComputeChainHmac
    rw [added, auditLogPersist_chainKey]
  refine ⟨?_, ?_, ?_, fun m entry found => ?_⟩
  · rw [added, auditLogPersist_initialised]
    exact logged.ready
  · rw [added, auditLogPersist_writeIndex, List.length_append, List.length_singleton, UInt8.ofNat_add, logged.index]
    rfl
  · rw [added, auditLogPersist_entries, logged.slot]
    exact logged.lap.push _
  · rw [keyed]
    rcases Nat.lt_or_ge m written.length with old | new
    · rw [List.getElem?_append_left old] at found
      rw [prevOf_append _ (Nat.le_of_lt old)]
      exact logged.linked m entry found
    · obtain ⟨inside, -⟩ := List.getElem?_eq_some_iff.mp found
      have newest : m = written.length := by
        rw [List.length_append, List.length_singleton] at inside
        omega
      subst newest
      rw [List.getElem?_concat_length] at found
      rw [prevOf_append _ (Nat.le_refl _), ← logged.auditPrevHmac, ← Option.some.inj found]
      rfl

theorem logged_run (storage : Option (AuditLogStorage σ)) (start : Logged hmac s []) (calls : List AuditCall) :
    Logged hmac (finalState (auditStep hmac storage) s calls) (outputs (auditStep hmac storage) s calls) :=
  history_invariant start (fun _ _ call logged => logged.add call) calls

theorem outputs_record (hmac : Hmac) (storage : Option (AuditLogStorage σ)) (s : AuditLog σ) (calls : List AuditCall) :
    (outputs (auditStep hmac storage) s calls).map AuditLogEntry.record = calls.map AuditCall.record := by
  induction calls generalizing s with
  | nil => rfl
  | cons call rest ih =>
    rw [outputs, List.map_cons, List.map_cons, ih]
    exact congrArg (· :: _) (auditEntry_record call)

/-! ### What is kept of the trail -/

def auditCount (n : Nat) : Nat := if n % 256 < auditLogMaxEntries then n % 256 else auditLogMaxEntries

theorem auditCount_le (n : Nat) : auditCount n ≤ auditLogMaxEntries := by
  unfold auditCount
  split <;> omega

theorem auditCount_le_self (n : Nat) : auditCount n ≤ n := by
  unfold auditCount auditLogMaxEntries
  split <;> omega

theorem Logged.inUse (logged : Logged hmac s written) : (auditEntriesInUse s).toNat = auditCount written.length := by
  have index := logged.index_toNat
  unfold auditEntriesInUse auditCount auditLogMaxEntries
  by_cases low : written.length % 256 < 32
  · rw [if_pos low, if_pos, index]
    rw [UInt8.lt_iff_toNat_lt, index]
    exact low
  · rw [if_neg low, if_neg]
    · rfl
    · rw [UInt8.lt_iff_toNat_lt, index]
      exact low

theorem Logged.getCount (logged : Logged hmac s written) : (auditLogGetCount s).toNat = auditCount written.length := by
  unfold auditLogGetCount
  rw [logged.ready]
  exact logged.inUse

/-- The number of the oldest entry in use, modulo the size of the ring. -/
theorem Logged.startIndex (logged : Logged hmac s written) :
    (auditStartIndex s).toNat = (written.length - auditCount written.length) % auditLogMaxEntries := by
  have index := logged.index_toNat
  unfold auditStartIndex auditCount auditLogMaxEntries
  by_cases low : written.length % 256 < 32
  · rw [if_pos low, if_neg]
    · have turn : written.length - written.length % 256 = 32 * (8 * (written.length / 256)) := by omega
      rw [turn, Nat.mul_mod_right]
      rfl
    · rw [ge_iff_le, UInt8.le_iff_toNat_le, index]
      exact Nat.not_le.mpr low
  · rw [if_neg low, if_pos]
    · rw [UInt8.toNat_mod, index]
      show written.length % 256 % 32 = (written.length - 32) % 32
      omega
    · rw [ge_iff_le, UInt8.le_iff_toNat_le, index]
      exact Nat.not_lt.mp low

theorem Logged.entriesFrom (logged : Logged hmac s written) :
    auditEntriesFrom s (auditCount written.length) = written.drop (written.length - auditCount written.length) := by
  have few := auditCount_le written.length
  have some := auditCount_le_self written.length
  unfold auditEntriesFrom
  apply List.ext_getElem
  · rw [List.length_map, List.length_range, List.length_drop]
    omega
  · intro i inside _
    rw [List.length_map, List.length_range] at inside
    rw [List.getElem_map, List.getElem_range, List.getElem_drop, logged.startIndex, Nat.mod_add_mod]
    exact logged.lap _ _ (List.getElem?_eq_getElem _) (by omega)

/-- The log counts and returns the last 32 events, or all of them while there are fewer. -/
def KeepsLatest (log : AuditLog σ) (calls : List AuditCall) : Prop :=
  (auditLogGetCount log).toNat = min calls.length auditLogMaxEntries ∧
    ∀ maxEntries : UInt8, 32 ≤ maxEntries →
      (auditLogGetEntries log maxEntries).map AuditLogEntry.record =
        (calls.drop (calls.length - auditLogMaxEntries)).map AuditCall.record

theorem Logged.getEntries (logged : Logged hmac s written) {maxEntries : UInt8} (room : 32 ≤ maxEntries) :
    auditLogGetEntries s maxEntries = written.drop (written.length - auditCount written.length) := by
  have few := auditCount_le written.length
  rw [← logged.inUse] at few
  have wide : 32 ≤ maxEntries.toNat := UInt8.le_iff_toNat_le.mp room
  have copied : (if auditEntriesInUse s < maxEntries then auditEntriesInUse s else maxEntries).toNat =
      auditCount written.length := by
    rw [← logged.inUse]
    split
    · rfl
    · rename_i all
      have most := UInt8.le_iff_toNat_le.mp (UInt8.not_lt.mp all)
      unfold auditLogMaxEntries at few
      omega
  unfold auditLogGetEntries
  rw [if_neg, logged.ready, Bool.not_true, if_neg Bool.false_ne_true]
  · dsimp only
    rw [copied]
    exact logged.entriesFrom
  · rintro rfl
    exact absurd wide (by decide)

theorem logged_start (hmac : Hmac)
    (save : Option (σ → (Nat → AuditLogEntry) → UInt8 → UInt8 → UInt32 → σ × Bool)) (s : AuditLog σ) :
    Logged hmac (auditLogInit (some { save := save, load := none }) s) [] where
  ready := rfl
  index := rfl
  lap := LastLap.nil _ _
  linked := by
    intro m entry found
    cases found

/-- Started without a log to load, the audit log keeps the latest events exactly while the index has not wrapped, and after
that whenever it stands at 32 or above. -/
theorem audit_log_latest_exact (hmac : Hmac)
    (save : Option (σ → (Nat → AuditLogEntry) → UInt8 → UInt8 → UInt32 → σ × Bool)) (s : AuditLog σ)
    (calls : List AuditCall) :
    let storage : Option (AuditLogStorage σ) := some { save := save, load := none }
    KeepsLatest (finalState (auditStep hmac storage) (auditLogInit storage s) calls) calls ↔
      calls.length < 256 ∨ auditLogMaxEntries ≤ calls.length % 256 := by
  intro storage
  have logged := logged_run storage (logged_start hmac save s) calls
  have length : (outputs (auditStep hmac storage) (auditLogInit storage s) calls).length = calls.length :=
    length_outputs calls
  have counted := logged.getCount
  rw [length] at counted
  constructor
  · rintro ⟨count, -⟩
    rw [counted] at count
    unfold auditCount auditLogMaxEntries at count
    unfold auditLogMaxEntries
    split at count <;> omega
  · intro kept
    have exact_count : auditCount calls.length = min calls.length auditLogMaxEntries := by
      unfold auditCount auditLogMaxEntries
      unfold auditLogMaxEntries at kept
      split <;> omega
    refine ⟨counted.trans exact_count, fun maxEntries room => ?_⟩
    rw [logged.getEntries room, List.map_drop, outputs_record, length, exact_count, ← List.map_drop]
    congr 2
    omega

end Trail

def tamperCall : AuditCall :=
  { eventType := .tamperDetected, sessionId := 0, ruleId := 0, detail := none, nowMs := 0 }

def freshAuditLog : AuditLog Unit :=
  { entries := fun _ => zeroAuditEntry, writeIndex := 0, authFailureCount := 0, chainKey := none, initialised := false
    store := () }

/-- With the event number 256 the log turns empty. -/
theorem audit_log_emptied :
    ¬∀ calls : List AuditCall,
      KeepsLatest (finalState (auditStep (fun _ _ => zeroDigest) none) (auditLogInit none freshAuditLog) calls) calls := by
  intro kept
  obtain ⟨count, -⟩ := kept (List.replicate 256 tamperCall)
  have start : Logged (fun _ _ => zeroDigest) (auditLogInit none freshAuditLog) [] :=
    logged_start _ none freshAuditLog
  have counted := (logged_run none start (List.replicate 256 tamperCall)).getCount
  rw [length_outputs, List.length_replicate] at counted
  rw [counted, List.length_replicate] at count
  exact absurd count (by decide)

end IotPlatform
