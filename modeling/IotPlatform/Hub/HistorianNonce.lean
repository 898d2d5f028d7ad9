import Mathlib.Data.List.Nodup
import Mathlib.Data.List.Perm.Subperm
import IotPlatform.Hub.HistorianCrash

/-!
# The nonces of the historian

The nonce of a record is its ring position alone. A position comes back after a lap of the ring, and it comes back when
an initialisation restores a write index older than the records still pending. `nextIndex` is the position the next
encryption takes; every step moves it on, keeps it or rewinds it.
-/

namespace IotPlatform
open Bytes RingBuffer Run

/-! ### Calls of AES-CCM over a life of the device -/

/-- What `encrypt_record` passes to `mbedtls_ccm_encrypt_and_tag`. -/
structure CcmCall where
  key : HistorianKey
  nonce : List UInt8
  record : HistorianRecord
  deriving DecidableEq

inductive HistorianLifeOp where
  | init
  | setKey (key : HistorianKey)
  | write (record : HistorianRecord)
  | flush (currentMs : UInt64)
  | reboot

/-- The statics are set anew from the flash, or lost. -/
def HistorianLifeOp.restarts : HistorianLifeOp → Bool
  | .init => true
  | .reboot => true
  | _ => false

section Life

variable {σ : Type} (capacity : HistorianCapacity) (ccm : Ccm) (storage : HistorianStorage σ)

def ccmCall (s : Historian σ) (r : HistorianRecord) : Option CcmCall :=
  if !s.initialised then none
  else
    let s := historianEvict capacity ccm s r.timestampMs
    s.key.map fun key => { key := key, nonce := buildNonce s.writeIndex s.writeIndex, record := r }

def historianLifeStep (s : Historian σ) : HistorianLifeOp → Historian σ × Option CcmCall
  | .init => (historianInit capacity (some storage) s, none)
  | .setKey key => (historianSetKey s key, none)
  | .write r => ((historianWrite capacity ccm (some storage) s r).1, ccmCall capacity ccm s r)
  | .flush now => (historianFlush capacity (some storage) s now, none)
  | .reboot => (historianReset s.flash, none)

def ccmCalls (s : Historian σ) (ops : List HistorianLifeOp) : List CcmCall :=
  (outputs (historianLifeStep capacity ccm storage) s ops).filterMap id

/-- No two calls under one key encrypt different records with the same nonce. -/
def NonceUnique (calls : List CcmCall) : Prop :=
  ∀ c ∈ calls, ∀ c' ∈ calls, c.key = c'.key → c.nonce = c'.nonce → c.record = c'.record

/-- Every initialisation and reboot that an encryption follows finds nothing pending. -/
def NeverRewinds (s : Historian σ) : List HistorianLifeOp → Prop
  | [] => True
  | op :: rest =>
    let next := (historianLifeStep capacity ccm storage s op).1
    (op.restarts = true → s.pendingCount = 0 ∨ ccmCalls capacity ccm storage next rest = []) ∧ NeverRewinds next rest

/-- Two encryptions under one key are less than a lap of the ring apart. -/
def OneLap (capacity : Nat) (calls : List CcmCall) : Prop :=
  ∀ (i j : Nat) c c', calls[i]? = some c → calls[j]? = some c' → i < j → c.key = c'.key → j < i + capacity

theorem oneLap_of_length_le {capacity : Nat} {calls : List CcmCall} (few : calls.length ≤ capacity) :
    OneLap capacity calls := by
  intro i j c c' _ at_j _ _
  have bound := (List.getElem?_eq_some_iff.mp at_j).1
  omega

theorem ccmCalls_cons (s : Historian σ) (op : HistorianLifeOp) (rest : List HistorianLifeOp) :
    ccmCalls capacity ccm storage s (op :: rest) =
      (historianLifeStep capacity ccm storage s op).2.toList ++
        ccmCalls capacity ccm storage (historianLifeStep capacity ccm storage s op).1 rest := by
  rw [ccmCalls, outputs, List.filterMap_cons]
  cases (historianLifeStep capacity ccm storage s op).2 with
  | none => rfl
  | some c => rfl

theorem historianLifeStep_restart (s : Historian σ) {op : HistorianLifeOp} (restarts : op.restarts = true) :
    (historianLifeStep capacity ccm storage s op).2 = none := by
  cases op with
  | init => rfl
  | reboot => rfl
  | setKey => cases restarts
  | write => cases restarts
  | flush => cases restarts

theorem ccmCall_eq (s : Historian σ) (r : HistorianRecord) :
    ccmCall capacity ccm s r =
      if s.initialised then s.key.map fun key => ⟨key, buildNonce s.writeIndex s.writeIndex, r⟩ else none := by
  obtain ⟨evicts, -⟩ := historianEvict_evicts capacity ccm s r.timestampMs
  unfold ccmCall
  dsimp only
  rw [evicts.key, evicts.writeIndex]
  cases s.initialised with
  | false => rfl
  | true => rfl

end Life

theorem buildNonce_injective {pos pos' : UInt32} (same : buildNonce pos pos = buildNonce pos' pos') : pos = pos' := by
  have length : ∀ p : UInt32, (leBytes 4 p.toNat).reverse.length = 4 := by simp
  have bytes := congrArg (List.take 4) same
  rw [buildNonce, buildNonce, List.append_assoc, List.append_assoc, List.take_left' (length pos),
    List.take_left' (length pos'), List.reverse_inj] at bytes
  rw [← ofNat_leNat32 pos, bytes, ofNat_leNat32]

/-! ### The position of the next encryption -/

section Steps

variable {σ : Type} {capacity : HistorianCapacity} {ccm : Ccm} {storage : HistorianStorage σ} {view : σ → FlashImage}
  {s : Historian σ}

def nextIndex (capacity : HistorianCapacity) (view : σ → FlashImage) (s : Historian σ) : UInt32 :=
  if s.initialised then s.writeIndex else ((view s.flash).restored capacity).2

/-- What every step keeps: an initialised historian is in step with its flash, whose write index is the position of the
first pending record. -/
structure InStep (capacity : HistorianCapacity) (view : σ → FlashImage) (s : Historian σ) : Prop where
  synced : s.initialised = true → Synced capacity view s ∧ s.pendingCount.toNat < 64
  idle : s.initialised = false → s.pendingCount = 0
  rewind : s.pendingCount ≠ 0 → ((view s.flash).restored capacity).2 = s.pendingStart

theorem InStep.reset (capacity : HistorianCapacity) (view : σ → FlashImage) (flash : σ) :
    InStep capacity view (historianReset flash) :=
  ⟨(nomatch ·), fun _ => rfl, fun some => absurd rfl some⟩

theorem InStep.nextIndex_inside (inv : InStep capacity view s) :
    (nextIndex capacity view s).toNat < capacity.size.toNat := by
  unfold nextIndex
  split
  · rename_i ready
    exact (inv.synced ready).1.inside
  · exact (restored_inside capacity _).2

/-- With nothing pending, the flash has the position of the next encryption. -/
theorem InStep.restored (inv : InStep capacity view s) (none : s.pendingCount = 0) :
    ((view s.flash).restored capacity).2 = nextIndex capacity view s := by
  unfold nextIndex
  split
  · rename_i ready
    rw [(inv.synced ready).1.clean none]
  · rfl

theorem nextIndex_restart (ccm : Ccm) (faithful : storage.Faithful view) (s : Historian σ) (op : HistorianLifeOp)
    (restarts : op.restarts = true) :
    nextIndex capacity view (historianLifeStep capacity ccm storage s op).1 = ((view s.flash).restored capacity).2 ∧
      (historianLifeStep capacity ccm storage s op).1.pendingCount = 0 := by
  cases op with
  | init =>
    obtain ⟨initialised, -, -, pendingCount, indices, -⟩ := historianInit_restores capacity faithful s
    refine ⟨?_, pendingCount⟩
    change nextIndex capacity view (historianInit capacity (some storage) s) = _
    rw [nextIndex, if_pos initialised, ← indices]
  | reboot => exact ⟨rfl, rfl⟩
  | setKey => cases restarts
  | write => cases restarts
  | flush => cases restarts

theorem historianWrite_next (total : ccm.Total) (faithful : storage.Faithful view) (synced : Synced capacity view s)
    (few : s.pendingCount.toNat < 64) {key : HistorianKey} (keyed : s.key = some key) (r : HistorianRecord) :
    let s' := (historianWrite capacity ccm (some storage) s r).1
    s'.initialised = true ∧ s'.writeIndex.toNat = (s.writeIndex.toNat + 1) % capacity.size.toNat ∧
      (s'.pendingCount ≠ 0 →
        s'.flash = s.flash ∧ s'.pendingStart = if s.pendingCount = 0 then s.writeIndex else s.pendingStart) := by
  obtain ⟨ondisk, encrypted⟩ := encryptRecord_total total key s.writeIndex r
  obtain ⟨evicts, room⟩ := historianEvict_evicts capacity ccm s r.timestampMs
  rw [historianWrite_eq capacity ccm (some storage) synced.initialised (keyed ▸ Option.some_ne_none key) r
    (keyed ▸ encrypted)]
  dsimp only
  generalize historianEvict capacity ccm s r.timestampMs = evicted at evicts room ⊢
  obtain ⟨-, buffered_start⟩ := buffered_pending capacity evicts few ondisk
  obtain ⟨writeIndex, -⟩ := putRecord_indices (evicts.writeIndex ▸ synced.inside) room ondisk
  rw [evicts.writeIndex] at writeIndex
  have ready : (historianBufferForFlush (putRecord capacity evicted ondisk) evicted.writeIndex).initialised = true :=
    evicts.initialised.trans synced.initialised
  have flash : (historianBufferForFlush (putRecord capacity evicted ondisk) evicted.writeIndex).flash = s.flash :=
    evicts.flash
  have next : (historianBufferForFlush (putRecord capacity evicted ondisk) evicted.writeIndex).writeIndex.toNat =
      (s.writeIndex.toNat + 1) % capacity.size.toNat := writeIndex
  generalize historianBufferForFlush (putRecord capacity evicted ondisk) evicted.writeIndex = buffered
    at ready flash next buffered_start ⊢
  obtain flushing | ⟨same, -⟩ := historianAutoFlush_cases capacity (some storage) buffered r.timestampMs
  · obtain ⟨start, last, stats, flushed⟩ := historianFlush_eq capacity faithful ready r.timestampMs
    rw [flushing, flushed]
    exact ⟨ready, next, fun left => absurd rfl left⟩
  · rw [same]
    exact ⟨ready, next, fun _ => ⟨flash, buffered_start⟩⟩

theorem historianWrite_refused (storage : Option (HistorianStorage σ)) {r : HistorianRecord}
    (refused : ccmCall capacity ccm s r = none) :
    ∃ stats, (historianWrite capacity ccm storage s r).1 = { s with stats := stats } := by
  rw [ccmCall_eq] at refused
  unfold historianWrite
  by_cases ready : s.initialised = true
  · rw [if_pos ready, Option.map_eq_none_iff] at refused
    rw [if_neg (by simp [ready]), if_pos (by simp [refused])]
    exact ⟨_, rfl⟩
  · rw [if_pos (by simpa using ready)]
    exact ⟨s.stats, rfl⟩

theorem ccmCall_some {r : HistorianRecord} {c : CcmCall} (call : ccmCall capacity ccm s r = some c) :
    s.initialised = true ∧ s.key = some c.key ∧ c.nonce = buildNonce s.writeIndex s.writeIndex := by
  rw [ccmCall_eq] at call
  split at call
  · rename_i ready
    obtain ⟨key, keyed, rfl⟩ := Option.map_eq_some_iff.mp call
    exact ⟨ready, keyed, rfl⟩
  · cases call

theorem InStep.call (inv : InStep capacity view s) (total : ccm.Total) (faithful : storage.Faithful view)
    {op : HistorianLifeOp} {c : CcmCall} (call : (historianLifeStep capacity ccm storage s op).2 = some c) :
    let s' := (historianLifeStep capacity ccm storage s op).1
    let next := nextIndex capacity view s
    InStep capacity view s' ∧ c.nonce = buildNonce next next ∧
      (nextIndex capacity view s').toNat = (next.toNat + 1) % capacity.size.toNat ∧
      (s'.pendingCount ≠ 0 → s'.pendingStart = if s.pendingCount = 0 then next else s.pendingStart) := by
  cases op with
  | write r =>
    obtain ⟨ready, keyed, nonce⟩ := ccmCall_some call
    obtain ⟨synced, few⟩ := inv.synced ready
    obtain ⟨still_ready, moved, pending⟩ := historianWrite_next total faithful synced few keyed r
    have written := historianWrite_synced total faithful synced few r
    intro s' next
    have next_eq : next = s.writeIndex := if_pos ready
    have next_eq' : nextIndex capacity view s' = s'.writeIndex := if_pos still_ready
    rw [next_eq, next_eq']
    refine ⟨⟨fun _ => written, fun lost => ?_, fun left => ?_⟩, nonce, moved, fun left => (pending left).2⟩
    · exact absurd (still_ready.symm.trans lost) (by decide)
    · obtain ⟨flash, start⟩ := pending left
      change ((view (historianWrite capacity ccm (some storage) s r).1.flash).restored capacity).2 =
        (historianWrite capacity ccm (some storage) s r).1.pendingStart
      rw [flash, start]
      split
      · rename_i none
        rw [synced.clean none]
      · rename_i some_before
        exact inv.rewind some_before
  | init => cases call
  | setKey => cases call
  | flush => cases call
  | reboot => cases call

/-- A step that does not encrypt keeps the next position, unless it restarts with records pending. -/
theorem InStep.quiet (inv : InStep capacity view s) (faithful : storage.Faithful view) {op : HistorianLifeOp}
    (quiet : (historianLifeStep capacity ccm storage s op).2 = none) :
    let s' := (historianLifeStep capacity ccm storage s op).1
    InStep capacity view s' ∧ (s'.pendingCount ≠ 0 → s'.pendingCount = s.pendingCount ∧ s'.pendingStart = s.pendingStart) ∧
      ((op.restarts = true → s.pendingCount = 0) → nextIndex capacity view s' = nextIndex capacity view s) := by
  cases op with
  | write r =>
    obtain ⟨stats, refused⟩ := historianWrite_refused (some storage) quiet
    intro s'
    have same : s' = { s with stats := stats } := refused
    rw [same]
    refine ⟨⟨fun ready => ?_, inv.idle, inv.rewind⟩, fun _ => ⟨rfl, rfl⟩, fun _ => rfl⟩
    obtain ⟨synced, few⟩ := inv.synced ready
    exact ⟨synced.rekey s.key stats, few⟩
  | setKey key =>
    refine ⟨⟨fun ready => ?_, inv.idle, inv.rewind⟩, fun _ => ⟨rfl, rfl⟩, fun _ => rfl⟩
    obtain ⟨synced, few⟩ := inv.synced ready
    exact ⟨synced.rekey (some key) s.stats, few⟩
  | flush now =>
    intro s'
    cases ready : s.initialised with
    | false =>
      have same : s' = s := if_pos (by simp [ready])
      rw [same]
      exact ⟨inv, fun _ => ⟨rfl, rfl⟩, fun _ => rfl⟩
    | true =>
      obtain ⟨synced, -⟩ := inv.synced ready
      obtain ⟨flushed, flushes⟩ := historianFlush_synced faithful synced now
      have none_left : s'.pendingCount = 0 := flushes.pendingCount
      have still_ready : s'.initialised = true := flushes.initialised.trans ready
      have few_left : s'.pendingCount.toNat < 64 := by
        rw [none_left]
        decide
      refine ⟨⟨fun _ => ⟨flushed, few_left⟩, fun _ => none_left, fun left => absurd none_left left⟩,
        fun left => absurd none_left left, fun _ => ?_⟩
      rw [nextIndex, nextIndex, if_pos still_ready, if_pos ready]
      exact flushes.writeIndex
  | init =>
    obtain ⟨rewound, none_left⟩ := nextIndex_restart ccm faithful s .init rfl
    obtain ⟨synced, few⟩ := historianInit_synced faithful s
    refine ⟨⟨fun _ => ⟨synced, few⟩, fun _ => none_left, fun left => absurd none_left left⟩,
      fun left => absurd none_left left, fun saved => ?_⟩
    exact rewound.trans (inv.restored (saved rfl))
  | reboot =>
    refine ⟨InStep.reset capacity view s.flash, fun left => absurd rfl left, fun saved => ?_⟩
    exact inv.restored (saved rfl)

/-! ### The nonces of a run -/

theorem ccmCalls_numbered (total : ccm.Total) (faithful : storage.Faithful view) {ops : List HistorianLifeOp}
    (inv : InStep capacity view s) (never : NeverRewinds capacity ccm storage s ops) {n : Nat} {c : CcmCall}
    (found : (ccmCalls capacity ccm storage s ops)[n]? = some c) :
    ∃ pos : UInt32, c.nonce = buildNonce pos pos ∧
      pos.toNat = ((nextIndex capacity view s).toNat + n) % capacity.size.toNat := by
  induction ops generalizing s n with
  | nil => cases found
  | cons op rest ih =>
    obtain ⟨saved, later⟩ := never
    rw [ccmCalls_cons] at found
    cases output : (historianLifeStep capacity ccm storage s op).2 with
    | none =>
      rw [output, Option.toList_none, List.nil_append] at found
      obtain ⟨next_inv, -, kept⟩ := inv.quiet faithful output
      have saved : op.restarts = true → s.pendingCount = 0 := by
        intro restarts
        refine (saved restarts).resolve_right fun empty => ?_
        rw [empty] at found
        cases found
      rw [← kept saved]
      exact ih next_inv later found
    | some call =>
      obtain ⟨next_inv, nonce, moved, -⟩ := inv.call total faithful output
      rw [output, Option.toList_some, List.singleton_append] at found
      cases n with
      | zero =>
        cases found
        exact ⟨_, nonce, (Nat.mod_eq_of_lt inv.nextIndex_inside).symm⟩
      | succ n =>
        obtain ⟨pos, at_pos, number⟩ := ih next_inv later found
        refine ⟨pos, at_pos, ?_⟩
        rw [number, moved, Nat.mod_add_mod]
        congr 1
        omega

theorem nonceUnique_of_neverRewinds (total : ccm.Total) (faithful : storage.Faithful view) {ops : List HistorianLifeOp}
    (inv : InStep capacity view s) (never : NeverRewinds capacity ccm storage s ops)
    (lap : OneLap capacity.size.toNat (ccmCalls capacity ccm storage s ops)) :
    NonceUnique (ccmCalls capacity ccm storage s ops) := by
  have apart : ∀ (i j : Nat) (c c' : CcmCall), (ccmCalls capacity ccm storage s ops)[i]? = some c →
      (ccmCalls capacity ccm storage s ops)[j]? = some c' → i < j → c.key = c'.key → c.nonce ≠ c'.nonce := by
    intro i j c c' at_i at_j order same_key same_nonce
    have near := lap i j c c' at_i at_j order same_key
    obtain ⟨pos, nonce, number⟩ := ccmCalls_numbered total faithful inv never at_i
    obtain ⟨pos', nonce', number'⟩ := ccmCalls_numbered total faithful inv never at_j
    have same_pos : pos = pos' := buildNonce_injective (by rw [← nonce, same_nonce, nonce'])
    rw [← same_pos, number] at number'
    exact mod_ne_mod (by omega) (by omega) number'
  intro c member c' member' same_key same_nonce
  obtain ⟨i, at_i⟩ := List.mem_iff_getElem?.mp member
  obtain ⟨j, at_j⟩ := List.mem_iff_getElem?.mp member'
  rcases Nat.lt_trichotomy i j with before | rfl | after
  · exact absurd same_nonce (apart i j c c' at_i at_j before same_key)
  · rw [at_i] at at_j
    cases at_j
    rfl
  · exact absurd same_nonce.symm (apart j i c' c at_j at_i after same_key.symm)

theorem ccmCalls_inside (total : ccm.Total) (faithful : storage.Faithful view) {ops : List HistorianLifeOp}
    (inv : InStep capacity view s) {c : CcmCall} (member : c ∈ ccmCalls capacity ccm storage s ops) :
    ∃ pos : UInt32, c.nonce = buildNonce pos pos ∧ pos.toNat < capacity.size.toNat := by
  induction ops generalizing s with
  | nil => cases member
  | cons op rest ih =>
    rw [ccmCalls_cons, List.mem_append] at member
    cases output : (historianLifeStep capacity ccm storage s op).2 with
    | none =>
      obtain ⟨next_inv, -⟩ := inv.quiet faithful output
      rw [output, Option.toList_none] at member
      exact ih next_inv (member.resolve_left List.not_mem_nil)
    | some call =>
      obtain ⟨next_inv, nonce, -⟩ := inv.call total faithful output
      rw [output, Option.toList_some, List.mem_singleton] at member
      rcases member with rfl | later
      · exact ⟨_, nonce, inv.nextIndex_inside⟩
      · exact ih next_inv later

theorem ccmCalls_head (total : ccm.Total) (faithful : storage.Faithful view) {ops : List HistorianLifeOp}
    (inv : InStep capacity view s) (none : s.pendingCount = 0) {c : CcmCall} {rest : List CcmCall}
    (calls : ccmCalls capacity ccm storage s ops = c :: rest) :
    c.nonce = buildNonce (nextIndex capacity view s) (nextIndex capacity view s) := by
  induction ops generalizing s with
  | nil => cases calls
  | cons op later ih =>
    rw [ccmCalls_cons] at calls
    cases output : (historianLifeStep capacity ccm storage s op).2 with
    | none =>
      rw [output, Option.toList_none, List.nil_append] at calls
      obtain ⟨next_inv, pending, kept⟩ := inv.quiet faithful output
      have none_left : (historianLifeStep capacity ccm storage s op).1.pendingCount = 0 := by
        by_contra left
        exact left ((pending left).1.trans none)
      rw [← kept fun _ => none]
      exact ih next_inv none_left calls
    | some call =>
      obtain ⟨-, nonce, -⟩ := inv.call total faithful output
      rw [output, Option.toList_some, List.singleton_append] at calls
      cases calls
      exact nonce

/-- A restart with records pending rewinds: the first call after it takes the position of the first of them. -/
theorem ccmCalls_head_rewound (total : ccm.Total) (faithful : storage.Faithful view) {op : HistorianLifeOp}
    {ops : List HistorianLifeOp} (inv : InStep capacity view s) (restarts : op.restarts = true)
    (pending : s.pendingCount ≠ 0) {c : CcmCall} {rest : List CcmCall}
    (calls : ccmCalls capacity ccm storage (historianLifeStep capacity ccm storage s op).1 ops = c :: rest) :
    c.nonce = buildNonce s.pendingStart s.pendingStart := by
  obtain ⟨rewound, none_left⟩ := nextIndex_restart ccm faithful s op restarts
  obtain ⟨next_inv, -⟩ := inv.quiet faithful (historianLifeStep_restart capacity ccm storage s restarts)
  rw [ccmCalls_head total faithful next_inv none_left calls, rewound, inv.rewind pending]

theorem record_ne_of_mem {history later : List CcmCall} (distinct : ((history ++ later).map CcmCall.record).Nodup)
    {c c' : CcmCall} (member : c ∈ history) (member' : c' ∈ later) : c.record ≠ c'.record := by
  rw [List.map_append, List.nodup_append] at distinct
  exact distinct.2.2 c.record (List.mem_map_of_mem member) c'.record (List.mem_map_of_mem member')

/-- After a restart that rewinds no call can follow: it would repeat the nonce of the first pending record. -/
theorem ccmCalls_nil_of_rewound (total : ccm.Total) (faithful : storage.Faithful view) {op : HistorianLifeOp}
    {rest : List HistorianLifeOp} {history : List CcmCall} (inv : InStep capacity view s) (restarts : op.restarts = true)
    (pending : s.pendingCount ≠ 0) (used : ∃ c ∈ history, c.nonce = buildNonce s.pendingStart s.pendingStart)
    {later : List CcmCall}
    (calls : ccmCalls capacity ccm storage (historianLifeStep capacity ccm storage s op).1 rest = later)
    (one_key : ∀ c ∈ history ++ later, ∀ c' ∈ history ++ later, c.key = c'.key)
    (distinct : ((history ++ later).map CcmCall.record).Nodup) (unique : NonceUnique (history ++ later)) : later = [] := by
  cases later with
  | nil => rfl
  | cons c later =>
    obtain ⟨c', earlier, nonce'⟩ := used
    have nonce := ccmCalls_head_rewound total faithful inv restarts pending calls
    have old : c' ∈ history ++ c :: later := List.mem_append_left _ earlier
    have new : c ∈ history ++ c :: later := List.mem_append_right _ List.mem_cons_self
    have same := unique c' old c new (one_key c' old c new) (nonce'.trans nonce.symm)
    exact absurd same (record_ne_of_mem distinct earlier List.mem_cons_self)

/-- Under one key and with different records, a run with unique nonces does not rewind. -/
theorem neverRewinds_of_nonceUnique (total : ccm.Total) (faithful : storage.Faithful view) {ops : List HistorianLifeOp}
    (history : List CcmCall) (inv : InStep capacity view s)
    (used : s.pendingCount ≠ 0 → ∃ c ∈ history, c.nonce = buildNonce s.pendingStart s.pendingStart)
    (one_key : ∀ c ∈ history ++ ccmCalls capacity ccm storage s ops, ∀ c' ∈ history ++ ccmCalls capacity ccm storage s ops,
      c.key = c'.key)
    (distinct : ((history ++ ccmCalls capacity ccm storage s ops).map CcmCall.record).Nodup)
    (unique : NonceUnique (history ++ ccmCalls capacity ccm storage s ops)) :
    NeverRewinds capacity ccm storage s ops := by
  induction ops generalizing s history with
  | nil => trivial
  | cons op rest ih =>
    rw [ccmCalls_cons] at one_key distinct unique
    cases output : (historianLifeStep capacity ccm storage s op).2 with
    | none =>
      rw [output, Option.toList_none, List.nil_append] at one_key distinct unique
      obtain ⟨next_inv, pending, -⟩ := inv.quiet faithful output
      refine ⟨fun restarts => ?_, ih history next_inv (fun left => ?_) one_key distinct unique⟩
      · by_cases none : s.pendingCount = 0
        · exact .inl none
        · exact .inr (ccmCalls_nil_of_rewound total faithful inv restarts none (used none) rfl one_key distinct unique)
      · obtain ⟨same_count, same_start⟩ := pending left
        rw [same_start]
        exact used (same_count ▸ left)
    | some call =>
      have regroup : history ++ ((some call).toList ++
          ccmCalls capacity ccm storage (historianLifeStep capacity ccm storage s op).1 rest) =
          history ++ [call] ++ ccmCalls capacity ccm storage (historianLifeStep capacity ccm storage s op).1 rest := by simp
      rw [output, regroup] at one_key distinct unique
      obtain ⟨next_inv, nonce, -, start⟩ := inv.call total faithful output
      refine ⟨fun restarts => ?_, ih _ next_inv (fun left => ?_) one_key distinct unique⟩
      · rw [historianLifeStep_restart capacity ccm storage s restarts] at output
        cases output
      · rw [start left]
        split
        · exact ⟨call, List.mem_append_right _ List.mem_cons_self, nonce⟩
        · rename_i some_before
          obtain ⟨c, earlier, nonce'⟩ := used some_before
          exact ⟨c, List.mem_append_left _ earlier, nonce'⟩

theorem oneLap_of_nonceUnique (total : ccm.Total) (faithful : storage.Faithful view) {ops : List HistorianLifeOp}
    (inv : InStep capacity view s)
    (one_key : ∀ c ∈ ccmCalls capacity ccm storage s ops, ∀ c' ∈ ccmCalls capacity ccm storage s ops, c.key = c'.key)
    (distinct : ((ccmCalls capacity ccm storage s ops).map CcmCall.record).Nodup)
    (unique : NonceUnique (ccmCalls capacity ccm storage s ops)) :
    OneLap capacity.size.toNat (ccmCalls capacity ccm storage s ops) := by
  have nonces : ((ccmCalls capacity ccm storage s ops).map CcmCall.nonce).Nodup := by
    refine List.Nodup.map_on (fun c member c' member' same => ?_) (List.Nodup.of_map _ distinct)
    exact List.inj_on_of_nodup_map distinct member member' (unique c member c' member' (one_key c member c' member') same)
  have positions : (ccmCalls capacity ccm storage s ops).map CcmCall.nonce ⊆
      (List.range capacity.size.toNat).map fun pos => buildNonce (UInt32.ofNat pos) (UInt32.ofNat pos) := by
    intro nonce member
    obtain ⟨c, called, rfl⟩ := List.mem_map.mp member
    obtain ⟨pos, at_pos, inside⟩ := ccmCalls_inside total faithful inv called
    exact List.mem_map.mpr ⟨pos.toNat, List.mem_range.mpr inside, by rw [at_pos, UInt32.ofNat_toNat]⟩
  have few := (List.subperm_of_subset nonces positions).length_le
  rw [List.length_map, List.length_map, List.length_range] at few
  exact oneLap_of_length_le few

/-- Nonces are unique when no restart loses pending records that a later encryption overwrites and the ring does not come
round under one key; for different records under one key, only then. -/
theorem historian_nonce_unique (capacity : HistorianCapacity) (ccm : Ccm) (total : ccm.Total) (storage : HistorianStorage σ)
    (view : σ → FlashImage) (faithful : storage.Faithful view) (flash : σ) (ops : List HistorianLifeOp) :
    let calls := ccmCalls capacity ccm storage (historianReset flash) ops
    (NeverRewinds capacity ccm storage (historianReset flash) ops ∧ OneLap capacity.size.toNat calls → NonceUnique calls) ∧
      ((∀ c ∈ calls, ∀ c' ∈ calls, c.key = c'.key) → (calls.map CcmCall.record).Nodup → NonceUnique calls →
        NeverRewinds capacity ccm storage (historianReset flash) ops ∧ OneLap capacity.size.toNat calls) := by
  intro calls
  have inv := InStep.reset capacity view flash
  constructor
  · rintro ⟨never, lap⟩
    exact nonceUnique_of_neverRewinds total faithful inv never lap
  · intro one_key distinct unique
    refine ⟨?_, oneLap_of_nonceUnique total faithful inv one_key distinct unique⟩
    exact neverRewinds_of_nonceUnique total faithful [] inv (fun some => absurd rfl some) one_key distinct unique

end Steps

theorem historian_nonce_unique_after_flush :
    NonceUnique (ccmCalls defaultHistorianCapacity sealedCcm ramStorage (historianReset blankFlash)
      [.setKey sampleKey, .init, .write (numberedRecord 0), .flush 1000000, .reboot, .setKey sampleKey, .init,
        .write (numberedRecord 1)]) := by
  refine (historian_nonce_unique defaultHistorianCapacity sealedCcm sealedCcm_lawful.total ramStorage id ramStorage_faithful
    blankFlash _).1 ⟨?_, ?_⟩
  · exact ⟨by decide, by decide, by decide, by decide, by decide, by decide, by decide, by decide, trivial⟩
  · exact oneLap_of_length_le (by decide)

/-- A reboot loses the write of a record that was not flushed: the next record is encrypted with its nonce. -/
theorem reboot_reuses_nonce :
    ¬ NonceUnique (ccmCalls defaultHistorianCapacity sealedCcm ramStorage (historianReset blankFlash)
      [.setKey sampleKey, .init, .write (numberedRecord 0), .reboot, .setKey sampleKey, .init,
        .write (numberedRecord 2)]) := by
  intro unique
  have same := unique ⟨sampleKey, buildNonce 0 0, numberedRecord 0⟩ (by decide)
    ⟨sampleKey, buildNonce 0 0, numberedRecord 2⟩ (by decide) rfl rfl
  exact absurd same (by decide)

end IotPlatform
