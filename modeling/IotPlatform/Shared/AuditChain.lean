import IotPlatform.Lib.HashChain
import IotPlatform.Shared.AuditTrail

/-!
# The chain of the audit log

The writer chains each entry to the one before it, the verifier starts from zeros at the oldest entry it finds. They agree
as long as that entry was the first of a turn of the write index. Where the chain is accepted, its last HMAC binds all of
the log.
-/

namespace IotPlatform
open Run RingBuffer HashChain Bytes

def chainMac (hmac : Hmac) (key : List UInt8) (content : List UInt8) (prev : Digest) : Digest :=
  hmac key (content ++ prev.toList)

def AuditLogEntry.link (entry : AuditLogEntry) : List UInt8 × Digest := (entry.content, entry.chainHmac)

theorem verifyAuditEntries_iff {hmac : Hmac} {key : List UInt8} {prev : Digest} {entries : List AuditLogEntry} :
    verifyAuditEntries hmac key prev entries = true ↔ Chained (chainMac hmac key) prev (entries.map AuditLogEntry.link) := by
  induction entries generalizing prev with
  | nil => simp [verifyAuditEntries, Chained]
  | cons entry rest ih =>
    have same : differenceByte entry.chainHmac.toList (chainMac hmac key entry.content prev).toList = 0 ↔
        entry.chainHmac = chainMac hmac key entry.content prev := by
      rw [differenceByte_eq_zero (by rw [Vector.length_toList, Vector.length_toList]), Vector.toList_inj]
    rw [verifyAuditEntries, List.map_cons, AuditLogEntry.link, Chained, ← same, ← ih]
    dsimp only [chainMac]
    split
    · rename_i broken
      simp [broken]
    · rename_i intact
      simp [Classical.not_not.mp intact]

section Verify

variable {σ : Type} {hmac : Hmac} {storage : Option (AuditLogStorage σ)} {s : AuditLog σ} {key : Digest}
  {written : List AuditLogEntry}

theorem verifyChain_iff {key : List UInt8} (nonempty : key.length ≠ 0) (ready : s.initialised = true) :
    auditLogVerifyChain hmac s key = true ↔
      Chained (chainMac hmac key) zeroDigest ((auditEntriesFrom s (auditLogGetCount s).toNat).map AuditLogEntry.link) := by
  unfold auditLogVerifyChain
  rw [if_neg nonempty, ready, Bool.not_true, if_neg Bool.false_ne_true]
  by_cases empty : auditLogGetCount s = 0
  · rw [if_pos empty, empty]
    simp [auditEntriesFrom, Chained]
  · rw [if_neg empty, verifyAuditEntries_iff]

/-! ### The chain of a trail -/

theorem Logged.linked_key (logged : Logged hmac s written) (keyed : s.chainKey = some key) {m : Nat}
    {entry : AuditLogEntry} (found : written[m]? = some entry) :
    entry.chainHmac = chainMac hmac key.toList entry.content (prevOf written m) := by
  have linked := logged.linked m entry found
  unfold auditLogComputeChainHmac at linked
  rw [keyed] at linked
  exact linked

theorem prevOf_succ {m : Nat} {entry : AuditLogEntry} (found : written[m]? = some entry) (turn : (m + 1) % 256 ≠ 0) :
    prevOf written (m + 1) = entry.chainHmac := by
  unfold prevOf
  rw [if_neg turn, Nat.add_sub_cancel, found]
  rfl

/-- A stretch of the trail inside one turn of the index is a chain from what stands before it. -/
theorem Logged.chained_drop (logged : Logged hmac s written) (keyed : s.chainKey = some key) {d k : Nat}
    (length : d + k = written.length) (within : ∀ m, d < m → m < written.length → m % 256 ≠ 0) :
    Chained (chainMac hmac key.toList) (prevOf written d) ((written.drop d).map AuditLogEntry.link) := by
  induction k generalizing d with
  | zero =>
    rw [List.drop_eq_nil_of_le (by omega)]
    trivial
  | succ k ih =>
    have inside : d < written.length := by omega
    have found := List.getElem?_eq_getElem inside
    rw [List.drop_eq_getElem_cons inside, List.map_cons]
    refine ⟨logged.linked_key keyed found, ?_⟩
    rcases Nat.lt_or_ge (d + 1) written.length with more | last
    · have rest := ih (d := d + 1) (by omega) fun m later => within m (by omega)
      rwa [prevOf_succ found (within (d + 1) (by omega) more)] at rest
    · rw [List.drop_eq_nil_of_le last]
      trivial

/-- The HMAC of the oldest of 32 entries is the same whether it is chained to the entry before it or to zeros. -/
def StartsAnew (hmac : Hmac) (key : Digest) (written : List AuditLogEntry) : Prop :=
  ∃ prior oldest, written[written.length - 33]? = some prior ∧ written[written.length - 32]? = some oldest ∧
    hmac key.toList (oldest.content ++ prior.chainHmac.toList) = hmac key.toList (oldest.content ++ zeroDigest.toList)

theorem Logged.verifyChain_iff (logged : Logged hmac s written) (keyed : s.chainKey = some key) :
    auditLogVerifyChain hmac s key.toList = true ↔ written.length % 256 ≤ 32 ∨ StartsAnew hmac key written := by
  have few := auditCount_le_self written.length
  have kept : ∀ m, written.length - auditCount written.length < m → m < written.length → m % 256 ≠ 0 := by
    intro m later before
    unfold auditCount auditLogMaxEntries at later
    split at later <;> omega
  have chained := logged.chained_drop keyed (Nat.sub_add_cancel few) kept
  rw [IotPlatform.verifyChain_iff (by rw [Vector.length_toList]; decide) logged.ready, logged.getCount, logged.entriesFrom]
  by_cases anew : written.length % 256 ≤ 32
  · have turn : (written.length - auditCount written.length) % 256 = 0 := by
      unfold auditCount auditLogMaxEntries
      split <;> omega
    have zeros : prevOf written (written.length - auditCount written.length) = zeroDigest := if_pos turn
    rw [zeros] at chained
    simp only [anew, true_or, iff_true]
    exact chained
  · have full : auditCount written.length = 32 := if_neg (by unfold auditLogMaxEntries; omega)
    rw [full] at chained ⊢
    obtain ⟨d, length⟩ := Nat.exists_eq_add_of_le' (show 33 ≤ written.length by omega)
    have oldest_in : written.length - 32 < written.length := by omega
    have prior_in : d < written.length := by omega
    have prior_at : written.length - 33 = d := by omega
    have prior : prevOf written (written.length - 32) = (written[d]).chainHmac := by
      rw [show written.length - 32 = d + 1 by omega]
      exact prevOf_succ (List.getElem?_eq_getElem prior_in) (by omega)
    rw [prior] at chained
    rw [List.drop_eq_getElem_cons oldest_in, List.map_cons] at chained ⊢
    rw [AuditLogEntry.link] at chained ⊢
    rw [chained_start chained]
    constructor
    · intro same
      refine .inr ⟨_, _, ?_, List.getElem?_eq_getElem oldest_in, same⟩
      rw [prior_at]
      exact List.getElem?_eq_getElem prior_in
    · rintro (few | ⟨before, oldest, at_before, at_oldest, same⟩)
      · exact absurd few anew
      · rw [prior_at, List.getElem?_eq_getElem prior_in] at at_before
        rw [List.getElem?_eq_getElem oldest_in] at at_oldest
        rw [Option.some.inj at_before, Option.some.inj at_oldest]
        exact same

theorem ofFn_toList (key : Digest) : (Vector.ofFn fun i : Fin 32 => key.toList.getD i 0) = key := by
  apply Vector.ext
  intro i inside
  rw [Vector.getElem_ofFn, List.getD_eq_getElem _ _ (by rw [Vector.length_toList]; exact inside), Vector.getElem_toList]

theorem auditLogSetChainKey_digest (s : AuditLog σ) (key : Digest) :
    auditLogSetChainKey s key.toList = { s with chainKey := some key } := by
  unfold auditLogSetChainKey
  rw [if_neg (by rw [Vector.length_toList]; decide), ofFn_toList]

/-- The log after `audit_log_init`, nothing to load, and `audit_log_set_chain_key`. -/
def keyedAuditLog (save : Option (σ → (Nat → AuditLogEntry) → UInt8 → UInt8 → UInt32 → σ × Bool)) (s : AuditLog σ)
    (key : Digest) : AuditLog σ :=
  auditLogSetChainKey (auditLogInit (some { save := save, load := none }) s) key.toList

theorem logged_keyed (hmac : Hmac)
    (save : Option (σ → (Nat → AuditLogEntry) → UInt8 → UInt8 → UInt32 → σ × Bool)) (s : AuditLog σ)
    (key : Digest) : Logged hmac (keyedAuditLog save s key) [] ∧ (keyedAuditLog save s key).chainKey = some key := by
  unfold keyedAuditLog
  rw [auditLogSetChainKey_digest]
  refine ⟨⟨rfl, rfl, LastLap.nil _ _, ?_⟩, rfl⟩
  intro m entry found
  cases found

theorem auditLogAdd_chainKey (call : AuditCall) : (auditLogAdd hmac storage s call).chainKey = s.chainKey := by
  unfold auditLogAdd
  split
  · rfl
  · rw [auditLogPersist_chainKey]

theorem run_chainKey (hmac : Hmac) (storage : Option (AuditLogStorage σ)) (calls : List AuditCall) :
    (finalState (auditStep hmac storage) s calls).chainKey = s.chainKey :=
  finalState_invariant (P := fun log : AuditLog σ => log.chainKey = s.chainKey) rfl
    (fun _ call same => (auditLogAdd_chainKey call).trans same) calls

/-- The chain of an untouched log is accepted exactly while the write index is at most 32, or where the HMAC happens not to
tell the chaining of the oldest entry from the chaining to zeros. -/
theorem audit_chain_exact (hmac : Hmac)
    (save : Option (σ → (Nat → AuditLogEntry) → UInt8 → UInt8 → UInt32 → σ × Bool)) (s : AuditLog σ) (key : Digest)
    (calls : List AuditCall) :
    let step := auditStep hmac (some { save := save, load := none })
    let start := keyedAuditLog save s key
    auditLogVerifyChain hmac (finalState step start calls) key.toList = true ↔
      calls.length % 256 ≤ 32 ∨ StartsAnew hmac key (outputs step start calls) := by
  intro step start
  obtain ⟨logged, keyed⟩ := logged_keyed hmac save s key
  have length : (outputs step start calls).length = calls.length := length_outputs calls
  rw [(logged_run _ logged calls).verifyChain_iff ((run_chainKey hmac _ calls).trans keyed), length]

/-- Tells the first entry of a chain from the others, and nothing else. -/
def startHmac : Hmac := fun _ data =>
  if data.drop 80 = zeroDigest.toList then Vector.replicate 32 1 else Vector.replicate 32 2

theorem AuditLogEntry.length_content (entry : AuditLogEntry) : entry.content.length = 80 := by
  simp [AuditLogEntry.content]

theorem startHmac_content (key : List UInt8) (entry : AuditLogEntry) (prev : Digest) :
    startHmac key (entry.content ++ prev.toList) =
      if prev = zeroDigest then Vector.replicate 32 1 else Vector.replicate 32 2 := by
  unfold startHmac
  rw [← entry.length_content, List.drop_left]
  simp only [Vector.toList_inj]

/-- With the event number 33 the untouched log does not verify any more. -/
theorem wrapped_chain_refused :
    ¬∀ (hmac : Hmac) (key : Digest) (calls : List AuditCall),
      auditLogVerifyChain hmac (finalState (auditStep hmac none) (keyedAuditLog none freshAuditLog key) calls)
        key.toList = true := by
  intro accepted
  obtain ⟨logged, keyed⟩ := logged_keyed startHmac none freshAuditLog zeroDigest
  have run := logged_run none logged (List.replicate 33 tamperCall)
  have run_keyed := (run_chainKey startHmac none (List.replicate 33 tamperCall)).trans keyed
  have length : (outputs (auditStep startHmac none) (keyedAuditLog none freshAuditLog zeroDigest)
      (List.replicate 33 tamperCall)).length = _ := length_outputs (List.replicate 33 tamperCall)
  rw [List.length_replicate] at length
  obtain few | ⟨prior, oldest, at_prior, -, same⟩ :=
    (run.verifyChain_iff run_keyed).mp (accepted startHmac zeroDigest (List.replicate 33 tamperCall))
  · rw [length] at few
    exact absurd few (by decide)
  · rw [length] at at_prior
    have first : prior.chainHmac = Vector.replicate 32 1 := by
      rw [run.linked_key run_keyed at_prior]
      exact (startHmac_content _ prior zeroDigest).trans (if_pos rfl)
    rw [startHmac_content, startHmac_content, first] at same
    exact absurd same (by decide)

/-! ### What the last HMAC binds -/

theorem AuditLogEntry.link_injective {e e' : AuditLogEntry} (same : e.link = e'.link) : e = e' := by
  obtain ⟨content, chain⟩ := Prod.mk.inj same
  unfold AuditLogEntry.content at content
  obtain ⟨front, detail⟩ := List.append_inj' content (by simp)
  obtain ⟨front, rule⟩ := List.append_inj' front (by simp)
  obtain ⟨front, ids⟩ := List.append_inj' front rfl
  obtain ⟨time, event⟩ := List.append_inj front (by simp)
  obtain ⟨session, padding⟩ := List.cons.inj ids
  obtain ⟨padding, -⟩ := List.cons.inj padding
  cases e
  cases e'
  congr
  · exact UInt64.toNat_inj.mp (leBytes_inj (UInt64.toNat_lt _) (UInt64.toNat_lt _) time)
  · exact UInt32.toNat_inj.mp (leBytes_inj (UInt32.toNat_lt _) (UInt32.toNat_lt _) event)
  · exact UInt16.toNat_inj.mp (leBytes_inj (UInt16.toNat_lt _) (UInt16.toNat_lt _) rule)
  · exact Vector.toList_inj.mp detail

/-- The messages `audit_log_verify_chain` takes HMACs of. -/
def auditMessages (s : AuditLog σ) : List (List UInt8) :=
  (links zeroDigest ((auditEntriesFrom s (auditLogGetCount s).toNat).map AuditLogEntry.link)).map fun taken =>
    taken.1 ++ taken.2.toList

/-- The keyed HMAC is injective on these messages. -/
def HmacInjectiveOn (hmac : Hmac) (key : List UInt8) (messages : List (List UInt8)) : Prop :=
  ∀ m ∈ messages, ∀ m' ∈ messages, hmac key m = hmac key m' → m = m'

def lastChainHmac (s : AuditLog σ) : Digest := (s.entries (s.writeIndex.toNat - 1)).chainHmac

theorem content_of_mem_links {entries : List AuditLogEntry} {prev : Digest} {taken : List UInt8 × Digest}
    (member : taken ∈ links prev (entries.map AuditLogEntry.link)) : taken.1.length = 80 := by
  induction entries generalizing prev with
  | nil => cases member
  | cons entry rest ih =>
    rw [List.map_cons, AuditLogEntry.link, links] at member
    rcases List.mem_cons.mp member with rfl | later
    · exact entry.length_content
    · exact ih later

/-- Contents have a fixed size, so that messages without collisions leave links without. -/
theorem collisionFree_of_messages {key : List UInt8} {taken : List (List UInt8 × Digest)}
    (sized : ∀ t ∈ taken, t.1.length = 80)
    (injective : HmacInjectiveOn hmac key (taken.map fun t => t.1 ++ t.2.toList)) :
    CollisionFree (chainMac hmac key) taken := by
  intro p known q known' same
  have message := injective _ (List.mem_map_of_mem known) _ (List.mem_map_of_mem known') same
  obtain ⟨content, prev⟩ := List.append_inj message ((sized p known).trans (sized q known').symm)
  exact Prod.ext content (Vector.toList_inj.mp prev)

theorem verifyChain_true {key : List UInt8} (accepted : auditLogVerifyChain hmac s key = true) :
    key.length ≠ 0 ∧ s.initialised = true := by
  unfold auditLogVerifyChain at accepted
  split at accepted
  · cases accepted
  · rename_i nonempty
    split at accepted
    · cases accepted
    · rename_i ready
      exact ⟨nonempty, by simpa using ready⟩

/-- Until the ring wraps the entries lie in the order of their slots. -/
theorem auditEntries_unwrapped (ready : s.initialised = true) (few : s.writeIndex ≤ 32) :
    auditEntriesFrom s (auditLogGetCount s).toNat = (List.range s.writeIndex.toNat).map s.entries := by
  have bound : s.writeIndex.toNat ≤ 32 := UInt8.le_iff_toNat_le.mp few
  have start : (auditStartIndex s).toNat = 0 := by
    unfold auditStartIndex
    split
    · rename_i full
      rw [UInt8.le_antisymm few full]
      rfl
    · rfl
  have count : (auditLogGetCount s).toNat = s.writeIndex.toNat := by
    unfold auditLogGetCount auditEntriesInUse
    rw [ready, Bool.not_true, if_neg Bool.false_ne_true]
    split
    · rfl
    · rename_i full
      rw [UInt8.le_antisymm few (UInt8.not_lt.mp full)]
  rw [count]
  unfold auditEntriesFrom
  apply List.map_congr_left
  intro i member
  have inside : i < auditLogMaxEntries := Nat.lt_of_lt_of_le (List.mem_range.mp member) bound
  rw [start, Nat.zero_add, Nat.mod_eq_of_lt inside]

theorem lastDigest_range (entries : Nat → AuditLogEntry) {n : Nat} (pos : 0 < n) (prev : Digest) :
    lastDigest prev (((List.range n).map entries).map AuditLogEntry.link) = (entries (n - 1)).chainHmac := by
  obtain ⟨k, rfl⟩ := Nat.exists_eq_add_of_lt pos
  rw [Nat.zero_add, List.range_succ, List.map_append, List.map_append]
  exact lastDigest_concat _ _ _

/-- Two logs of the same number of entries, not wrapped, that both verify and end in the same HMAC are the same. -/
theorem entries_bound {key : List UInt8} {a b : AuditLog σ} (index : a.writeIndex = b.writeIndex)
    (few : a.writeIndex ≤ 32) (injective : HmacInjectiveOn hmac key (auditMessages a ++ auditMessages b))
    (accepted : auditLogVerifyChain hmac a key = true) (accepted' : auditLogVerifyChain hmac b key = true)
    (last : lastChainHmac a = lastChainHmac b) {i : Nat} (inside : i < a.writeIndex.toNat) :
    a.entries i = b.entries i := by
  obtain ⟨nonempty, ready⟩ := verifyChain_true accepted
  obtain ⟨-, ready'⟩ := verifyChain_true accepted'
  rw [verifyChain_iff nonempty ready, auditEntries_unwrapped ready few] at accepted
  rw [verifyChain_iff nonempty ready', auditEntries_unwrapped ready' (index ▸ few), ← index] at accepted'
  unfold auditMessages at injective
  rw [auditEntries_unwrapped ready few, auditEntries_unwrapped ready' (index ▸ few), ← index, ← List.map_append] at injective
  have pos : 0 < a.writeIndex.toNat := by omega
  unfold lastChainHmac at last
  rw [← index] at last
  have ends : lastDigest zeroDigest (((List.range a.writeIndex.toNat).map a.entries).map AuditLogEntry.link) =
      lastDigest zeroDigest (((List.range a.writeIndex.toNat).map b.entries).map AuditLogEntry.link) := by
    rw [lastDigest_range _ pos, lastDigest_range _ pos, last]
  have free := collisionFree_of_messages (fun t member => by
    rcases List.mem_append.mp member with inA | inB
    · exact content_of_mem_links inA
    · exact content_of_mem_links inB) injective
  have same := chained_unique (by simp) accepted accepted' ends free
  have cell := congrArg (fun links => links[i]?) same
  simp only [List.getElem?_map, List.getElem?_range inside, Option.map_some, Option.some.injEq] at cell
  exact AuditLogEntry.link_injective cell

/-- The last HMAC binds the log: logs that verify and agree in it are the same, so what `audit_log_add` has written
cannot be changed behind it. -/
theorem audit_chain_binds (hmac : Hmac) :
    (∀ (key : List UInt8) (a b : AuditLog σ), a.writeIndex = b.writeIndex → a.writeIndex ≤ 32 →
      HmacInjectiveOn hmac key (auditMessages a ++ auditMessages b) → auditLogVerifyChain hmac a key = true →
      auditLogVerifyChain hmac b key = true → lastChainHmac a = lastChainHmac b →
      ∀ i < a.writeIndex.toNat, a.entries i = b.entries i) ∧
    (∀ (save : Option (σ → (Nat → AuditLogEntry) → UInt8 → UInt8 → UInt32 → σ × Bool)) (s : AuditLog σ) (key : Digest)
      (calls : List AuditCall) (b : AuditLog σ), calls.length ≤ 32 →
      let a := finalState (auditStep hmac (some { save := save, load := none })) (keyedAuditLog save s key) calls
      b.writeIndex = a.writeIndex → HmacInjectiveOn hmac key.toList (auditMessages a ++ auditMessages b) →
      lastChainHmac b = lastChainHmac a → (∃ i < calls.length, b.entries i ≠ a.entries i) →
      auditLogVerifyChain hmac b key.toList = false) := by
  refine ⟨fun key a b index few injective accepted accepted' last i inside =>
    entries_bound index few injective accepted accepted' last inside, ?_⟩
  rintro save s key calls b few a index injective last ⟨i, inside, tampered⟩
  obtain ⟨logged, keyed⟩ := logged_keyed hmac save s key
  have run := logged_run (some { save := save, load := none }) logged calls
  have length : (outputs (auditStep hmac (some { save := save, load := none })) (keyedAuditLog save s key) calls).length =
      calls.length := length_outputs calls
  have written : a.writeIndex.toNat = calls.length := by
    have count := run.index_toNat
    rw [length, Nat.mod_eq_of_lt (by omega)] at count
    exact count
  have accepted : auditLogVerifyChain hmac a key.toList = true := by
    refine (run.verifyChain_iff ((run_chainKey hmac _ calls).trans keyed)).mpr (.inl ?_)
    rw [length]
    omega
  have unwrapped : a.writeIndex ≤ 32 := by
    rw [UInt8.le_iff_toNat_le, written]
    exact few
  rw [← Bool.not_eq_true]
  intro accepted'
  exact tampered (entries_bound index.symm unwrapped injective accepted accepted' last.symm (written ▸ inside)).symm

end Verify

/-- The first bytes of the message. -/
def prefixHmac : Hmac := fun _ data => Vector.ofFn fun i => data.getD i 0

def twoEvents : AuditLog Unit :=
  finalState (auditStep prefixHmac (some { save := none, load := none })) (keyedAuditLog none freshAuditLog zeroDigest)
    [{ tamperCall with nowMs := 1 }, { tamperCall with nowMs := 2 }]

def twoEventsTampered : AuditLog Unit :=
  { twoEvents with entries := Function.update twoEvents.entries 0 { twoEvents.entries 0 with sessionId := 9 } }

theorem audit_chain_binds_two_events :
    (∀ i < 2, twoEvents.entries i = ({ twoEvents with authFailureCount := 7 } : AuditLog Unit).entries i) ∧
      auditLogVerifyChain prefixHmac twoEventsTampered zeroDigest.toList = false :=
  ⟨(audit_chain_binds prefixHmac).1 zeroDigest.toList twoEvents { twoEvents with authFailureCount := 7 } rfl (by decide)
      (by unfold HmacInjectiveOn; decide +kernel) (by decide +kernel) (by decide +kernel) rfl,
    (audit_chain_binds prefixHmac).2 none freshAuditLog zeroDigest
      [{ tamperCall with nowMs := 1 }, { tamperCall with nowMs := 2 }] twoEventsTampered (by decide) rfl
      (by unfold HmacInjectiveOn; decide +kernel) (by decide +kernel) ⟨0, by decide, by decide +kernel⟩⟩

end IotPlatform
