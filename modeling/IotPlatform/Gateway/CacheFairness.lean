import IotPlatform.Gateway.Delivery

/-!
# Who waits in the cache

Every flush scans the table from its first entry. What counts for an entry is how many dirty ones stand ahead of it: 22 of
them at every flush keep it waiting for ever.
-/

namespace IotPlatform
open Run

def aheadOf (c : Cache) (key : CacheKey) : List CacheEntry := c.entries.takeWhile fun e => decide (e.key ≠ key)

def CacheEntry.isDirty (e : CacheEntry) : Bool := e.valid && e.dirty

/-- The dirty entries that every scan meets before the key. -/
def dirtyAhead (c : Cache) (key : CacheKey) : Nat := (aheadOf c key).countP CacheEntry.isDirty

/-- The key stands behind the entries `ahead`. -/
structure StandsBehind (c : Cache) (key : CacheKey) (ahead : List CacheEntry) (e : CacheEntry) (behind : List CacheEntry) :
    Prop where
  entries : c.entries = ahead ++ e :: behind
  key_eq : e.key = key
  apart : ∀ other ∈ ahead, other.key ≠ key
  apart' : ∀ other ∈ behind, other.key ≠ key

section Scan

variable {c : Cache} {key : CacheKey} {ahead behind : List CacheEntry} {e : CacheEntry}

theorem Cache.WellFormed.standsBehind (wf : c.WellFormed) (member : e ∈ c.entries) :
    ∃ ahead behind, StandsBehind c e.key ahead e behind := by
  obtain ⟨ahead, behind, split⟩ := List.append_of_mem member
  have distinct := wf.distinct
  rw [split, List.map_append, List.map_cons] at distinct
  obtain ⟨-, tail, disjoint⟩ := List.nodup_append.mp distinct
  refine ⟨ahead, behind, split, rfl, fun other known => ?_, fun other known same => ?_⟩
  · exact disjoint _ (List.mem_map_of_mem known) _ List.mem_cons_self
  · exact (List.nodup_cons.mp tail).1 (same ▸ List.mem_map_of_mem known)

theorem StandsBehind.aheadOf (stands : StandsBehind c key ahead e behind) : IotPlatform.aheadOf c key = ahead := by
  unfold IotPlatform.aheadOf
  rw [stands.entries, List.takeWhile_append_of_pos fun other known => decide_eq_true (stands.apart other known),
    List.takeWhile_cons_of_neg (by simp [stands.key_eq]), List.append_nil]

theorem StandsBehind.length_lt (stands : StandsBehind c key ahead e behind) : ahead.length < c.entries.length := by
  rw [stands.entries, List.length_append, List.length_cons]
  omega

/-- A dirty key is in the next batch exactly when fewer than 22 dirty entries stand ahead of it. -/
theorem StandsBehind.mem_batch_iff {g : Gateway} (stands : StandsBehind g.cache key ahead e behind)
    (dirty : e.isDirty = true) : key ∈ g.batch.map CacheEntry.key ↔ dirtyAhead g.cache key < batchMaxEntries := by
  have scan : g.batch = (ahead.filter CacheEntry.isDirty ++ e :: behind.filter CacheEntry.isDirty).take batchMaxEntries := by
    show (g.cache.entries.filter CacheEntry.isDirty).take batchMaxEntries = _
    rw [stands.entries, List.filter_append, List.filter_cons_of_pos dirty]
  rw [dirtyAhead, stands.aheadOf, List.countP_eq_length_filter, scan, List.take_append]
  constructor
  · intro member
    refine Nat.lt_of_not_le fun crowded => ?_
    rw [Nat.sub_eq_zero_of_le crowded, List.take_zero, List.append_nil] at member
    obtain ⟨other, known, same⟩ := List.mem_map.mp member
    exact stands.apart other (List.mem_of_mem_filter (List.mem_of_mem_take known)) same
  · intro room
    obtain ⟨k, free⟩ := Nat.exists_eq_add_of_lt room
    rw [show batchMaxEntries - (ahead.filter CacheEntry.isDirty).length = k + 1 by omega, List.take_succ_cons]
    simp [stands.key_eq]

/-- A step that keeps the order of the table and adds at its end. -/
theorem StandsBehind.map (stands : StandsBehind c key ahead e behind) {c' : Cache} {f : CacheEntry → CacheEntry}
    {added : List CacheEntry} (entries : c'.entries = c.entries.map f ++ added) (keeps_key : ∀ e, (f e).key = e.key)
    (apart : ∀ other ∈ added, other.key ≠ key) :
    StandsBehind c' key (ahead.map f) (f e) (behind.map f ++ added) where
  entries := by
    rw [entries, stands.entries, List.map_append, List.map_cons, List.append_assoc]
    rfl
  key_eq := (keeps_key e).trans stands.key_eq
  apart := by
    intro other member
    obtain ⟨old, known, rfl⟩ := List.mem_map.mp member
    rw [keeps_key]
    exact stands.apart old known
  apart' := by
    intro other member
    rcases List.mem_append.mp member with inside | new
    · obtain ⟨old, known, rfl⟩ := List.mem_map.mp inside
      rw [keeps_key]
      exact stands.apart' old known
    · exact apart other new

end Scan

/-! ### One write, one flush -/

theorem countP_le_add {α : Type} {p q r : α → Bool} {xs : List α} (covered : ∀ x ∈ xs, p x = true → q x = true ∨ r x = true) :
    xs.countP p ≤ xs.countP q + xs.countP r := by
  induction xs with
  | nil => simp
  | cons x rest ih =>
    have tail := ih fun y member => covered y (List.mem_cons_of_mem _ member)
    have head := covered x List.mem_cons_self
    rw [List.countP_cons, List.countP_cons, List.countP_cons]
    cases found : p x with
    | false =>
      simp only [Bool.false_eq_true, if_false]
      omega
    | true =>
      rcases head found with left | right
      · simp only [left, if_true]
        omega
      · simp only [right, if_true]
        omega

theorem countP_beyond_take {α β : Type} {k : α → β} {p : α → Bool} (n : Nat) {xs : List α} (distinct : (xs.map k).Nodup)
    (beyond : ∀ x ∈ xs, p x = true ↔ k x ∉ (xs.take n).map k) : xs.countP p + min n xs.length = xs.length := by
  have split := List.take_append_drop n xs
  have first : (xs.take n).countP p = 0 := by
    rw [List.countP_eq_zero]
    intro x member later
    exact (beyond x (List.mem_of_mem_take member)).mp later (List.mem_map_of_mem member)
  have others : (xs.drop n).countP p = (xs.drop n).length := by
    rw [List.countP_eq_length]
    intro x member
    rw [← split, List.map_append] at distinct
    obtain ⟨-, -, disjoint⟩ := List.nodup_append.mp distinct
    exact (beyond x (List.mem_of_mem_drop member)).mpr fun early => disjoint _ early _ (List.mem_map_of_mem member) rfl
  have count := congrArg (List.countP p) split
  rw [List.countP_append, first, others, List.length_drop] at count
  omega

section Steps

variable {c : Cache} {key : CacheKey} {ahead behind : List CacheEntry} {e : CacheEntry}

theorem Cache.WellFormed.ahead_nodup (wf : c.WellFormed) (stands : StandsBehind c key ahead e behind) :
    (ahead.map CacheEntry.key).Nodup := by
  have distinct := wf.distinct
  rw [stands.entries, List.map_append] at distinct
  exact (List.nodup_append.mp distinct).1

/-- Of entries with distinct keys a change of value makes at most one dirty. -/
theorem countP_dirty_update {entries : List CacheEntry} (distinct : (entries.map CacheEntry.key).Nodup) (key' : CacheKey)
    (value : Binary32) :
    (entries.map fun e => if e.key = key' then { e with value := value, dirty := true } else e).countP CacheEntry.isDirty ≤
      entries.countP CacheEntry.isDirty + if key' ∈ entries.map CacheEntry.key then 1 else 0 := by
  have once : (entries.countP fun e => e.key == key') = (entries.map CacheEntry.key).count key' := by
    rw [List.count, List.countP_map]
    rfl
  have covered : entries.countP (CacheEntry.isDirty ∘ fun e =>
        if e.key = key' then { e with value := value, dirty := true } else e) ≤
      entries.countP CacheEntry.isDirty + entries.countP fun e => e.key == key' := by
    apply countP_le_add
    intro other _ dirty
    by_cases hit : other.key = key'
    · exact .inr (beq_iff_eq.mpr hit)
    · rw [Function.comp_apply, if_neg hit] at dirty
      exact .inl dirty
  have few := List.nodup_iff_count_le_one.mp distinct key'
  rw [List.countP_map]
  split
  · omega
  · rename_i elsewhere
    have none : (entries.map CacheEntry.key).count key' = 0 := List.count_eq_zero.mpr elsewhere
    omega

theorem cacheWrite_dirtyAhead (wf : c.WellFormed) (stands : StandsBehind c key ahead e behind) (key' : CacheKey)
    (value : Binary32) :
    ∃ ahead' e' behind', StandsBehind (cacheWrite c key' value).1 key ahead' e' behind' ∧
      ahead'.map CacheEntry.key = ahead.map CacheEntry.key ∧
      ahead'.countP CacheEntry.isDirty ≤
        ahead.countP CacheEntry.isDirty + if key' ∈ ahead.map CacheEntry.key then 1 else 0 := by
  rcases cacheWrite_cases wf key' value with same | updated | ⟨absent, added⟩
  · refine ⟨ahead, e, behind, ⟨same.trans stands.entries, stands.key_eq, stands.apart, stands.apart'⟩, rfl, ?_⟩
    omega
  · have keeps_key : ∀ e : CacheEntry, (if e.key = key' then { e with value := value, dirty := true } else e).key = e.key := by
      intro e
      split <;> rfl
    rw [← List.append_nil (List.map _ _)] at updated
    refine ⟨_, _, _, stands.map updated keeps_key (by simp), ?_, ?_⟩
    · rw [List.map_map]
      exact List.map_congr_left fun e _ => keeps_key e
    · exact countP_dirty_update (wf.ahead_nodup stands) key' value
  · have other : key' ≠ key := by
      rintro rfl
      refine absent e ?_ stands.key_eq
      rw [stands.entries]
      simp
    rw [← List.map_id c.entries] at added
    refine ⟨_, _, _, stands.map added (fun _ => rfl) (fun new member => ?_), ?_, ?_⟩
    · rw [List.mem_singleton.mp member]
      exact other
    · rw [List.map_id]
    · rw [List.map_id]
      omega

/-- A confirmed flush that finds 22 dirty entries ahead of the key takes 22 of them away. -/
theorem clearDirtyAll_dirtyAhead {g : Gateway} (wf : g.cache.WellFormed) (stands : StandsBehind g.cache key ahead e behind)
    (crowded : batchMaxEntries ≤ ahead.countP CacheEntry.isDirty) :
    ∃ ahead' e' behind', StandsBehind (clearDirtyAll g.cache g.batch) key ahead' e' behind' ∧
      ahead'.map CacheEntry.key = ahead.map CacheEntry.key ∧
      ahead'.countP CacheEntry.isDirty + batchMaxEntries = ahead.countP CacheEntry.isDirty := by
  have cleared := clearDirtyAll_entries wf g.batch
  rw [← List.append_nil (List.map _ _)] at cleared
  have keeps_key := CacheEntry.cleared_key g.batch
  refine ⟨_, _, _, stands.map cleared keeps_key (by simp), ?_, ?_⟩
  · rw [List.map_map]
    exact List.map_congr_left fun e _ => keeps_key e
  · rw [List.countP_eq_length_filter] at crowded
    have batch : g.batch = (ahead.filter CacheEntry.isDirty).take batchMaxEntries := by
      show (g.cache.entries.filter CacheEntry.isDirty).take batchMaxEntries = _
      rw [stands.entries, List.filter_append, List.take_append_of_le_length crowded]
    have distinct : ((ahead.filter CacheEntry.isDirty).map CacheEntry.key).Nodup :=
      (wf.ahead_nodup stands).sublist (List.filter_sublist.map _)
    have still : ∀ other ∈ ahead.filter CacheEntry.isDirty, (other.cleared g.batch).isDirty = true ↔
        other.key ∉ ((ahead.filter CacheEntry.isDirty).take batchMaxEntries).map CacheEntry.key := by
      intro other member
      have dirty := (List.mem_filter.mp member).2
      rw [← batch]
      unfold CacheEntry.isDirty CacheEntry.cleared at *
      split <;> simp_all
    have beyond := countP_beyond_take batchMaxEntries distinct still
    rw [Nat.min_eq_left crowded, List.countP_filter] at beyond
    rw [List.countP_map, List.countP_eq_length_filter (p := CacheEntry.isDirty), ← beyond]
    congr 2
    funext other
    rw [Function.comp_apply, Bool.eq_iff_iff, Bool.and_eq_true]
    unfold CacheEntry.isDirty CacheEntry.cleared
    split <;> simp_all

end Steps

/-! ### Runs of writes and flushes -/

inductive CacheOp where
  | write (key : CacheKey) (value : Binary32)
  | flush
  deriving DecidableEq

/-- Every send succeeds. -/
def CacheOp.toGatewayOp : CacheOp → GatewayOp
  | .write key value => .cacheWrite key value
  | .flush => .flush fun _ => true

def cacheOpStep (hmac : Hmac) (g : Gateway) (op : CacheOp) : Gateway × Option (List UInt8 × Bool) :=
  gatewayStep hmac g op.toGatewayOp

def readyGateway (ctx : GatewayAuthContext) : Gateway :=
  { gatewayStart true with authCtx := some { ctx with state := .authenticated } }

structure Gateway.Ready (g : Gateway) : Prop where
  wf : g.cache.WellFormed
  fits : g.cache.entries.length ≤ cacheCapacity
  registered : g.sendRegistered = true
  authenticated : ∃ ctx, g.authCtx = some ctx ∧ ctx.state = .authenticated

theorem readyGateway_ready (ctx : GatewayAuthContext) : (readyGateway ctx).Ready where
  wf := cacheInit_wellFormed
  fits := Nat.zero_le _
  registered := rfl
  authenticated := ⟨_, rfl, rfl⟩

theorem cacheWrite_length_le {c : Cache} (fits : c.entries.length ≤ cacheCapacity) (key : CacheKey) (value : Binary32) :
    (cacheWrite c key value).1.entries.length ≤ cacheCapacity := by
  unfold cacheWrite
  split
  · split
    · exact fits
    · rw [Table.length_updateFirst]
      exact fits
  · dsimp only
    split
    · exact fits
    · rename_i room
      rw [List.length_append, List.length_singleton]
      omega

section Runs

variable {hmac : Hmac} {g : Gateway} {key : CacheKey}

def CarriesKey (key : CacheKey) (sent : Option (List UInt8 × Bool)) : Prop :=
  ∃ frame, sent = some (frame, true) ∧ carriedValue frame key ≠ none

theorem Gateway.Ready.flush_cases (ready : g.Ready) (hmac : Hmac) :
    (g.batch = [] ∧ cacheOpStep hmac g .flush = (g, none)) ∨
      ∃ ctx, ctx.state = .authenticated ∧
        cacheOpStep hmac g .flush = (g.afterSend ctx true, some (signedFrame hmac ctx g.batch, true)) := by
  obtain ⟨ctx, auth, authenticated⟩ := ready.authenticated
  unfold cacheOpStep CacheOp.toGatewayOp gatewayStep
  dsimp only
  obtain ⟨idle, outcome⟩ | ⟨sender, sends, outcome⟩ := batchForwarderFlush_cases hmac g fun _ => true
  · refine .inl ⟨Classical.not_not.mp fun some => idle ctx ⟨ready.registered, auth, authenticated, some⟩, ?_⟩
    rw [outcome]
  · refine .inr ⟨sender, sends.2.2.1, ?_⟩
    rw [outcome]

theorem cacheOpStep_ready (hmac : Hmac) (ready : g.Ready) (op : CacheOp) : (cacheOpStep hmac g op).1.Ready := by
  cases op with
  | write key value =>
    exact ⟨cacheWrite_wellFormed ready.wf key value, cacheWrite_length_le ready.fits key value, ready.registered,
      ready.authenticated⟩
  | flush =>
    obtain ⟨-, idle⟩ | ⟨ctx, authenticated, sent⟩ := ready.flush_cases hmac
    · rw [idle]
      exact ready
    · rw [sent]
      refine ⟨clearDirtyAll_wellFormed ready.wf _, ?_, ready.registered, _, rfl, authenticated⟩
      show (clearDirtyAll g.cache g.batch).entries.length ≤ cacheCapacity
      rw [clearDirtyAll_entries ready.wf, List.length_map]
      exact ready.fits

theorem Gateway.Ready.stands_of_dirty (ready : g.Ready) (dirty : cacheIsDirty g.cache key = true) :
    ∃ ahead e behind, StandsBehind g.cache key ahead e behind ∧ e.isDirty = true := by
  obtain ⟨e, member, rfl, flag⟩ := ready.wf.cacheIsDirty_iff.mp dirty
  obtain ⟨ahead, behind, stands⟩ := ready.wf.standsBehind member
  exact ⟨ahead, e, behind, stands, by rw [CacheEntry.isDirty, ready.wf.valid e member, flag]; rfl⟩

/-- A flush carries a dirty key exactly when fewer than 22 dirty entries stand ahead of it. -/
theorem Gateway.Ready.flush_carries (ready : g.Ready) (hmac : Hmac) (dirty : cacheIsDirty g.cache key = true) :
    CarriesKey key (cacheOpStep hmac g .flush).2 ↔ dirtyAhead g.cache key < batchMaxEntries := by
  obtain ⟨ahead, e, behind, stands, flag⟩ := ready.stands_of_dirty dirty
  rw [← stands.mem_batch_iff flag]
  obtain ⟨empty, idle⟩ | ⟨ctx, -, sent⟩ := ready.flush_cases hmac
  · rw [idle, empty]
    constructor
    · rintro ⟨frame, impossible, -⟩
      cases impossible
    · intro member
      cases member
  · rw [sent]
    constructor
    · rintro ⟨frame, same, carried⟩
      obtain ⟨rfl, -⟩ := Prod.mk.inj (Option.some.inj same)
      exact Classical.not_not.mp fun absent => carried ((carriedValue_none hmac ctx).mpr absent)
    · intro member
      exact ⟨_, rfl, fun none => (carriedValue_none hmac ctx).mp none member⟩

/-- `ceil(1024 / 22)`: so many flushes empty a full cache. -/
def drainFlushes : Nat := (cacheCapacity + batchMaxEntries - 1) / batchMaxEntries

def DirtyAtFlushes (hmac : Hmac) (key : CacheKey) (g : Gateway) (window : List CacheOp) : Prop :=
  EachStep (fun g op => op = .flush → cacheIsDirty g.cache key = true) (cacheOpStep hmac) g window

/-- A key that is dirty at all of 47 flushes is carried by one of them. -/
def NotStarved (hmac : Hmac) (key : CacheKey) (g : Gateway) (window : List CacheOp) : Prop :=
  window.count .flush = drainFlushes → DirtyAtFlushes hmac key g window →
    ∃ sent ∈ outputs (cacheOpStep hmac) g window, CarriesKey key sent

/-- At one of the 47 flushes fewer than 22 dirty entries stand ahead of the key. -/
def ReachedByScan (hmac : Hmac) (key : CacheKey) (g : Gateway) (window : List CacheOp) : Prop :=
  window.count .flush = drainFlushes → DirtyAtFlushes hmac key g window →
    ∃ n, window[n]? = some .flush ∧
      dirtyAhead (finalState (cacheOpStep hmac) g (window.take n)).cache key < batchMaxEntries

theorem carried_iff_reached (ready : g.Ready) {window : List CacheOp} (dirty : DirtyAtFlushes hmac key g window) :
    (∃ sent ∈ outputs (cacheOpStep hmac) g window, CarriesKey key sent) ↔
      ∃ n, window[n]? = some .flush ∧
        dirtyAhead (finalState (cacheOpStep hmac) g (window.take n)).cache key < batchMaxEntries := by
  have ready_at : ∀ n, (finalState (cacheOpStep hmac) g (window.take n)).Ready := fun n =>
    finalState_invariant ready (fun _ op ready => cacheOpStep_ready hmac ready op) _
  have dirty_at := eachStep_iff.mp dirty
  constructor
  · rintro ⟨sent, member, carries⟩
    obtain ⟨n, at_n⟩ := List.mem_iff_getElem?.mp member
    rw [getElem?_outputs] at at_n
    obtain ⟨op, op_at, rfl⟩ := Option.map_eq_some_iff.mp at_n
    cases op with
    | write key' value =>
      obtain ⟨frame, impossible, -⟩ := carries
      cases impossible
    | flush => exact ⟨n, op_at, ((ready_at n).flush_carries hmac (dirty_at n _ op_at rfl)).mp carries⟩
  · rintro ⟨n, op_at, room⟩
    refine ⟨_, List.mem_iff_getElem?.mpr ⟨n, ?_⟩, ((ready_at n).flush_carries hmac (dirty_at n _ op_at rfl)).mpr room⟩
    rw [getElem?_outputs, op_at]
    rfl

/-! ### The writes that keep a key waiting -/

def CacheOp.writesIn (keys : List CacheKey) : CacheOp → Bool
  | .write key _ => keys.any fun other => decide (other = key)
  | .flush => false

theorem CacheOp.writesIn_write {keys : List CacheKey} {key : CacheKey} {value : Binary32} :
    (CacheOp.write key value).writesIn keys = true ↔ key ∈ keys := by simp [CacheOp.writesIn]

/-- While every flush finds 22 dirty entries ahead of the key, the flushes are paid for by the entries that were dirty at
the start and the writes ahead of the key since. -/
theorem crowded_flushes_bound (ready : g.Ready) {ahead behind : List CacheEntry} {e : CacheEntry}
    (stands : StandsBehind g.cache key ahead e behind) {window : List CacheOp}
    (crowded : EachStep (fun g op => op = .flush → batchMaxEntries ≤ dirtyAhead g.cache key) (cacheOpStep hmac) g window) :
    batchMaxEntries * window.count .flush ≤
      ahead.countP CacheEntry.isDirty + window.countP (CacheOp.writesIn (ahead.map CacheEntry.key)) := by
  induction window generalizing g ahead e behind with
  | nil => simp
  | cons op rest ih =>
    obtain ⟨now, later⟩ := crowded
    have ready' := cacheOpStep_ready hmac ready op
    cases op with
    | write key' value =>
      obtain ⟨ahead', e', behind', stands', same, few⟩ := cacheWrite_dirtyAhead ready.wf stands key' value
      have bound := ih ready' stands' later
      rw [same] at bound
      rw [List.count_cons_of_ne CacheOp.noConfusion, List.countP_cons]
      simp only [CacheOp.writesIn_write]
      omega
    | flush =>
      have full := now rfl
      rw [dirtyAhead, stands.aheadOf] at full
      obtain ⟨ahead', e', behind', stands', same, fewer⟩ := clearDirtyAll_dirtyAhead ready.wf stands full
      have sent : (cacheOpStep hmac g .flush).1.cache = clearDirtyAll g.cache g.batch := by
        obtain ⟨empty, -⟩ | ⟨ctx, -, sent⟩ := ready.flush_cases hmac
        · obtain ⟨other, known, dirty⟩ := List.countP_pos_iff.mp (Nat.lt_of_lt_of_le (by decide) full)
          have scanned : other ∈ g.cache.entries.filter CacheEntry.isDirty :=
            List.mem_filter.mpr ⟨by rw [stands.entries]; exact List.mem_append_left _ known, dirty⟩
          have none : (g.cache.entries.filter CacheEntry.isDirty).take batchMaxEntries = [] := empty
          rw [List.take_eq_nil_iff] at none
          rcases none with none | none
          · cases none
          · rw [none] at scanned
            cases scanned
        · rw [sent]
          rfl
      have bound := ih ready' (sent ▸ stands') later
      rw [same] at bound
      rw [List.count_cons_self, List.countP_cons_of_neg (by simp [CacheOp.writesIn])]
      rw [Nat.mul_add]
      omega

/-- A key behind which few writes come ahead of it is carried in time. -/
theorem notStarved_of_few_writes (ready : g.Ready) {window : List CacheOp} (start : cacheIsDirty g.cache key = true)
    (few : window.countP (CacheOp.writesIn ((aheadOf g.cache key).map CacheEntry.key)) ≤ 10) :
    NotStarved hmac key g window := by
  intro flushes dirty
  rw [carried_iff_reached ready dirty]
  obtain ⟨ahead, e, behind, stands, -⟩ := ready.stands_of_dirty start
  by_contra unreached
  have crowded : EachStep (fun g op => op = .flush → batchMaxEntries ≤ dirtyAhead g.cache key) (cacheOpStep hmac) g
      window := by
    rw [eachStep_iff]
    rintro n op op_at rfl
    exact Nat.le_of_not_lt fun room => unreached ⟨n, op_at, room⟩
  have bound := crowded_flushes_bound ready stands crowded
  have before : ahead.countP CacheEntry.isDirty ≤ ahead.length := List.countP_le_length
  have short := stands.length_lt
  have fits := ready.fits
  rw [stands.aheadOf] at few
  rw [flushes] at bound
  unfold drainFlushes cacheCapacity batchMaxEntries at bound
  unfold cacheCapacity at fits
  omega

/-- After any run of writes and flushes, a key that stays dirty over 47 flushes is carried by one of them exactly when one
finds fewer than 22 dirty entries ahead of it, and that is so whenever at most ten writes hit the entries ahead of it. -/
theorem cache_fairness_exact (hmac : Hmac) (ctx : GatewayAuthContext) (before window : List CacheOp) (key : CacheKey) :
    let g := finalState (cacheOpStep hmac) (readyGateway ctx) before
    (NotStarved hmac key g window ↔ ReachedByScan hmac key g window) ∧
      (cacheIsDirty g.cache key = true →
        window.countP (CacheOp.writesIn ((aheadOf g.cache key).map CacheEntry.key)) ≤ 10 → NotStarved hmac key g window) := by
  intro g
  have ready : g.Ready :=
    finalState_invariant (readyGateway_ready ctx) (fun _ op ready => cacheOpStep_ready hmac ready op) before
  refine ⟨⟨fun fair flushes dirty => ?_, fun reached flushes dirty => ?_⟩, notStarved_of_few_writes ready⟩
  · exact (carried_iff_reached ready dirty).mp (fair flushes dirty)
  · exact (carried_iff_reached ready dirty).mpr (reached flushes dirty)

end Runs

/-! ### Twenty-two busy keys -/

/-- 1.0 and 2.0. -/
def busyValue (b : Bool) : Binary32 := ⟨if b then 0x3F800000 else 0x40000000⟩

def quietKey : CacheKey := (22, 0)

def busyTable (b dirty : Bool) : List CacheEntry :=
  (List.range 22).map (fun i =>
    { nodeId := UInt16.ofNat i, metricId := 0, value := busyValue b, valid := true, dirty := dirty }) ++
    [{ nodeId := 22, metricId := 0, value := busyValue true, valid := true, dirty := true }]

def busyWrites (b : Bool) : List CacheOp := (List.range 22).map fun i => .write (UInt16.ofNat i, 0) (busyValue b)

def busyStart : List CacheOp := busyWrites true ++ [.write quietKey (busyValue true), .flush]

/-- Before every flush each busy key gets a new value. -/
def busyRounds : Nat → Bool → List CacheOp
  | 0, _ => []
  | n + 1, b => busyWrites b ++ .flush :: busyRounds n (!b)

theorem count_flush_busyRounds (n : Nat) (b : Bool) : (busyRounds n b).count .flush = n := by
  induction n generalizing b with
  | zero => rfl
  | succ n ih =>
    have writes : (busyWrites b).count .flush = 0 := by
      rw [List.count_eq_zero]
      simp [busyWrites]
    rw [busyRounds, List.count_append, List.count_cons_self, ih, writes, Nat.zero_add]

/-- The entries after some writes depend on the entries alone. -/
def writeEntries (entries : List CacheEntry) (op : CacheOp) : List CacheEntry :=
  match op with
  | .write key value => (cacheWrite { entries := entries } key value).1.entries
  | .flush => entries

theorem finalState_writes (hmac : Hmac) {ops : List CacheOp} (writes : .flush ∉ ops) (g : Gateway) :
    (finalState (cacheOpStep hmac) g ops).cache.entries = ops.foldl writeEntries g.cache.entries := by
  induction ops generalizing g with
  | nil => rfl
  | cons op rest ih =>
    obtain ⟨here, later⟩ := not_or.mp (mt List.mem_cons.mpr writes)
    cases op with
    | flush => exact absurd rfl here
    | write key value =>
      have step : (cacheOpStep hmac g (.write key value)).1.cache.entries =
          writeEntries g.cache.entries (.write key value) := by
        show (cacheWrite g.cache key value).1.entries = (cacheWrite { entries := g.cache.entries } key value).1.entries
        unfold cacheWrite findEntry
        dsimp only
        split
        · split <;> rfl
        · split <;> rfl
      rw [finalState, ih later, step, List.foldl_cons]

theorem flush_entries (hmac : Hmac) {g : Gateway} (ready : g.Ready) :
    (cacheOpStep hmac g .flush).1.cache.entries =
      g.cache.entries.map (CacheEntry.cleared ((g.cache.entries.filter CacheEntry.isDirty).take batchMaxEntries)) := by
  obtain ⟨empty, idle⟩ | ⟨ctx, -, sent⟩ := ready.flush_cases hmac
  · have none : (g.cache.entries.filter CacheEntry.isDirty).take batchMaxEntries = [] := empty
    have untouched : CacheEntry.cleared [] = id := funext fun e => if_neg List.not_mem_nil
    rw [idle, none, untouched, List.map_id]
  · rw [sent]
    exact clearDirtyAll_entries ready.wf g.batch

theorem busyWrites_entries : ∀ b, (busyWrites b).foldl writeEntries (busyTable (!b) false) = busyTable b true := by
  decide +kernel

theorem busyTable_flushed : ∀ b,
    (busyTable b true).map (CacheEntry.cleared (((busyTable b true).filter CacheEntry.isDirty).take batchMaxEntries)) =
      busyTable b false := by
  decide +kernel

theorem flush_not_mem_busyWrites (b : Bool) : .flush ∉ busyWrites b := by simp [busyWrites]

/-- The quiet key is dirty at every flush, and 22 busy keys are dirty ahead of it. -/
theorem busyRounds_crowded (hmac : Hmac) {g : Gateway} (ready : g.Ready) {b : Bool}
    (entries : g.cache.entries = busyTable (!b) false) (n : Nat) :
    EachStep (fun g op => op = .flush →
      cacheIsDirty g.cache quietKey = true ∧ ¬dirtyAhead g.cache quietKey < batchMaxEntries) (cacheOpStep hmac) g
      (busyRounds n b) := by
  induction n generalizing g b with
  | zero => trivial
  | succ n ih =>
    have ready' : (finalState (cacheOpStep hmac) g (busyWrites b)).Ready :=
      finalState_invariant ready (fun _ op ready => cacheOpStep_ready hmac ready op) _
    have written : (finalState (cacheOpStep hmac) g (busyWrites b)).cache.entries = busyTable b true := by
      rw [finalState_writes hmac (flush_not_mem_busyWrites b), entries, busyWrites_entries]
    have flushed : (cacheOpStep hmac (finalState (cacheOpStep hmac) g (busyWrites b)) .flush).1.cache.entries =
        busyTable b false := by
      rw [flush_entries hmac ready', written, busyTable_flushed]
    rw [busyRounds, eachStep_append]
    refine ⟨?_, ?_, ih (cacheOpStep_ready hmac ready' .flush) (by rw [flushed, Bool.not_not])⟩
    · rw [eachStep_iff]
      rintro k op at_k rfl
      exact absurd (List.mem_of_getElem? at_k) (flush_not_mem_busyWrites b)
    · intro _
      constructor
      · unfold cacheIsDirty findEntry
        rw [written]
        cases b <;> rfl
      · unfold dirtyAhead aheadOf
        rw [written]
        cases b <;> decide

theorem cache_fairness_exact_quiet_window :
    NotStarved lengthHmac quietKey (finalState (cacheOpStep lengthHmac) (readyGateway sampleContext) busyStart)
      (List.replicate 47 .flush) :=
  (cache_fairness_exact lengthHmac sampleContext busyStart (List.replicate 47 .flush) quietKey).2 (by decide +kernel)
    (by decide +kernel)

/-- The last entry of the table is never sent while the 22 ahead of it change between the flushes. -/
theorem quiet_key_starved :
    ¬∀ (before window : List CacheOp) (key : CacheKey),
      NotStarved lengthHmac key (finalState (cacheOpStep lengthHmac) (readyGateway sampleContext) before) window := by
  intro fair
  have ready : (finalState (cacheOpStep lengthHmac) (readyGateway sampleContext) busyStart).Ready :=
    finalState_invariant (readyGateway_ready sampleContext) (fun _ op ready => cacheOpStep_ready lengthHmac ready op) _
  have entries : (finalState (cacheOpStep lengthHmac) (readyGateway sampleContext) busyStart).cache.entries =
      busyTable (!false) false := by decide +kernel
  have crowded := busyRounds_crowded lengthHmac ready entries drainFlushes
  have dirty : DirtyAtFlushes lengthHmac quietKey
      (finalState (cacheOpStep lengthHmac) (readyGateway sampleContext) busyStart) (busyRounds drainFlushes false) := by
    unfold DirtyAtFlushes
    rw [eachStep_iff] at crowded ⊢
    exact fun n op at_n flush => (crowded n op at_n flush).1
  obtain ⟨n, at_n, reached⟩ := (carried_iff_reached ready dirty).mp
    (fair busyStart (busyRounds drainFlushes false) quietKey (count_flush_busyRounds _ _) dirty)
  exact (eachStep_iff.mp crowded n .flush at_n rfl).2 reached

end IotPlatform
