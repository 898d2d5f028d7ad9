import IotPlatform.Lib.Run
import IotPlatform.Gateway.BatchForwarder

/-!
# No update is lost between the cache and the radio

Runs of cache writes, flushes and changes of the authentication context. A cached value that is not dirty is
the one its key carries in the last confirmed frame that contains the key.
-/

namespace IotPlatform
open Run

/-! ### The frame as the hub's parser reads it -/

theorem batchDecode_signedFrame (hmac : Hmac) (ctx : GatewayAuthContext) {batch : List CacheEntry}
    (small : batch.length ≤ 22) :
    batchDecodeFrameUntrusted (signedFrame hmac ctx batch) (UInt8.ofNat batchMaxEntries) =
      some (batchHeader ctx (UInt8.ofNat batch.length), batch.map CacheEntry.toFrameEntry) := by
  have fits : (batch.map CacheEntry.toFrameEntry).length ≤ (UInt8.ofNat batchMaxEntries).toNat := by
    rw [List.length_map]
    exact small
  refine batchDecode_frame _ _ _ _ rfl rfl ?_ fits (Vector.length_toList ..)
  rw [List.length_map]
  exact toNat_ofNat_length small

def carriedValue (frame : List UInt8) (key : CacheKey) : Option Binary32 :=
  (batchDecodeFrameUntrusted frame (UInt8.ofNat batchMaxEntries)).bind fun (_, entries) =>
    (entries.find? fun e => e.nodeId == key.1 && e.metricId == key.2).map BatchFrameEntry.value

/-- The value carried for a key by the last of the frames that contains it. -/
def lastCarried (frames : List (List UInt8)) (key : CacheKey) : Option Binary32 :=
  frames.reverse.findSome? fun frame => carriedValue frame key

theorem lastCarried_concat (frames : List (List UInt8)) (frame : List UInt8) (key : CacheKey) :
    lastCarried (frames ++ [frame]) key = (carriedValue frame key).or (lastCarried frames key) := by
  rw [lastCarried, List.reverse_append, List.reverse_singleton, List.singleton_append, List.findSome?_cons]
  cases carriedValue frame key <;> rfl

theorem carriedValue_signedFrame (hmac : Hmac) (ctx : GatewayAuthContext) {batch : List CacheEntry}
    (small : batch.length ≤ 22) (key : CacheKey) :
    carriedValue (signedFrame hmac ctx batch) key =
      (batch.find? fun e => decide (e.key = key)).map CacheEntry.value := by
  have same_test : (fun e : BatchFrameEntry => e.nodeId == key.1 && e.metricId == key.2) ∘ CacheEntry.toFrameEntry =
      fun e : CacheEntry => decide (e.key = key) := by
    funext e
    rw [Bool.eq_iff_iff]
    simp [CacheEntry.toFrameEntry, CacheEntry.key, Prod.ext_iff]
  rw [carriedValue, batchDecode_signedFrame hmac ctx small, Option.bind_some]
  dsimp only
  rw [List.find?_map, same_test, Option.map_map]
  rfl

theorem carriedValue_batch (hmac : Hmac) (ctx : GatewayAuthContext) {g : Gateway} (wf : g.cache.WellFormed)
    {e : CacheEntry} (member : e ∈ g.batch) : carriedValue (signedFrame hmac ctx g.batch) e.key = some e.value := by
  rw [carriedValue_signedFrame hmac ctx (length_batch g)]
  cases found : g.batch.find? fun other => decide (other.key = e.key) with
  | none => simpa using List.find?_eq_none.mp found e member
  | some other =>
    have same : other.key = e.key := by simpa using List.find?_some found
    have other_member := (mem_batch (List.mem_of_find?_eq_some found)).1
    rw [List.inj_on_of_nodup_map wf.distinct other_member (mem_batch member).1 same]
    rfl

theorem carriedValue_none (hmac : Hmac) (ctx : GatewayAuthContext) {g : Gateway} {key : CacheKey} :
    carriedValue (signedFrame hmac ctx g.batch) key = none ↔ key ∉ g.batch.map CacheEntry.key := by
  rw [carriedValue_signedFrame hmac ctx (length_batch g), Option.map_eq_none_iff, List.find?_eq_none]
  simp

/-! ### Clearing the flags of a batch -/

theorem clearDirtyAll_wellFormed {c : Cache} (wf : c.WellFormed) (sent : List CacheEntry) :
    (clearDirtyAll c sent).WellFormed := by
  induction sent generalizing c with
  | nil => exact wf
  | cons e rest ih => exact ih (cacheClearDirty_wellFormed wf e.key)

def CacheEntry.cleared (sent : List CacheEntry) (e : CacheEntry) : CacheEntry :=
  if e.key ∈ sent.map CacheEntry.key then { e with dirty := false } else e

@[simp] theorem CacheEntry.cleared_key (sent : List CacheEntry) (e : CacheEntry) : (e.cleared sent).key = e.key := by
  unfold CacheEntry.cleared
  split <;> rfl

@[simp] theorem CacheEntry.cleared_value (sent : List CacheEntry) (e : CacheEntry) :
    (e.cleared sent).value = e.value := by
  unfold CacheEntry.cleared
  split <;> rfl

theorem CacheEntry.cleared_dirty (sent : List CacheEntry) (e : CacheEntry) :
    (e.cleared sent).dirty = true ↔ e.dirty = true ∧ e.key ∉ sent.map CacheEntry.key := by
  unfold CacheEntry.cleared
  split <;> simp_all

theorem clearDirtyAll_entries {c : Cache} (wf : c.WellFormed) (sent : List CacheEntry) :
    (clearDirtyAll c sent).entries = c.entries.map (CacheEntry.cleared sent) := by
  induction sent generalizing c with
  | nil =>
    have untouched : CacheEntry.cleared [] = id := funext fun e => if_neg List.not_mem_nil
    rw [untouched, List.map_id]
    rfl
  | cons first rest ih =>
    have tail := ih (cacheClearDirty_wellFormed wf first.key)
    rw [cacheClearDirty_entries wf, List.map_map] at tail
    refine tail.trans (List.map_congr_left fun e _ => ?_)
    by_cases same : e.key = first.key
    · have marked : e.cleared (first :: rest) = { e with dirty := false } := if_pos (by simp [same])
      rw [Function.comp_apply, if_pos same, marked, CacheEntry.cleared]
      split <;> rfl
    · rw [Function.comp_apply, if_neg same]
      simp [CacheEntry.cleared, same]

theorem clearDirtyAll_lookup {c : Cache} (wf : c.WellFormed) (sent : List CacheEntry) (key : CacheKey) :
    cacheRead (clearDirtyAll c sent) key = cacheRead c key ∧
      (cacheIsDirty (clearDirtyAll c sent) key = true ↔
        cacheIsDirty c key = true ∧ key ∉ sent.map CacheEntry.key) := by
  have wf' := clearDirtyAll_wellFormed wf sent
  constructor
  · refine Option.ext fun value => ?_
    rw [wf'.cacheRead_eq_some, wf.cacheRead_eq_some, clearDirtyAll_entries wf]
    simp
  · rw [wf'.cacheIsDirty_iff, wf.cacheIsDirty_iff, clearDirtyAll_entries wf]
    constructor
    · rintro ⟨e, member, same, dirty⟩
      obtain ⟨old, old_member, rfl⟩ := List.mem_map.mp member
      obtain ⟨was_dirty, unsent⟩ := (old.cleared_dirty sent).mp dirty
      rw [CacheEntry.cleared_key] at same
      exact ⟨⟨old, old_member, same, was_dirty⟩, same ▸ unsent⟩
    · rintro ⟨⟨old, old_member, same, was_dirty⟩, unsent⟩
      refine ⟨_, List.mem_map_of_mem old_member, (old.cleared_key sent).trans same, ?_⟩
      exact (old.cleared_dirty sent).mpr ⟨was_dirty, same ▸ unsent⟩

/-! ### Runs -/

inductive GatewayOp where
  | cacheWrite (key : CacheKey) (value : Binary32)
  | flush (send : List UInt8 → Bool)
  | setState (state : GatewayAuthState)
  | setAuth (ctx : Option GatewayAuthContext)

/-- The output of a step is the frame it handed to the radio, with the radio's answer. -/
def gatewayStep (hmac : Hmac) (g : Gateway) : GatewayOp → Gateway × Option (List UInt8 × Bool)
  | .cacheWrite key value => ({ g with cache := (cacheWrite g.cache key value).1 }, none)
  | .flush send => ((batchForwarderFlush hmac g send).gateway, (batchForwarderFlush hmac g send).sent)
  | .setState state => ({ g with authCtx := g.authCtx.map (gatewaySetState · state) }, none)
  | .setAuth ctx => (batchForwarderSetAuth g ctx, none)

def gatewayStart (sendFunc : Bool) : Gateway := batchForwarderInit { cache := cacheInit } sendFunc

def confirmedFrames (history : List (Option (List UInt8 × Bool))) : List (List UInt8) :=
  history.filterMap fun
    | some (frame, true) => some frame
    | _ => none

/-- Every entry is dirty or was last confirmed with its present value. -/
structure Forwarded (g : Gateway) (history : List (Option (List UInt8 × Bool))) : Prop where
  wf : g.cache.WellFormed
  confirmed : ∀ e ∈ g.cache.entries,
    e.dirty = true ∨ lastCarried (confirmedFrames history) e.key = some e.value

theorem confirmedFrames_none (history : List (Option (List UInt8 × Bool))) :
    confirmedFrames (history ++ [none]) = confirmedFrames history := by simp [confirmedFrames]

theorem Forwarded.cacheWrite {g : Gateway} {history : List (Option (List UInt8 × Bool))} (inv : Forwarded g history)
    (key : CacheKey) (value : Binary32) :
    Forwarded { g with cache := (cacheWrite g.cache key value).1 } (history ++ [none]) := by
  refine ⟨cacheWrite_wellFormed inv.wf key value, fun e member => ?_⟩
  rw [confirmedFrames_none]
  rcases cacheWrite_cases inv.wf key value with same | updated | ⟨-, added⟩
  · exact inv.confirmed e (same ▸ member)
  · obtain ⟨old, old_member, rfl⟩ := List.mem_map.mp (updated ▸ member)
    split
    · exact .inl rfl
    · exact inv.confirmed old old_member
  · rcases List.mem_append.mp (added ▸ member) with old | new
    · exact inv.confirmed e old
    · rw [List.mem_singleton.mp new]
      exact .inl rfl

theorem Forwarded.confirmedSend {g : Gateway} {history : List (Option (List UInt8 × Bool))} (inv : Forwarded g history)
    (hmac : Hmac) (ctx : GatewayAuthContext) :
    Forwarded (g.afterSend ctx true) (history ++ [some (signedFrame hmac ctx g.batch, true)]) := by
  have frames : confirmedFrames (history ++ [some (signedFrame hmac ctx g.batch, true)]) =
      confirmedFrames history ++ [signedFrame hmac ctx g.batch] := by simp [confirmedFrames]
  refine ⟨clearDirtyAll_wellFormed inv.wf g.batch, fun e member => ?_⟩
  rw [frames, lastCarried_concat]
  have entries := clearDirtyAll_entries inv.wf g.batch
  obtain ⟨old, old_member, rfl⟩ := List.mem_map.mp (entries ▸ member)
  rw [CacheEntry.cleared_key, CacheEntry.cleared_value, CacheEntry.cleared_dirty]
  by_cases sent : old.key ∈ g.batch.map CacheEntry.key
  · obtain ⟨carrier, carrier_member, same⟩ := List.mem_map.mp sent
    have identical : carrier = old :=
      List.inj_on_of_nodup_map inv.wf.distinct (mem_batch carrier_member).1 old_member same
    right
    rw [← identical, carriedValue_batch hmac ctx inv.wf carrier_member, Option.some_or]
  · rw [(carriedValue_none hmac ctx).mpr sent, Option.none_or]
    exact (inv.confirmed old old_member).imp_left fun dirty => ⟨dirty, sent⟩

theorem gatewayStep_forwarded (hmac : Hmac) (g : Gateway) (history : List (Option (List UInt8 × Bool))) (op : GatewayOp)
    (inv : Forwarded g history) : Forwarded (gatewayStep hmac g op).1 (history ++ [(gatewayStep hmac g op).2]) := by
  cases op with
  | cacheWrite key value => exact inv.cacheWrite key value
  | setState state => exact ⟨inv.wf, (confirmedFrames_none history).symm ▸ inv.confirmed⟩
  | setAuth ctx => exact ⟨inv.wf, (confirmedFrames_none history).symm ▸ inv.confirmed⟩
  | flush send =>
    rw [gatewayStep]
    obtain ⟨-, idle⟩ | ⟨ctx, -, sent⟩ := batchForwarderFlush_cases hmac g send
    · rw [idle]
      exact ⟨inv.wf, (confirmedFrames_none history).symm ▸ inv.confirmed⟩
    · rw [sent]
      cases send (signedFrame hmac ctx g.batch) with
      | true => exact inv.confirmedSend hmac ctx
      | false =>
        have frames : confirmedFrames (history ++ [some (signedFrame hmac ctx g.batch, false)]) =
            confirmedFrames history := by simp [confirmedFrames]
        exact ⟨inv.wf, frames.symm ▸ inv.confirmed⟩

/-- What a flush that was not confirmed leaves alone, and what a confirmed one changes. -/
structure FlushFrameConditions (g : Gateway) (o : FlushOutcome) : Prop where
  not_sent : (∀ ctx, g.authCtx = some ctx → ctx.state ≠ .authenticated) ∨ (∀ key, cacheIsDirty g.cache key = false) →
    o.sent = none
  unconfirmed : (∀ frame, o.sent ≠ some (frame, true)) → o.gateway.cache = g.cache ∧ o.gateway.authCtx = g.authCtx
  confirmed : ∀ frame, o.sent = some (frame, true) →
    (∀ key, cacheRead o.gateway.cache key = cacheRead g.cache key) ∧
    (∀ key, cacheIsDirty o.gateway.cache key = true ↔ cacheIsDirty g.cache key = true ∧ carriedValue frame key = none) ∧
    (∀ key, carriedValue frame key ≠ none → cacheIsDirty g.cache key = true) ∧
    ∃ ctx, g.authCtx = some ctx ∧ o.gateway.authCtx = some { ctx with txSequence := ctx.txSequence + 1 }

theorem batch_key_dirty {g : Gateway} (wf : g.cache.WellFormed) {key : CacheKey}
    (member : key ∈ g.batch.map CacheEntry.key) : cacheIsDirty g.cache key = true := by
  obtain ⟨e, e_member, same⟩ := List.mem_map.mp member
  obtain ⟨present, -, dirty⟩ := mem_batch e_member
  exact wf.cacheIsDirty_iff.mpr ⟨e, present, same, dirty⟩

theorem batchForwarderFlush_frame (hmac : Hmac) {g : Gateway} (wf : g.cache.WellFormed) (send : List UInt8 → Bool) :
    FlushFrameConditions g (batchForwarderFlush hmac g send) := by
  obtain ⟨-, idle⟩ | ⟨ctx, ⟨-, auth, authenticated, nonempty⟩, sent⟩ := batchForwarderFlush_cases hmac g send
  · rw [idle]
    exact ⟨fun _ => rfl, fun _ => ⟨rfl, rfl⟩, fun frame impossible => nomatch impossible⟩
  · rw [sent]
    refine ⟨fun blocked => ?_, fun unconfirmed => ?_, fun frame confirmed => ?_⟩
    · exfalso
      rcases blocked with unauthenticated | clean
      · exact unauthenticated ctx auth authenticated
      · obtain ⟨e, member⟩ := List.exists_mem_of_ne_nil _ nonempty
        have dirty := batch_key_dirty wf (List.mem_map_of_mem member)
        rw [clean] at dirty
        cases dirty
    · have failed : send (signedFrame hmac ctx g.batch) = false := by
        cases answer : send (signedFrame hmac ctx g.batch) with
        | true => exact absurd (by rw [answer]) (unconfirmed (signedFrame hmac ctx g.batch))
        | false => rfl
      rw [failed]
      exact ⟨rfl, auth.symm⟩
    · obtain ⟨rfl, answer⟩ := Prod.mk.inj (Option.some.inj confirmed)
      rw [answer]
      refine ⟨fun key => (clearDirtyAll_lookup wf g.batch key).1, fun key => ?_, fun key carried => ?_, ctx, auth, rfl⟩
      · rw [carriedValue_none]
        exact (clearDirtyAll_lookup wf g.batch key).2
      · exact batch_key_dirty wf (not_not.mp fun absent => carried ((carriedValue_none hmac ctx).mpr absent))

/-- At every moment of every run each cached key is dirty or holds the value its last confirmed frame carried,
and the next flush, whatever the radio answers, keeps to its frame conditions. -/
theorem no_lost_update (hmac : Hmac) (sendFunc : Bool) (ops : List GatewayOp) :
    let g := finalState (gatewayStep hmac) (gatewayStart sendFunc) ops
    let history := outputs (gatewayStep hmac) (gatewayStart sendFunc) ops
    (∀ key value, cacheRead g.cache key = some value →
      cacheIsDirty g.cache key = true ∨ lastCarried (confirmedFrames history) key = some value) ∧
    ∀ send, FlushFrameConditions g (batchForwarderFlush hmac g send) := by
  have start : Forwarded (gatewayStart sendFunc) [] :=
    ⟨cacheInit_wellFormed, fun _ member => absurd member List.not_mem_nil⟩
  have inv := history_invariant start (gatewayStep_forwarded hmac) ops
  refine ⟨fun key value read => ?_, batchForwarderFlush_frame hmac inv.wf⟩
  obtain ⟨e, member, rfl, rfl⟩ := inv.wf.cacheRead_eq_some.mp read
  exact (inv.confirmed e member).imp_left fun dirty => inv.wf.cacheIsDirty_iff.mpr ⟨e, member, rfl, dirty⟩

end IotPlatform
