import Mathlib.Data.List.Induction
import IotPlatform.Gateway.Delivery
import IotPlatform.Gateway.DeltaFilter

/-!
# How far the forwarded values are behind

Runs of a gateway between the edge and the radio: thresholds are set, frames of the edge come in, batches are flushed. What
the filter holds back stays near the cached value, and what the cache holds was forwarded or waits to be.
-/

namespace IotPlatform
open Table Bytes Run

structure FogGateway where
  filter : DeltaFilter
  gateway : Gateway

inductive FogOp where
  | filterInit
  | setThreshold (metricId : UInt8) (absThreshold : Binary32)
  | receive (wire : List UInt8)
  | flush (send : List UInt8 → Bool)
  | setState (state : GatewayAuthState)
  | setAuth (ctx : Option GatewayAuthContext)

/-- A reading from the edge and the threshold it met. -/
structure EdgeArrival where
  key : CacheKey
  value : Binary32
  threshold : Option Binary32
  deriving DecidableEq

structure FogEvent where
  arrived : Option EdgeArrival := none
  handed : Option (List UInt8 × Bool) := none

def edgeArrival (f : DeltaFilter) (wire : List UInt8) : Option EdgeArrival :=
  (edgeFrameReading wire).map fun (key, value) =>
    { key := key, value := value, threshold := (findThreshold f key.2).map DeltaThreshold.absThreshold }

def fogStep (hmac : Hmac) (s : FogGateway) : FogOp → FogGateway × FogEvent
  | .filterInit => ({ s with filter := deltaFilterInit }, {})
  | .setThreshold metricId absThreshold =>
    ({ s with filter := (deltaFilterSetThreshold s.filter metricId absThreshold).1 }, {})
  | .receive wire =>
    ({ s with gateway := { s.gateway with cache := gatewayReceiveEdgeFrame s.filter s.gateway.cache wire } },
      { arrived := edgeArrival s.filter wire })
  | .flush send =>
    ({ s with gateway := (gatewayStep hmac s.gateway (.flush send)).1 },
      { handed := (gatewayStep hmac s.gateway (.flush send)).2 })
  | .setState state => ({ s with gateway := (gatewayStep hmac s.gateway (.setState state)).1 }, {})
  | .setAuth ctx => ({ s with gateway := (gatewayStep hmac s.gateway (.setAuth ctx)).1 }, {})

def fogStart (sendFunc : Bool) : FogGateway := { filter := deltaFilterInit, gateway := gatewayStart sendFunc }

def handedFrames (events : List FogEvent) : List (Option (List UInt8 × Bool)) := events.map FogEvent.handed

def edgeArrivals (events : List FogEvent) : List EdgeArrival := events.filterMap FogEvent.arrived

/-- The newest reading of a key that was compared with a threshold. -/
def newestFiltered (events : List FogEvent) (key : CacheKey) : Option EdgeArrival :=
  (edgeArrivals events).reverse.find? fun arrival => arrival.key = key ∧ arrival.threshold ≠ none

/-- The reading is the cached value, or not away from it by more than the threshold that it met. -/
def EdgeArrival.Near (arrival : EdgeArrival) (cached : Binary32) : Prop :=
  arrival.value = cached ∨ Binary32.eq cached arrival.value = true ∨
    ∀ threshold ∈ arrival.threshold, Binary32.lt threshold (fabsf (Binary32.sub arrival.value cached)) = false

/-! ### One reading -/

/-- What the intake makes of a frame: nothing is read, or it is kept near the cached value, or it is written. -/
theorem gatewayReceiveEdgeFrame_cases (f : DeltaFilter) (c : Cache) (wire : List UInt8) :
    (gatewayReceiveEdgeFrame f c wire = c ∧ ∀ arrival ∈ edgeArrival f wire, arrival.threshold ≠ none →
        ∃ cached, cacheRead c arrival.key = some cached ∧ arrival.Near cached) ∨
      ∃ arrival, edgeArrival f wire = some arrival ∧ arrival.threshold ≠ none ∧
        gatewayReceiveEdgeFrame f c wire = (cacheWrite c arrival.key arrival.value).1 ∧
        ∀ cached ∈ cacheRead c arrival.key, ∀ threshold ∈ arrival.threshold,
          Binary32.lt threshold (fabsf (Binary32.sub arrival.value cached)) = true := by
  rw [gatewayReceiveEdgeFrame, edgeArrival]
  cases edgeFrameReading wire with
  | none => exact .inl ⟨rfl, fun _ impossible => nomatch impossible⟩
  | some reading =>
    obtain ⟨key, value⟩ := reading
    dsimp only [Option.map_some]
    rw [deltaFilterEvaluate]
    cases findThreshold f key.2 with
    | none => exact .inl ⟨rfl, by simp⟩
    | some t =>
      dsimp only
      cases read : cacheRead c key with
      | none => exact .inr ⟨_, rfl, by simp, rfl, by simp [read]⟩
      | some cached =>
        dsimp only
        cases beyond : Binary32.lt t.absThreshold (fabsf (Binary32.sub value cached)) with
        | true => exact .inr ⟨_, rfl, by simp, rfl, by simp [read, beyond]⟩
        | false =>
          refine .inl ⟨rfl, ?_⟩
          rintro _ ⟨⟩ -
          exact ⟨cached, read, .inr (.inr (by simp [beyond]))⟩

/-! ### Every run -/

/-- What a cached value stands for: a reading that came in, and one that the newest compared reading is near to. -/
structure Deadband (s : FogGateway) (events : List FogEvent) : Prop where
  forwarded : Forwarded s.gateway (handedFrames events)
  stored : ∀ key cached, cacheRead s.gateway.cache key = some cached →
    ∃ arrival ∈ edgeArrivals events, arrival.key = key ∧ arrival.value = cached
  near : ∀ key cached, cacheRead s.gateway.cache key = some cached →
    ∃ arrival, newestFiltered events key = some arrival ∧ arrival.Near cached

theorem newestFiltered_concat (events : List FogEvent) (event : FogEvent) (key : CacheKey) :
    newestFiltered (events ++ [event]) key =
      match event.arrived with
      | none => newestFiltered events key
      | some arrival =>
        if arrival.key = key ∧ arrival.threshold ≠ none then some arrival else newestFiltered events key := by
  cases arrived : event.arrived with
  | none => simp [newestFiltered, edgeArrivals, arrived]
  | some arrival =>
    simp only [newestFiltered, edgeArrivals, List.filterMap_append, List.filterMap_cons, arrived, List.filterMap_nil,
      List.reverse_append, List.reverse_singleton, List.singleton_append, List.find?_cons]
    by_cases own : arrival.key = key ∧ arrival.threshold ≠ none
    · rw [if_pos own, decide_eq_true own]
    · rw [if_neg own, decide_eq_false own]

theorem edgeArrivals_concat (events : List FogEvent) (event : FogEvent) :
    edgeArrivals (events ++ [event]) = edgeArrivals events ++ event.arrived.toList := by
  cases arrived : event.arrived <;> simp [edgeArrivals, arrived]

theorem handedFrames_concat (events : List FogEvent) (event : FogEvent) :
    handedFrames (events ++ [event]) = handedFrames events ++ [event.handed] := List.map_append

/-- A step without a reading that keeps what is cached. -/
theorem Deadband.quiet {s s' : FogGateway} {events : List FogEvent} {event : FogEvent} (inv : Deadband s events)
    (silent : event.arrived = none) (forwarded : Forwarded s'.gateway (handedFrames events ++ [event.handed]))
    (same : ∀ key, cacheRead s'.gateway.cache key = cacheRead s.gateway.cache key) :
    Deadband s' (events ++ [event]) where
  forwarded := handedFrames_concat events event ▸ forwarded
  stored := by
    intro key cached read
    rw [edgeArrivals_concat, silent, Option.toList_none, List.append_nil]
    exact inv.stored key cached (same key ▸ read)
  near := by
    intro key cached read
    rw [newestFiltered_concat, silent]
    exact inv.near key cached (same key ▸ read)

theorem batchForwarderFlush_cacheRead (hmac : Hmac) {g : Gateway} (wf : g.cache.WellFormed) (send : List UInt8 → Bool)
    (key : CacheKey) : cacheRead (batchForwarderFlush hmac g send).gateway.cache key = cacheRead g.cache key := by
  obtain ⟨-, idle⟩ | ⟨ctx, -, sent⟩ := batchForwarderFlush_cases hmac g send
  · rw [idle]
  · rw [sent, Gateway.afterSend]
    cases send (signedFrame hmac ctx g.batch) with
    | true => exact (clearDirtyAll_lookup wf g.batch key).1
    | false => rfl

/-- What stands in the cache under the key of a write, and where it comes from. -/
theorem cacheRead_written {c : Cache} {key : CacheKey} {value cached : Binary32}
    (read : cacheRead (cacheWrite c key value).1 key = some cached) :
    value = cached ∨ Binary32.eq cached value = true ∧ cacheRead c key = some cached := by
  rw [cacheRead_cacheWrite, if_pos rfl] at read
  cases before : cacheRead c key with
  | none =>
    rw [before] at read
    dsimp only at read
    split at read
    · cases read
    · exact .inl (Option.some.inj read)
  | some old =>
    rw [before] at read
    dsimp only at read
    split at read
    · obtain rfl := Option.some.inj read
      exact .inr ⟨‹_›, rfl⟩
    · exact .inl (Option.some.inj read)

theorem Deadband.receive {s : FogGateway} {events : List FogEvent} (inv : Deadband s events) (hmac : Hmac) (wire : List UInt8) :
    Deadband (fogStep hmac s (.receive wire)).1 (events ++ [(fogStep hmac s (.receive wire)).2]) := by
  have earlier : ∀ {key cached}, cacheRead s.gateway.cache key = some cached → ∃ arrival ∈ edgeArrivals (events ++
      [(fogStep hmac s (.receive wire)).2]), arrival.key = key ∧ arrival.value = cached := by
    intro key cached read
    obtain ⟨arrival, member, found⟩ := inv.stored key cached read
    exact ⟨arrival, edgeArrivals_concat events _ ▸ List.mem_append_left _ member, found⟩
  rw [fogStep] at earlier ⊢
  obtain ⟨kept, held⟩ | ⟨arrival, arrived, filtered, written, beyond⟩ :=
    gatewayReceiveEdgeFrame_cases s.filter s.gateway.cache wire
  · rw [kept]
    refine ⟨?_, fun key cached read => earlier read, fun key cached read => ?_⟩
    · rw [handedFrames_concat]
      exact ⟨inv.forwarded.wf, (confirmedFrames_none _).symm ▸ inv.forwarded.confirmed⟩
    · rw [newestFiltered_concat]
      cases arrived : edgeArrival s.filter wire with
      | none => exact inv.near key cached read
      | some arrival =>
        dsimp only
        split
        · rename_i own
          obtain ⟨old, before, near⟩ := held arrival arrived own.2
          rw [own.1, read] at before
          obtain rfl := Option.some.inj before
          exact ⟨arrival, rfl, near⟩
        · exact inv.near key cached read
  · rw [written, arrived] at earlier ⊢
    refine ⟨?_, fun key cached read => ?_, fun key cached read => ?_⟩
    · rw [handedFrames_concat]
      exact inv.forwarded.cacheWrite arrival.key arrival.value
    · by_cases own : arrival.key = key
      · subst own
        rcases cacheRead_written read with stored | ⟨-, before⟩
        · refine ⟨arrival, ?_, rfl, stored⟩
          rw [edgeArrivals_concat]
          exact List.mem_append_right _ (List.mem_singleton_self _)
        · exact earlier before
      · rw [cacheRead_cacheWrite, if_neg own] at read
        exact earlier read
    · rw [newestFiltered_concat]
      dsimp only
      by_cases own : arrival.key = key
      · subst own
        rw [if_pos ⟨rfl, filtered⟩]
        exact ⟨arrival, rfl, (cacheRead_written read).imp_right fun kept => .inl kept.1⟩
      · rw [cacheRead_cacheWrite, if_neg own] at read
        rw [if_neg fun both => own both.1]
        exact inv.near key cached read

theorem fogStep_deadband (hmac : Hmac) (s : FogGateway) (events : List FogEvent) (op : FogOp) (inv : Deadband s events) :
    Deadband (fogStep hmac s op).1 (events ++ [(fogStep hmac s op).2]) := by
  have unsent : Forwarded s.gateway (handedFrames events ++ [none]) :=
    ⟨inv.forwarded.wf, (confirmedFrames_none _).symm ▸ inv.forwarded.confirmed⟩
  cases op with
  | filterInit => exact inv.quiet rfl unsent fun _ => rfl
  | setThreshold metricId absThreshold => exact inv.quiet rfl unsent fun _ => rfl
  | receive wire => exact inv.receive hmac wire
  | flush send =>
    exact inv.quiet rfl (gatewayStep_forwarded hmac s.gateway _ (.flush send) inv.forwarded)
      (batchForwarderFlush_cacheRead hmac inv.forwarded.wf send)
  | setState state =>
    exact inv.quiet rfl (gatewayStep_forwarded hmac s.gateway _ (.setState state) inv.forwarded) fun _ => rfl
  | setAuth ctx =>
    exact inv.quiet rfl (gatewayStep_forwarded hmac s.gateway _ (.setAuth ctx) inv.forwarded) fun _ => rfl

theorem fogRun_deadband (hmac : Hmac) (sendFunc : Bool) (ops : List FogOp) :
    Deadband (finalState (fogStep hmac) (fogStart sendFunc) ops) (outputs (fogStep hmac) (fogStart sendFunc) ops) := by
  have start : Deadband (fogStart sendFunc) [] :=
    ⟨⟨cacheInit_wellFormed, fun _ member => absurd member List.not_mem_nil⟩, fun _ _ impossible => (nomatch impossible),
      fun _ _ impossible => (nomatch impossible)⟩
  exact history_invariant start (fogStep_deadband hmac) ops

/-- The frame of node 5 for its gateway 240 with a value of metric 31. -/
def edgeWire (value : Binary32) : List UInt8 :=
  (rs485CreateFrame { destAddr := 0, srcAddr := 0, payloadLen := 0, payload := .replicate 128 0 } 240 5
    ([5, 31] ++ leBytes 4 value.bits.toNat)).wire

theorem not_nan_of_lt_fabsf {threshold value cached : Binary32}
    (beyond : Binary32.lt threshold (fabsf (Binary32.sub value cached)) = true) :
    value.isNaN = false ∧ cached.isNaN = false := by
  have difference : (Binary32.sub value cached).isNaN = false := by
    have magnitude : (fabsf (Binary32.sub value cached)).magnitude = (Binary32.sub value cached).magnitude :=
      Binary32.magnitude_ofParts false (Nat.mod_lt _ (by decide))
    cases nan : (Binary32.sub value cached).isNaN with
    | false => rfl
    | true =>
      rw [Binary32.isNaN, ← magnitude] at nan
      rw [Binary32.lt_nan_right nan] at beyond
      cases beyond
  rw [Binary32.sub] at difference
  cases first : value.isNaN with
  | true =>
    rw [first, Bool.true_or, if_pos rfl, Binary32.isNaN_nan] at difference
    cases difference
  | false =>
    cases second : cached.isNaN with
    | true =>
      rw [second, Bool.or_true, if_pos rfl, Binary32.isNaN_nan] at difference
      cases difference
    | false => exact ⟨rfl, rfl⟩

/-- A NaN compares with nothing: it is not written over a value, and no value is written over it. -/
theorem gatewayReceiveEdgeFrame_nan {c : Cache} {key : CacheKey} {cached : Binary32} (read : cacheRead c key = some cached)
    (f : DeltaFilter) (wire : List UInt8) :
    ∃ later, cacheRead (gatewayReceiveEdgeFrame f c wire) key = some later ∧ later.isNaN = cached.isNaN ∧
      (cached.isNaN = true → later = cached) := by
  obtain ⟨kept, -⟩ | ⟨arrival, -, filtered, written, beyond⟩ := gatewayReceiveEdgeFrame_cases f c wire
  · exact ⟨cached, kept.symm ▸ read, rfl, fun _ => rfl⟩
  · rw [written, cacheRead_cacheWrite]
    split
    · rename_i own
      subst own
      obtain ⟨threshold, met⟩ := Option.ne_none_iff_exists'.mp filtered
      obtain ⟨number, number'⟩ := not_nan_of_lt_fabsf (beyond cached read threshold met)
      rw [read]
      dsimp only
      split
      · exact ⟨cached, rfl, rfl, fun _ => rfl⟩
      · refine ⟨arrival.value, rfl, number.trans number'.symm, fun nan => ?_⟩
        rw [number'] at nan
        cases nan
    · exact ⟨cached, read, rfl, fun _ => rfl⟩

theorem fogStep_nan (hmac : Hmac) {s : FogGateway} (wf : s.gateway.cache.WellFormed) {key : CacheKey} {cached : Binary32}
    (read : cacheRead s.gateway.cache key = some cached) (op : FogOp) :
    ∃ later, cacheRead (fogStep hmac s op).1.gateway.cache key = some later ∧ later.isNaN = cached.isNaN ∧
      (cached.isNaN = true → later = cached) := by
  cases op with
  | receive wire => exact gatewayReceiveEdgeFrame_nan read s.filter wire
  | flush send => exact ⟨cached, (batchForwarderFlush_cacheRead hmac wf send key).trans read, rfl, fun _ => rfl⟩
  | filterInit => exact ⟨cached, read, rfl, fun _ => rfl⟩
  | setThreshold metricId absThreshold => exact ⟨cached, read, rfl, fun _ => rfl⟩
  | setState state => exact ⟨cached, read, rfl, fun _ => rfl⟩
  | setAuth ctx => exact ⟨cached, read, rfl, fun _ => rfl⟩

/-- Whether a key holds a NaN is settled by the first value that is stored under it. A NaN stays there whatever comes in,
thresholds included, and a number is never replaced by a NaN. -/
theorem nan_locks_key (hmac : Hmac) (sendFunc : Bool) (ops later : List FogOp) (key : CacheKey) (cached : Binary32)
    (read : cacheRead (finalState (fogStep hmac) (fogStart sendFunc) ops).gateway.cache key = some cached) :
    ∃ value, cacheRead (finalState (fogStep hmac) (fogStart sendFunc) (ops ++ later)).gateway.cache key = some value ∧
      value.isNaN = cached.isNaN ∧ (cached.isNaN = true → value = cached) := by
  induction later using List.reverseRecOn with
  | nil =>
    rw [List.append_nil]
    exact ⟨cached, read, rfl, fun _ => rfl⟩
  | append_singleton later op ih =>
    obtain ⟨value, before, number, same⟩ := ih
    have wf := (fogRun_deadband hmac sendFunc (ops ++ later)).forwarded.wf
    obtain ⟨next, after, number', same'⟩ := fogStep_nan hmac wf before op
    rw [← List.append_assoc, finalState_concat]
    refine ⟨next, after, number'.trans number, fun nan => ?_⟩
    rw [same' (number.trans nan), same nan]

theorem nan_locks_key_first :
    ∃ value, cacheRead (finalState (fogStep lengthHmac) (fogStart true)
        ([.setThreshold 31 ⟨0x3F000000⟩, .receive (edgeWire Binary32.nan)] ++ [.receive (edgeWire ⟨0x41A00000⟩)])).gateway.cache
          (5, 31) = some value ∧ value.isNaN = Binary32.nan.isNaN ∧ (Binary32.nan.isNaN = true → value = Binary32.nan) :=
  nan_locks_key lengthHmac true _ _ (5, 31) Binary32.nan (by decide +kernel)

end IotPlatform
