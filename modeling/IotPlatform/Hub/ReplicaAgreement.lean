import Mathlib.Data.List.Induction
import IotPlatform.Gateway.Deadband
import IotPlatform.Gateway.SequenceRuns
import IotPlatform.Hub.ValidationGate

/-!
# The hub's view of the gateway's cache

A radio that loses frames, or loses only their confirmations, but brings what arrives in order. For every key that has nothing
waiting to be sent the hub's last value is the cached one.
-/

namespace IotPlatform
open Run

/-- What becomes of a frame: a confirmed one has arrived. -/
inductive SendOutcome where
  | lost | unconfirmed | confirmed
  deriving DecidableEq

structure Relay where
  fog : FogGateway
  hub : IngestionHandler

inductive RelayOp where
  | filterInit
  | setThreshold (metricId : UInt8) (absThreshold : Binary32)
  | receive (wire : List UInt8)
  | setState (state : GatewayAuthState)
  | flush (outcome : SendOutcome) (currentMs : UInt64)

def RelayOp.toFogOp : RelayOp → FogOp
  | .filterInit => .filterInit
  | .setThreshold metricId absThreshold => .setThreshold metricId absThreshold
  | .receive wire => .receive wire
  | .setState state => .setState state
  | .flush outcome _ => .flush fun _ => outcome == .confirmed

structure RelayEvent where
  fog : FogEvent
  polled : List PollEvent

/-- The hub polls when a frame may have arrived. -/
def relayStep (hmac : Hmac) (s : Relay) (op : RelayOp) : Relay × RelayEvent :=
  let (fog, event) := fogStep hmac s.fog op.toFogOp
  match op with
  | .flush outcome currentMs =>
    let arrived := if outcome = .lost then none else event.handed.map Prod.fst
    let o := ingestionHandlerPoll hmac s.hub arrived currentMs
    ({ fog := fog, hub := o.handler }, { fog := event, polled := o.events })
  | _ => ({ s with fog := fog }, { fog := event, polled := [] })

/-- The entries that the hub hands to its gates, in order. -/
def gatedEntries (events : List PollEvent) : List BatchFrameEntry :=
  events.filterMap fun
    | .validate entry _ => some entry
    | _ => none

def hubValue (events : List PollEvent) (key : CacheKey) : Option Binary32 :=
  ((gatedEntries events).reverse.find? fun e => e.nodeId == key.1 && e.metricId == key.2).map BatchFrameEntry.value

def polledEvents (history : List RelayEvent) : List PollEvent := history.flatMap RelayEvent.polled

/-! ### One poll -/

section Poll

variable {hmac : Hmac} {h : IngestionHandler} {config : IngestionHandlerConfig} {currentMs : UInt64}

theorem gatedEntries_processEntries (config : IngestionHandlerConfig) (currentMs : UInt64) (h : IngestionHandler)
    (entries : List BatchFrameEntry) : gatedEntries (processEntries config currentMs h entries).2.2 = entries := by
  induction entries generalizing h with
  | nil => rfl
  | cons entry rest ih =>
    have one : gatedEntries (processEntry config currentMs h entry).2.2 = [entry] := by
      obtain ⟨-, stats, event, result⟩ | ⟨-, stats, histories, triggered, result⟩ :=
        processEntry_cases config currentMs h entry
      · rw [result]
        rfl
      · rw [result]
        cases ruleResults config h (entry.toReading currentMs) <;> rfl
    rw [processEntries]
    dsimp only
    rw [gatedEntries, List.filterMap_append]
    exact congrArg₂ (· ++ ·) one (ih _)

theorem gatedEntries_poll (configured : h.config = some config) (received : Option (List UInt8)) :
    gatedEntries (ingestionHandlerPoll hmac h received currentMs).events = admittedEntries hmac h received := by
  obtain ⟨h', audits, -, -, result⟩ := ingestionHandlerPoll_spec hmac received currentMs configured
  have none : gatedEntries (audits.map PollEvent.audit) = [] := by simp [gatedEntries, List.filterMap_map]
  rw [result]
  dsimp only
  rw [gatedEntries, List.filterMap_append]
  exact (congrArg₂ (· ++ ·) none (gatedEntries_processEntries config currentMs h' _)).trans (List.nil_append _)

theorem processEntries_gwTracker (config : IngestionHandlerConfig) (currentMs : UInt64) (h : IngestionHandler)
    (entries : List BatchFrameEntry) : (processEntries config currentMs h entries).1.gwTracker = h.gwTracker := by
  induction entries generalizing h with
  | nil => rfl
  | cons entry rest ih =>
    have kept := ih (processEntry config currentMs h entry).1
    obtain ⟨-, stats, event, result⟩ | ⟨-, stats, histories, triggered, result⟩ :=
      processEntry_cases config currentMs h entry
    · rw [result] at kept
      rw [processEntries, result]
      exact kept
    · rw [result] at kept
      rw [processEntries, result]
      exact kept

theorem gatewayIngestFrame_key (hmac : Hmac) (tracker : GatewayTracker) (edge : EdgeTrackerArg) (frame : List UInt8)
    (maxEntries : UInt8) :
    (gatewayIngestFrame hmac tracker edge frame maxEntries).tracker.authenticated = tracker.authenticated ∧
      (gatewayIngestFrame hmac tracker edge frame maxEntries).tracker.sessionKey = tracker.sessionKey := by
  obtain ⟨same, -⟩ | ⟨header, later, -, updated, -⟩ := gatewayIngestFrame_cases hmac tracker edge frame maxEntries
  · rw [same]
    exact ⟨rfl, rfl⟩
  · rw [updated]
    exact ⟨rfl, rfl⟩

/-- A poll keeps the gateway's session. -/
theorem ingestionHandlerPoll_key (hmac : Hmac) (h : IngestionHandler) (received : Option (List UInt8)) (currentMs : UInt64) :
    (ingestionHandlerPoll hmac h received currentMs).handler.gwTracker.authenticated = h.gwTracker.authenticated ∧
      (ingestionHandlerPoll hmac h received currentMs).handler.gwTracker.sessionKey = h.gwTracker.sessionKey := by
  rw [ingestionHandlerPoll]
  split
  · exact ⟨rfl, rfl⟩
  · cases received with
    | none => exact ⟨rfl, rfl⟩
    | some frame =>
      have key := gatewayIngestFrame_key hmac h.gwTracker h.edgeTracker frame ingestionHandlerMaxEntries
      dsimp only
      split
      · exact key
      · rw [processEntries_gwTracker]
        exact key

end Poll

/-! ### Every run -/

/-- A key has something waiting, or the hub has its value; the session stays. -/
structure Agrees (ctx : GatewayAuthContext) (config : IngestionHandlerConfig) (edge : EdgeTrackerArg) (s : Relay)
    (history : List RelayEvent) : Prop where
  deadband : Deadband s.fog (history.map RelayEvent.fog)
  session : ∀ ctx', s.fog.gateway.authCtx = some ctx' → ctx'.sessionKey = ctx.sessionKey
  configured : s.hub.config = some config
  authenticated : s.hub.gwTracker.authenticated = true
  same_key : s.hub.gwTracker.sessionKey = ctx.sessionKey
  trusts : s.hub.edgeTracker = edge
  admitted : ∀ e ∈ s.fog.gateway.cache.entries, edge.admits e.nodeId.toUInt8 = true
  agrees : ∀ e ∈ s.fog.gateway.cache.entries, e.dirty = true ∨ hubValue (polledEvents history) e.key = some e.value

theorem hubValue_append (events later : List PollEvent) (key : CacheKey) :
    hubValue (events ++ later) key = (hubValue later key).or (hubValue events key) := by
  rw [hubValue, hubValue, hubValue, gatedEntries, List.filterMap_append, List.reverse_append, List.find?_append,
    Option.map_or]
  rfl

theorem polledEvents_concat (history : List RelayEvent) (event : RelayEvent) :
    polledEvents (history ++ [event]) = polledEvents history ++ event.polled := by simp [polledEvents]

section Batch

variable {hmac : Hmac} {g : Gateway} {h : IngestionHandler} {config : IngestionHandlerConfig} {currentMs : UInt64}
  {ctx : GatewayAuthContext}

theorem admittedEntries_signedFrame (authenticated : h.gwTracker.authenticated = true)
    (same_key : h.gwTracker.sessionKey = ctx.sessionKey)
    (admitted : ∀ e ∈ g.cache.entries, h.edgeTracker.admits e.nodeId.toUInt8 = true) :
    admittedEntries hmac h (some (signedFrame hmac ctx g.batch)) = g.batch.map CacheEntry.toFrameEntry := by
  rw [admittedEntries, Option.bind_some, acceptedFrame_signedFrame authenticated same_key (length_batch g)]
  refine List.filter_eq_self.mpr fun e member => ?_
  obtain ⟨cached, carried, rfl⟩ := List.mem_map.mp member
  exact admitted cached (mem_batch carried).1

/-- What the hub has of a key after the batch came in. -/
theorem hubValue_batch (wf : g.cache.WellFormed) {events : List PollEvent}
    (gated : gatedEntries events = g.batch.map CacheEntry.toFrameEntry) {e : CacheEntry} (member : e ∈ g.cache.entries) :
    hubValue events e.key = if e.key ∈ g.batch.map CacheEntry.key then some e.value else none := by
  rw [hubValue, gated]
  split
  · rename_i sent
    obtain ⟨carrier, carried, same⟩ := List.mem_map.mp sent
    have own : carrier = e := List.inj_on_of_nodup_map wf.distinct (mem_batch carried).1 member same
    subst own
    cases found : (g.batch.map CacheEntry.toFrameEntry).reverse.find? fun e => e.nodeId == carrier.key.1 &&
        e.metricId == carrier.key.2 with
    | none =>
      have absent := List.find?_eq_none.mp found carrier.toFrameEntry
        (List.mem_reverse.mpr (List.mem_map_of_mem carried))
      simp [CacheEntry.toFrameEntry, CacheEntry.key] at absent
    | some entry =>
      have own := List.find?_some found
      obtain ⟨other, other_carried, rfl⟩ := List.mem_map.mp (List.mem_reverse.mp (List.mem_of_find?_eq_some found))
      have same_key : other.key = carrier.key := by
        simpa [CacheEntry.toFrameEntry, CacheEntry.key, Prod.ext_iff] using own
      rw [List.inj_on_of_nodup_map wf.distinct (mem_batch other_carried).1 member same_key]
      rfl
  · rename_i unsent
    rw [Option.map_eq_none_iff, List.find?_eq_none]
    intro entry carried own
    obtain ⟨other, other_carried, rfl⟩ := List.mem_map.mp (List.mem_reverse.mp carried)
    refine unsent (List.mem_map.mpr ⟨other, other_carried, ?_⟩)
    simpa [CacheEntry.toFrameEntry, CacheEntry.key, Prod.ext_iff] using own

end Batch

section Steps

variable {hmac : Hmac} {ctx : GatewayAuthContext} {config : IngestionHandlerConfig} {edge : EdgeTrackerArg} {s : Relay}
  {history : List RelayEvent}

theorem cleared_nodeId (sent : List CacheEntry) (e : CacheEntry) : (e.cleared sent).nodeId = e.nodeId := by
  unfold CacheEntry.cleared
  split <;> rfl

/-- After a send an entry is as before, or was in a batch that is confirmed. -/
theorem mem_afterSend {g : Gateway} (wf : g.cache.WellFormed) {ctx : GatewayAuthContext} {sendOk : Bool} {e : CacheEntry}
    (member : e ∈ (g.afterSend ctx sendOk).cache.entries) :
    ∃ old ∈ g.cache.entries, old.key = e.key ∧ old.value = e.value ∧ old.nodeId = e.nodeId ∧
      (old.dirty = true → e.dirty = true ∨ sendOk = true ∧ e.key ∈ g.batch.map CacheEntry.key) := by
  rw [Gateway.afterSend] at member
  cases sendOk with
  | false => exact ⟨e, member, rfl, rfl, rfl, .inl⟩
  | true =>
    obtain ⟨old, old_member, rfl⟩ := List.mem_map.mp (clearDirtyAll_entries wf g.batch ▸ member)
    refine ⟨old, old_member, (old.cleared_key _).symm, (old.cleared_value _).symm, (cleared_nodeId _ old).symm, ?_⟩
    intro dirty
    by_cases sent : old.key ∈ g.batch.map CacheEntry.key
    · exact .inr ⟨rfl, (old.cleared_key _).symm ▸ sent⟩
    · exact .inl ((old.cleared_dirty _).mpr ⟨dirty, sent⟩)

/-- What the hub has after a poll in which the frame of a batch arrived, or nothing did. -/
theorem Agrees.polled (inv : Agrees ctx config edge s history) {ctx' : GatewayAuthContext}
    (key : ctx'.sessionKey = ctx.sessionKey) (arrived : Option (List UInt8))
    (frame : arrived = none ∨ arrived = some (signedFrame hmac ctx' s.fog.gateway.batch)) (currentMs : UInt64)
    {e : CacheEntry} (member : e ∈ s.fog.gateway.cache.entries) :
    hubValue (polledEvents history ++ (ingestionHandlerPoll hmac s.hub arrived currentMs).events) e.key =
      if arrived ≠ none ∧ e.key ∈ s.fog.gateway.batch.map CacheEntry.key then some e.value
      else hubValue (polledEvents history) e.key := by
  have gated : gatedEntries (ingestionHandlerPoll hmac s.hub arrived currentMs).events =
      admittedEntries hmac s.hub arrived := gatedEntries_poll inv.configured arrived
  rw [hubValue_append]
  rcases frame with rfl | rfl
  · have nothing : hubValue (ingestionHandlerPoll hmac s.hub none currentMs).events e.key = none := by
      rw [hubValue, gated]
      rfl
    rw [nothing, Option.none_or, if_neg fun both => both.1 rfl]
  · rw [admittedEntries_signedFrame inv.authenticated (inv.same_key.trans key.symm)
      (inv.trusts.symm ▸ inv.admitted)] at gated
    rw [hubValue_batch inv.deadband.forwarded.wf gated member]
    by_cases sent : e.key ∈ s.fog.gateway.batch.map CacheEntry.key
    · rw [if_pos sent, if_pos ⟨Option.some_ne_none _, sent⟩, Option.some_or]
    · rw [if_neg sent, if_neg fun both => sent both.2, Option.none_or]

/-- The hub takes in what arrived of a flush. -/
theorem Agrees.flush (inv : Agrees ctx config edge s history) (outcome : SendOutcome) (currentMs : UInt64) :
    Agrees ctx config edge (relayStep hmac s (.flush outcome currentMs)).1
      (history ++ [(relayStep hmac s (.flush outcome currentMs)).2]) := by
  have deadband := fogStep_deadband hmac s.fog _ (.flush fun _ => outcome == .confirmed) inv.deadband
  have after : ∀ arrived, let hub := (ingestionHandlerPoll hmac s.hub arrived currentMs).handler
      hub.config = some config ∧ hub.gwTracker.authenticated = true ∧ hub.gwTracker.sessionKey = ctx.sessionKey ∧
        hub.edgeTracker = edge := by
    intro arrived
    obtain ⟨authenticated, same_key⟩ := ingestionHandlerPoll_key hmac s.hub arrived currentMs
    have setup := ingestionHandlerPoll_setup hmac arrived currentMs inv.configured
    exact ⟨setup.config.trans inv.configured, authenticated.trans inv.authenticated, same_key.trans inv.same_key,
      setup.edgeTracker.trans inv.trusts⟩
  rw [relayStep, RelayOp.toFogOp]
  rw [fogStep, gatewayStep] at deadband ⊢
  obtain ⟨-, idle⟩ | ⟨ctx', ⟨-, auth, -, -⟩, sent⟩ :=
    batchForwarderFlush_cases hmac s.fog.gateway fun _ => outcome == .confirmed
  · rw [idle] at deadband ⊢
    have silent : (if outcome = .lost then none else Option.map Prod.fst (none : Option (List UInt8 × Bool))) = none := by
      split <;> rfl
    dsimp only
    rw [silent]
    obtain ⟨configured, authenticated, same_key, trusts⟩ := after none
    refine ⟨?_, inv.session, configured, authenticated, same_key, trusts, inv.admitted, fun e member => ?_⟩
    · rw [List.map_append, List.map_singleton]
      exact deadband
    · rw [polledEvents_concat, inv.polled (Eq.refl ctx.sessionKey) none (.inl rfl) currentMs member, if_neg fun both => both.1 rfl]
      exact inv.agrees e member
  · rw [sent] at deadband ⊢
    have key := inv.session ctx' auth
    have wf := inv.deadband.forwarded.wf
    dsimp only [Option.map_some]
    generalize frame : (if outcome = .lost then none else some (signedFrame hmac ctx' s.fog.gateway.batch)) = arrived
    have carried : arrived = none ∨ arrived = some (signedFrame hmac ctx' s.fog.gateway.batch) := by
      rw [← frame]
      split
      · exact .inl rfl
      · exact .inr rfl
    have confirmed : outcome = .confirmed → arrived ≠ none := by
      rintro rfl
      rw [← frame, if_neg (by decide)]
      exact Option.some_ne_none _
    obtain ⟨configured, authenticated, same_key, trusts⟩ := after arrived
    refine ⟨?_, fun ctx'' found => ?_, configured, authenticated, same_key, trusts, fun e member => ?_, fun e member => ?_⟩
    · rw [List.map_append, List.map_singleton]
      exact deadband
    · obtain rfl := Option.some.inj found
      split
      · exact key
      · exact key
    · obtain ⟨old, old_member, -, -, same, -⟩ := mem_afterSend wf member
      exact same ▸ inv.admitted old old_member
    · obtain ⟨old, old_member, same, value, -, dirty⟩ := mem_afterSend wf member
      have known := inv.polled key arrived carried currentMs old_member
      rw [same, value] at known
      rw [polledEvents_concat, known]
      split
      · exact .inr rfl
      · rename_i absent
        rcases inv.agrees old old_member with waiting | has
        · rcases dirty waiting with still | ⟨ok, sent_key⟩
          · exact .inl still
          · exact absurd ⟨confirmed (by simpa using ok), sent_key⟩ absent
        · rw [same, value] at has
          exact .inr has

end Steps

end IotPlatform
