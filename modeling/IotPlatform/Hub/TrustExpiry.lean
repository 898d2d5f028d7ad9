import IotPlatform.Gateway.TrustGate
import IotPlatform.Hub.ValidationGate

/-!
# Expiry of trust along runs of the hub

Attestations and polls in any order. Trust ends `expiry_ms` after the last attestation of a node, and
`edge_tracker_is_trusted` tests that; ingestion asks it about time 0, where the test is off.
-/

namespace IotPlatform
open Run

inductive HubOp where
  | attest (call : AttestCall)
  | poll (received : Option (List UInt8)) (currentMs : UInt64)

def HubOp.timeMs : HubOp → UInt64
  | .attest call => call.currentMs
  | .poll _ currentMs => currentMs

inductive HubOutput where
  | attested (success : Option (UInt8 × UInt64))
  | polled (currentMs : UInt64) (events : List PollEvent)

/-- The handler's tracker is the one that nodes attest to. -/
def hubStep (hmac : Hmac) (h : IngestionHandler) : HubOp → IngestionHandler × HubOutput
  | .attest call =>
    match h.edgeTracker with
    | .tracker t =>
      let (t, success) := attestStep hmac t call
      ({ h with edgeTracker := .tracker t }, .attested success)
    | _ => (h, .attested none)
  | .poll received currentMs =>
    let o := ingestionHandlerPoll hmac h received currentMs
    (o.handler, .polled currentMs o.events)

def hubStart (handler : IngestionHandler) (config : IngestionHandlerConfig) (expiryMs : UInt64) : IngestionHandler :=
  { handler with config := some config, edgeTracker := .tracker (edgeTrackerInit expiryMs) }

def HubOutput.success : HubOutput → List (UInt8 × UInt64)
  | .attested success => success.toList
  | .polled _ _ => []

def successes (history : List HubOutput) : List (UInt8 × UInt64) := history.flatMap HubOutput.success

/-- The last attestation of the entry's node, by its 16-bit id, is at most the expiry old. -/
def FreshEntry (expiryMs : UInt64) (history : List HubOutput) (currentMs : UInt64) (e : BatchFrameEntry) : Prop :=
  ∃ (nodeId : UInt8) (time : UInt64), nodeId.toNat = e.nodeId.toNat ∧
    lastAttested (successes history) nodeId = some time ∧ currentMs.toNat - time.toNat ≤ expiryMs.toNat

def FreshTrust (expiryMs : UInt64) (history : List HubOutput) : Prop :=
  ∀ i currentMs events, history[i]? = some (.polled currentMs events) →
    ∀ e reading, .validate e reading ∈ events → FreshEntry expiryMs (history.take i) currentMs e

/-! ### The tracker along a run -/

/-- The tracker holds the attestations of the history and its first expiry. -/
structure Tracks (config : IngestionHandlerConfig) (expiryMs : UInt64) (h : IngestionHandler)
    (history : List HubOutput) (t : EdgeNodeTracker) : Prop where
  config : h.config = some config
  edgeTracker : h.edgeTracker = .tracker t
  expiry : t.expiryMs = (edgeTrackerInit expiryMs).expiryMs
  recorded : TrustRecorded t (successes history)

section Runs

variable {hmac : Hmac} {config : IngestionHandlerConfig} {expiryMs : UInt64} {h : IngestionHandler}
  {history : List HubOutput} {t : EdgeNodeTracker}

theorem successes_concat (history : List HubOutput) (output : HubOutput) :
    successes (history ++ [output]) = successes history ++ output.success := by
  rw [successes, List.flatMap_append, List.flatMap_singleton, successes]

theorem hubStep_tracks (op : HubOp) (inv : Tracks config expiryMs h history t) :
    ∃ t', Tracks config expiryMs (hubStep hmac h op).1 (history ++ [(hubStep hmac h op).2]) t' := by
  cases op with
  | attest call =>
    rw [hubStep, inv.edgeTracker]
    refine ⟨(attestStep hmac t call).1, inv.config, rfl, (attestStep_expiryMs ..).trans inv.expiry, ?_⟩
    rw [successes_concat]
    exact attestStep_recorded hmac t _ call inv.recorded
  | poll received currentMs =>
    have setup := ingestionHandlerPoll_setup hmac received currentMs inv.config
    refine ⟨t, setup.config.trans inv.config, setup.edgeTracker.trans inv.edgeTracker, inv.expiry, ?_⟩
    rw [successes_concat, hubStep, HubOutput.success, List.append_nil]
    exact inv.recorded

theorem hubRun_tracks (hmac : Hmac) (handler : IngestionHandler) (config : IngestionHandlerConfig) (expiryMs : UInt64)
    (ops : List HubOp) :
    ∃ t, Tracks config expiryMs (finalState (hubStep hmac) (hubStart handler config expiryMs) ops)
      (outputs (hubStep hmac) (hubStart handler config expiryMs) ops) t := by
  refine history_invariant (P := fun h history => ∃ t, Tracks config expiryMs h history t) ?_ ?_ ops
  · exact ⟨edgeTrackerInit expiryMs, rfl, rfl, rfl, edgeTrackerInit_recorded expiryMs⟩
  · rintro h history op ⟨t, inv⟩
    exact hubStep_tracks op inv

theorem hubStep_success {op : HubOp} {success : UInt8 × UInt64} (member : success ∈ (hubStep hmac h op).2.success) :
    success.2 = op.timeMs := by
  cases op with
  | attest call =>
    rw [hubStep] at member
    cases edge : h.edgeTracker with
    | null => simp [edge, HubOutput.success] at member
    | checkDisabledTestingOnly => simp [edge, HubOutput.success] at member
    | tracker t =>
      rw [edge] at member
      obtain failed | ⟨-, recorded⟩ := attestStep_cases hmac t call
      · simp [failed, HubOutput.success] at member
      · dsimp only at member
        rw [recorded] at member
        rw [List.mem_singleton.mp member]
        rfl
  | poll received currentMs => cases member

theorem success_time {ops : List HubOp} {success : UInt8 × UInt64}
    (member : success ∈ successes (outputs (hubStep hmac) h ops)) : ∃ op ∈ ops, success.2 = op.timeMs := by
  induction ops generalizing h with
  | nil => cases member
  | cons op rest ih =>
    rcases List.mem_append.mp member with now | later
    · exact ⟨op, List.mem_cons_self, hubStep_success now⟩
    · obtain ⟨other, other_member, same⟩ := ih later
      exact ⟨other, List.mem_cons_of_mem _ other_member, same⟩

/-! ### Fresh entries and the trust test at the time of the poll -/

/-- For attestations in the past the test of the tracker is the fresh trust of a short id. -/
theorem freshEntry_iff (inv : Tracks config expiryMs h history t) {currentMs : UInt64}
    (past : ∀ success ∈ successes history, success.2 ≤ currentMs) (e : BatchFrameEntry) :
    FreshEntry (edgeTrackerInit expiryMs).expiryMs history currentMs e ↔
      e.nodeId.toNat < 256 ∧ edgeTrackerIsTrusted t e.shortId currentMs = true := by
  have expires : t.expiryMs > 0 := inv.expiry ▸ edgeTrackerInit_expires expiryMs
  have elapsed : ∀ {nodeId time}, lastAttested (successes history) nodeId = some time →
      (currentMs - time).toNat = currentMs.toNat - time.toNat := by
    intro nodeId time latest
    exact UInt64.toNat_sub_of_le _ _ (past _ (mem_of_lastAttested latest))
  rw [edgeTrackerIsTrusted_iff inv.recorded, FreshEntry, ← inv.expiry]
  constructor
  · rintro ⟨nodeId, time, same, latest, recent⟩
    have small : e.nodeId.toNat < 256 := same ▸ nodeId.toNat_lt
    have short : e.shortId = nodeId := by
      apply UInt8.toNat_inj.mp
      rw [shortId_toNat, Nat.mod_eq_of_lt small, same]
    refine ⟨small, time, short ▸ latest, fun _ _ => ?_⟩
    rw [UInt64.le_iff_toNat_le, elapsed latest]
    exact recent
  · rintro ⟨small, time, latest, recent⟩
    refine ⟨e.shortId, time, by rw [shortId_toNat, Nat.mod_eq_of_lt small], latest, ?_⟩
    rcases Nat.eq_zero_or_pos currentMs.toNat with zero | positive
    · omega
    · rw [← elapsed latest]
      exact UInt64.le_iff_toNat_le.mp (recent (UInt64.lt_iff_toNat_lt.mpr positive) expires)

theorem poll_fresh_iff (inv : Tracks config expiryMs h history t) {currentMs : UInt64}
    (past : ∀ success ∈ successes history, success.2 ≤ currentMs) (received : Option (List UInt8)) :
    (∀ e reading, .validate e reading ∈ (ingestionHandlerPoll hmac h received currentMs).events →
        FreshEntry (edgeTrackerInit expiryMs).expiryMs history currentMs e) ↔
      ∀ e ∈ admittedEntries hmac h received, e.nodeId.toNat < 256 ∧ edgeTrackerIsTrusted t e.shortId currentMs = true := by
  constructor
  · intro fresh e admitted
    obtain ⟨reading, validated⟩ := (poll_validates inv.config).mpr admitted
    exact (freshEntry_iff inv past e).mp (fresh e reading validated)
  · intro trusted e reading validated
    exact (freshEntry_iff inv past e).mpr (trusted e ((poll_validates inv.config).mp ⟨reading, validated⟩))

end Runs

theorem past_of_ordered {ops : List HubOp} (ordered : (ops.map HubOp.timeMs).Pairwise (· ≤ ·)) {i : Nat} {op : HubOp}
    (at_i : ops[i]? = some op) : ∀ earlier ∈ ops.take i, earlier.timeMs ≤ op.timeMs := by
  intro earlier before
  have split : ops.take i ++ ops.drop i = ops := List.take_append_drop i ops
  have later : op ∈ ops.drop i := List.mem_of_getElem? (i := 0) (by rwa [List.getElem?_drop])
  rw [← split, List.map_append, List.pairwise_append] at ordered
  exact ordered.2.2 _ (List.mem_map_of_mem before) _ (List.mem_map_of_mem later)

/-- In a run with ordered times no stale trust is used exactly when every admitted entry has a short id that the
tracker also trusts at the time of the poll. -/
theorem stale_trust_exact (hmac : Hmac) (handler : IngestionHandler) (config : IngestionHandlerConfig)
    (expiryMs : UInt64) (ops : List HubOp) (ordered : (ops.map HubOp.timeMs).Pairwise (· ≤ ·)) :
    FreshTrust (edgeTrackerInit expiryMs).expiryMs (outputs (hubStep hmac) (hubStart handler config expiryMs) ops) ↔
      ∀ i received currentMs, ops[i]? = some (.poll received currentMs) →
        let h := finalState (hubStep hmac) (hubStart handler config expiryMs) (ops.take i)
        ∀ e ∈ admittedEntries hmac h received, e.nodeId.toNat < 256 ∧
          ∀ t, h.edgeTracker = .tracker t → edgeTrackerIsTrusted t e.shortId currentMs = true := by
  have at_poll : ∀ i received currentMs, ops[i]? = some (.poll received currentMs) →
      let h := finalState (hubStep hmac) (hubStart handler config expiryMs) (ops.take i)
      (∀ e reading, .validate e reading ∈ (ingestionHandlerPoll hmac h received currentMs).events →
        FreshEntry (edgeTrackerInit expiryMs).expiryMs
          ((outputs (hubStep hmac) (hubStart handler config expiryMs) ops).take i) currentMs e) ↔
      ∀ e ∈ admittedEntries hmac h received, e.nodeId.toNat < 256 ∧
        ∀ t, h.edgeTracker = .tracker t → edgeTrackerIsTrusted t e.shortId currentMs = true := by
    intro i received currentMs at_i h
    obtain ⟨t, inv⟩ := hubRun_tracks hmac handler config expiryMs (ops.take i)
    have past : ∀ success ∈ successes (outputs (hubStep hmac) (hubStart handler config expiryMs) (ops.take i)),
        success.2 ≤ currentMs := by
      intro success member
      obtain ⟨earlier, before, same⟩ := success_time member
      rw [same]
      exact past_of_ordered ordered at_i earlier before
    have only : ∀ t', h.edgeTracker = .tracker t' ↔ t' = t := by
      intro t'
      rw [inv.edgeTracker, EdgeTrackerArg.tracker.injEq, eq_comm]
    simp only [only, forall_eq]
    rw [outputs_take]
    exact poll_fresh_iff inv past received
  constructor
  · intro fresh i received currentMs at_i
    refine (at_poll i received currentMs at_i).mp (fresh i currentMs _ ?_)
    rw [getElem?_outputs, at_i]
    rfl
  · intro trusted i currentMs events output
    rw [getElem?_outputs, Option.map_eq_some_iff] at output
    obtain ⟨op, at_i, polled⟩ := output
    cases op with
    | attest call =>
      dsimp only [hubStep] at polled
      split at polled <;> cases polled
    | poll received now =>
      obtain ⟨rfl, rfl⟩ := HubOutput.polled.inj polled
      exact (at_poll i received now at_i).mpr (trusted i received now at_i)

def readingFrame : List UInt8 :=
  signedFrame lengthHmac sampleContext
    [{ nodeId := 5, metricId := 31, value := ⟨0x41A00000⟩, valid := true, dirty := true }]

/-- Node 5 attests at 1000 ms, and a poll takes a frame with its reading. -/
def attestThenPoll (currentMs : UInt64) : List HubOp :=
  [.attest nodeFiveAttests, .poll (some readingFrame) currentMs]

/-- The hub of this run, with the default expiry of 24 hours. -/
def hvacHub : IngestionHandler := hubStart hvacHandler (RangeProfile.hvac.config none 2) 0

theorem reading_after_one_second :
    ((attestThenPoll 2000).map HubOp.timeMs).Pairwise (· ≤ ·) ∧
      FreshTrust edgeNodeAttestExpiryMs (outputs (hubStep lengthHmac) hvacHub (attestThenPoll 2000)) := by
  have ordered : ((attestThenPoll 2000).map HubOp.timeMs).Pairwise (· ≤ ·) := by decide
  refine ⟨ordered, (stale_trust_exact lengthHmac hvacHandler (RangeProfile.hvac.config none 2) 0 _ ordered).mpr ?_⟩
  intro i received currentMs at_i
  match i, at_i with
  | 0, at_i => cases at_i
  | 1, at_i =>
    obtain ⟨rfl, rfl⟩ := HubOp.poll.inj (Option.some.inj at_i)
    intro h e admitted
    have only : e = { nodeId := 5, metricId := 31, value := ⟨0x41A00000⟩ } := List.mem_singleton.mp admitted
    rw [only]
    refine ⟨by decide, fun t tracked => ?_⟩
    rw [← EdgeTrackerArg.tracker.inj tracked]
    decide
  | i + 2, at_i => cases at_i

theorem reading_after_a_day :
    ((attestThenPoll 86401001).map HubOp.timeMs).Pairwise (· ≤ ·) ∧
      ¬FreshTrust edgeNodeAttestExpiryMs (outputs (hubStep lengthHmac) hvacHub (attestThenPoll 86401001)) := by
  refine ⟨by decide, fun fresh => ?_⟩
  let entry : BatchFrameEntry := { nodeId := 5, metricId := 31, value := ⟨0x41A00000⟩ }
  obtain ⟨nodeId, time, same, latest, recent⟩ := fresh 1 86401001 _ rfl entry (entry.toReading 86401001) (by decide)
  obtain rfl : nodeId = 5 := UInt8.toNat_inj.mp same
  obtain rfl : 1000 = time := Option.some.inj latest
  exact absurd recent (by decide)

end IotPlatform
