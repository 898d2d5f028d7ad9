import IotPlatform.Lib.Run
import IotPlatform.Gateway.Delivery

/-!
# Sequence numbers between one gateway and one hub

The gateway numbers its frames and advances on a confirmed send; the hub logs a gap and takes the frame. The
network holds every frame ever handed to the radio, confirmed or not, and may deliver any of them at any time.
-/

namespace IotPlatform
open Run

theorem gatewayIngestFrame_cases (hmac : Hmac) (tracker : GatewayTracker) (edge : EdgeTrackerArg) (frame : List UInt8)
    (maxEntries : UInt8) :
    let o := gatewayIngestFrame hmac tracker edge frame maxEntries
    (o.tracker = tracker ∧ o.result ≠ .ok) ∨
    ∃ header later, header.sequenceNumber = wireSequence frame ∧
      o.tracker = gatewayTrackerUpdateSequence tracker header.sequenceNumber ∧
      o.events = sequenceEvents tracker header.sequenceNumber ++ later ∧ (o.result = .ok → o.header = some header) := by
  cases accepted : acceptedFrame hmac tracker frame with
  | none =>
    obtain ⟨error, events, failed, refused⟩ := gatewayIngestFrame_refused edge maxEntries accepted
    rw [refused]
    exact .inl ⟨rfl, failed⟩
  | some content =>
    obtain ⟨header, decoded⟩ := content
    obtain ⟨sequence, events⟩ := acceptedFrame_sequence accepted
    rw [gatewayIngestFrame_accepted accepted, events, ← sequence]
    cases edge with
    | null => exact .inr ⟨header, _, rfl, rfl, rfl, fun impossible => nomatch impossible⟩
    | checkDisabledTestingOnly => exact .inr ⟨header, _, rfl, rfl, rfl, fun _ => rfl⟩
    | tracker t => exact .inr ⟨header, _, rfl, rfl, rfl, fun _ => rfl⟩

/-! ### Runs of the link -/

structure Link where
  gateway : Gateway
  hub : GatewayTracker
  /-- Every frame handed to the radio so far. -/
  network : List (List UInt8)
  flushes : Nat

inductive LinkOp where
  | cacheWrite (key : CacheKey) (value : Binary32)
  | setState (state : GatewayAuthState)
  /-- A flush; the frame may arrive whether or not the radio confirms it. -/
  | flush (confirmed : Bool)
  | deliver (index : Nat) (edge : EdgeTrackerArg) (maxEntries : UInt8)

def linkStep (hmac : Hmac) (l : Link) : LinkOp → Link × Option IngestOutcome
  | .cacheWrite key value => ({ l with gateway := { l.gateway with cache := (cacheWrite l.gateway.cache key value).1 } }, none)
  | .setState state =>
    ({ l with gateway := { l.gateway with authCtx := l.gateway.authCtx.map (gatewaySetState · state) } }, none)
  | .flush confirmed =>
    let o := batchForwarderFlush hmac l.gateway fun _ => confirmed
    ({ l with
        gateway := o.gateway
        network := l.network ++ (o.sent.map Prod.fst).toList
        flushes := l.flushes + 1 }, none)
  | .deliver index edge maxEntries =>
    match l.network[index]? with
    | none => (l, none)
    | some frame =>
      let o := gatewayIngestFrame hmac l.hub edge frame maxEntries
      ({ l with hub := o.tracker }, some o)

/-- A gateway straight after `gateway_auth_init`, any hub tracker and an empty network. -/
def linkStart (gateway : Gateway) (gatewayId hubId : UInt8) (sessionKey : Digest) (hub : GatewayTracker) : Link :=
  { gateway := { gateway with authCtx := some (gatewayAuthInit gatewayId hubId sessionKey) }
    hub := hub, network := [], flushes := 0 }

def LinkOp.isFlush : LinkOp → Bool
  | .flush _ => true
  | _ => false

/-- The next sequence number and those in the network are below the number of flushes. -/
structure Numbered (l : Link) : Prop where
  next : ∀ ctx, l.gateway.authCtx = some ctx → ctx.txSequence.toNat ≤ l.flushes
  sent : ∀ frame ∈ l.network, (wireSequence frame).toNat < l.flushes

theorem linkStart_numbered (gateway : Gateway) (gatewayId hubId : UInt8) (sessionKey : Digest) (hub : GatewayTracker) :
    Numbered (linkStart gateway gatewayId hubId sessionKey hub) where
  next := by
    intro ctx started
    rw [← Option.some.inj started]
    exact Nat.le_refl 0
  sent := by
    intro frame member
    cases member

theorem wireSequence_signedFrame (hmac : Hmac) (ctx : GatewayAuthContext) (batch : List CacheEntry) :
    wireSequence (signedFrame hmac ctx batch) = ctx.txSequence := by
  rw [signedFrame, frameBody, List.append_assoc, wireSequence_encodeHeader]
  rfl

theorem linkStep_flushes (hmac : Hmac) (l : Link) (op : LinkOp) :
    (linkStep hmac l op).1.flushes = l.flushes + if op.isFlush then 1 else 0 := by
  cases op with
  | cacheWrite key value => rfl
  | setState state => rfl
  | flush confirmed => rfl
  | deliver index edge maxEntries =>
    rw [linkStep]
    split <;> rfl

theorem finalState_flushes (hmac : Hmac) (l : Link) (ops : List LinkOp) :
    (finalState (linkStep hmac) l ops).flushes = l.flushes + ops.countP LinkOp.isFlush := by
  induction ops generalizing l with
  | nil => rfl
  | cons op rest ih =>
    rw [finalState, ih, linkStep_flushes, List.countP_cons]
    omega

theorem linkStep_numbered (hmac : Hmac) {l : Link} (op : LinkOp) (inv : Numbered l)
    (few : (linkStep hmac l op).1.flushes < 2 ^ 32) :
    Numbered (linkStep hmac l op).1 := by
  cases op with
  | cacheWrite key value => exact ⟨inv.next, inv.sent⟩
  | setState state =>
    refine ⟨fun ctx found => ?_, inv.sent⟩
    obtain ⟨old, old_found, rfl⟩ := Option.map_eq_some_iff.mp found
    exact inv.next old old_found
  | deliver index edge maxEntries =>
    rw [linkStep]
    split
    · exact inv
    · exact ⟨inv.next, inv.sent⟩
  | flush confirmed =>
    have earlier : ∀ frame ∈ l.network, (wireSequence frame).toNat < l.flushes + 1 :=
      fun frame member => Nat.lt_succ_of_lt (inv.sent frame member)
    rw [linkStep_flushes] at few
    rw [linkStep]
    obtain ⟨-, idle⟩ | ⟨ctx, ⟨-, auth, -, -⟩, sent⟩ := batchForwarderFlush_cases hmac l.gateway fun _ => confirmed
    · rw [idle]
      exact ⟨fun ctx found => Nat.le_succ_of_le (inv.next ctx found), by simpa using earlier⟩
    · have next := inv.next ctx auth
      rw [sent]
      refine ⟨fun ctx' found => ?_, fun frame member => ?_⟩
      · obtain rfl := Option.some.inj found
        change (if confirmed then gatewayAdvanceSequence ctx else ctx).txSequence.toNat ≤ l.flushes + 1
        split
        · change l.flushes + 1 < 2 ^ 32 at few
          change (ctx.txSequence + 1).toNat ≤ l.flushes + 1
          rw [UInt32.toNat_add, UInt32.toNat_one]
          omega
        · omega
      · rcases List.mem_append.mp member with old | new
        · exact earlier frame old
        · obtain rfl : frame = signedFrame hmac ctx l.gateway.batch := by simpa using new
          rw [wireSequence_signedFrame]
          change ctx.txSequence.toNat < l.flushes + 1
          omega

/-! ### Acceptances -/

def IngestOutcome.Accepts (o : IngestOutcome) (sequence : UInt32) : Prop :=
  o.result = .ok ∧ o.header.map BatchFrameHeader.sequenceNumber = some sequence

def IngestOutcome.LogsGap (o : IngestOutcome) : Prop := sequenceGapEvent ∈ o.events

theorem sequenceEvents_quiet {tracker : GatewayTracker} {sequence : UInt32} (started : tracker.sequenceInitialized = true)
    (quiet : sequenceGapEvent ∉ sequenceEvents tracker sequence) : sequence = tracker.lastSequence + 1 := by
  unfold sequenceEvents at quiet
  split at quiet
  · simp at quiet
  · rename_i in_order
    exact not_not.mp fun differs => in_order ⟨started, differs⟩

/-- The hub has taken sequence number `last` and its numbers stay below the number of flushes. -/
structure Tracking (last : Nat) (l : Link) : Prop where
  numbered : Numbered l
  started : l.hub.sequenceInitialized = true
  last_le : last ≤ l.hub.lastSequence.toNat
  below : l.hub.lastSequence.toNat < l.flushes

/-- Everything a step can do to the hub: leave it and accept nothing, or move it to the number of a frame in the
network, the only number it can accept. -/
theorem linkStep_cases (hmac : Hmac) (l : Link) (op : LinkOp) :
    ((linkStep hmac l op).1.hub = l.hub ∧ ∀ o sequence, (linkStep hmac l op).2 = some o → ¬o.Accepts sequence) ∨
    ∃ frame ∈ l.network, ∃ o later, (linkStep hmac l op).2 = some o ∧
      (linkStep hmac l op).1.hub = gatewayTrackerUpdateSequence l.hub (wireSequence frame) ∧
      o.events = sequenceEvents l.hub (wireSequence frame) ++ later ∧
      ∀ sequence, o.Accepts sequence → sequence = wireSequence frame := by
  cases op with
  | cacheWrite key value => exact .inl ⟨rfl, fun o sequence impossible => nomatch impossible⟩
  | setState state => exact .inl ⟨rfl, fun o sequence impossible => nomatch impossible⟩
  | flush confirmed => exact .inl ⟨rfl, fun o sequence impossible => nomatch impossible⟩
  | deliver index edge maxEntries =>
    rw [linkStep]
    cases found : l.network[index]? with
    | none => exact .inl ⟨rfl, fun o sequence impossible => nomatch impossible⟩
    | some frame =>
      dsimp only
      obtain ⟨same, refused⟩ | ⟨header, later, sequence_eq, updated, events, header_eq⟩ :=
        gatewayIngestFrame_cases hmac l.hub edge frame maxEntries
      · refine .inl ⟨same, fun o sequence answer accepts => ?_⟩
        obtain rfl := Option.some.inj answer
        exact refused accepts.1
      · rw [sequence_eq] at updated events
        refine .inr ⟨frame, List.mem_of_getElem? found, _, later, rfl, updated, events, fun sequence accepts => ?_⟩
        have same := accepts.2
        rw [header_eq accepts.1, Option.map_some] at same
        rw [← Option.some.inj same, sequence_eq]

/-- While no gap is logged, a step takes only frames beyond the last one. -/
theorem linkStep_quiet (hmac : Hmac) {last : Nat} {l : Link} (op : LinkOp) (inv : Tracking last l)
    (few : (linkStep hmac l op).1.flushes < 2 ^ 32) (quiet : ∀ o, (linkStep hmac l op).2 = some o → ¬o.LogsGap) :
    Tracking last (linkStep hmac l op).1 ∧
      ∀ o sequence, (linkStep hmac l op).2 = some o → o.Accepts sequence → last < sequence.toNat := by
  have numbered := linkStep_numbered hmac op inv.numbered few
  have count := linkStep_flushes hmac l op
  have last_le := inv.last_le
  have below := inv.below
  obtain ⟨same, silent⟩ | ⟨frame, sent, o, later, answer, updated, events, only⟩ := linkStep_cases hmac l op
  · refine ⟨⟨numbered, ?_, ?_, ?_⟩, fun o sequence answer accepts => absurd accepts (silent o sequence answer)⟩
    · rw [same]
      exact inv.started
    · rw [same]
      exact last_le
    · rw [same]
      omega
  · have in_network := inv.numbered.sent frame sent
    have in_order : wireSequence frame = l.hub.lastSequence + 1 := by
      refine sequenceEvents_quiet inv.started fun logged => quiet o answer ?_
      rw [IngestOutcome.LogsGap, events]
      exact List.mem_append_left _ logged
    have advanced : (wireSequence frame).toNat = l.hub.lastSequence.toNat + 1 := by
      rw [in_order, UInt32.toNat_add, UInt32.toNat_one]
      omega
    refine ⟨⟨numbered, ?_, ?_, ?_⟩, fun o' sequence answer' accepts => ?_⟩
    · rw [updated]
      rfl
    · rw [updated]
      change last ≤ (wireSequence frame).toNat
      omega
    · rw [updated]
      change (wireSequence frame).toNat < _
      omega
    · obtain rfl := Option.some.inj (answer.symm.trans answer')
      rw [only sequence accepts]
      omega

theorem outputs_quiet (hmac : Hmac) {last : Nat} {l : Link} (ops : List LinkOp) (inv : Tracking last l)
    (few : l.flushes + ops.countP LinkOp.isFlush < 2 ^ 32)
    (quiet : ∀ o, some o ∈ outputs (linkStep hmac) l ops → ¬o.LogsGap) :
    ∀ o sequence, some o ∈ outputs (linkStep hmac) l ops → o.Accepts sequence → last < sequence.toNat := by
  induction ops generalizing l with
  | nil =>
    intro o sequence impossible
    cases impossible
  | cons op rest ih =>
    rw [List.countP_cons] at few
    have count := linkStep_flushes hmac l op
    obtain ⟨tracking, beyond⟩ := linkStep_quiet hmac op inv (by omega)
      fun o answer => quiet o (answer ▸ List.mem_cons_self)
    intro o sequence member accepts
    rcases List.mem_cons.mp member with now | later
    · exact beyond o sequence now.symm accepts
    · exact ih tracking (by omega) (fun o member => quiet o (List.mem_cons_of_mem _ member)) o sequence later accepts

theorem finalState_numbered (hmac : Hmac) {l : Link} (ops : List LinkOp) (inv : Numbered l)
    (few : l.flushes + ops.countP LinkOp.isFlush < 2 ^ 32) : Numbered (finalState (linkStep hmac) l ops) := by
  induction ops generalizing l with
  | nil => exact inv
  | cons op rest ih =>
    rw [List.countP_cons] at few
    have count := linkStep_flushes hmac l op
    exact ih (linkStep_numbered hmac op inv (by omega)) (by omega)

theorem tracking_of_accepts (hmac : Hmac) {l : Link} (op : LinkOp) (inv : Numbered l)
    (few : (linkStep hmac l op).1.flushes < 2 ^ 32) {o : IngestOutcome} {sequence : UInt32}
    (answer : (linkStep hmac l op).2 = some o) (accepts : o.Accepts sequence) :
    Tracking sequence.toNat (linkStep hmac l op).1 := by
  have numbered := linkStep_numbered hmac op inv few
  have count := linkStep_flushes hmac l op
  obtain ⟨-, silent⟩ | ⟨frame, sent, o', later, answer', updated, -, only⟩ := linkStep_cases hmac l op
  · exact absurd accepts (silent o sequence answer)
  · obtain rfl := Option.some.inj (answer.symm.trans answer')
    have in_network := inv.sent frame sent
    rw [only sequence accepts]
    refine ⟨numbered, ?_, ?_, ?_⟩
    · rw [updated]
      rfl
    · rw [updated]
      exact Nat.le_refl _
    · rw [updated]
      change (wireSequence frame).toNat < _
      omega

/-- A sequence number that was accepted is not accepted again before a gap is logged. -/
theorem repeat_needs_gap (hmac : Hmac) {l : Link} (op : LinkOp) (after : List LinkOp) (inv : Numbered l)
    (few : l.flushes + (op :: after).countP LinkOp.isFlush < 2 ^ 32) {first second : IngestOutcome} {sequence : UInt32}
    (answer : (linkStep hmac l op).2 = some first) (first_accepts : first.Accepts sequence)
    (again : some second ∈ outputs (linkStep hmac) (linkStep hmac l op).1 after)
    (second_accepts : second.Accepts sequence) :
    ∃ o, some o ∈ outputs (linkStep hmac) (linkStep hmac l op).1 after ∧ o.LogsGap := by
  rw [List.countP_cons] at few
  have count := linkStep_flushes hmac l op
  have tracking := tracking_of_accepts hmac op inv (by omega) answer first_accepts
  by_contra none_logged
  have beyond := outputs_quiet hmac after tracking (by omega)
    (fun o member logged => none_logged ⟨o, member, logged⟩) second sequence again second_accepts
  omega

/-- Between two acceptances of one sequence number the hub has logged a gap. -/
theorem repeated_sequence_logged (hmac : Hmac) (gateway : Gateway) (gatewayId hubId : UInt8) (sessionKey : Digest)
    (hub : GatewayTracker) (ops : List LinkOp) (few : ops.countP LinkOp.isFlush < 2 ^ 32) (i j : Nat) (earlier : i < j)
    (first second : IngestOutcome) (sequence : UInt32) :
    let answers := outputs (linkStep hmac) (linkStart gateway gatewayId hubId sessionKey hub) ops
    answers[i]? = some (some first) → answers[j]? = some (some second) →
      first.Accepts sequence → second.Accepts sequence →
      ∃ k o, i < k ∧ k ≤ j ∧ answers[k]? = some (some o) ∧ o.LogsGap := by
  intro answers at_i at_j first_accepts second_accepts
  let start := linkStart gateway gatewayId hubId sessionKey hub
  obtain ⟨op, op_at_i, answer⟩ := Option.map_eq_some_iff.mp ((getElem?_outputs ops i).symm.trans at_i)
  -- The steps after the first acceptance, up to and with the second.
  let between := (ops.drop (i + 1)).take (j - i)
  have segment : (answers.drop (i + 1)).take (j - i) =
      outputs (linkStep hmac) (linkStep hmac (finalState (linkStep hmac) start (ops.take i)) op).1 between :=
    outputs_after op_at_i (j - i)
  have count : (ops.take i).countP LinkOp.isFlush + (op :: between).countP LinkOp.isFlush ≤ ops.countP LinkOp.isFlush := by
    have tail : op :: between <+: ops.drop i := by
      rw [List.drop_eq_getElem?_toList_append, op_at_i]
      exact List.cons_prefix_cons.mpr ⟨rfl, List.take_prefix _ _⟩
    have parts := congrArg (List.countP LinkOp.isFlush) (List.take_append_drop i ops)
    rw [List.countP_append] at parts
    have less := tail.sublist.countP_le (p := LinkOp.isFlush)
    omega
  have flushed := finalState_flushes hmac start (ops.take i)
  change _ = 0 + _ at flushed
  have reached : Numbered (finalState (linkStep hmac) start (ops.take i)) :=
    finalState_numbered hmac _ (linkStart_numbered gateway gatewayId hubId sessionKey hub) (by change 0 + _ < _; omega)
  have again : some second ∈ (answers.drop (i + 1)).take (j - i) := by
    refine List.mem_of_getElem? (i := j - i - 1) ?_
    rw [List.getElem?_take_of_lt (by omega), List.getElem?_drop]
    rwa [show i + 1 + (j - i - 1) = j by omega]
  obtain ⟨o, member, logged⟩ := repeat_needs_gap hmac op between reached (by omega) answer first_accepts
    (segment ▸ again) second_accepts
  rw [← segment] at member
  obtain ⟨m, at_m⟩ := List.mem_iff_getElem?.mp member
  have inside : m < j - i := by
    obtain ⟨bound, -⟩ := List.getElem?_eq_some_iff.mp at_m
    rw [List.length_take] at bound
    omega
  rw [List.getElem?_take_of_lt inside, List.getElem?_drop] at at_m
  exact ⟨i + 1 + m, o, by omega, by omega, at_m, logged⟩

def AtMostOnce (answers : List (Option IngestOutcome)) : Prop :=
  ∀ (sequence : UInt32) (i j : Nat) (first second : IngestOutcome), answers[i]? = some (some first) →
    answers[j]? = some (some second) → first.Accepts sequence → second.Accepts sequence → i = j

def freshLink : Link :=
  linkStart { sendRegistered := true } 0xF0 1 (Vector.replicate 32 9)
    { gatewayTrackerInit 0xF0 (Vector.replicate 32 9) with authenticated := true }

def duplicateRun : List LinkOp :=
  [.setState .authenticated, .cacheWrite (5, 31) ⟨0x41A00000⟩, .flush true,
    .deliver 0 (.tracker nodeFiveTrusted) 22, .deliver 0 (.tracker nodeFiveTrusted) 22]

theorem duplicate_accepted_twice : ¬AtMostOnce (outputs (linkStep lengthHmac) freshLink duplicateRun) := by
  intro once
  have same := once 0 3 4 _ _ rfl rfl ⟨by decide, by decide⟩ ⟨by decide, by decide⟩
  cases same

theorem duplicate_logged :
    ∃ k o, 3 < k ∧ k ≤ 4 ∧ (outputs (linkStep lengthHmac) freshLink duplicateRun)[k]? = some (some o) ∧ o.LogsGap :=
  repeated_sequence_logged lengthHmac { sendRegistered := true } 0xF0 1 (Vector.replicate 32 9)
    { gatewayTrackerInit 0xF0 (Vector.replicate 32 9) with authenticated := true } duplicateRun (by decide) 3 4
    (by decide) _ _ 0 rfl rfl ⟨by decide, by decide⟩ ⟨by decide, by decide⟩

end IotPlatform
