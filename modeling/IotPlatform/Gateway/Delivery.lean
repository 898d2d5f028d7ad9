import IotPlatform.Gateway.CacheForwarding

/-!
# From the gateway's cache to the hub

The bytes of a flush, given to the hub's ingestion entry point, come out as the dirty entries that went in.
-/

namespace IotPlatform

theorem verifiedFrame_signedFrame {hmac : Hmac} {tracker : GatewayTracker} {ctx : GatewayAuthContext}
    (authenticated : tracker.authenticated = true) (same_key : tracker.sessionKey = ctx.sessionKey)
    (batch : List CacheEntry) : VerifiedFrame hmac tracker (signedFrame hmac ctx batch) := by
  have body : (signedFrame hmac ctx batch).length - 32 = (frameBody ctx batch).length := by
    rw [length_signedFrame, length_frameBody]
    omega
  refine ⟨authenticated, rfl, ?_, ?_⟩
  · rw [length_signedFrame]
    omega
  · rw [body, same_key, signedFrame, List.drop_left, List.take_left]

theorem acceptedFrame_signedFrame {hmac : Hmac} {tracker : GatewayTracker} {ctx : GatewayAuthContext}
    (authenticated : tracker.authenticated = true) (same_key : tracker.sessionKey = ctx.sessionKey)
    {batch : List CacheEntry} (small : batch.length ≤ 22) :
    acceptedFrame hmac tracker (signedFrame hmac ctx batch) =
      some (batchHeader ctx (UInt8.ofNat batch.length), batch.map CacheEntry.toFrameEntry) := by
  rw [acceptedFrame, gatewayVerifyFrame_of (verifiedFrame_signedFrame authenticated same_key batch), if_pos rfl,
    batchDecode_signedFrame hmac ctx small]

theorem edgeTrackerIsTrusted_zero {edge : EdgeNodeTracker} {nodeId : UInt8} {now : UInt64}
    (trusted : edgeTrackerIsTrusted edge nodeId now = true) : edgeTrackerIsTrusted edge nodeId 0 = true := by
  unfold edgeTrackerIsTrusted at trusted ⊢
  cases found : edge.entries.find? (·.holds nodeId) with
  | none => simp [found] at trusted
  | some e =>
    cases attested : e.attested with
    | false => simp [found, attested] at trusted
    | true => simp [attested]

def dirtyEntries (c : Cache) : List CacheEntry := c.entries.filter fun e => e.valid && e.dirty

/-- A flush of an authenticated gateway reaches a hub that shares its key and trusts its nodes unchanged. -/
theorem flush_ingested (hmac : Hmac) (g : Gateway) (ctx : GatewayAuthContext) (send : List UInt8 → Bool)
    (tracker : GatewayTracker) (edge : EdgeNodeTracker) (now : UInt64) (maxEntries : UInt8)
    (registered : g.sendRegistered = true) (auth : g.authCtx = some ctx) (authenticated : ctx.state = .authenticated)
    (dirty : dirtyEntries g.cache ≠ []) (known : tracker.authenticated = true)
    (same_key : tracker.sessionKey = ctx.sessionKey)
    (trusted : ∀ e ∈ (dirtyEntries g.cache).take 22,
      ∃ nodeId : UInt8, nodeId.toNat = e.nodeId.toNat ∧ edgeTrackerIsTrusted edge nodeId now = true)
    (room : 22 ≤ maxEntries.toNat) :
    ∃ frame, (batchForwarderFlush hmac g send).sent = some (frame, send frame) ∧
      let o := gatewayIngestFrame hmac tracker (.tracker edge) frame maxEntries
      o.result = .ok ∧
      o.entries = ((dirtyEntries g.cache).take (min 22 (dirtyEntries g.cache).length)).map CacheEntry.toFrameEntry ∧
      o.header.map BatchFrameHeader.sequenceNumber = some ctx.txSequence ∧
      o.tracker.lastSequence = ctx.txSequence ∧ o.tracker.sequenceInitialized = true := by
  have small := length_batch g
  have all_trusted : ∀ e ∈ g.batch.map CacheEntry.toFrameEntry, (EdgeTrackerArg.tracker edge).admits e.shortId = true := by
    intro e member
    obtain ⟨cached, cached_member, rfl⟩ := List.mem_map.mp member
    obtain ⟨nodeId, same, trust⟩ := trusted cached cached_member
    have short : cached.toFrameEntry.shortId = nodeId := by
      apply UInt8.toNat_inj.mp
      change cached.nodeId.toNat % 256 = nodeId.toNat
      rw [← same, Nat.mod_eq_of_lt nodeId.toNat_lt]
    exact short ▸ edgeTrackerIsTrusted_zero trust
  have batch : g.batch = (dirtyEntries g.cache).take (min 22 (dirtyEntries g.cache).length) := by
    rw [List.take_eq_take_min.symm]
    rfl
  have nonempty : g.batch ≠ [] := by
    intro empty
    rcases List.take_eq_nil_iff.mp empty with none | clean
    · cases none
    · exact dirty clean
  obtain ⟨silent, -⟩ | ⟨ctx', ⟨-, auth', -, -⟩, sent⟩ := batchForwarderFlush_cases hmac g send
  · exact absurd ⟨registered, auth, authenticated, nonempty⟩ (silent ctx)
  · obtain rfl : ctx' = ctx := Option.some.inj (auth'.symm.trans auth)
    refine ⟨signedFrame hmac ctx' g.batch, by rw [sent], ?_⟩
    have accepted : acceptedFrame hmac tracker (signedFrame hmac ctx' g.batch) = _ :=
      acceptedFrame_signedFrame known same_key small
    rw [gatewayIngestFrame_accepted accepted]
    refine ⟨rfl, ?_, rfl, rfl, rfl⟩
    have fits : (g.batch.map CacheEntry.toFrameEntry).length ≤ maxEntries.toNat := by
      rw [List.length_map]
      omega
    rw [← batch]
    change (filterTrusted _ _ _).1 = _
    rw [filterTrusted_entries, List.filter_eq_self.mpr all_trusted, List.take_of_length_le fits]

def lengthHmac : Hmac := fun _ data => Vector.replicate 32 (UInt8.ofNat data.length)

def sampleContext : GatewayAuthContext :=
  { gatewayNodeId := 0xF0, hubNodeId := 1, sessionKey := Vector.replicate 32 9, txSequence := 7, state := .authenticated }

/-- One reading, 20.0 for metric 31 of node 5, waits in the cache. -/
def oneReadingGateway : Gateway :=
  { cache := (cacheWrite cacheInit (5, 31) ⟨0x41A00000⟩).1, sendRegistered := true, authCtx := some sampleContext }

def sampleTracker : GatewayTracker :=
  { gatewayNodeId := 0xF0, lastSequence := 6, sequenceInitialized := true, sessionKey := Vector.replicate 32 9
    authenticated := true }

def nodeFiveTrusted : EdgeNodeTracker := (recordTrust (edgeTrackerInit 0) 5 1000).1

theorem flush_ingested_one_reading :
    ∃ frame, (batchForwarderFlush lengthHmac oneReadingGateway fun _ => true).sent = some (frame, true) ∧
      let o := gatewayIngestFrame lengthHmac sampleTracker (.tracker nodeFiveTrusted) frame 22
      o.result = .ok ∧ o.entries = [{ nodeId := 5, metricId := 31, value := ⟨0x41A00000⟩ }] ∧
        o.tracker.lastSequence = 7 := by
  have trusted : ∀ e ∈ (dirtyEntries oneReadingGateway.cache).take 22,
      ∃ nodeId : UInt8, nodeId.toNat = e.nodeId.toNat ∧ edgeTrackerIsTrusted nodeFiveTrusted nodeId 2000 = true := by
    intro e member
    have only : e = { nodeId := 5, metricId := 31, value := ⟨0x41A00000⟩, valid := true, dirty := true } :=
      List.mem_singleton.mp member
    exact ⟨5, by rw [only]; rfl, by decide⟩
  obtain ⟨frame, sent, ok, entries, -, sequence, -⟩ :=
    flush_ingested lengthHmac oneReadingGateway sampleContext (fun _ => true) sampleTracker nodeFiveTrusted 2000 22
      rfl rfl rfl (by decide) rfl rfl trusted (by decide)
  exact ⟨frame, sent, ok, entries, sequence⟩

end IotPlatform
