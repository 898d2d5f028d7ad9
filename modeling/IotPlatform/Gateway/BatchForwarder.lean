import IotPlatform.Gateway.StatefulCache
import IotPlatform.Gateway.GatewayAuth

/-!
# The batch forwarder

`batch_forwarder.c`: one flush collects up to 22 dirty cache entries, signs a frame, hands it to the radio and
clears the flags when the radio confirms. `batchForwarderFlush_cases` says everything a flush can do.
-/

namespace IotPlatform

structure BatchForwarderStats where
  totalBatches : UInt32 := 0
  totalEntriesSent : UInt32 := 0
  totalSendOk : UInt32 := 0
  totalSendFail : UInt32 := 0
  deriving DecidableEq, Repr

/-- The statics of the cache and of the forwarder; `authCtx` is the context behind `s_auth_ctx`. -/
structure Gateway where
  cache : Cache := {}
  sendRegistered : Bool := false
  authCtx : Option GatewayAuthContext := none
  stats : BatchForwarderStats := {}

def batchForwarderInit (g : Gateway) (sendFunc : Bool) : Gateway :=
  { g with sendRegistered := sendFunc, authCtx := none, stats := {} }

def batchForwarderSetAuth (g : Gateway) (authCtx : Option GatewayAuthContext) : Gateway :=
  { g with authCtx := authCtx }

def CacheEntry.toFrameEntry (e : CacheEntry) : BatchFrameEntry :=
  { nodeId := e.nodeId, metricId := e.metricId, value := e.value }

def batchHeader (ctx : GatewayAuthContext) (dirtyCount : UInt8) : BatchFrameHeader :=
  { magic := batchFrameMagic, version := batchFrameVersion, entryCount := dirtyCount, flags := 0x00
    sequenceNumber := ctx.txSequence }

/-- The tag goes over the last 32 bytes; an unsigned frame keeps its zeros. -/
def signInPlace (hmac : Hmac) (ctx : GatewayAuthContext) (wire : List UInt8) : List UInt8 :=
  let hmacOffset := wire.length - gatewayHmacSize
  match gatewaySignFrame hmac ctx (wire.take hmacOffset) with
  | some tag => wire.take hmacOffset ++ tag.toList
  | none => wire

def clearDirtyAll (c : Cache) (sent : List CacheEntry) : Cache :=
  sent.foldl (fun c e => (cacheClearDirty c e.key).1) c

structure FlushOutcome where
  gateway : Gateway
  count : UInt8
  /-- The bytes handed to the send function and its answer, when it was called. -/
  sent : Option (List UInt8 × Bool)

def batchForwarderFlush (hmac : Hmac) (g : Gateway) (send : List UInt8 → Bool) : FlushOutcome :=
  if !g.sendRegistered then { gateway := g, count := 0, sent := none }
  else
    match g.authCtx with
    | none => { gateway := g, count := 0, sent := none }
    | some ctx =>
      if ctx.state ≠ .authenticated then { gateway := g, count := 0, sent := none }
      else
        let dirty := cacheGetDirty g.cache (UInt8.ofNat batchMaxEntries)
        let dirtyCount := UInt8.ofNat dirty.length
        if dirtyCount = 0 then { gateway := g, count := 0, sent := none }
        else
          let stats := { g.stats with totalBatches := g.stats.totalBatches + 1 }
          match batchEncodeFrame (batchHeader ctx dirtyCount) (dirty.map CacheEntry.toFrameEntry) dirtyCount
              batchFrameMaxSize with
          | none => { gateway := { g with stats := stats }, count := 0, sent := none }
          | some wire =>
            let signed := signInPlace hmac ctx wire
            -- The length goes to the radio as a `uint8_t`.
            let payload := signed.take (signed.length % 256)
            if send payload then
              { gateway :=
                  { g with
                    cache := clearDirtyAll g.cache dirty
                    authCtx := some (gatewayAdvanceSequence ctx)
                    stats := { stats with
                      totalSendOk := stats.totalSendOk + 1
                      totalEntriesSent := stats.totalEntriesSent + dirtyCount.toUInt32 } }
                count := dirtyCount, sent := some (payload, true) }
            else
              { gateway := { g with stats := { stats with totalSendFail := stats.totalSendFail + 1 } }
                count := dirtyCount, sent := some (payload, false) }

/-! ### What a flush can do -/

def Gateway.batch (g : Gateway) : List CacheEntry := cacheGetDirty g.cache (UInt8.ofNat batchMaxEntries)

def frameBody (ctx : GatewayAuthContext) (batch : List CacheEntry) : List UInt8 :=
  encodeHeader (batchHeader ctx (UInt8.ofNat batch.length)) ++ (batch.map CacheEntry.toFrameEntry).flatMap encodeEntry

def signedFrame (hmac : Hmac) (ctx : GatewayAuthContext) (batch : List CacheEntry) : List UInt8 :=
  frameBody ctx batch ++ (hmac ctx.sessionKey.toList (frameBody ctx batch)).toList

theorem length_batch (g : Gateway) : g.batch.length ≤ 22 := List.length_take_le ..

theorem mem_batch {g : Gateway} {e : CacheEntry} (member : e ∈ g.batch) :
    e ∈ g.cache.entries ∧ e.valid = true ∧ e.dirty = true := by
  have dirty := List.mem_of_mem_take member
  simpa using List.mem_filter.mp dirty

theorem length_frameBody (ctx : GatewayAuthContext) (batch : List CacheEntry) :
    (frameBody ctx batch).length = 8 + batch.length * 7 := by
  rw [frameBody, List.length_append, length_encodeHeader, length_flatMap_encodeEntry, List.length_map]

theorem length_signedFrame (hmac : Hmac) (ctx : GatewayAuthContext) (batch : List CacheEntry) :
    (signedFrame hmac ctx batch).length = 8 + batch.length * 7 + 32 := by
  rw [signedFrame, List.length_append, length_frameBody, Vector.length_toList]

theorem toNat_ofNat_length {batch : List CacheEntry} (small : batch.length ≤ 22) :
    (UInt8.ofNat batch.length).toNat = batch.length := by
  rw [UInt8.toNat_ofNat']
  omega

theorem batchEncodeFrame_batch (ctx : GatewayAuthContext) {batch : List CacheEntry} (small : batch.length ≤ 22) :
    batchEncodeFrame (batchHeader ctx (UInt8.ofNat batch.length)) (batch.map CacheEntry.toFrameEntry)
      (UInt8.ofNat batch.length) batchFrameMaxSize = some (frameBody ctx batch ++ List.replicate 32 0) := by
  have all : (batch.map CacheEntry.toFrameEntry).take batch.length = batch.map CacheEntry.toFrameEntry :=
    List.take_of_length_le (by rw [List.length_map])
  unfold batchEncodeFrame
  rw [toNat_ofNat_length small, all, if_neg]
  · rfl
  · simp only [batchFrameMaxSize, batchFrameHeaderSize, batchMaxEntries, batchFrameEntrySize, batchFrameHmacSize]
    omega

theorem signInPlace_placeholder (hmac : Hmac) {ctx : GatewayAuthContext} (authenticated : ctx.state = .authenticated)
    (batch : List CacheEntry) :
    signInPlace hmac ctx (frameBody ctx batch ++ List.replicate 32 0) = signedFrame hmac ctx batch := by
  have offset : (frameBody ctx batch ++ List.replicate 32 0).length - gatewayHmacSize = (frameBody ctx batch).length := by
    rw [List.length_append, List.length_replicate, gatewayHmacSize, Nat.add_sub_cancel]
  have nonempty : ¬(frameBody ctx batch).length = 0 := by
    rw [length_frameBody]
    omega
  rw [signInPlace, offset, List.take_left, gatewaySignFrame, if_neg (not_not.mpr authenticated), if_neg nonempty]
  rfl

theorem take_signedFrame (hmac : Hmac) (ctx : GatewayAuthContext) {batch : List CacheEntry} (small : batch.length ≤ 22) :
    (signedFrame hmac ctx batch).take ((signedFrame hmac ctx batch).length % 256) = signedFrame hmac ctx batch := by
  have fits : (signedFrame hmac ctx batch).length < 256 := by
    rw [length_signedFrame]
    omega
  rw [Nat.mod_eq_of_lt fits, List.take_length]

def Gateway.Sends (g : Gateway) (ctx : GatewayAuthContext) : Prop :=
  g.sendRegistered = true ∧ g.authCtx = some ctx ∧ ctx.state = .authenticated ∧ g.batch ≠ []

def sentStats (stats : BatchForwarderStats) (count : UInt8) (sendOk : Bool) : BatchForwarderStats :=
  if sendOk then
    { stats with
      totalBatches := stats.totalBatches + 1
      totalSendOk := stats.totalSendOk + 1
      totalEntriesSent := stats.totalEntriesSent + count.toUInt32 }
  else { stats with totalBatches := stats.totalBatches + 1, totalSendFail := stats.totalSendFail + 1 }

def Gateway.afterSend (g : Gateway) (ctx : GatewayAuthContext) (sendOk : Bool) : Gateway :=
  { g with
    cache := if sendOk then clearDirtyAll g.cache g.batch else g.cache
    authCtx := some (if sendOk then gatewayAdvanceSequence ctx else ctx)
    stats := sentStats g.stats (UInt8.ofNat g.batch.length) sendOk }

/-- Everything a flush can do: nothing at all, a confirmed send or a failed one. -/
theorem batchForwarderFlush_cases (hmac : Hmac) (g : Gateway) (send : List UInt8 → Bool) :
    ((∀ ctx, ¬g.Sends ctx) ∧ batchForwarderFlush hmac g send = { gateway := g, count := 0, sent := none }) ∨
    ∃ ctx, g.Sends ctx ∧
      batchForwarderFlush hmac g send =
        { gateway := g.afterSend ctx (send (signedFrame hmac ctx g.batch))
          count := UInt8.ofNat g.batch.length
          sent := some (signedFrame hmac ctx g.batch, send (signedFrame hmac ctx g.batch)) } := by
  have small := length_batch g
  unfold batchForwarderFlush
  cases registered : g.sendRegistered with
  | false => exact .inl ⟨fun ctx sends => by simp [sends.1] at registered, rfl⟩
  | true =>
    cases auth : g.authCtx with
    | none => exact .inl ⟨fun ctx sends => by simp [sends.2.1] at auth, rfl⟩
    | some ctx =>
      simp only [Bool.not_true, Bool.false_eq_true, if_false]
      by_cases authenticated : ctx.state = .authenticated
      · rw [if_neg (not_not.mpr authenticated)]
        rw [show cacheGetDirty g.cache (UInt8.ofNat batchMaxEntries) = g.batch from rfl]
        by_cases empty : g.batch = []
        · exact .inl ⟨fun _ sends => sends.2.2.2 empty, by simp [empty]⟩
        · have some_dirty : ¬UInt8.ofNat g.batch.length = 0 := by
            intro zero
            have count := toNat_ofNat_length small
            rw [zero] at count
            exact empty (List.eq_nil_of_length_eq_zero count.symm)
          rw [if_neg some_dirty, batchEncodeFrame_batch ctx small]
          simp only [signInPlace_placeholder hmac authenticated, take_signedFrame hmac ctx small]
          right
          refine ⟨ctx, ⟨registered, auth, authenticated, empty⟩, ?_⟩
          cases send (signedFrame hmac ctx g.batch) with
          | true => simp [Gateway.afterSend, sentStats, registered]
          | false => simp [Gateway.afterSend, sentStats, registered]
      · rw [if_pos authenticated]
        refine .inl ⟨fun ctx' sends => authenticated ?_, rfl⟩
        rw [sends.2.1] at auth
        exact Option.some.inj auth ▸ sends.2.2.1

end IotPlatform
