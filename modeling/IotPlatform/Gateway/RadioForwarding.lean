import IotPlatform.Gateway.Delivery
import IotPlatform.Shared.LoraHandler
import IotPlatform.Shared.ZigbeeHandler

/-!
# The radio under the forwarder

The forwarder hands its frames to `lora_send` or `zigbee_send`, whichever the profile links. A frame of up to 22 entries
goes through LoRa; a Zigbee payload has room for three.
-/

namespace IotPlatform
open Run

/-- The handler of the active profile and where it sends. -/
inductive RadioHandler where
  | lora (handler : LoraHandler) (destAddr : UInt16)
  | zigbee (handler : ZigbeeHandler) (destAddr : UInt16) (destEndpoint : UInt8)

def RadioHandler.Joined : RadioHandler → Prop
  | .lora handler _ => handler.Joined
  | .zigbee handler _ _ => handler.Joined

/-- The number of entries whose frame the handler takes. -/
def RadioHandler.Carries : RadioHandler → Nat → Prop
  | .lora .., _ => True
  | .zigbee .., count => count ≤ 3

instance (radio : RadioHandler) (count : Nat) : Decidable (radio.Carries count) :=
  match radio with
  | .lora .. => .isTrue trivial
  | .zigbee .. => inferInstanceAs (Decidable (count ≤ 3))

structure Transceivers (W : Type) where
  lora : LoraRadio W
  zigbee : ZigbeeRadio W

structure Transceivers.Acknowledge {W : Type} (radios : Transceivers W) : Prop where
  lora : radios.lora.Acknowledges
  zigbee : radios.zigbee.Transmits

section Forwarding

variable {W : Type}

/-- The registered send function: whether `lora_send` or `zigbee_send` returned OK. -/
def radioSend (radios : Transceivers W) (radio : RadioHandler) (world : W) (payload : List UInt8) :
    RadioHandler × W × Bool :=
  match radio with
  | .lora handler destAddr =>
    let o := loraSend radios.lora handler world destAddr payload
    (.lora o.handler destAddr, o.world, o.result = .ok)
  | .zigbee handler destAddr destEndpoint =>
    let o := zigbeeSend radios.zigbee handler world destAddr destEndpoint payload
    (.zigbee o.handler destAddr destEndpoint, o.world, o.result = .ok)

structure RadioGateway (W : Type) where
  gateway : Gateway
  radio : RadioHandler
  world : W

def radioFlush (hmac : Hmac) (radios : Transceivers W) (s : RadioGateway W) :
    RadioGateway W × Option (List UInt8 × Bool) :=
  let o := batchForwarderFlush hmac s.gateway fun payload => (radioSend radios s.radio s.world payload).2.2
  match o.sent with
  | none => ({ s with gateway := o.gateway }, none)
  | some (payload, sendOk) =>
    let (radio, world, _) := radioSend radios s.radio s.world payload
    ({ gateway := o.gateway, radio := radio, world := world }, some (payload, sendOk))

def FlushSucceeds (hmac : Hmac) (radios : Transceivers W) (s : RadioGateway W) : Prop :=
  ∃ frame, (radioFlush hmac radios s).2 = some (frame, true)

/-- No flush from here on succeeds while nothing is written. -/
def Blocked (hmac : Hmac) (radios : Transceivers W) (s : RadioGateway W) : Prop :=
  ∀ n, ¬FlushSucceeds hmac radios ((fun s => (radioFlush hmac radios s).1)^[n] s)

/-! ### One flush -/

theorem radioSend_carries {radios : Transceivers W} (acknowledge : radios.Acknowledge) {radio : RadioHandler}
    (joined : radio.Joined) (world : W) {count : Nat} (carries : radio.Carries count) {payload : List UInt8}
    (length : payload.length ≤ 40 + count * 7) : (radioSend radios radio world payload).2.2 = true := by
  cases radio with
  | lora handler destAddr =>
    exact decide_eq_true (loraSend_acknowledged acknowledge.lora joined world destAddr payload).1
  | zigbee handler destAddr destEndpoint =>
    have three : count ≤ 3 := carries
    have fits : payload.length ≤ 65 := by omega
    exact decide_eq_true (zigbeeSend_fits acknowledge.zigbee joined world destAddr destEndpoint fits).1

theorem radioSend_refused {radios : Transceivers W} {radio : RadioHandler} (joined : radio.Joined) (world : W) {count : Nat}
    (refuses : ¬radio.Carries count) {payload : List UInt8} (length : payload.length = 40 + count * 7) :
    radioSend radios radio world payload = (radio, world, false) := by
  cases radio with
  | lora handler destAddr => exact absurd trivial refuses
  | zigbee handler destAddr destEndpoint =>
    have four : ¬count ≤ 3 := refuses
    have oversized : 65 < payload.length := by omega
    rw [radioSend, zigbeeSend_oversized joined world destAddr destEndpoint oversized]
    rfl

theorem batch_eq_take (g : Gateway) : g.batch = (dirtyEntries g.cache).take 22 := rfl

variable {hmac : Hmac} {radios : Transceivers W} {s : RadioGateway W} {ctx : GatewayAuthContext}

theorem radioFlush_sends (sends : s.gateway.Sends ctx) :
    radioFlush hmac radios s =
      let frame := signedFrame hmac ctx s.gateway.batch
      let (radio, world, sendOk) := radioSend radios s.radio s.world frame
      ({ gateway := s.gateway.afterSend ctx sendOk, radio := radio, world := world }, some (frame, sendOk)) := by
  obtain ⟨silent, -⟩ | ⟨other, others, sent⟩ := batchForwarderFlush_cases hmac s.gateway fun payload =>
    (radioSend radios s.radio s.world payload).2.2
  · exact absurd sends (silent ctx)
  · have same : other = ctx := Option.some.inj (others.2.1.symm.trans sends.2.1)
    rw [radioFlush, sent, same]

theorem flushSucceeds_of_carries (acknowledge : radios.Acknowledge) (sends : s.gateway.Sends ctx) (joined : s.radio.Joined)
    (carries : s.radio.Carries (dirtyEntries s.gateway.cache).length) : FlushSucceeds hmac radios s := by
  have length : (signedFrame hmac ctx s.gateway.batch).length ≤ 40 + (dirtyEntries s.gateway.cache).length * 7 := by
    rw [length_signedFrame, batch_eq_take, List.length_take]
    omega
  have sent := radioSend_carries acknowledge joined s.world carries length
  refine ⟨signedFrame hmac ctx s.gateway.batch, ?_⟩
  rw [radioFlush_sends sends]
  exact congrArg (fun sendOk => some (_, sendOk)) sent

theorem radioFlush_refused (sends : s.gateway.Sends ctx) (joined : s.radio.Joined)
    (refuses : ¬s.radio.Carries (dirtyEntries s.gateway.cache).length) :
    radioFlush hmac radios s =
      ({ s with gateway := s.gateway.afterSend ctx false }, some (signedFrame hmac ctx s.gateway.batch, false)) := by
  have batch : ¬s.radio.Carries s.gateway.batch.length := by
    rw [batch_eq_take, List.length_take]
    revert refuses
    cases s.radio with
    | lora => exact id
    | zigbee =>
      simp only [RadioHandler.Carries]
      omega
  have length : (signedFrame hmac ctx s.gateway.batch).length = 40 + s.gateway.batch.length * 7 := by
    rw [length_signedFrame]
    omega
  rw [radioFlush_sends sends]
  dsimp only
  rw [radioSend_refused joined s.world batch length]

/-- A refused flush leaves everything that decides the next one. -/
theorem blocked_of_refused (sends : s.gateway.Sends ctx) (joined : s.radio.Joined)
    (refuses : ¬s.radio.Carries (dirtyEntries s.gateway.cache).length) : Blocked hmac radios s := by
  intro n
  have waits : ∃ g : Gateway, (fun s => (radioFlush hmac radios s).1)^[n] s = { s with gateway := g } ∧ g.Sends ctx ∧
      g.cache = s.gateway.cache := by
    induction n with
    | zero => exact ⟨s.gateway, rfl, sends, rfl⟩
    | succ n ih =>
      obtain ⟨g, before, sends', same⟩ := ih
      rw [Function.iterate_succ_apply', before]
      have refused : radioFlush hmac radios { s with gateway := g } =
          ({ s with gateway := g.afterSend ctx false }, some (signedFrame hmac ctx g.batch, false)) :=
        radioFlush_refused sends' joined (by rwa [same])
      exact ⟨g.afterSend ctx false, by rw [refused], ⟨sends'.1, rfl, sends'.2.2.1, sends'.2.2.2⟩, same⟩
  obtain ⟨g, after, sends', same⟩ := waits
  rintro ⟨frame, succeeds⟩
  rw [after, radioFlush_refused (s := { s with gateway := g }) sends' joined (by rwa [same])] at succeeds
  cases succeeds

/-! ### Runs -/

theorem gatewayRun_registered (hmac : Hmac) (ops : List GatewayOp) :
    (finalState (gatewayStep hmac) (gatewayStart true) ops).sendRegistered = true := by
  refine finalState_invariant (P := fun g : Gateway => g.sendRegistered = true) rfl (fun g op registered => ?_) ops
  cases op with
  | cacheWrite => exact registered
  | setState => exact registered
  | setAuth => exact registered
  | flush send =>
    rw [gatewayStep]
    obtain ⟨-, idle⟩ | ⟨ctx, -, sent⟩ := batchForwarderFlush_cases hmac g send
    · rw [idle]
      exact registered
    · rw [sent]
      exact registered

/-- With every transmission acknowledged, a flush of an authenticated gateway with something to send succeeds over LoRa,
and over Zigbee if at most three entries are dirty. Otherwise it is refused, and so is every flush after it. -/
theorem radio_flush_exact (hmac : Hmac) (radios : Transceivers W) (acknowledge : radios.Acknowledge) (ops : List GatewayOp)
    (radio : RadioHandler) (joined : radio.Joined) (world : W) :
    let g := finalState (gatewayStep hmac) (gatewayStart true) ops
    let s : RadioGateway W := { gateway := g, radio := radio, world := world }
    (∃ ctx, g.authCtx = some ctx ∧ ctx.state = .authenticated) → dirtyEntries g.cache ≠ [] →
      (FlushSucceeds hmac radios s ↔ radio.Carries (dirtyEntries g.cache).length) ∧
      (Blocked hmac radios s ↔ ¬radio.Carries (dirtyEntries g.cache).length) := by
  rintro g s ⟨ctx, auth, authenticated⟩ dirty
  have some_batch : g.batch ≠ [] := by
    rw [batch_eq_take]
    simpa using dirty
  have sends : s.gateway.Sends ctx := And.intro (gatewayRun_registered hmac ops) ⟨auth, authenticated, some_batch⟩
  by_cases carries : radio.Carries (dirtyEntries g.cache).length
  · have succeeds : FlushSucceeds hmac radios s := flushSucceeds_of_carries acknowledge sends joined carries
    exact ⟨iff_of_true succeeds carries, iff_of_false (fun blocked => blocked 0 succeeds) (not_not.mpr carries)⟩
  · have blocked : Blocked hmac radios s := blocked_of_refused sends joined carries
    exact ⟨iff_of_false (blocked 0) carries, iff_of_true blocked carries⟩

end Forwarding

/-- The simulated transceivers with no ACK failure set: every frame goes out and is acknowledged. -/
def mockRadios : Transceivers Unit where
  lora := { send := fun _ packet => ((), packet ≠ []), waitAck := fun _ _ => ((), true) }
  zigbee := { send := fun _ _ frame => ((), frame ≠ []) }

theorem mockRadios_acknowledge : mockRadios.Acknowledge where
  lora := ⟨fun _ _ nonempty => decide_eq_true nonempty, fun _ _ => rfl⟩
  zigbee := fun _ _ _ nonempty => decide_eq_true nonempty

def joinedZigbee : RadioHandler := .zigbee (zigbeeJoin (zigbeeInit 15)).1 0x0000 1

def writeReadings (count : Nat) : List GatewayOp :=
  .setAuth (some sampleContext) :: (List.range count).map fun i => .cacheWrite (UInt16.ofNat i, 0) ⟨0x41A00000⟩

theorem radio_flush_exact_three_readings :
    FlushSucceeds lengthHmac mockRadios
      { gateway := finalState (gatewayStep lengthHmac) (gatewayStart true) (writeReadings 3), radio := joinedZigbee
        world := () } :=
  ((radio_flush_exact lengthHmac mockRadios mockRadios_acknowledge (writeReadings 3) joinedZigbee ⟨rfl, rfl⟩ ()
    ⟨sampleContext, rfl, rfl⟩ (by decide)).1).mpr (by decide)

theorem four_readings_blocked :
    ¬∀ (ops : List GatewayOp) (radio : RadioHandler), radio.Joined →
      let g := finalState (gatewayStep lengthHmac) (gatewayStart true) ops
      let s : RadioGateway Unit := { gateway := g, radio := radio, world := () }
      (∃ ctx, g.authCtx = some ctx ∧ ctx.state = .authenticated) → dirtyEntries g.cache ≠ [] →
        FlushSucceeds lengthHmac mockRadios s ∧ ¬Blocked lengthHmac mockRadios s := by
  intro succeeds
  obtain ⟨-, unblocked⟩ := succeeds (writeReadings 4) joinedZigbee ⟨rfl, rfl⟩ ⟨sampleContext, rfl, rfl⟩ (by decide)
  have sends : (finalState (gatewayStep lengthHmac) (gatewayStart true) (writeReadings 4)).Sends sampleContext :=
    And.intro rfl ⟨rfl, rfl, by decide⟩
  exact unblocked (blocked_of_refused sends ⟨rfl, rfl⟩ (by decide))

end IotPlatform
