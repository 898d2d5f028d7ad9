import IotPlatform.Shared.NetResilience

/-!
# Publishing and reconnecting in time

How long a client waits between two publications at each pressure, and before each attempt to reconnect.
-/

namespace IotPlatform
open Run

/-! ### The publish interval -/

/-- Whether a client under that pressure may publish so long after it did last. -/
def allowedAfter (ctx : NetResilienceContext) (pressure : BackpressureLevel) (interval : UInt32) : Bool :=
  netResilienceCanPublish { ctx with pressure := pressure } (ctx.lastPublishMs + interval)

structure LeastAllowed (ctx : NetResilienceContext) (i : UInt32) : Prop where
  allowed : allowedAfter ctx .ok i = true
  least : ∀ j, allowedAfter ctx .ok j = true → i ≤ j

/-- Under moderate pressure a client waits at least four times as long as without any. -/
def ThrottledFourfold (ctx : NetResilienceContext) : Prop :=
  ∀ i, LeastAllowed ctx i → ∀ interval : UInt32, interval.toNat < 4 * i.toNat → allowedAfter ctx .moderate interval = false

def defaultInterval (interval : UInt32) : UInt32 := if interval = 0 then 1000 else interval

section Interval

variable {ctx : NetResilienceContext}

theorem allowedAfter_offline (offline : ¬(ctx.initialized = true ∧ ctx.cloudConnected = true)) (pressure : BackpressureLevel)
    (interval : UInt32) : allowedAfter ctx pressure interval = false := by
  unfold allowedAfter netResilienceCanPublish
  cases ready : ctx.initialized with
  | false => rfl
  | true =>
    cases online : ctx.cloudConnected with
    | false => rfl
    | true => exact absurd ⟨ready, online⟩ offline

theorem allowedAfter_ok (ready : ctx.initialized = true) (online : ctx.cloudConnected = true) (interval : UInt32) :
    allowedAfter ctx .ok interval = true ↔ defaultInterval ctx.cloudPublishRateMs ≤ interval := by
  have elapsed : ctx.lastPublishMs + interval - ctx.lastPublishMs = interval := by
    rw [UInt32.add_comm, UInt32.add_sub_cancel]
  simp [allowedAfter, netResilienceCanPublish, ready, online, elapsed, defaultInterval]

theorem allowedAfter_moderate (ready : ctx.initialized = true) (online : ctx.cloudConnected = true) (interval : UInt32) :
    allowedAfter ctx .moderate interval = true ↔ defaultInterval (ctx.cloudPublishRateMs * 4) ≤ interval := by
  have elapsed : ctx.lastPublishMs + interval - ctx.lastPublishMs = interval := by
    rw [UInt32.add_comm, UInt32.add_sub_cancel]
  simp [allowedAfter, netResilienceCanPublish, ready, online, elapsed, defaultInterval]

theorem leastAllowed_iff (ready : ctx.initialized = true) (online : ctx.cloudConnected = true) (i : UInt32) :
    LeastAllowed ctx i ↔ i = defaultInterval ctx.cloudPublishRateMs := by
  constructor
  · rintro ⟨allowed, least⟩
    rw [allowedAfter_ok ready online] at allowed
    exact UInt32.le_antisymm (least _ ((allowedAfter_ok ready online _).mpr (UInt32.le_refl _))) allowed
  · rintro rfl
    refine ⟨(allowedAfter_ok ready online _).mpr (UInt32.le_refl _), fun j allowed => ?_⟩
    exact (allowedAfter_ok ready online j).mp allowed

end Interval

/-- A client that can publish at all is throttled fourfold exactly when its rate is not zero and four times it fits 32
bits. -/
theorem publish_throttle_exact (ctx : NetResilienceContext) :
    ThrottledFourfold ctx ↔ (ctx.initialized = true ∧ ctx.cloudConnected = true →
      0 < ctx.cloudPublishRateMs.toNat ∧ ctx.cloudPublishRateMs.toNat < 2 ^ 30) := by
  by_cases open' : ctx.initialized = true ∧ ctx.cloudConnected = true
  · obtain ⟨ready, online⟩ := open'
    have moderate := allowedAfter_moderate ready online
    simp only [ready, online, and_self, true_imp_iff, ThrottledFourfold, leastAllowed_iff ready online, forall_eq]
    generalize ctx.cloudPublishRateMs = rate at moderate ⊢
    constructor
    · intro throttled
      have slowest : 4 * (defaultInterval rate).toNat ≤ (defaultInterval (rate * 4)).toNat := by
        apply Nat.le_of_not_lt
        intro early
        exact Bool.false_ne_true ((throttled _ early).symm.trans ((moderate _).mpr (UInt32.le_refl _)))
      have bound := (defaultInterval (rate * 4)).toNat_lt
      by_cases zero : rate = 0
      · rw [zero] at slowest
        exact absurd slowest (by decide)
      · have positive : rate.toNat ≠ 0 := fun none => zero (UInt32.toNat_inj.mp none)
        rw [defaultInterval, if_neg zero] at slowest
        omega
    · rintro ⟨positive, small⟩ interval early
      have fourfold : (rate * 4).toNat = rate.toNat * 4 := by
        rw [UInt32.toNat_mul]
        exact Nat.mod_eq_of_lt (show rate.toNat * 4 < 2 ^ 32 by omega)
      have some : ∀ r : UInt32, 0 < r.toNat → defaultInterval r = r := by
        rintro r nonzero
        rw [defaultInterval, if_neg]
        rintro rfl
        exact Nat.lt_irrefl 0 nonzero
      rw [some rate positive] at early
      rw [← Bool.not_eq_true, moderate, some _ (by omega), UInt32.le_iff_toNat_le]
      omega
  · exact iff_of_true (fun _ _ _ _ => allowedAfter_offline open' ..) fun online => absurd online open'

/-- As `net_resilience_init` leaves it, a client is throttled no more under moderate pressure than without any. -/
theorem initial_rate_not_throttled :
    ¬∀ (cloudPublishRateMs lastPublishMs : UInt32), ThrottledFourfold
      { netResilienceInit with cloudPublishRateMs := cloudPublishRateMs, lastPublishMs := lastPublishMs } := by
  intro throttled
  have least : LeastAllowed { netResilienceInit with cloudPublishRateMs := 0, lastPublishMs := 0 } 1000 :=
    (leastAllowed_iff rfl rfl 1000).mpr rfl
  have refused := throttled 0 0 1000 least 1000 (by decide)
  exact absurd refused (by decide)

/-! ### The reconnection delay -/

def netResilienceGetReconnectDelay (ctx : NetResilienceContext) : UInt32 :=
  if !ctx.initialized then reconnectMaxDelayMs else ctx.reconnect.delayMs

def failuresAfter (failures : Nat) : ConnectionOp → Nat
  | .reportReconnectFail => failures + 1
  | .reportReconnectSuccess => 0
  | _ => failures

/-- The failures since the last success, or from the start. -/
def failuresSince (ops : List ConnectionOp) : Nat := ops.foldl failuresAfter 0

/-- The next doubling fits 32 bits. -/
def DoublingFits (l : ConnectionLedger) : Prop := l.ctx.reconnect.delayMs.toNat * reconnectMultiplier.toNat < 2 ^ 32

structure BacksOff (failures : Nat) (ctx : NetResilienceContext) : Prop where
  ready : ctx.initialized = true
  cap : ctx.reconnect.maxDelayMs = reconnectMaxDelayMs
  delay : ctx.reconnect.delayMs.toNat = min (1000 * 2 ^ failures) 300000

section Backoff

variable {failures : Nat} {l : ConnectionLedger}

theorem BacksOff.doublingFits (backs : BacksOff failures l.ctx) : DoublingFits l := by
  have multiplier : reconnectMultiplier.toNat = 2 := rfl
  rw [DoublingFits, multiplier, backs.delay]
  omega

theorem BacksOff.fail (backs : BacksOff failures l.ctx) :
    BacksOff (failures + 1) (netResilienceReportReconnectFail l.ctx) := by
  have fits : l.ctx.reconnect.delayMs.toNat * reconnectMultiplier.toNat < 2 ^ 32 := backs.doublingFits
  have doubled : (l.ctx.reconnect.delayMs * reconnectMultiplier).toNat = l.ctx.reconnect.delayMs.toNat * 2 := by
    rw [UInt32.toNat_mul, Nat.mod_eq_of_lt fits]
    rfl
  have cap : reconnectMaxDelayMs.toNat = 300000 := rfl
  rw [netResilienceReportReconnectFail, backs.ready]
  refine ⟨rfl, backs.cap, ?_⟩
  show (if l.ctx.reconnect.delayMs * reconnectMultiplier > l.ctx.reconnect.maxDelayMs then l.ctx.reconnect.maxDelayMs
    else l.ctx.reconnect.delayMs * reconnectMultiplier).toNat = _
  rw [backs.cap, Nat.pow_succ]
  rw [backs.delay] at doubled
  split
  · rename_i above
    rw [gt_iff_lt, UInt32.lt_iff_toNat_lt, doubled, cap] at above
    rw [cap]
    omega
  · rename_i within
    rw [gt_iff_lt, UInt32.lt_iff_toNat_lt, doubled, cap] at within
    rw [doubled]
    omega

theorem connectionStep_backsOff (backs : BacksOff failures l.ctx) (op : ConnectionOp) :
    BacksOff (failuresAfter failures op) (connectionStep l op).1.ctx := by
  cases op with
  | updateConnection connected freeHeap =>
    rw [connectionStep, netResilienceUpdateConnection, backs.ready]
    exact ⟨rfl, backs.cap, backs.delay⟩
  | reportReconnectFail => exact backs.fail
  | reportReconnectSuccess =>
    rw [connectionStep, netResilienceReportReconnectSuccess, backs.ready]
    exact ⟨rfl, backs.cap, rfl⟩
  | reportPublish nowMs =>
    rw [connectionStep, netResilienceReportPublish, backs.ready]
    exact ⟨rfl, backs.cap, backs.delay⟩

theorem finalState_backsOff (backs : BacksOff failures l.ctx) (ops : List ConnectionOp) :
    BacksOff (ops.foldl failuresAfter failures) (finalState connectionStep l ops).ctx := by
  induction ops generalizing failures l with
  | nil => exact backs
  | cons op rest ih => exact ih (connectionStep_backsOff backs op)

end Backoff

/-- After every run the delay is a thousand times two to the number of failures since the last success, up to five minutes,
and no doubling on the way overflows. -/
theorem reconnect_backoff_closed_form (ops : List ConnectionOp) :
    (netResilienceGetReconnectDelay (finalState connectionStep {} ops).ctx).toNat =
        min (1000 * 2 ^ failuresSince ops) 300000 ∧
      Always DoublingFits connectionStep {} ops := by
  have start : BacksOff 0 ({} : ConnectionLedger).ctx := ⟨rfl, rfl, rfl⟩
  have final := finalState_backsOff start ops
  refine ⟨?_, fun n => (finalState_backsOff start (ops.take n)).doublingFits⟩
  rw [netResilienceGetReconnectDelay, final.ready]
  exact final.delay

end IotPlatform
