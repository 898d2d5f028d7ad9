import Mathlib.Data.List.Induction
import IotPlatform.Lib.Run
import IotPlatform.Lib.Occurrences
import IotPlatform.Shared.TransportChannel

/-!
# The transport sessions of a device

A device sets up any number of sessions with one peer under one shared key. Every session has the same keys, and its
nonces start again at counter zero: what keeps them apart is the session id, which counts creations modulo 256 and starts
again at each initialisation.
-/

namespace IotPlatform
open Occurrences Run

/-- What the sessions of a device have in common. -/
structure TransportPeering where
  localNodeId : UInt8
  remoteNodeId : UInt8
  sharedKey : TransportKey

def TransportPeering.keys (peering : TransportPeering) (hmac : Hmac) : TransportKey × TransportKey :=
  sessionKeys hmac peering.localNodeId peering.remoteNodeId peering.sharedKey

/-- The statics of the module and every session set up so far, in order of creation. A session that a caller overwrites
or loses in a restart stays in the list, unused. -/
structure TransportDevice where
  module : TransportModule := {}
  sessions : List TransportSession := []

inductive DeviceOp where
  | init
  | create
  | encrypt (session : Nat) (plaintext : List UInt8)
  | decrypt (session : Nat) (frame : TransportFrame)
  | invalidate (session : Nat)
  deriving DecidableEq

structure SealedCall where
  session : Nat
  encryption : CcmEncryption
  frame : TransportFrame
  deriving DecidableEq

inductive DeviceEvent where
  | sealed (call : SealedCall)
  | opened (session : Nat) (frame : TransportFrame) (plaintext : List UInt8)
  | quiet
  deriving DecidableEq

theorem set_found {α : Type} {xs : List α} {i : Nat} {x : α} (found : xs[i]? = some x) : xs.set i x = xs := by
  obtain ⟨inside, same⟩ := List.getElem?_eq_some_iff.mp found
  rw [← same, List.set_getElem_self]

theorem getElem?_set_cases {α : Type} {xs : List α} {i j : Nat} {old new x : α} (found : xs[i]? = some old)
    (at_j : (xs.set i new)[j]? = some x) : (i = j ∧ x = new) ∨ (i ≠ j ∧ xs[j]? = some x) := by
  obtain ⟨inside, -⟩ := List.getElem?_eq_some_iff.mp found
  by_cases here : i = j
  · subst here
    rw [List.getElem?_set_self inside] at at_j
    exact .inl ⟨rfl, (Option.some.inj at_j).symm⟩
  · rw [List.getElem?_set_ne here] at at_j
    exact .inr ⟨here, at_j⟩

section Device

variable (hmac : Hmac) (ccm : Ccm) (peering : TransportPeering)

def deviceStep (d : TransportDevice) : DeviceOp → TransportDevice × DeviceEvent
  | .init => ({ d with module := transportInit }, .quiet)
  | .create =>
    match transportCreateSession hmac d.module peering.localNodeId peering.remoteNodeId peering.sharedKey with
    | none => (d, .quiet)
    | some (m, session) => ({ module := m, sessions := d.sessions ++ [session] }, .quiet)
  | .encrypt i plaintext =>
    match d.sessions[i]? with
    | none => (d, .quiet)
    | some session =>
      match transportEncrypt ccm session plaintext with
      | (session', none) => ({ d with sessions := d.sessions.set i session' }, .quiet)
      | (session', some frame) =>
        let encryption : CcmEncryption :=
          { key := session.txKey, nonce := buildCcmNonce session.sessionId session.txNonceCounter, plaintext }
        ({ d with sessions := d.sessions.set i session' }, .sealed ⟨i, encryption, frame⟩)
  | .decrypt i frame =>
    match d.sessions[i]? with
    | none => (d, .quiet)
    | some session =>
      match transportDecrypt ccm session frame with
      | (session', .error _) => ({ d with sessions := d.sessions.set i session' }, .quiet)
      | (session', .ok plaintext) => ({ d with sessions := d.sessions.set i session' }, .opened i frame plaintext)
  | .invalidate i =>
    match d.sessions[i]? with
    | none => (d, .quiet)
    | some session => ({ d with sessions := d.sessions.set i (transportSessionInvalidate session) }, .quiet)

inductive DeviceStep (d : TransportDevice) : DeviceOp → TransportDevice → DeviceEvent → Prop where
  | init : DeviceStep d .init { d with module := transportInit } .quiet
  | uncreated (off : d.module.initialised = false) : DeviceStep d .create d .quiet
  | created {session : TransportSession} (ready : d.module.initialised = true)
      (fresh : FreshSession hmac d.module peering.localNodeId peering.remoteNodeId peering.sharedKey session) :
      DeviceStep d .create
        { module := { d.module with nextSessionId := d.module.nextSessionId + 1 }, sessions := d.sessions ++ [session] }
        .quiet
  | sealed {i : Nat} {plaintext ciphertext mic : List UInt8} {session : TransportSession}
      (found : d.sessions[i]? = some session) (active : session.active = true)
      (short : plaintext.length ≤ transportMaxPayload)
      (encrypted : ccm.encryptAndTag session.txKey (buildCcmNonce session.sessionId session.txNonceCounter) plaintext =
        some (ciphertext, mic)) :
      DeviceStep d (.encrypt i plaintext)
        { d with sessions := d.sessions.set i { session with txNonceCounter := session.txNonceCounter + 1 } }
        (.sealed ⟨i, ⟨session.txKey, buildCcmNonce session.sessionId session.txNonceCounter, plaintext⟩,
          ⟨session.sessionId, session.txNonceCounter, mic, ciphertext⟩⟩)
  | opened {i : Nat} {frame : TransportFrame} {plaintext : List UInt8} {session : TransportSession}
      (found : d.sessions[i]? = some session) (active : session.active = true)
      (fresh : session.rxNonceCounter ≤ frame.nonceCounter)
      (result : (transportDecrypt ccm session frame).2 = .ok plaintext) :
      DeviceStep d (.decrypt i frame)
        { d with sessions := d.sessions.set i { session with rxNonceCounter := frame.nonceCounter + 1 } }
        (.opened i frame plaintext)
  | invalidated {i : Nat} {session : TransportSession} (found : d.sessions[i]? = some session) :
      DeviceStep d (.invalidate i) { d with sessions := d.sessions.set i (transportSessionInvalidate session) } .quiet
  | unsealed {i : Nat} {plaintext : List UInt8} : DeviceStep d (.encrypt i plaintext) d .quiet
  | unopened {i : Nat} {frame : TransportFrame} : DeviceStep d (.decrypt i frame) d .quiet
  | unknown {i : Nat} : DeviceStep d (.invalidate i) d .quiet

theorem deviceStep_spec (d : TransportDevice) (op : DeviceOp) :
    DeviceStep hmac ccm peering d op (deviceStep hmac ccm peering d op).1 (deviceStep hmac ccm peering d op).2 := by
  cases op with
  | init => exact .init
  | create =>
    simp only [deviceStep]
    cases created : transportCreateSession hmac d.module peering.localNodeId peering.remoteNodeId peering.sharedKey with
    | none =>
      refine .uncreated ?_
      unfold transportCreateSession at created
      split at created
      · rename_i off
        simpa using off
      · cases created
    | some result =>
      obtain ⟨m, session⟩ := result
      obtain ⟨ready, rfl, fresh⟩ := transportCreateSession_fresh created
      exact .created ready fresh
  | encrypt i plaintext =>
    simp only [deviceStep]
    cases found : d.sessions[i]? with
    | none => exact .unsealed
    | some session =>
      obtain refused | ⟨ciphertext, mic, active, short, encrypted, result⟩ := transportEncrypt_cases ccm session plaintext
      · simp only [refused, set_found found]
        exact .unsealed
      · simp only [result]
        exact .sealed found active short encrypted
  | decrypt i frame =>
    simp only [deviceStep]
    cases found : d.sessions[i]? with
    | none => exact .unopened
    | some session =>
      obtain ⟨error, refused⟩ | ⟨plaintext, active, fresh, -, -, result⟩ := transportDecrypt_cases ccm session frame
      · simp only [refused, set_found found]
        exact .unopened
      · simp only [result]
        exact .opened found active fresh (by rw [result])
  | invalidate i =>
    simp only [deviceStep]
    cases found : d.sessions[i]? with
    | none => exact .unknown
    | some session => exact .invalidated found

end Device

/-! ### The keys of a session -/

/-- An active session has the keys of the peering, whenever it was created. -/
def KeysDerived (hmac : Hmac) (peering : TransportPeering) (d : TransportDevice) : Prop :=
  ∀ session ∈ d.sessions, session.active = true → (session.txKey, session.rxKey) = peering.keys hmac

section Keys

variable {hmac : Hmac} {ccm : Ccm} {peering : TransportPeering} {d : TransportDevice}

theorem KeysDerived.set (keys : KeysDerived hmac peering d) {i : Nat} {old new : TransportSession}
    (found : d.sessions[i]? = some old)
    (same : new.active = true → old.active = true ∧ (new.txKey, new.rxKey) = (old.txKey, old.rxKey)) :
    KeysDerived hmac peering { d with sessions := d.sessions.set i new } := by
  intro session member active
  rcases List.mem_or_eq_of_mem_set member with other | rfl
  · exact keys session other active
  · obtain ⟨was_active, same_keys⟩ := same active
    exact same_keys.trans (keys old (List.mem_of_getElem? found) was_active)

theorem KeysDerived.step (keys : KeysDerived hmac peering d) (op : DeviceOp) :
    KeysDerived hmac peering (deviceStep hmac ccm peering d op).1 := by
  have spec := deviceStep_spec hmac ccm peering d op
  generalize deviceStep hmac ccm peering d op = result at spec ⊢
  obtain ⟨d', event⟩ := result
  cases spec with
  | init => exact keys
  | uncreated => exact keys
  | created ready fresh =>
    intro session member active
    rcases List.mem_append.mp member with old | new
    · exact keys session old active
    · rw [List.mem_singleton.mp new]
      exact fresh.keys
  | sealed found => exact keys.set found fun active => ⟨active, rfl⟩
  | opened found => exact keys.set found fun active => ⟨active, rfl⟩
  | invalidated found => exact keys.set found fun active => absurd active (by simp [transportSessionInvalidate])
  | unsealed => exact keys
  | unopened => exact keys
  | unknown => exact keys

theorem KeysDerived.start (hmac : Hmac) (peering : TransportPeering) : KeysDerived hmac peering {} := fun _ member =>
  absurd member List.not_mem_nil

theorem keysDerived_run (hmac : Hmac) (ccm : Ccm) (peering : TransportPeering) (ops : List DeviceOp) :
    KeysDerived hmac peering (finalState (deviceStep hmac ccm peering) {} ops) :=
  finalState_invariant (KeysDerived.start hmac peering) (fun _ op keys => keys.step op) ops

theorem KeysDerived.sealedFrame (keys : KeysDerived hmac peering d) {op : DeviceOp} {call : SealedCall}
    (event : (deviceStep hmac ccm peering d op).2 = .sealed call) :
    SealedFrame ccm (peering.keys hmac).1 call.encryption call.frame := by
  have spec := deviceStep_spec hmac ccm peering d op
  generalize deviceStep hmac ccm peering d op = result at spec event
  obtain ⟨d', event'⟩ := result
  cases event
  cases spec with
  | sealed found active short encrypted =>
    have derived := keys _ (List.mem_of_getElem? found) active
    exact ⟨congrArg Prod.fst derived, rfl, short, encrypted⟩

end Keys

/-! ### Which creation a session comes from -/

/-- The sessions created since the last initialisation, `none` before the first, and for each session how many there were
at its creation. -/
structure Creations where
  since : Option Nat := none
  numbers : List Nat := []

def Creations.step (c : Creations) : DeviceOp → Creations
  | .init => { c with since := some 0 }
  | .create =>
    match c.since with
    | none => c
    | some n => { since := some (n + 1), numbers := c.numbers ++ [n] }
  | _ => c

def creations (ops : List DeviceOp) : Creations := ops.foldl Creations.step {}

/-- How many sessions the device had created since its last initialisation when it created session `i`. -/
def creationNumber (ops : List DeviceOp) (i : Nat) : Nat := (creations ops).numbers.getD i 0

def sealedCalls (events : List DeviceEvent) : List SealedCall :=
  events.filterMap fun
    | .sealed call => some call
    | _ => none

theorem mem_sealedCalls {events : List DeviceEvent} {call : SealedCall} :
    call ∈ sealedCalls events ↔ .sealed call ∈ events := by
  rw [sealedCalls, List.mem_filterMap]
  constructor
  · rintro ⟨event, member, found⟩
    split at found
    · cases found
      exact member
    · cases found
  · intro member
    exact ⟨_, member, rfl⟩

theorem sealedCalls_concat (events : List DeviceEvent) (event : DeviceEvent) :
    sealedCalls (events ++ [event]) = sealedCalls events ++ sealedCalls [event] := List.filterMap_append

/-- Session ids and counters after a run, and the nonces used in it. -/
structure NoncesCounted (key : TransportKey) (c : Creations) (d : TransportDevice) (calls : List SealedCall) : Prop where
  statics : d.module = c.since.elim {} fun n => ⟨true, UInt8.ofNat (n + 1)⟩
  ids : d.sessions.map (·.sessionId) = c.numbers.map fun n => UInt8.ofNat (n + 1)
  counters : ∀ (i : Nat) session, d.sessions[i]? = some session →
    session.txNonceCounter = UInt32.ofNat ((calls.map SealedCall.session).count i)
  labelled : ∀ call ∈ calls, call.encryption.key = key ∧ ∃ n, c.numbers[call.session]? = some n ∧
    call.encryption.nonce = buildCcmNonce (UInt8.ofNat (n + 1)) call.frame.nonceCounter
  numbered : (calls.map fun call => (call.session, call.frame.nonceCounter)) =
    (occurrences (calls.map SealedCall.session)).map fun o => (o.1, UInt32.ofNat o.2)

section Nonces

variable {hmac : Hmac} {ccm : Ccm} {peering : TransportPeering} {c : Creations} {d : TransportDevice}
  {calls : List SealedCall} {key : TransportKey}

theorem map_sessionId_set {sessions : List TransportSession} {i : Nat} {old new : TransportSession}
    (found : sessions[i]? = some old) (same : new.sessionId = old.sessionId) :
    (sessions.set i new).map (·.sessionId) = sessions.map (·.sessionId) := by
  rw [List.map_set, same]
  exact set_found (by rw [List.getElem?_map, found, Option.map_some])

/-- Replacing a session by one with the same id and transmit counter. -/
theorem NoncesCounted.set (inv : NoncesCounted key c d calls) {i : Nat} {old new : TransportSession}
    (found : d.sessions[i]? = some old) (same_id : new.sessionId = old.sessionId)
    (same_counter : new.txNonceCounter = old.txNonceCounter) :
    NoncesCounted key c { d with sessions := d.sessions.set i new } calls := by
  refine ⟨inv.statics, (map_sessionId_set found same_id).trans inv.ids, ?_, inv.labelled, inv.numbered⟩
  intro j session at_j
  obtain ⟨rfl, rfl⟩ | ⟨-, elsewhere⟩ := getElem?_set_cases found at_j
  · rw [same_counter, inv.counters i old found]
  · exact inv.counters j session elsewhere

theorem NoncesCounted.unused (inv : NoncesCounted key c d calls) {i : Nat} (beyond : d.sessions.length ≤ i) :
    i ∉ calls.map SealedCall.session := by
  intro member
  obtain ⟨call, called, rfl⟩ := List.mem_map.mp member
  obtain ⟨-, n, at_n, -⟩ := inv.labelled call called
  have inside := (List.getElem?_eq_some_iff.mp at_n).1
  have same_length : d.sessions.length = c.numbers.length := by simpa using congrArg List.length inv.ids
  omega

theorem NoncesCounted.create (inv : NoncesCounted key c d calls) (ready : d.module.initialised = true)
    {session : TransportSession} (id : session.sessionId = d.module.nextSessionId)
    (counter : session.txNonceCounter = 0) :
    NoncesCounted key (c.step .create)
      { module := { d.module with nextSessionId := d.module.nextSessionId + 1 }, sessions := d.sessions ++ [session] }
      calls := by
  have statics := inv.statics
  cases since : c.since with
  | none =>
    rw [statics, since] at ready
    cases ready
  | some n =>
    rw [since] at statics
    have next : d.module = ⟨true, UInt8.ofNat (n + 1)⟩ := statics
    have step_eq : c.step .create = { since := some (n + 1), numbers := c.numbers ++ [n] } := by
      simp only [Creations.step, since]
    rw [step_eq]
    refine ⟨?_, ?_, ?_, ?_, inv.numbered⟩
    · rw [next]
      change (⟨true, UInt8.ofNat (n + 1) + 1⟩ : TransportModule) = ⟨true, UInt8.ofNat (n + 1 + 1)⟩
      rw [UInt8.ofNat_add (n + 1) 1]
      rfl
    · rw [List.map_append, List.map_append, inv.ids, List.map_singleton, List.map_singleton, id, next]
    · intro i other at_i
      rcases Nat.lt_or_ge i d.sessions.length with old | new
      · rw [List.getElem?_append_left old] at at_i
        exact inv.counters i other at_i
      · rw [List.getElem?_append_right new] at at_i
        have same : other = session := List.mem_singleton.mp (List.mem_of_getElem? at_i)
        rw [same, counter, List.count_eq_zero.mpr (inv.unused new)]
        rfl
    · intro call called
      obtain ⟨same_key, m, at_m, nonce⟩ := inv.labelled call called
      have inside := (List.getElem?_eq_some_iff.mp at_m).1
      exact ⟨same_key, m, by rw [List.getElem?_append_left inside, at_m], nonce⟩

theorem NoncesCounted.seal (inv : NoncesCounted key c d calls) {i : Nat} {session : TransportSession}
    (found : d.sessions[i]? = some session) (txKey : session.txKey = key) (plaintext ciphertext mic : List UInt8) :
    NoncesCounted key c
      { d with sessions := d.sessions.set i { session with txNonceCounter := session.txNonceCounter + 1 } }
      (calls ++ [⟨i, ⟨session.txKey, buildCcmNonce session.sessionId session.txNonceCounter, plaintext⟩,
        ⟨session.sessionId, session.txNonceCounter, mic, ciphertext⟩⟩]) := by
  have counter := inv.counters i session found
  have same_id : ∃ n, c.numbers[i]? = some n ∧ session.sessionId = UInt8.ofNat (n + 1) := by
    have at_i := congrArg (·[i]?) inv.ids
    simp only [List.getElem?_map, found, Option.map_some] at at_i
    obtain ⟨n, at_n, same⟩ := Option.map_eq_some_iff.mp at_i.symm
    exact ⟨n, at_n, same.symm⟩
  refine ⟨inv.statics, ?_, ?_, ?_, ?_⟩
  · rw [map_sessionId_set found (by rfl)]
    exact inv.ids
  · intro j other at_j
    rw [List.map_append, List.count_append, List.map_singleton, List.count_singleton]
    obtain ⟨rfl, rfl⟩ | ⟨ne, elsewhere⟩ := getElem?_set_cases found at_j
    · rw [counter, UInt32.ofNat_add]
      simp
    · rw [inv.counters j other elsewhere]
      simp [ne]
  · intro call called
    rcases List.mem_append.mp called with old | new
    · exact inv.labelled call old
    · obtain rfl := List.mem_singleton.mp new
      obtain ⟨n, at_n, id⟩ := same_id
      exact ⟨txKey, n, at_n, by rw [id]⟩
  · rw [List.map_append, List.map_append, inv.numbered, List.map_singleton, List.map_singleton, occurrences_concat,
      List.map_append, List.map_singleton, counter]

theorem NoncesCounted.step {events : List DeviceEvent} (keys : KeysDerived hmac peering d)
    (inv : NoncesCounted (peering.keys hmac).1 c d (sealedCalls events)) (op : DeviceOp) :
    NoncesCounted (peering.keys hmac).1 (c.step op) (deviceStep hmac ccm peering d op).1
      (sealedCalls (events ++ [(deviceStep hmac ccm peering d op).2])) := by
  rw [sealedCalls_concat]
  have spec := deviceStep_spec hmac ccm peering d op
  generalize deviceStep hmac ccm peering d op = result at spec ⊢
  obtain ⟨d', event⟩ := result
  have quiet : sealedCalls events ++ sealedCalls [.quiet] = sealedCalls events := List.append_nil _
  cases spec with
  | init =>
    rw [quiet]
    exact ⟨rfl, inv.ids, inv.counters, inv.labelled, inv.numbered⟩
  | uncreated off =>
    have statics := inv.statics
    cases since : c.since with
    | none =>
      have step_eq : c.step .create = c := by simp only [Creations.step, since]
      rw [quiet, step_eq]
      exact inv
    | some n =>
      rw [statics, since] at off
      cases off
  | created ready fresh =>
    rw [quiet]
    exact inv.create ready fresh.sessionId fresh.txNonceCounter
  | sealed found active =>
    have derived := keys _ (List.mem_of_getElem? found) active
    exact inv.seal found (congrArg Prod.fst derived) _ _ _
  | opened found =>
    have none_sealed : ∀ i frame plaintext, sealedCalls [.opened i frame plaintext] = [] := fun _ _ _ => rfl
    rw [none_sealed, List.append_nil]
    exact inv.set found rfl rfl
  | invalidated found =>
    rw [quiet]
    exact inv.set found rfl rfl
  | unsealed =>
    rw [quiet]
    exact inv
  | unopened =>
    rw [quiet]
    exact inv
  | unknown =>
    rw [quiet]
    exact inv

theorem noncesCounted_run (hmac : Hmac) (ccm : Ccm) (peering : TransportPeering) (ops : List DeviceOp) :
    NoncesCounted (peering.keys hmac).1 (creations ops) (finalState (deviceStep hmac ccm peering) {} ops)
      (sealedCalls (outputs (deviceStep hmac ccm peering) {} ops)) := by
  induction ops using List.reverseRecOn with
  | nil => exact ⟨rfl, rfl, by simp [finalState], by simp [outputs, sealedCalls], rfl⟩
  | append_singleton before op ih =>
    rw [creations, List.foldl_concat, finalState_concat, outputs_concat]
    exact ih.step (keysDerived_run hmac ccm peering before) op

/-- The key and nonce of a call, from the creation of its session and its place among the calls of the session. -/
theorem NoncesCounted.keyed (inv : NoncesCounted key c d calls) :
    (calls.map fun call => (call.encryption.key, call.encryption.nonce)) =
      ((occurrences (calls.map SealedCall.session)).map fun o =>
        (UInt8.ofNat (c.numbers.getD o.1 0 + 1), UInt32.ofNat o.2)).map fun l => (key, buildCcmNonce l.1 l.2) := by
  have places : (occurrences (calls.map SealedCall.session)).map (fun o =>
      (UInt8.ofNat (c.numbers.getD o.1 0 + 1), UInt32.ofNat o.2)) =
      calls.map fun call => (UInt8.ofNat (c.numbers.getD call.session 0 + 1), call.frame.nonceCounter) := by
    have mapped := congrArg (List.map fun l => (UInt8.ofNat (c.numbers.getD l.1 0 + 1), l.2)) inv.numbered
    rw [List.map_map, List.map_map] at mapped
    exact mapped.symm
  rw [places, List.map_map]
  refine List.map_congr_left fun call called => ?_
  obtain ⟨same_key, n, at_n, nonce⟩ := inv.labelled call called
  simp only [Function.comp_apply, List.getD_eq_getElem?_getD, at_n, Option.getD_some, same_key, nonce]

end Nonces

theorem ofNat8_succ_eq_iff (n n' : Nat) : UInt8.ofNat (n + 1) = UInt8.ofNat (n' + 1) ↔ n % 256 = n' % 256 := by
  rw [← UInt8.toNat_inj, UInt8.toNat_ofNat', UInt8.toNat_ofNat']
  omega

theorem ofNat32_eq_iff (k l : Nat) : UInt32.ofNat k = UInt32.ofNat l ↔ k % 2 ^ 32 = l % 2 ^ 32 := by
  rw [← UInt32.toNat_inj, UInt32.toNat_ofNat', UInt32.toNat_ofNat']

/-- No key and nonce is used twice exactly when no two sessions that encrypt were created after the same number of
creations, modulo 256, since the initialisation before, and none encrypts more than `2 ^ 32` times. -/
theorem transport_nonces_exact (hmac : Hmac) (ccm : Ccm) (peering : TransportPeering) (ops : List DeviceOp) :
    let calls := sealedCalls (outputs (deviceStep hmac ccm peering) {} ops)
    let encrypting := calls.map SealedCall.session
    (calls.map fun call => (call.encryption.key, call.encryption.nonce)).Nodup ↔
      (∀ i ∈ encrypting, ∀ j ∈ encrypting, creationNumber ops i % 256 = creationNumber ops j % 256 → i = j) ∧
        ∀ i, encrypting.count i ≤ 2 ^ 32 := by
  intro calls encrypting
  have inv := noncesCounted_run hmac ccm peering ops
  have injective : Function.Injective fun l : UInt8 × UInt32 =>
      ((peering.keys hmac).1, buildCcmNonce l.1 l.2) := by
    intro l l' same
    obtain ⟨same_id, same_counter⟩ := buildCcmNonce_inj.mp (Prod.mk.inj same).2
    exact Prod.ext same_id same_counter
  rw [inv.keyed, List.nodup_map_iff injective]
  refine (nodup_labelled_iff (fun i => UInt8.ofNat (creationNumber ops i + 1)) ofNat32_eq_iff (by decide)
    encrypting).trans ?_
  simp only [ofNat8_succ_eq_iff]

/-- AES-128-CCM of `"on"` and of `"off"` under the first nonce of node 3. -/
def firstNonceEntries : List CcmEntry :=
  [⟨⟨upKey, buildCcmNonce 1 0, [0x6F, 0x6E]⟩, [0x69, 0xB0], [0xF5, 0x21, 0x57, 0x59]⟩,
    ⟨⟨upKey, buildCcmNonce 1 0, [0x6F, 0x66, 0x66]⟩, [0x69, 0xB8, 0xFC], [0xCA, 0xFA, 0x8A, 0xE5]⟩]

/-- After a restart the first session encrypts under the first key and nonce again. -/
theorem restart_reuses_transport_nonce :
    ¬ ((sealedCalls (outputs (deviceStep linkHmac (tableCcm firstNonceEntries) ⟨3, 7, linkKey⟩) {}
      [.init, .create, .encrypt 0 [0x6F, 0x6E], .init, .create, .encrypt 1 [0x6F, 0x66, 0x66]])).map fun call =>
        (call.encryption.key, call.encryption.nonce)).Nodup := by
  decide

end IotPlatform
