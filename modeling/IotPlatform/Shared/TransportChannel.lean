import Mathlib.Logic.Function.Basic
import IotPlatform.Lib.Run
import IotPlatform.Shared.TransportEncryption

/-!
# The transport channel

One session at each end of a link. Each end encrypts what it likes, and frames reach the other end in any order, any
number of times, altered or made up. Where the cipher is ideal, what comes out in a direction is a subsequence of what
went in: the nonce of a frame fixes its place among the frames sent, and the receive counter only moves on.
-/

namespace IotPlatform
open Bytes Run

inductive Side where
  | near | far
  deriving DecidableEq, Repr

def Side.other : Side → Side
  | .near => .far
  | .far => .near

theorem Side.eq_other {side side' : Side} (ne : side ≠ side') : side = side'.other := by
  cases side with
  | near =>
    cases side' with
    | near => exact absurd rfl ne
    | far => rfl
  | far =>
    cases side' with
    | near => rfl
    | far => exact absurd rfl ne

abbrev TransportChannel := Side → TransportSession

def transportChannel (near far : TransportSession) : TransportChannel
  | .near => near
  | .far => far

inductive ChannelOp where
  | send (side : Side) (plaintext : List UInt8)
  | deliver (side : Side) (frame : TransportFrame)
  deriving DecidableEq

/-- What a call with a result is given and returns. -/
inductive ChannelEvent where
  | sealed (side : Side) (encryption : CcmEncryption) (frame : TransportFrame)
  | opened (side : Side) (frame : TransportFrame) (plaintext : List UInt8)
  | refused
  deriving DecidableEq

def channelStep (ccm : Ccm) (c : TransportChannel) : ChannelOp → TransportChannel × ChannelEvent
  | .send side plaintext =>
    match transportEncrypt ccm (c side) plaintext with
    | (session, none) => (Function.update c side session, .refused)
    | (session, some frame) =>
      let encryption : CcmEncryption :=
        { key := (c side).txKey, nonce := buildCcmNonce (c side).sessionId (c side).txNonceCounter, plaintext }
      (Function.update c side session, .sealed side encryption frame)
  | .deliver side frame =>
    match transportDecrypt ccm (c side) frame with
    | (session, .error _) => (Function.update c side session, .refused)
    | (session, .ok plaintext) => (Function.update c side session, .opened side frame plaintext)

def ChannelOp.sends (side : Side) : ChannelOp → Bool
  | .send at_side _ => at_side == side
  | .deliver .. => false

def sentFrames (side : Side) (events : List ChannelEvent) : List (CcmEncryption × TransportFrame) :=
  events.filterMap fun
    | .sealed at_side encryption frame => if at_side = side then some (encryption, frame) else none
    | _ => none

def acceptedFrames (side : Side) (events : List ChannelEvent) : List (TransportFrame × List UInt8) :=
  events.filterMap fun
    | .opened at_side frame plaintext => if at_side = side then some (frame, plaintext) else none
    | _ => none

def sentPlaintexts (side : Side) (events : List ChannelEvent) : List (List UInt8) :=
  (sentFrames side events).map (·.1.plaintext)

def receivedPlaintexts (side : Side) (events : List ChannelEvent) : List (List UInt8) :=
  (acceptedFrames side events).map (·.2)

def channelEncryptions (events : List ChannelEvent) : List CcmEncryption :=
  events.filterMap fun
    | .sealed _ encryption _ => some encryption
    | _ => none

theorem mem_sentFrames {side : Side} {events : List ChannelEvent} {encryption : CcmEncryption} {frame : TransportFrame} :
    (encryption, frame) ∈ sentFrames side events ↔ .sealed side encryption frame ∈ events := by
  rw [sentFrames, List.mem_filterMap]
  constructor
  · rintro ⟨event, member, found⟩
    split at found
    · split at found
      · cases found
        rename_i here
        exact here ▸ member
      · cases found
    · cases found
  · intro member
    exact ⟨_, member, if_pos rfl⟩

theorem mem_channelEncryptions {events : List ChannelEvent} {encryption : CcmEncryption} :
    encryption ∈ channelEncryptions events ↔ ∃ side frame, (encryption, frame) ∈ sentFrames side events := by
  rw [channelEncryptions, List.mem_filterMap]
  constructor
  · rintro ⟨event, member, found⟩
    split at found
    · cases found
      exact ⟨_, _, mem_sentFrames.mpr member⟩
    · cases found
  · rintro ⟨side, frame, member⟩
    exact ⟨_, mem_sentFrames.mp member, rfl⟩

/-! ### One step -/

section Steps

variable {ccm : Ccm} {c : TransportChannel}

/-- A step is refused and changes nothing, encrypts under the next nonce, or accepts a frame that the receive counter has
not passed. -/
theorem channelStep_cases (ccm : Ccm) (c : TransportChannel) (op : ChannelOp) :
    channelStep ccm c op = (c, .refused) ∨
      (∃ side plaintext ciphertext mic, op = .send side plaintext ∧ (c side).active = true ∧
        plaintext.length ≤ transportMaxPayload ∧
        ccm.encryptAndTag (c side).txKey (buildCcmNonce (c side).sessionId (c side).txNonceCounter) plaintext =
          some (ciphertext, mic) ∧
        channelStep ccm c op =
          (Function.update c side { c side with txNonceCounter := (c side).txNonceCounter + 1 },
            .sealed side ⟨(c side).txKey, buildCcmNonce (c side).sessionId (c side).txNonceCounter, plaintext⟩
              ⟨(c side).sessionId, (c side).txNonceCounter, mic, ciphertext⟩)) ∨
      ∃ side frame plaintext, op = .deliver side frame ∧ (c side).rxNonceCounter ≤ frame.nonceCounter ∧
        ccm.authDecrypt (c side).rxKey (buildCcmNonce frame.sessionId frame.nonceCounter) frame.ciphertext frame.mic =
          some plaintext ∧
        channelStep ccm c op =
          (Function.update c side { c side with rxNonceCounter := frame.nonceCounter + 1 },
            .opened side frame plaintext) := by
  cases op with
  | send side plaintext =>
    obtain refused | ⟨ciphertext, mic, active, short, encrypted, result⟩ :=
      transportEncrypt_cases ccm (c side) plaintext
    · left
      simp only [channelStep, refused, Function.update_eq_self]
    · right
      left
      exact ⟨side, plaintext, ciphertext, mic, rfl, active, short, encrypted, by simp only [channelStep, result]⟩
  | deliver side frame =>
    obtain ⟨error, refused⟩ | ⟨plaintext, -, fresh, -, opened, result⟩ := transportDecrypt_cases ccm (c side) frame
    · left
      simp only [channelStep, refused, Function.update_eq_self]
    · right
      right
      exact ⟨side, frame, plaintext, rfl, fresh, opened, by simp only [channelStep, result]⟩

theorem sentFrames_concat (side : Side) (events : List ChannelEvent) (event : ChannelEvent) :
    sentFrames side (events ++ [event]) = sentFrames side events ++ sentFrames side [event] := List.filterMap_append

theorem acceptedFrames_concat (side : Side) (events : List ChannelEvent) (event : ChannelEvent) :
    acceptedFrames side (events ++ [event]) = acceptedFrames side events ++ acceptedFrames side [event] :=
  List.filterMap_append

theorem sentFrames_sealed (side at_side : Side) (encryption : CcmEncryption) (frame : TransportFrame) :
    sentFrames side [.sealed at_side encryption frame] = if at_side = side then [(encryption, frame)] else [] := by
  by_cases here : at_side = side
  · simp [sentFrames, here]
  · simp [sentFrames, here]

theorem acceptedFrames_opened (side at_side : Side) (frame : TransportFrame) (plaintext : List UInt8) :
    acceptedFrames side [.opened at_side frame plaintext] = if at_side = side then [(frame, plaintext)] else [] := by
  by_cases here : at_side = side
  · simp [acceptedFrames, here]
  · simp [acceptedFrames, here]

theorem length_sentFrames_le (ccm : Ccm) (c : TransportChannel) (side : Side) (ops : List ChannelOp) :
    (sentFrames side (outputs (channelStep ccm) c ops)).length ≤ ops.countP (·.sends side) := by
  induction ops generalizing c with
  | nil => exact Nat.le_refl 0
  | cons op rest ih =>
    have later := ih (channelStep ccm c op).1
    have now : (sentFrames side [(channelStep ccm c op).2]).length ≤ if op.sends side then 1 else 0 := by
      obtain refused | ⟨at_side, plaintext, _, _, rfl, -, -, -, result⟩ | ⟨_, _, _, rfl, -, -, result⟩ :=
        channelStep_cases ccm c op
      · simp [refused, sentFrames]
      · rw [result, sentFrames_sealed]
        by_cases here : at_side = side
        · simp [here, ChannelOp.sends]
        · simp [here]
      · simp [result, sentFrames]
    rw [outputs, List.countP_cons, ← List.singleton_append, sentFrames, List.filterMap_append, List.length_append,
      Nat.add_comm]
    exact Nat.add_le_add later now

end Steps

/-! ### The sending end -/

/-- The `k`-th frame sent: its header carries the session id and `k`. -/
structure SealedAs (ccm : Ccm) (id : UInt8) (key : TransportKey) (k : Nat) (encryption : CcmEncryption)
    (frame : TransportFrame) : Prop extends SealedFrame ccm key encryption frame where
  sessionId : frame.sessionId = id
  nonceCounter : frame.nonceCounter = UInt32.ofNat k

structure Sending (ccm : Ccm) (id : UInt8) (key : TransportKey) (session : TransportSession)
    (sent : List (CcmEncryption × TransportFrame)) : Prop where
  sessionId : session.sessionId = id
  txKey : session.txKey = key
  counter : session.txNonceCounter = UInt32.ofNat sent.length
  numbered : ∀ k encryption frame, sent[k]? = some (encryption, frame) → SealedAs ccm id key k encryption frame

section Sending

variable {ccm : Ccm} {id : UInt8} {key : TransportKey} {session : TransportSession}
  {sent : List (CcmEncryption × TransportFrame)}

theorem Sending.seal (sending : Sending ccm id key session sent) {plaintext ciphertext mic : List UInt8}
    (short : plaintext.length ≤ transportMaxPayload)
    (encrypted : ccm.encryptAndTag session.txKey (buildCcmNonce session.sessionId session.txNonceCounter) plaintext =
      some (ciphertext, mic)) :
    Sending ccm id key { session with txNonceCounter := session.txNonceCounter + 1 }
      (sent ++ [(⟨session.txKey, buildCcmNonce session.sessionId session.txNonceCounter, plaintext⟩,
        ⟨session.sessionId, session.txNonceCounter, mic, ciphertext⟩)]) := by
  obtain ⟨sessionId, txKey, counter, numbered⟩ := sending
  refine ⟨sessionId, txKey, ?_, ?_⟩
  · rw [List.length_append, List.length_singleton, UInt32.ofNat_add, ← counter]
    rfl
  · intro k encryption frame found
    rcases Nat.lt_or_ge k sent.length with old | new
    · rw [List.getElem?_append_left old] at found
      exact numbered k encryption frame found
    · rw [List.getElem?_append_right new] at found
      obtain ⟨last, same⟩ := List.getElem?_eq_some_iff.mp found
      have at_end : k - sent.length = 0 := by simpa using last
      obtain rfl : k = sent.length := Nat.le_antisymm (Nat.le_of_sub_eq_zero at_end) new
      simp only [Nat.sub_self, List.getElem_cons_zero, Prod.mk.injEq] at same
      obtain ⟨rfl, rfl⟩ := same
      exact ⟨⟨txKey, rfl, short, encrypted⟩, sessionId, counter⟩

theorem Sending.step {c : TransportChannel} {side : Side} {events : List ChannelEvent}
    (sending : Sending ccm id key (c side) (sentFrames side events)) (op : ChannelOp) :
    Sending ccm id key ((channelStep ccm c op).1 side) (sentFrames side (events ++ [(channelStep ccm c op).2])) := by
  rw [sentFrames_concat]
  obtain refused | ⟨at_side, plaintext, ciphertext, mic, -, -, short, encrypted, result⟩ |
    ⟨at_side, frame, plaintext, -, -, -, result⟩ := channelStep_cases ccm c op
  · rw [refused]
    simpa [sentFrames] using sending
  · rw [result, sentFrames_sealed]
    by_cases here : at_side = side
    · cases here
      rw [if_pos rfl]
      simpa only [Function.update_self] using sending.seal short encrypted
    · rw [if_neg here, List.append_nil]
      simpa only [Function.update_of_ne (Ne.symm here)] using sending
  · rw [result]
    have none_sent : sentFrames side [.opened at_side frame plaintext] = [] := rfl
    rw [none_sent, List.append_nil]
    by_cases here : at_side = side
    · cases here
      simp only [Function.update_self]
      exact ⟨sending.sessionId, sending.txKey, sending.counter, sending.numbered⟩
    · simpa only [Function.update_of_ne (Ne.symm here)] using sending

theorem sending_run (ccm : Ccm) {c : TransportChannel} {side : Side} (fresh : (c side).txNonceCounter = 0)
    (ops : List ChannelOp) :
    Sending ccm (c side).sessionId (c side).txKey (finalState (channelStep ccm) c ops side)
      (sentFrames side (outputs (channelStep ccm) c ops)) := by
  refine history_invariant (P := fun (c' : TransportChannel) events =>
    Sending ccm (c side).sessionId (c side).txKey (c' side) (sentFrames side events))
    ⟨rfl, rfl, fresh, fun k _ _ found => ?_⟩ (fun _ _ op sending => sending.step op) ops
  cases found

end Sending

/-! ### The receiving end -/

/-- What has been accepted comes from before the receive counter, and the counter is that of the last frame accepted,
plus one. -/
structure Receiving (key : TransportKey) (sent : List (List UInt8)) (session : TransportSession)
    (accepted : List (TransportFrame × List UInt8)) : Prop where
  active : session.active = true
  rxKey : session.rxKey = key
  inOrder : (accepted.map (·.2)).Sublist (sent.take session.rxNonceCounter.toNat)
  last : session.rxNonceCounter = 0 ∨
    ∃ frame plaintext, (frame, plaintext) ∈ accepted ∧ session.rxNonceCounter.toNat = frame.nonceCounter.toNat + 1

/-- A frame that opens under the key holds the plaintext sent under its counter. -/
def OpensInPlace (ccm : Ccm) (key : TransportKey) (sent : List (List UInt8)) : Prop :=
  ∀ (frame : TransportFrame) (plaintext : List UInt8),
    ccm.authDecrypt key (buildCcmNonce frame.sessionId frame.nonceCounter) frame.ciphertext frame.mic = some plaintext →
      sent[frame.nonceCounter.toNat]? = some plaintext

section Receiving

variable {ccm : Ccm} {key : TransportKey} {sent : List (List UInt8)} {session : TransportSession}
  {accepted : List (TransportFrame × List UInt8)}

theorem Receiving.accept (receiving : Receiving key sent session accepted) (few : sent.length < 2 ^ 32 - 1)
    {frame : TransportFrame} {plaintext : List UInt8} (fresh : session.rxNonceCounter ≤ frame.nonceCounter)
    (place : sent[frame.nonceCounter.toNat]? = some plaintext) :
    Receiving key sent { session with rxNonceCounter := frame.nonceCounter + 1 } (accepted ++ [(frame, plaintext)]) := by
  have inside : frame.nonceCounter.toNat < sent.length := (List.getElem?_eq_some_iff.mp place).1
  have moved : (frame.nonceCounter + 1).toNat = frame.nonceCounter.toNat + 1 := by
    rw [UInt32.toNat_add]
    exact Nat.mod_eq_of_lt (Nat.lt_of_lt_of_le (Nat.succ_lt_succ inside) (by omega))
  have newest : (frame, plaintext) ∈ accepted ++ [(frame, plaintext)] := List.mem_append_right _ List.mem_cons_self
  refine ⟨receiving.active, receiving.rxKey, ?_, .inr ⟨frame, plaintext, newest, moved⟩⟩
  have before : (accepted.map (·.2)).Sublist (sent.take frame.nonceCounter.toNat) :=
    receiving.inOrder.trans (List.take_sublist_take_left (UInt32.le_iff_toNat_le.mp fresh))
  rw [List.map_append, moved, List.take_add_one, place]
  exact before.append (List.Sublist.refl _)

theorem Receiving.step (opens : OpensInPlace ccm key sent) (few : sent.length < 2 ^ 32 - 1) {c : TransportChannel}
    {side : Side} {events : List ChannelEvent} (receiving : Receiving key sent (c side) (acceptedFrames side events))
    (op : ChannelOp) :
    Receiving key sent ((channelStep ccm c op).1 side) (acceptedFrames side (events ++ [(channelStep ccm c op).2])) := by
  rw [acceptedFrames_concat]
  obtain refused | ⟨at_side, plaintext, ciphertext, mic, -, -, -, -, result⟩ |
    ⟨at_side, frame, plaintext, -, fresh, opened, result⟩ := channelStep_cases ccm c op
  · rw [refused]
    simpa [acceptedFrames] using receiving
  · rw [result]
    have none_accepted : ∀ encryption frame, acceptedFrames side [.sealed at_side encryption frame] = [] :=
      fun _ _ => rfl
    rw [none_accepted, List.append_nil]
    by_cases here : at_side = side
    · cases here
      simp only [Function.update_self]
      exact ⟨receiving.active, receiving.rxKey, receiving.inOrder, receiving.last⟩
    · simpa only [Function.update_of_ne (Ne.symm here)] using receiving
  · rw [result, acceptedFrames_opened]
    by_cases here : at_side = side
    · cases here
      rw [receiving.rxKey] at opened
      rw [if_pos rfl]
      simpa only [Function.update_self] using receiving.accept few fresh (opens frame plaintext opened)
    · rw [if_neg here, List.append_nil]
      simpa only [Function.update_of_ne (Ne.symm here)] using receiving

theorem receiving_run (opens : OpensInPlace ccm key sent) (few : sent.length < 2 ^ 32 - 1) {c : TransportChannel}
    {side : Side} (active : (c side).active = true) (fresh : (c side).rxNonceCounter = 0) (rxKey : (c side).rxKey = key)
    (ops : List ChannelOp) :
    Receiving key sent (finalState (channelStep ccm) c ops side)
      (acceptedFrames side (outputs (channelStep ccm) c ops)) := by
  refine history_invariant
    (P := fun (c : TransportChannel) events => Receiving key sent (c side) (acceptedFrames side events))
    ⟨active, rxKey, List.nil_sublist _, .inl fresh⟩ (fun _ _ op receiving => receiving.step opens few op) ops

/-- A frame with a counter above every accepted one is not behind the receive counter. -/
theorem Receiving.not_behind (receiving : Receiving key sent session accepted) {frame : TransportFrame}
    (above : ∀ earlier plaintext, (earlier, plaintext) ∈ accepted → earlier.nonceCounter < frame.nonceCounter) :
    session.rxNonceCounter ≤ frame.nonceCounter := by
  rcases receiving.last with start | ⟨earlier, plaintext, member, next⟩
  · rw [start]
    exact UInt32.zero_le
  · have below := UInt32.lt_iff_toNat_lt.mp (above earlier plaintext member)
    rw [UInt32.le_iff_toNat_le, next]
    exact below

end Receiving

/-! ### The channel -/

section Channel

variable {ccm : Ccm} {c : TransportChannel} {side : Side} {ops : List ChannelOp}

theorem exists_send_of_mem_sentFrames {encryption : CcmEncryption} {frame : TransportFrame}
    (member : (encryption, frame) ∈ sentFrames side (outputs (channelStep ccm) c ops)) :
    ∃ plaintext, .send side plaintext ∈ ops := by
  have some_sent := Nat.lt_of_lt_of_le (List.length_pos_of_mem member) (length_sentFrames_le ccm c side ops)
  obtain ⟨op, in_run, sends⟩ := List.countP_pos_iff.mp some_sent
  cases op with
  | send at_side plaintext => exact ⟨plaintext, eq_of_beq sends ▸ in_run⟩
  | deliver => cases sends

/-- Two sessions that have just been created, with the keys of each other. -/
structure FreshChannel (c : TransportChannel) : Prop where
  txNonceCounter : ∀ side, (c side).txNonceCounter = 0
  rxNonceCounter : ∀ side, (c side).rxNonceCounter = 0
  active : ∀ side, (c side).active = true
  rxKey : ∀ side : Side, (c side.other).rxKey = (c side).txKey

theorem transportChannel_fresh {hmac : Hmac} {m m' n n' : TransportModule} {a b : UInt8} {sharedKey : TransportKey}
    {near far : TransportSession} (distinct : a ≠ b)
    (here : transportCreateSession hmac m a b sharedKey = some (m', near))
    (there : transportCreateSession hmac n b a sharedKey = some (n', far)) : FreshChannel (transportChannel near far) := by
  obtain ⟨-, -, near_fresh⟩ := transportCreateSession_fresh here
  obtain ⟨-, -, far_fresh⟩ := transportCreateSession_fresh there
  have mirror : (far.txKey, far.rxKey) = (near.rxKey, near.txKey) := by
    rw [far_fresh.keys, sessionKeys_mirror hmac distinct, ← near_fresh.keys, Prod.swap_prod_mk]
  obtain ⟨near_key, far_key⟩ := Prod.mk.inj mirror
  constructor
  · rintro (_ | _)
    · exact near_fresh.txNonceCounter
    · exact far_fresh.txNonceCounter
  · rintro (_ | _)
    · exact near_fresh.rxNonceCounter
    · exact far_fresh.rxNonceCounter
  · rintro (_ | _)
    · exact near_fresh.active
    · exact far_fresh.active
  · rintro (_ | _)
    · exact far_key
    · exact near_key.symm

/-- The ideal cipher opens under a frame's nonce what was sent under its counter, if the other direction does not use
the same key. -/
theorem FreshChannel.opensInPlace (fresh : FreshChannel c)
    (ideal : ccm.Ideal (channelEncryptions (outputs (channelStep ccm) c ops)))
    (separate : (∃ plaintext, .send side.other plaintext ∈ ops) → (c side.other).txKey ≠ (c side).txKey)
    (few : ops.countP (·.sends side) < 2 ^ 32 - 1) :
    OpensInPlace ccm (c side).txKey (sentPlaintexts side (outputs (channelStep ccm) c ops)) := by
  intro frame plaintext opened
  obtain ⟨encrypted, -⟩ := (ideal _ _ _ _ _).mp opened
  obtain ⟨sender, sent, member⟩ := mem_channelEncryptions.mp encrypted
  obtain ⟨k, at_k⟩ := List.mem_iff_getElem?.mp member
  have numbered := (sending_run ccm (fresh.txNonceCounter sender) ops).numbered k _ _ at_k
  have sender_eq : sender = side := by
    by_contra elsewhere
    obtain rfl : sender = side.other := Side.eq_other elsewhere
    exact separate (exists_send_of_mem_sentFrames member) numbered.txKey.symm
  cases sender_eq
  obtain ⟨-, counter⟩ := buildCcmNonce_inj.mp numbered.nonce
  rw [numbered.nonceCounter] at counter
  have inside := (List.getElem?_eq_some_iff.mp at_k).1
  have bound := length_sentFrames_le ccm c side ops
  have place : frame.nonceCounter.toNat = k := by
    rw [counter, UInt32.toNat_ofNat']
    exact Nat.mod_eq_of_lt (by omega)
  rw [place, sentPlaintexts, List.getElem?_map, at_k]
  rfl

theorem FreshChannel.receiving (fresh : FreshChannel c)
    (ideal : ccm.Ideal (channelEncryptions (outputs (channelStep ccm) c ops)))
    (separate : (∃ plaintext, .send side.other plaintext ∈ ops) → (c side.other).txKey ≠ (c side).txKey)
    (few : ops.countP (·.sends side) < 2 ^ 32 - 1) (part : List ChannelOp) :
    Receiving (c side).txKey (sentPlaintexts side (outputs (channelStep ccm) c ops))
      (finalState (channelStep ccm) c part side.other)
      (acceptedFrames side.other (outputs (channelStep ccm) c part)) := by
  have few_sent : (sentPlaintexts side (outputs (channelStep ccm) c ops)).length < 2 ^ 32 - 1 := by
    rw [sentPlaintexts, List.length_map]
    exact Nat.lt_of_le_of_lt (length_sentFrames_le ccm c side ops) few
  exact receiving_run (fresh.opensInPlace ideal separate few) few_sent (fresh.active _) (fresh.rxNonceCounter _)
    (fresh.rxKey side) part

end Channel

/-- A channel of two sessions, in either direction: both ends have the key, the plaintexts that come out are a subsequence
of those that went in, a genuine frame ahead of all accepted ones is accepted, and a refused frame changes nothing. The
keys of the two directions have to differ only in a run with traffic the other way. -/
theorem transport_channel (hmac : Hmac) (ccm : Ccm) (keeps : ccm.KeepsLength) (sharedKey : TransportKey) (a b : UInt8)
    (distinct : a ≠ b) (m m' n n' : TransportModule) (near far : TransportSession)
    (here : transportCreateSession hmac m a b sharedKey = some (m', near))
    (there : transportCreateSession hmac n b a sharedKey = some (n', far))
    (ops : List ChannelOp) (side : Side) (few : ops.countP (·.sends side) < 2 ^ 32 - 1)
    (ideal : ccm.Ideal (channelEncryptions (outputs (channelStep ccm) (transportChannel near far) ops)))
    (separate : (∃ plaintext, .send side.other plaintext ∈ ops) → near.txKey ≠ far.txKey) :
    let events := outputs (channelStep ccm) (transportChannel near far) ops
    (far.rxKey = near.txKey ∧ near.rxKey = far.txKey) ∧
      (receivedPlaintexts side.other events).Sublist (sentPlaintexts side events) ∧
      (∀ k encryption frame, (encryption, frame) ∈ sentFrames side events →
        ops[k]? = some (.deliver side.other frame) →
        (∀ earlier plaintext, (earlier, plaintext) ∈ acceptedFrames side.other (events.take k) →
          earlier.nonceCounter < frame.nonceCounter) →
        events[k]? = some (.opened side.other frame encryption.plaintext)) ∧
      ∀ session frame error, (transportDecrypt ccm session frame).2 = .error error →
        (transportDecrypt ccm session frame).1 = session := by
  intro events
  have fresh := transportChannel_fresh distinct here there
  have other_key : (∃ plaintext, .send side.other plaintext ∈ ops) →
      (transportChannel near far side.other).txKey ≠ (transportChannel near far side).txKey := by
    cases side with
    | near => exact fun reverse => (separate reverse).symm
    | far => exact separate
  have receiving := fresh.receiving ideal other_key few
  refine ⟨⟨fresh.rxKey .near, fresh.rxKey .far⟩, (receiving ops).inOrder.trans (List.take_sublist _ _), ?_, ?_⟩
  · intro k encryption frame member at_k above
    obtain ⟨j, at_j⟩ := List.mem_iff_getElem?.mp member
    have numbered := (sending_run ccm (fresh.txNonceCounter side) ops).numbered j _ _ at_j
    have now := receiving (ops.take k)
    rw [← outputs_take] at now
    have result := numbered.accepted keeps ideal (mem_channelEncryptions.mpr ⟨side, frame, member⟩) now.active now.rxKey
      (now.not_behind above)
    rw [getElem?_outputs, at_k]
    simp only [Option.map_some, channelStep, result]
  · intro session frame error failed
    exact transportDecrypt_failed failed

/-! ### A link between nodes 3 and 7 -/

def linkKey : TransportKey := #v[0, 1, 2, 3, 4, 5, 6, 7, 8, 9, 10, 11, 12, 13, 14, 15]

/-- HMAC-SHA256 on the two inputs of the key derivation. -/
def linkHmac : Hmac := fun key data =>
  if key = linkKey.toList ∧ data = aToB ++ [3, 7] then
    #v[0xBF, 0xBF, 0xF8, 0x48, 0xB2, 0x56, 0x93, 0x30, 0x16, 0x77, 0xA1, 0x71, 0x66, 0x27, 0x70, 0xB3, 0xCE, 0x27, 0x82,
      0x8D, 0xBB, 0x49, 0x6E, 0xFC, 0x60, 0x01, 0xF6, 0xE2, 0x55, 0x51, 0x17, 0x23]
  else if key = linkKey.toList ∧ data = bToA ++ [3, 7] then
    #v[0x21, 0x94, 0xC5, 0x61, 0x89, 0x0C, 0x3E, 0x6A, 0x62, 0x08, 0x4E, 0x90, 0x33, 0x5A, 0x00, 0x16, 0x53, 0x1C, 0xE2,
      0x1F, 0xDA, 0x99, 0x17, 0xDA, 0xB8, 0x33, 0x9F, 0xD7, 0x84, 0x1E, 0x15, 0x84]
  else Vector.replicate 32 0

def upKey : TransportKey := directionKey linkHmac linkKey [3, 7] aToB

def downKey : TransportKey := directionKey linkHmac linkKey [3, 7] bToA

/-- AES-128-CCM of `"on"` and `"off"` as the first two frames of node 3, and of `"ok"` as the first of node 7. -/
def linkEntries : List CcmEntry :=
  [⟨⟨upKey, buildCcmNonce 1 0, [0x6F, 0x6E]⟩, [0x69, 0xB0], [0xF5, 0x21, 0x57, 0x59]⟩,
    ⟨⟨upKey, buildCcmNonce 1 1, [0x6F, 0x66, 0x66]⟩, [0xA3, 0x9D, 0xE3], [0x74, 0x5B, 0xDB, 0x5F]⟩,
    ⟨⟨downKey, buildCcmNonce 1 0, [0x6F, 0x6B]⟩, [0xE0, 0xBE], [0x34, 0x58, 0x38, 0xC8]⟩]

def onFrame : TransportFrame := ⟨1, 0, [0xF5, 0x21, 0x57, 0x59], [0x69, 0xB0]⟩

def offFrame : TransportFrame := ⟨1, 1, [0x74, 0x5B, 0xDB, 0x5F], [0xA3, 0x9D, 0xE3]⟩

def linkSession (localId remoteId : UInt8) (txKey rxKey : TransportKey) : TransportSession :=
  { sessionId := 1, localNodeId := localId, remoteNodeId := remoteId, txKey, rxKey, txNonceCounter := 0
    rxNonceCounter := 0, createdMs := 0, active := true }

/-- The second frame overtakes the first, and comes twice. -/
def overtaking : List ChannelOp :=
  [.send .near [0x6F, 0x6E], .send .near [0x6F, 0x66, 0x66], .send .far [0x6F, 0x6B], .deliver .far offFrame,
    .deliver .far onFrame, .deliver .far offFrame]

theorem transport_channel_overtaking :
    let events := outputs (channelStep (tableCcm linkEntries))
      (transportChannel (linkSession 3 7 upKey downKey) (linkSession 7 3 downKey upKey)) overtaking
    (receivedPlaintexts .far events).Sublist (sentPlaintexts .near events) ∧
      receivedPlaintexts .far events = [[0x6F, 0x66, 0x66]] := by
  intro events
  obtain ⟨-, inOrder, -⟩ := transport_channel linkHmac (tableCcm linkEntries)
    (tableCcm_keepsLength (by decide) (by decide)) linkKey 3 7 (by decide) transportInit ⟨true, 2⟩ transportInit ⟨true, 2⟩
    (linkSession 3 7 upKey downKey) (linkSession 7 3 downKey upKey) (by decide) (by decide) overtaking .near (by decide)
    (tableCcm_ideal (by decide) (by decide)) (fun _ => by decide)
  exact ⟨inOrder, by decide⟩

end IotPlatform
