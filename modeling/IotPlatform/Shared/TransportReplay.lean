import IotPlatform.Shared.TransportSessions

/-!
# Frames of an earlier session

Two devices, each with any number of sessions towards the other. A new session of the receiver has the keys of the old
ones and a receive counter of zero, and the nonce is built from the session id in the frame: a recorded frame opens in
it as well as in the session it was accepted in.
-/

namespace IotPlatform
open Run

/-- What the link was like when the receiver created a session. -/
structure SessionOrigin where
  /-- The number of sessions the peer had created. -/
  peerSessions : Nat
  /-- The receiver had accepted a frame, in a session before this one. -/
  afterAccepting : Bool
  deriving DecidableEq

/-- Both devices, with a record of what the peer encrypted and of where the receiver's sessions come from. -/
structure TransportLink where
  peer : TransportDevice := {}
  receiver : TransportDevice := {}
  sealed : List SealedCall := []
  accepted : Bool := false
  origins : List SessionOrigin := []

inductive TransportLinkOp where
  | peer (op : DeviceOp)
  | receiver (op : DeviceOp)
  deriving DecidableEq

def TransportPeering.mirror (peering : TransportPeering) : TransportPeering :=
  { localNodeId := peering.remoteNodeId, remoteNodeId := peering.localNodeId, sharedKey := peering.sharedKey }

def DeviceEvent.isOpened : DeviceEvent → Bool
  | .opened .. => true
  | _ => false

section Link

variable (hmac : Hmac) (ccm : Ccm) (peering : TransportPeering)

/-- One call at one of the two devices; `peering` is the receiver's. -/
def transportLinkStep (l : TransportLink) : TransportLinkOp → TransportLink × DeviceEvent
  | .peer op =>
    let (d, event) := deviceStep hmac ccm peering.mirror l.peer op
    ({ l with peer := d, sealed := l.sealed ++ sealedCalls [event] }, event)
  | .receiver op =>
    let (d, event) := deviceStep hmac ccm peering l.receiver op
    let created := l.receiver.sessions.length < d.sessions.length
    ({ l with
        receiver := d, accepted := l.accepted || event.isOpened
        origins := if created then l.origins ++ [⟨l.peer.sessions.length, l.accepted⟩] else l.origins }, event)

def linkEncryptions (events : List DeviceEvent) : List CcmEncryption := (sealedCalls events).map (·.encryption)

/-- The receiver created session `i` after accepting a frame in an earlier one, and the peer encrypted the frame in a
session it had created before. -/
def FromBefore (l : TransportLink) (i : Nat) (frame : TransportFrame) : Prop :=
  ∃ origin, l.origins[i]? = some origin ∧ origin.afterAccepting = true ∧
    ∃ call ∈ l.sealed, call.session < origin.peerSessions ∧ call.frame = frame

/-- `transport_decrypt` does not return OK for a frame from before the session. -/
def ReplayRefused (l : TransportLink) (op : TransportLinkOp) : Prop :=
  ∀ i frame, op = .receiver (.decrypt i frame) → FromBefore l i frame →
    (transportLinkStep hmac ccm peering l op).2.isOpened = false

/-- The session that a frame from before it reaches is invalidated, or has gone past the frame's counter. -/
def ReplayGuarded (l : TransportLink) (op : TransportLinkOp) : Prop :=
  ∀ i frame session, op = .receiver (.decrypt i frame) → FromBefore l i frame → l.receiver.sessions[i]? = some session →
    session.active = false ∨ frame.nonceCounter < session.rxNonceCounter

end Link

/-! ### One step -/

section Steps

variable {hmac : Hmac} {ccm : Ccm} {peering : TransportPeering} {l : TransportLink}

theorem replayRefused_of_guarded {op : TransportLinkOp} (guarded : ReplayGuarded l op) :
    ReplayRefused hmac ccm peering l op := by
  rintro i frame rfl before
  have spec := deviceStep_spec hmac ccm peering l.receiver (.decrypt i frame)
  change (deviceStep hmac ccm peering l.receiver (.decrypt i frame)).2.isOpened = false
  generalize deviceStep hmac ccm peering l.receiver (.decrypt i frame) = result at spec ⊢
  obtain ⟨d, event⟩ := result
  cases spec with
  | unopened => rfl
  | opened found active fresh =>
    rcases guarded i frame _ rfl before found with inactive | past
    · exact absurd active (by simp [inactive])
    · exact absurd past (UInt32.not_lt.mpr fresh)

/-- Every frame the peer has encrypted is sealed under the key that the receiver's active sessions open with. -/
structure LinkKeys (hmac : Hmac) (ccm : Ccm) (peering : TransportPeering) (l : TransportLink)
    (events : List DeviceEvent) : Prop where
  peerKeys : KeysDerived hmac peering.mirror l.peer
  receiverKeys : KeysDerived hmac peering l.receiver
  genuine : ∀ call ∈ l.sealed, SealedFrame ccm (peering.mirror.keys hmac).1 call.encryption call.frame
  recorded : ∀ call ∈ l.sealed, call.encryption ∈ linkEncryptions events

theorem mem_linkEncryptions_append {events later : List DeviceEvent} {encryption : CcmEncryption}
    (member : encryption ∈ linkEncryptions events) : encryption ∈ linkEncryptions (events ++ later) := by
  rw [linkEncryptions, sealedCalls, List.filterMap_append, List.map_append]
  exact List.mem_append_left _ member

theorem LinkKeys.step {events : List DeviceEvent} (keys : LinkKeys hmac ccm peering l events) (op : TransportLinkOp) :
    LinkKeys hmac ccm peering (transportLinkStep hmac ccm peering l op).1
      (events ++ [(transportLinkStep hmac ccm peering l op).2]) := by
  cases op with
  | peer op =>
    refine ⟨keys.peerKeys.step op, keys.receiverKeys, ?_, ?_⟩
    · intro call member
      rcases List.mem_append.mp member with old | new
      · exact keys.genuine call old
      · have event := List.mem_singleton.mp (mem_sealedCalls.mp new)
        exact keys.peerKeys.sealedFrame event.symm
    · intro call member
      rcases List.mem_append.mp member with old | new
      · exact mem_linkEncryptions_append (keys.recorded call old)
      · rw [linkEncryptions, sealedCalls_concat, List.map_append]
        exact List.mem_append_right _ (List.mem_map_of_mem new)
  | receiver op =>
    exact ⟨keys.peerKeys, keys.receiverKeys.step op, keys.genuine,
      fun call member => mem_linkEncryptions_append (keys.recorded call member)⟩

theorem linkKeys_run (hmac : Hmac) (ccm : Ccm) (peering : TransportPeering) (ops : List TransportLinkOp) :
    LinkKeys hmac ccm peering (finalState (transportLinkStep hmac ccm peering) {} ops)
      (outputs (transportLinkStep hmac ccm peering) {} ops) := by
  refine history_invariant (P := LinkKeys hmac ccm peering) ⟨.start hmac peering.mirror, .start hmac peering, ?_, ?_⟩
    (fun _ _ op keys => keys.step op) ops
  · exact fun _ member => absurd member List.not_mem_nil
  · exact fun _ member => absurd member List.not_mem_nil

/-- A genuine frame opens in every active session whose receive counter is not past it. -/
theorem replayGuarded_of_refused {events : List DeviceEvent} {encrypted : List CcmEncryption}
    (keys : LinkKeys hmac ccm peering l events) (distinct : peering.localNodeId ≠ peering.remoteNodeId)
    (keeps : ccm.KeepsLength) (ideal : ccm.Ideal encrypted) (within : linkEncryptions events ⊆ encrypted)
    {op : TransportLinkOp} (refused : ReplayRefused hmac ccm peering l op) : ReplayGuarded l op := by
  rintro i frame session rfl before found
  by_contra open_to_it
  rw [not_or, Bool.not_eq_false, UInt32.not_lt] at open_to_it
  obtain ⟨active, fresh⟩ := open_to_it
  obtain ⟨-, -, -, call, member, -, rfl⟩ := id before
  have rxKey : session.rxKey = (peering.mirror.keys hmac).1 := by
    have derived := keys.receiverKeys session (List.mem_of_getElem? found) active
    have mirror : peering.mirror.keys hmac = (peering.keys hmac).swap :=
      sessionKeys_mirror hmac distinct peering.sharedKey
    rw [mirror, ← derived, Prod.fst_swap]
  have accepted := (keys.genuine call member).accepted keeps ideal (within (keys.recorded call member)) active rxKey fresh
  have opened := refused i call.frame rfl before
  simp [transportLinkStep, deviceStep, found, accepted, DeviceEvent.isOpened] at opened

end Steps

/-! ### Runs -/

/-- Where each frame from before a session finds it invalidated or past the frame's counter, none is accepted; under the
ideal cipher, only there. -/
theorem replay_refused_exact (hmac : Hmac) (ccm : Ccm) (peering : TransportPeering) (ops : List TransportLinkOp) :
    (EachStep ReplayGuarded (transportLinkStep hmac ccm peering) {} ops →
      EachStep (ReplayRefused hmac ccm peering) (transportLinkStep hmac ccm peering) {} ops) ∧
    (peering.localNodeId ≠ peering.remoteNodeId → ccm.KeepsLength →
      ccm.Ideal (linkEncryptions (outputs (transportLinkStep hmac ccm peering) {} ops)) →
      EachStep (ReplayRefused hmac ccm peering) (transportLinkStep hmac ccm peering) {} ops →
      EachStep ReplayGuarded (transportLinkStep hmac ccm peering) {} ops) := by
  constructor
  · intro guarded
    exact eachStep_iff.mpr fun n op found => replayRefused_of_guarded (eachStep_iff.mp guarded n op found)
  · intro distinct keeps ideal refused
    refine eachStep_iff.mpr fun n op found => ?_
    have within : linkEncryptions (outputs (transportLinkStep hmac ccm peering) {} (ops.take n)) ⊆
        linkEncryptions (outputs (transportLinkStep hmac ccm peering) {} ops) := by
      intro encryption member
      rw [← outputs_take] at member
      rw [← List.take_append_drop n (outputs (transportLinkStep hmac ccm peering) {} ops)]
      exact mem_linkEncryptions_append member
    exact replayGuarded_of_refused (linkKeys_run hmac ccm peering (ops.take n)) distinct keeps ideal within
      (eachStep_iff.mp refused n op found)

/-- AES-128-CCM of `"on"` as the first frame of node 3. -/
def onEntries : List CcmEntry :=
  [⟨⟨upKey, buildCcmNonce 1 0, [0x6F, 0x6E]⟩, [0x69, 0xB0], [0xF5, 0x21, 0x57, 0x59]⟩]

/-- Node 7 accepts the first frame of node 3 and creates a new session. -/
def recordedFrame : List TransportLinkOp :=
  [.peer .init, .peer .create, .peer (.encrypt 0 [0x6F, 0x6E]), .receiver .init, .receiver .create,
    .receiver (.decrypt 0 onFrame), .receiver .create]

theorem replay_refused_exact_invalidated :
    let step := transportLinkStep linkHmac (tableCcm onEntries) ⟨7, 3, linkKey⟩
    EachStep (ReplayRefused linkHmac (tableCcm onEntries) ⟨7, 3, linkKey⟩) step {}
      (recordedFrame ++ [.receiver (.invalidate 1), .receiver (.decrypt 1 onFrame)]) := by
  have other : ∀ l op, (∀ i frame, op ≠ .receiver (.decrypt i frame)) → ReplayGuarded l op :=
    fun l op not_decrypt i frame session same => absurd same (not_decrypt i frame)
  refine (replay_refused_exact _ _ _ _).1 ⟨other _ _ (by simp), other _ _ (by simp), other _ _ (by simp),
    other _ _ (by simp), other _ _ (by simp), ?_, other _ _ (by simp), other _ _ (by simp), ?_, trivial⟩
  · rintro i frame session same ⟨origin, found, accepting, -⟩
    cases same
    cases found
    cases accepting
  · rintro i frame session same - found
    cases same
    cases found
    exact .inl rfl

/-- The frame is accepted once more, in the new session. -/
theorem recorded_frame_accepted :
    let step := transportLinkStep linkHmac (tableCcm onEntries) ⟨7, 3, linkKey⟩
    let ops := recordedFrame ++ [.receiver (.decrypt 1 onFrame)]
    (tableCcm onEntries).Ideal (linkEncryptions (outputs step {} ops)) ∧
      ¬ EachStep (ReplayRefused linkHmac (tableCcm onEntries) ⟨7, 3, linkKey⟩) step {} ops := by
  intro step ops
  refine ⟨tableCcm_ideal (by decide) (by decide), fun refused => ?_⟩
  have before : FromBefore (finalState step {} recordedFrame) 1 onFrame :=
    ⟨⟨1, true⟩, by decide, rfl, ⟨0, ⟨upKey, buildCcmNonce 1 0, [0x6F, 0x6E]⟩, onFrame⟩, by decide, by decide, rfl⟩
  have last := eachStep_iff.mp refused 7 _ rfl 1 onFrame rfl before
  exact absurd last (by decide)

end IotPlatform
