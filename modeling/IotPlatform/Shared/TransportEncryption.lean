import IotPlatform.Lib.Bytes
import IotPlatform.Shared.AesCcm
import IotPlatform.Shared.Attestation

/-!
# Transport encryption

`transport_encryption.c`: sessions between two nodes with one key for each direction, and frames under AES-128-CCM with
a nonce of session id and counter. HMAC-SHA256, from which the keys are derived, and AES-CCM are parameters.
-/

namespace IotPlatform
open Bytes

abbrev TransportKey := Vector UInt8 16

def transportMaxPayload : Nat := 256

def transportSessionKeyTtlMs : UInt64 := 3600000

structure TransportModule where
  initialised : Bool := false
  nextSessionId : UInt8 := 0
  deriving DecidableEq, Repr

structure TransportSession where
  sessionId : UInt8
  localNodeId : UInt8
  remoteNodeId : UInt8
  txKey : TransportKey
  rxKey : TransportKey
  txNonceCounter : UInt32
  rxNonceCounter : UInt32
  createdMs : UInt64
  active : Bool
  deriving DecidableEq

/-- `ciphertext` is the `ciphertext_len` bytes in use. -/
structure TransportFrame where
  sessionId : UInt8
  nonceCounter : UInt32
  mic : List UInt8
  ciphertext : List UInt8
  deriving DecidableEq, Repr

inductive TransportDecryptError where
  | errMicFail | errSession | errNonce | errParamNull | errTooLong
  deriving DecidableEq, Repr

def transportInit : TransportModule := { initialised := true, nextSessionId := 1 }

/-! ### Sessions -/

/-- The bytes of `"a_to_b"`: from the node with the lower id to the other. -/
def aToB : List UInt8 := [0x61, 0x5F, 0x74, 0x6F, 0x5F, 0x62]

def bToA : List UInt8 := [0x62, 0x5F, 0x74, 0x6F, 0x5F, 0x61]

/-- The first 16 bytes of the HMAC of direction and salt. -/
def directionKey (hmac : Hmac) (sharedKey : TransportKey) (salt direction : List UInt8) : TransportKey :=
  ((hmac sharedKey.toList (direction ++ salt.take 30)).take 16).cast (by decide)

def transportDeriveKeys (hmac : Hmac) (sharedKey : TransportKey) (salt txDirection rxDirection : List UInt8) :
    TransportKey × TransportKey :=
  (directionKey hmac sharedKey salt txDirection, directionKey hmac sharedKey salt rxDirection)

/-- The key derivation of `transport_create_session`: the ids in order are the salt, the same at both ends. -/
def sessionKeys (hmac : Hmac) (localNodeId remoteNodeId : UInt8) (sharedKey : TransportKey) :
    TransportKey × TransportKey :=
  let lower := if localNodeId < remoteNodeId then localNodeId else remoteNodeId
  let upper := if localNodeId < remoteNodeId then remoteNodeId else localNodeId
  let localIsLower := localNodeId == lower
  if localIsLower then transportDeriveKeys hmac sharedKey [lower, upper] aToB bToA
  else transportDeriveKeys hmac sharedKey [lower, upper] bToA aToB

def transportCreateSession (hmac : Hmac) (m : TransportModule) (localNodeId remoteNodeId : UInt8)
    (sharedKey : TransportKey) : Option (TransportModule × TransportSession) :=
  if !m.initialised then none
  else
    let keys := sessionKeys hmac localNodeId remoteNodeId sharedKey
    some
      ({ m with nextSessionId := m.nextSessionId + 1 },
        { sessionId := m.nextSessionId, localNodeId, remoteNodeId, txKey := keys.1, rxKey := keys.2
          txNonceCounter := 0, rxNonceCounter := 0, createdMs := 0, active := true })

def transportSessionValid (session : TransportSession) (currentMs : UInt64) : Bool :=
  session.active && !(currentMs < session.createdMs) && !(currentMs - session.createdMs > transportSessionKeyTtlMs)

def transportSessionInvalidate (session : TransportSession) : TransportSession :=
  { session with active := false, txKey := Vector.replicate 16 0, rxKey := Vector.replicate 16 0 }

/-! ### Frames -/

/-- `TRANSPORT_NONCE_SIZE` bytes: session id, counter in big-endian order, zeros. -/
def buildCcmNonce (sessionId : UInt8) (nonceCounter : UInt32) : List UInt8 :=
  sessionId :: (leBytes 4 nonceCounter.toNat).reverse ++ List.replicate 8 0

def transportEncrypt (ccm : Ccm) (session : TransportSession) (plaintext : List UInt8) :
    TransportSession × Option TransportFrame :=
  if !session.active then (session, none)
  else if plaintext.length > transportMaxPayload then (session, none)
  else
    match ccm.encryptAndTag session.txKey (buildCcmNonce session.sessionId session.txNonceCounter) plaintext with
    | none => (session, none)
    | some (ciphertext, mic) =>
      ({ session with txNonceCounter := session.txNonceCounter + 1 },
        some { sessionId := session.sessionId, nonceCounter := session.txNonceCounter, mic, ciphertext })

def transportDecrypt (ccm : Ccm) (session : TransportSession) (frame : TransportFrame) :
    TransportSession × Except TransportDecryptError (List UInt8) :=
  if !session.active then (session, .error .errSession)
  else if frame.nonceCounter < session.rxNonceCounter then (session, .error .errNonce)
  else if frame.ciphertext.length > transportMaxPayload then (session, .error .errParamNull)
  else
    -- The session id of the nonce is the frame's, not the receiver's.
    match ccm.authDecrypt session.rxKey (buildCcmNonce frame.sessionId frame.nonceCounter) frame.ciphertext frame.mic with
    | none => (session, .error .errMicFail)
    | some plaintext => ({ session with rxNonceCounter := frame.nonceCounter + 1 }, .ok plaintext)

/-! ### What one call does -/

theorem buildCcmNonce_inj {id id' : UInt8} {counter counter' : UInt32} :
    buildCcmNonce id counter = buildCcmNonce id' counter' ↔ id = id' ∧ counter = counter' := by
  constructor
  · intro same
    obtain ⟨same_id, same_rest⟩ := List.cons.inj same
    have bytes := List.append_cancel_right same_rest
    rw [List.reverse_inj] at bytes
    refine ⟨same_id, ?_⟩
    rw [← ofNat_leNat32 counter, bytes, ofNat_leNat32]
  · rintro ⟨rfl, rfl⟩
    rfl

/-- Both ends sort the pair of ids, so that each direction has one key. -/
theorem sessionKeys_mirror (hmac : Hmac) {a b : UInt8} (distinct : a ≠ b) (sharedKey : TransportKey) :
    sessionKeys hmac b a sharedKey = (sessionKeys hmac a b sharedKey).swap := by
  unfold sessionKeys
  by_cases less : a < b
  · have not_greater : ¬ b < a := UInt8.not_lt.mpr (UInt8.le_of_lt less)
    simp [less, not_greater, distinct.symm, transportDeriveKeys]
  · have greater : b < a := UInt8.lt_of_le_of_ne (UInt8.not_lt.mp less) distinct.symm
    simp [greater, less, distinct, transportDeriveKeys]

/-- What `transport_create_session` fills in. -/
structure FreshSession (hmac : Hmac) (m : TransportModule) (localNodeId remoteNodeId : UInt8) (sharedKey : TransportKey)
    (session : TransportSession) : Prop where
  sessionId : session.sessionId = m.nextSessionId
  keys : (session.txKey, session.rxKey) = sessionKeys hmac localNodeId remoteNodeId sharedKey
  txNonceCounter : session.txNonceCounter = 0
  rxNonceCounter : session.rxNonceCounter = 0
  active : session.active = true

theorem transportCreateSession_fresh {hmac : Hmac} {m m' : TransportModule} {localNodeId remoteNodeId : UInt8}
    {sharedKey : TransportKey} {session : TransportSession}
    (created : transportCreateSession hmac m localNodeId remoteNodeId sharedKey = some (m', session)) :
    m.initialised = true ∧ m' = { m with nextSessionId := m.nextSessionId + 1 } ∧
      FreshSession hmac m localNodeId remoteNodeId sharedKey session := by
  unfold transportCreateSession at created
  split at created
  · cases created
  · rename_i ready
    cases created
    exact ⟨by simpa using ready, rfl, rfl, rfl, rfl, rfl, rfl⟩

section Frames

variable {ccm : Ccm} {session : TransportSession}

/-- A call either leaves the session alone or seals the plaintext under the next nonce. -/
theorem transportEncrypt_cases (ccm : Ccm) (session : TransportSession) (plaintext : List UInt8) :
    transportEncrypt ccm session plaintext = (session, none) ∨
      ∃ ciphertext mic, session.active = true ∧ plaintext.length ≤ transportMaxPayload ∧
        ccm.encryptAndTag session.txKey (buildCcmNonce session.sessionId session.txNonceCounter) plaintext =
          some (ciphertext, mic) ∧
        transportEncrypt ccm session plaintext =
          ({ session with txNonceCounter := session.txNonceCounter + 1 },
            some ⟨session.sessionId, session.txNonceCounter, mic, ciphertext⟩) := by
  unfold transportEncrypt
  split
  · exact .inl rfl
  · rename_i active
    split
    · exact .inl rfl
    · rename_i short
      split
      · exact .inl rfl
      · rename_i ciphertext mic encrypted
        exact .inr ⟨ciphertext, mic, by simpa using active, Nat.le_of_not_lt short, encrypted, rfl⟩

theorem transportDecrypt_cases (ccm : Ccm) (session : TransportSession) (frame : TransportFrame) :
    (∃ error, transportDecrypt ccm session frame = (session, .error error)) ∨
      ∃ plaintext, session.active = true ∧ session.rxNonceCounter ≤ frame.nonceCounter ∧
        frame.ciphertext.length ≤ transportMaxPayload ∧
        ccm.authDecrypt session.rxKey (buildCcmNonce frame.sessionId frame.nonceCounter) frame.ciphertext frame.mic =
          some plaintext ∧
        transportDecrypt ccm session frame =
          ({ session with rxNonceCounter := frame.nonceCounter + 1 }, .ok plaintext) := by
  unfold transportDecrypt
  split
  · exact .inl ⟨_, rfl⟩
  · rename_i active
    split
    · exact .inl ⟨_, rfl⟩
    · rename_i fresh
      split
      · exact .inl ⟨_, rfl⟩
      · rename_i short
        split
        · exact .inl ⟨_, rfl⟩
        · rename_i plaintext opened
          exact .inr ⟨plaintext, by simpa using active, UInt32.not_lt.mp fresh, Nat.le_of_not_lt short, opened, rfl⟩

theorem transportDecrypt_failed {frame : TransportFrame} {error : TransportDecryptError}
    (failed : (transportDecrypt ccm session frame).2 = .error error) :
    (transportDecrypt ccm session frame).1 = session := by
  obtain ⟨error', refused⟩ | ⟨plaintext, -, -, -, -, accepted⟩ := transportDecrypt_cases ccm session frame
  · rw [refused]
  · rw [accepted] at failed
    cases failed

theorem transportDecrypt_of_opened {frame : TransportFrame} {plaintext : List UInt8} (active : session.active = true)
    (fresh : session.rxNonceCounter ≤ frame.nonceCounter) (short : frame.ciphertext.length ≤ transportMaxPayload)
    (opened : ccm.authDecrypt session.rxKey (buildCcmNonce frame.sessionId frame.nonceCounter) frame.ciphertext
      frame.mic = some plaintext) :
    transportDecrypt ccm session frame = ({ session with rxNonceCounter := frame.nonceCounter + 1 }, .ok plaintext) := by
  unfold transportDecrypt
  rw [if_neg (by simp [active]), if_neg (UInt32.not_lt.mpr fresh), if_neg (Nat.not_lt.mpr short), opened]

/-- How a frame comes from the call of AES-CCM behind it. -/
structure SealedFrame (ccm : Ccm) (key : TransportKey) (encryption : CcmEncryption) (frame : TransportFrame) : Prop where
  txKey : encryption.key = key
  nonce : encryption.nonce = buildCcmNonce frame.sessionId frame.nonceCounter
  short : encryption.plaintext.length ≤ transportMaxPayload
  encrypted : ccm.encryptAndTag encryption.key encryption.nonce encryption.plaintext = some (frame.ciphertext, frame.mic)

/-- The ideal cipher opens a genuine frame, in whichever session has the key and a receive counter not past it. -/
theorem SealedFrame.accepted {key : TransportKey} {encryption : CcmEncryption} {frame : TransportFrame}
    {encrypted : List CcmEncryption} (genuine : SealedFrame ccm key encryption frame) (keeps : ccm.KeepsLength)
    (ideal : ccm.Ideal encrypted) (member : encryption ∈ encrypted) (active : session.active = true)
    (rxKey : session.rxKey = key) (fresh : session.rxNonceCounter ≤ frame.nonceCounter) :
    transportDecrypt ccm session frame =
      ({ session with rxNonceCounter := frame.nonceCounter + 1 }, .ok encryption.plaintext) := by
  have opened := (ideal _ _ _ _ _).mpr ⟨member, genuine.encrypted⟩
  have short : frame.ciphertext.length ≤ transportMaxPayload := by
    rw [keeps _ _ _ _ _ genuine.encrypted]
    exact genuine.short
  rw [genuine.txKey, genuine.nonce, ← rxKey] at opened
  exact transportDecrypt_of_opened active fresh short opened

end Frames

end IotPlatform
