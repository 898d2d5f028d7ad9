import IotPlatform.Shared.Attestation

/-!
# The edge node's side of attestation

`edge_attestation.c`: the node answers a challenge with its own key, and has authenticated itself by that.
-/

namespace IotPlatform

inductive EdgeAuthState where
  | uninit | idle | authenticated | failed
  deriving DecidableEq, Repr

structure EdgeAuthContext where
  nodeId : UInt8
  preSharedKey : Digest
  keySet : Bool
  state : EdgeAuthState

inductive EdgeAttestResult where
  | ok | errNotReady | errParamNull
  deriving DecidableEq, Repr

def edgeAuthInit (nodeId : UInt8) : EdgeAuthContext :=
  { nodeId := nodeId, preSharedKey := Vector.replicate 32 0, keySet := false, state := .idle }

def edgeAuthSetKey (ctx : EdgeAuthContext) (key : Digest) : EdgeAuthContext :=
  { ctx with preSharedKey := key, keySet := true }

/-- The response is written on success only. -/
def edgeAuthRespond (hmac : Hmac) (ctx : EdgeAuthContext) (challenge : AttestationChallenge) :
    EdgeAuthContext × EdgeAttestResult × Option AttestationResponse :=
  if !ctx.keySet then ({ ctx with state := .failed }, .errNotReady, none)
  else
    let response : AttestationResponse :=
      { response := attestationComputeResponse hmac ctx.preSharedKey challenge
        timestampMs := challenge.timestampMs, responderId := ctx.nodeId }
    ({ ctx with state := .authenticated }, .ok, some response)

def edgeAuthIsAuthenticated (ctx : EdgeAuthContext) : Bool := ctx.state == .authenticated

/-- An answer authenticates the node exactly when it has a key. -/
theorem edgeAuthRespond_authenticated (hmac : Hmac) (ctx : EdgeAuthContext) (challenge : AttestationChallenge) :
    edgeAuthIsAuthenticated (edgeAuthRespond hmac ctx challenge).1 = ctx.keySet := by
  unfold edgeAuthRespond
  cases keyed : ctx.keySet <;> rfl

end IotPlatform
