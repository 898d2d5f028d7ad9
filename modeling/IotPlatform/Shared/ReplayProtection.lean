import IotPlatform.Lib.Table

/-!
# Nonce and timestamp anti-replay

`replay_protection.c`: a table of 64 per-node states, each a highest nonce, the timestamp of the frame
that carried it and a 64-bit window of recent nonces.
-/

namespace IotPlatform.Replay
open Table

def maxNodes : Nat := 64

def windowSize : Nat := 64

def maxDriftMs : UInt64 := 10000

structure ReplayNodeState where
  nodeId : UInt8 := 0
  highestNonce : UInt32 := 0
  highestTimestampMs : UInt64 := 0
  /-- Bit `i` is set once `highestNonce - i` was seen. -/
  bitmap : BitVec 64 := 0
  initialised : Bool := false
  deriving DecidableEq

inductive ReplayCheckResult where
  | ok | errDuplicate | errStaleTimestamp | errParamNull
  deriving DecidableEq, Repr

structure ReplayState where
  nodes : List ReplayNodeState
  initialised : Bool

def ReplayNodeState.tracks (id : UInt8) (slot : ReplayNodeState) : Bool :=
  slot.initialised && slot.nodeId == id

def ReplayNodeState.free (slot : ReplayNodeState) : Bool := !slot.initialised

/-- The table after `find_or_alloc_node` and the slot its pointer names, or `none` when the table is full. -/
def findOrAllocNode (nodes : List ReplayNodeState) (id : UInt8) : Option (List ReplayNodeState × ReplayNodeState) :=
  match nodes.find? (·.tracks id) with
  | some slot => some (nodes, slot)
  | none =>
    match nodes.find? (·.free) with
    | some _ =>
      let slot := { nodeId := id, initialised := true }
      some (updateFirst (·.free) (fun _ => slot) nodes, slot)
    | none => none

def replayInit : ReplayState :=
  { nodes := List.replicate maxNodes {}, initialised := true }

/-- The body of `replay_check` on the slot of the sender. -/
def checkSlot (state : ReplayNodeState) (nonce : UInt32) (timestampMs : UInt64) :
    ReplayNodeState × ReplayCheckResult :=
  -- First frame from this node.
  if state.highestNonce = 0 ∧ state.bitmap = 0 then
    ({ state with highestNonce := nonce, highestTimestampMs := timestampMs, bitmap := 1 }, .ok)
  else
    let drift := if timestampMs > state.highestTimestampMs then timestampMs - state.highestTimestampMs
      else state.highestTimestampMs - timestampMs
    if drift > maxDriftMs then (state, .errStaleTimestamp)
    else if nonce > state.highestNonce then
      let shift := nonce - state.highestNonce
      let bitmap := if shift.toNat < windowSize then (state.bitmap <<< shift.toNat) ||| 1 else 1
      ({ state with highestNonce := nonce, highestTimestampMs := timestampMs, bitmap := bitmap }, .ok)
    else
      let delta := state.highestNonce - nonce
      if delta.toNat ≥ windowSize then (state, .errDuplicate)
      else
        let mask := (1 : BitVec 64) <<< delta.toNat
        if state.bitmap &&& mask ≠ 0 then (state, .errDuplicate)
        else ({ state with bitmap := state.bitmap ||| mask }, .ok)

def replayCheck (s : ReplayState) (id : UInt8) (nonce : UInt32) (timestampMs : UInt64) :
    ReplayState × ReplayCheckResult :=
  if !s.initialised then (s, .errParamNull)
  else
    match findOrAllocNode s.nodes id with
    | none => (s, .errParamNull)
    | some (nodes, state) =>
      let (state', result) := checkSlot state nonce timestampMs
      ({ s with nodes := updateFirst (·.tracks id) (fun _ => state') nodes }, result)

def replayResetNode (s : ReplayState) (id : UInt8) : ReplayState :=
  { s with nodes := updateFirst (·.tracks id) (fun _ => {}) s.nodes }

def replayResetAll (s : ReplayState) : ReplayState :=
  { s with nodes := List.replicate maxNodes {} }

inductive Call where
  | check (id : UInt8) (nonce : UInt32) (timestampMs : UInt64)
  | resetNode (id : UInt8)
  | resetAll
  deriving DecidableEq

def step (s : ReplayState) : Call → ReplayState × Option ReplayCheckResult
  | .check id nonce timestampMs =>
    let (s', result) := replayCheck s id nonce timestampMs
    (s', some result)
  | .resetNode id => (replayResetNode s id, none)
  | .resetAll => (replayResetAll s, none)

end IotPlatform.Replay
