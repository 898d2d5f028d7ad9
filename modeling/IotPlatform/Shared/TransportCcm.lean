import IotPlatform.Lib.Records
import IotPlatform.Crypto.CcmMode
import IotPlatform.Shared.TransportChannel

/-!
# The transport over the library's cipher

The channel with AES-CCM as the library computes it, over any block cipher, and a network that makes no frames up. What a
receiver takes of the frames that reach it depends on the order of their counters alone.
-/

namespace IotPlatform
open Bytes Run CcmMode Records

def deliveredFrames (side : Side) (ops : List ChannelOp) : List TransportFrame :=
  ops.filterMap fun
    | .deliver at_side frame => if at_side = side then some frame else none
    | .send .. => none

/-- The frame opens, as the plaintext sent under its counter. -/
def Opens (ccm : Ccm) (key : TransportKey) (sent : List (List UInt8)) (frame : TransportFrame) : Prop :=
  frame.ciphertext.length ≤ transportMaxPayload ∧ ∃ plaintext, sent[frame.nonceCounter.toNat]? = some plaintext ∧
    ccm.authDecrypt key (buildCcmNonce frame.sessionId frame.nonceCounter) frame.ciphertext frame.mic = some plaintext

/-- A receiver of such frames: it has accepted the records among them. -/
structure Recording (key : TransportKey) (sent : List (List UInt8)) (session : TransportSession)
    (delivered : List TransportFrame) (accepted : List (TransportFrame × List UInt8)) : Prop
    extends Receiving key sent session accepted where
  below : ∀ frame plaintext, (frame, plaintext) ∈ accepted → frame.nonceCounter.toNat < session.rxNonceCounter.toNat
  records : accepted.map Prod.fst = records TransportFrame.nonceCounter delivered

section Recording

variable {ccm : Ccm} {key : TransportKey} {sent : List (List UInt8)} {session : TransportSession} {side : Side}
  {delivered : List TransportFrame} {accepted : List (TransportFrame × List UInt8)} {c : TransportChannel}

theorem Recording.fresh_iff (recording : Recording key sent session delivered accepted) (frame : TransportFrame) :
    session.rxNonceCounter ≤ frame.nonceCounter ↔
      ∀ y ∈ Records.records TransportFrame.nonceCounter delivered, y.nonceCounter < frame.nonceCounter := by
  rw [← recording.records]
  constructor
  · intro fresh y member
    obtain ⟨⟨earlier, plaintext⟩, accepted, rfl⟩ := List.mem_map.mp member
    exact UInt32.lt_iff_toNat_lt.mpr
      (Nat.lt_of_lt_of_le (recording.below _ _ accepted) (UInt32.le_iff_toNat_le.mp fresh))
  · intro above
    exact recording.not_behind fun earlier plaintext member => above earlier (List.mem_map_of_mem (f := Prod.fst) member)

theorem Recording.deliver (recording : Recording key sent session delivered accepted) (few : sent.length < 2 ^ 32 - 1)
    {frame : TransportFrame} (opens : Opens ccm key sent frame) :
    (∃ error, transportDecrypt ccm session frame = (session, .error error) ∧
        Recording key sent session (delivered ++ [frame]) accepted) ∨
      ∃ session' plaintext, transportDecrypt ccm session frame = (session', .ok plaintext) ∧
        Recording key sent session' (delivered ++ [frame]) (accepted ++ [(frame, plaintext)]) := by
  obtain ⟨short, plaintext, place, opened⟩ := opens
  have exact_records := recording.fresh_iff frame
  rw [← recording.rxKey] at opened
  by_cases fresh : session.rxNonceCounter ≤ frame.nonceCounter
  · have moved : (frame.nonceCounter + 1).toNat = frame.nonceCounter.toNat + 1 := by
      have inside := (List.getElem?_eq_some_iff.mp place).1
      rw [UInt32.toNat_add]
      exact Nat.mod_eq_of_lt (Nat.lt_of_lt_of_le (Nat.succ_lt_succ inside) (by omega))
    refine .inr ⟨_, plaintext, transportDecrypt_of_opened recording.active fresh short opened,
      recording.toReceiving.accept few fresh place, ?_, ?_⟩
    · intro earlier _ member
      show earlier.nonceCounter.toNat < (frame.nonceCounter + 1).toNat
      rw [moved]
      rcases List.mem_append.mp member with old | new
      · have before := recording.below _ _ old
        have reached := UInt32.le_iff_toNat_le.mp fresh
        omega
      · obtain ⟨rfl, -⟩ := Prod.mk.inj (List.mem_singleton.mp new)
        omega
    · rw [records_concat, if_pos (exact_records.mp fresh), ← recording.records, List.map_append]
      rfl
  · refine .inl ⟨.errNonce, ?_, { recording with records := ?_ }⟩
    · rw [transportDecrypt, recording.active]
      exact (if_neg (by decide)).trans (if_pos (UInt32.not_le.mp fresh))
    · rw [records_concat, if_neg (fun above => fresh (exact_records.mpr above)), recording.records]

theorem Recording.step (recording : Recording key sent (c side) delivered accepted) (few : sent.length < 2 ^ 32 - 1)
    (op : ChannelOp) (opens : ∀ frame, op = .deliver side frame → Opens ccm key sent frame) :
    Recording key sent ((channelStep ccm c op).1 side) (delivered ++ deliveredFrames side [op])
      (accepted ++ acceptedFrames side [(channelStep ccm c op).2]) := by
  cases op with
  | send at_side plaintext =>
    have none_delivered : deliveredFrames side [.send at_side plaintext] = [] := rfl
    rw [none_delivered, List.append_nil]
    obtain refused | ⟨ciphertext, mic, -, -, -, result⟩ := transportEncrypt_cases ccm (c at_side) plaintext
    · simp only [channelStep, refused, Function.update_eq_self]
      simpa [acceptedFrames] using recording
    · simp only [channelStep, result]
      have none_accepted : ∀ encryption frame, acceptedFrames side [.sealed at_side encryption frame] = [] := fun _ _ => rfl
      rw [none_accepted, List.append_nil]
      by_cases here : at_side = side
      · cases here
        simp only [Function.update_self]
        exact ⟨⟨recording.active, recording.rxKey, recording.inOrder, recording.last⟩, recording.below, recording.records⟩
      · simpa only [Function.update_of_ne (Ne.symm here)] using recording
  | deliver at_side frame =>
    by_cases here : at_side = side
    · cases here
      have one_delivered : deliveredFrames side [.deliver side frame] = [frame] := by simp [deliveredFrames]
      rw [one_delivered]
      obtain ⟨error, refused, recording'⟩ | ⟨session', plaintext, result, recording'⟩ := recording.deliver few (opens frame rfl)
      · simp only [channelStep, refused, Function.update_eq_self]
        simpa [acceptedFrames] using recording'
      · simp only [channelStep, result, Function.update_self, acceptedFrames_opened, if_true]
        exact recording'
    · have none_delivered : deliveredFrames side [.deliver at_side frame] = [] := by simp [deliveredFrames, here]
      rw [none_delivered, List.append_nil]
      obtain ⟨error, refused⟩ | ⟨plaintext, -, -, -, -, result⟩ := transportDecrypt_cases ccm (c at_side) frame
      · simp only [channelStep, refused, Function.update_eq_self]
        simpa [acceptedFrames] using recording
      · simp only [channelStep, result, acceptedFrames_opened, if_neg here, List.append_nil]
        simpa only [Function.update_of_ne (Ne.symm here)] using recording

end Recording

/-! ### The cipher of the library -/

section Sending

variable {aes : TransportKey → Cipher} {c : TransportChannel} {side : Side}

end Sending

end IotPlatform
