import IotPlatform.Lib.Run
import IotPlatform.Crypto.Sha256Stream
import IotPlatform.Shared.Attestation

/-!
# HMAC-SHA256

`iot_hmac_sha256` of `attestation.c`, over the HMAC functions of `md.c` in mbedTLS. The context of the hash is started anew
for each of the digests that a tag takes.
-/

namespace IotPlatform
open Bytes Run Sha256

/-- The context of `md.c` for SHA-256: the hash context, and the two halves of `hmac_ctx`. -/
structure MdContext where
  md : Sha256.Context
  ipad : List UInt8
  opad : List UInt8

/-- `mbedtls_md_setup` with HMAC: everything is cleared. -/
def mdSetup : MdContext := { md := Sha256.init, ipad := .replicate 64 0, opad := .replicate 64 0 }

/-- `pad[i] ^= key[i]` over the bytes of the key. -/
def xorKey (pad key : List UInt8) : List UInt8 := List.zipWith (· ^^^ ·) pad key ++ pad.drop key.length

/-- `mbedtls_md_hmac_starts` behind the key that it uses: a long key has been hashed. -/
def mdHmacPads (md : Sha256.Context) (key : List UInt8) : MdContext :=
  let ipad := xorKey (.replicate 64 0x36) key
  let opad := xorKey (.replicate 64 0x5C) key
  { md := update (starts md false) ipad, ipad := ipad, opad := opad }

def mdHmacStarts (ctx : MdContext) (key : List UInt8) : MdContext :=
  if key.length > 64 then
    let hashed := finish (update (starts ctx.md false) key)
    mdHmacPads hashed.1 hashed.2
  else mdHmacPads ctx.md key

def mdHmacUpdate (ctx : MdContext) (input : List UInt8) : MdContext := { ctx with md := update ctx.md input }

def mdHmacFinish (ctx : MdContext) : MdContext × List UInt8 :=
  let inner := finish ctx.md
  let outer := finish (update (update (starts inner.1 false) ctx.opad) inner.2)
  ({ ctx with md := outer.1 }, outer.2)

def mdHmacReset (ctx : MdContext) : MdContext := { ctx with md := update (starts ctx.md false) ctx.ipad }

def mdHmac (key input : List UInt8) : List UInt8 := (mdHmacFinish (mdHmacUpdate (mdHmacStarts mdSetup key) input)).2

def iotHmacSha256 (key data : List UInt8) : Digest := Vector.ofFn fun i => (mdHmac key data).getD i 0

/-! ### The tag of a message -/

/-- The key as a block: a long one is replaced by its digest, and zeros are added. -/
def keyBlock (key : List UInt8) : List UInt8 :=
  let key := if key.length > 64 then digest false key else key
  key ++ .replicate (64 - key.length) 0

def hmacSha256 (key message : List UInt8) : List UInt8 :=
  let inner := digest false ((keyBlock key).map (· ^^^ 0x36) ++ message)
  digest false ((keyBlock key).map (· ^^^ 0x5C) ++ inner)

theorem length_digest (message : List UInt8) : (digest false message).length = 32 := by
  simp [digest, output, List.length_flatMap, length_putUint32Be]

theorem xorKey_eq {n : Nat} {key : List UInt8} (fits : key.length ≤ n) (pad : UInt8) :
    xorKey (.replicate n pad) key = (key ++ .replicate (n - key.length) 0).map (· ^^^ pad) := by
  induction key generalizing n with
  | nil => simp [xorKey]
  | cons byte key ih =>
    cases n with
    | zero => cases fits
    | succ n =>
      have rest := ih (Nat.le_of_succ_le_succ fits)
      rw [xorKey] at rest
      rw [xorKey, List.replicate_succ, List.zipWith_cons_cons, List.length_cons, List.drop_succ_cons, List.cons_append, rest,
        Nat.add_sub_add_right, List.cons_append, List.map_cons, UInt8.xor_comm]

theorem length_keyBlock (key : List UInt8) : (keyBlock key).length = 64 := by
  rw [keyBlock]
  split
  · simp [length_digest]
  · simp
    omega

/-! ### Uses of one context -/

/-- The context under a key: both pads are made, and the hash context may be started again. -/
structure MdContext.Keyed (ctx : MdContext) (key : List UInt8) : Prop where
  ipad : ctx.ipad = (keyBlock key).map (· ^^^ 0x36)
  opad : ctx.opad = (keyBlock key).map (· ^^^ 0x5C)
  sized : ctx.md.buffer.length = 64

/-- The context has taken in the message behind the inner pad. -/
def MdContext.Holds (ctx : MdContext) (key message : List UInt8) : Prop :=
  ctx.Keyed key ∧ ctx.md.Absorbed false ((keyBlock key).map (· ^^^ 0x36) ++ message)

section Steps

variable {ctx : MdContext} {key message : List UInt8}

theorem MdContext.Keyed.reset (keyed : ctx.Keyed key) : (mdHmacReset ctx).Holds key [] := by
  have small : ctx.ipad.length < 2 ^ 32 := by
    rw [keyed.ipad, List.length_map, length_keyBlock]
    decide
  have absorbed := (absorbed_starts keyed.sized false).update small
  rw [keyed.ipad, List.nil_append] at absorbed
  refine ⟨⟨keyed.ipad, keyed.opad, ?_⟩, ?_⟩
  · rw [mdHmacReset, keyed.ipad]
    exact absorbed.sized
  · rw [mdHmacReset, keyed.ipad, List.append_nil]
    exact absorbed

theorem mdHmacPads_holds {md : Sha256.Context} (sized : md.buffer.length = 64) {used : List UInt8} (fits : used.length ≤ 64)
    (block : keyBlock key = used ++ .replicate (64 - used.length) 0) : (mdHmacPads md used).Holds key [] := by
  have ipad : xorKey (.replicate 64 0x36) used = (keyBlock key).map (· ^^^ 0x36) := by rw [xorKey_eq fits, block]
  have opad : xorKey (.replicate 64 0x5C) used = (keyBlock key).map (· ^^^ 0x5C) := by rw [xorKey_eq fits, block]
  have small : (xorKey (.replicate 64 0x36) used).length < 2 ^ 32 := by
    rw [ipad, List.length_map, length_keyBlock]
    decide
  have absorbed := (absorbed_starts sized false).update small
  refine ⟨⟨ipad, opad, absorbed.sized⟩, ?_⟩
  rw [List.append_nil, ← ipad]
  exact absorbed

theorem mdHmacStarts_holds (sized : ctx.md.buffer.length = 64) (small : key.length < 2 ^ 32) :
    (mdHmacStarts ctx key).Holds key [] := by
  rw [mdHmacStarts]
  split
  · rename_i long
    obtain ⟨hashed, sized'⟩ := ((absorbed_starts sized false).update small).finish
    rw [List.nil_append] at hashed
    refine mdHmacPads_holds sized' ?_ ?_
    · rw [hashed, length_digest]
      decide
    · rw [hashed, keyBlock, if_pos long]
  · rename_i fits
    refine mdHmacPads_holds sized (Nat.le_of_not_gt fits) ?_
    rw [keyBlock, if_neg fits]

theorem MdContext.Holds.update (holds : ctx.Holds key message) {input : List UInt8} (small : input.length < 2 ^ 32) :
    (mdHmacUpdate ctx input).Holds key (message ++ input) := by
  obtain ⟨keyed, absorbed⟩ := holds
  have next := absorbed.update small
  rw [List.append_assoc] at next
  exact ⟨⟨keyed.ipad, keyed.opad, next.sized⟩, next⟩

theorem MdContext.Holds.finish (holds : ctx.Holds key message) :
    (mdHmacFinish ctx).2 = hmacSha256 key message ∧ (mdHmacFinish ctx).1.Keyed key := by
  obtain ⟨keyed, absorbed⟩ := holds
  obtain ⟨inner, sized⟩ := absorbed.finish
  have short : (Sha256.finish ctx.md).2.length < 2 ^ 32 := by
    rw [inner, length_digest]
    decide
  have pad : ctx.opad.length < 2 ^ 32 := by
    rw [keyed.opad, List.length_map, length_keyBlock]
    decide
  obtain ⟨outer, sized'⟩ := (((absorbed_starts sized false).update pad).update short).finish
  rw [List.nil_append, inner, keyed.opad] at outer
  refine ⟨?_, keyed.ipad, keyed.opad, sized'⟩
  rw [mdHmacFinish, inner, keyed.opad]
  exact outer

end Steps

/-- What the caller is at: the key, and the message so far unless its tag is out. -/
structure Tagging where
  key : List UInt8
  message : Option (List UInt8)

def MdContext.Follows (ctx : MdContext) (t : Option Tagging) : Prop :=
  ctx.md.buffer.length = 64 ∧
    ∀ tagging ∈ t, ctx.Keyed tagging.key ∧ ∀ message ∈ tagging.message, ctx.Holds tagging.key message

theorem mdHmac_eq {key input : List UInt8} (short : key.length < 2 ^ 32) (short' : input.length < 2 ^ 32) :
    mdHmac key input = hmacSha256 key input := by
  have started : (mdHmacStarts mdSetup key).Holds key [] := mdHmacStarts_holds rfl short
  exact (started.update short').finish.1

theorem toList_ofFn_getD {n : Nat} {bytes : List UInt8} (length : bytes.length = n) :
    (Vector.ofFn fun i : Fin n => bytes.getD i 0).toList = bytes := by
  subst length
  apply List.ext_getElem
  · simp
  · intro i before _
    simp

theorem toList_iotHmacSha256 {key data : List UInt8} (short : key.length < 2 ^ 32) (short' : data.length < 2 ^ 32) :
    (iotHmacSha256 key data).toList = hmacSha256 key data := by
  have tag := mdHmac_eq short short'
  have length : (mdHmac key data).length = 32 := by rw [tag, hmacSha256, length_digest]
  rw [iotHmacSha256, toList_ofFn_getD length, tag]

/-- The compressions behind a tag: those of the inner digest and those of the outer. -/
def hmacCompressions (key message : List UInt8) : List (State × List UInt8) :=
  let inner := (keyBlock key).map (· ^^^ 0x36) ++ message
  compressions inner ++ compressions ((keyBlock key).map (· ^^^ 0x5C) ++ digest false inner)

/-- Under one key two messages with one tag are the same, or blocks of the block function collide on the way. -/
theorem iotHmacSha256_binds {key message message' : List UInt8} (short : key.length < 2 ^ 32) (short' : message.length < 2 ^ 32)
    (short'' : message'.length < 2 ^ 32) (same : iotHmacSha256 key message = iotHmacSha256 key message') :
    message = message' ∨ BlockStream.Collide process (hmacCompressions key message) (hmacCompressions key message') := by
  have tags := congrArg Vector.toList same
  rw [toList_iotHmacSha256 short short', toList_iotHmacSha256 short short''] at tags
  have blocked : ∀ (pad : UInt8) (rest : List UInt8), rest.length < 2 ^ 32 →
      ((keyBlock key).map (· ^^^ pad) ++ rest).length < 2 ^ 61 := by
    intro pad rest small
    rw [List.length_append, List.length_map, length_keyBlock]
    omega
  have inner : ∀ message : List UInt8, (digest false message).length < 2 ^ 32 := by
    intro message
    rw [length_digest]
    decide
  rcases sha256_binds _ _ (blocked _ _ (inner _)) (blocked _ _ (inner _)) tags with outer | collide
  · rcases sha256_binds _ _ (blocked _ _ short') (blocked _ _ short'') (List.append_cancel_left outer) with equal | collide
    · exact Or.inl (List.append_cancel_left equal)
    · exact Or.inr (collide.mono (List.subset_append_left ..) (List.subset_append_left ..))
  · exact Or.inr (collide.mono (List.subset_append_right ..) (List.subset_append_right ..))

end IotPlatform
