import IotPlatform.Crypto.AesCipher
import IotPlatform.Crypto.CcmFormat

/-!
# CCM over AES

The cipher that `mbedtls_ccm_setkey` puts under the mode. It is one-to-one, and so is its key stream.
-/

namespace IotPlatform.CcmMode
open Aes Bytes

/-- `mbedtls_ccm_setkey` for AES: the context is a new one. -/
def ccmSetkey (key : List UInt8) (keybits : Nat) : Option Cipher :=
  (setkeyEnc { nr := 0, rk := fun _ => 0 } key keybits).map aesEncrypt

theorem ccmSetkey_injective {key : List UInt8} {nk : Nat} (size : KeyWords nk) :
    ∃ cipher, ccmSetkey key (32 * nk) = some cipher ∧ Function.Injective cipher := by
  obtain ⟨enc, set, -, -⟩ := setkeyEnc_agrees { nr := 0, rk := fun _ => 0 } key size
  refine ⟨_, congrArg (Option.map _) set, ?_⟩
  intro a b same
  apply blockState_inj
  rw [← Rijndael.invCipher_cipher nk (columns key) (blockState a), ← aesEncrypt_state size set, same,
    aesEncrypt_state size set, Rijndael.invCipher_cipher]

/-- The length of the nonce stands in the first byte of a counter block. -/
theorem counterBlock_nonce {iv iv' : List UInt8} (length : 7 ≤ iv.length ∧ iv.length ≤ 13)
    (length' : 7 ≤ iv'.length ∧ iv'.length ≤ 13) {m n : Nat} (same : counterBlock iv m = counterBlock iv' n) : iv = iv' := by
  have bytes := padded_inj ((length_firstBlock length.2 _ m).trans (length_firstBlock length'.2 _ n).symm)
    (Nat.le_of_eq (length_firstBlock length.2 _ m)) same
  rw [List.cons_append, List.cons_append, List.cons.injEq] at bytes
  have widths : ∀ q < 9, ∀ q' < 9, UInt8.ofNat q - 1 = UInt8.ofNat q' - 1 → q = q' := by decide
  have width := widths (15 - iv.length) (by omega) (15 - iv'.length) (by omega) bytes.1
  exact (List.append_inj bytes.2 (by omega)).1

/-- Over any calls with nonces that are all different, the blocks of key stream that the messages and the tags are masked with
are all different. -/
theorem key_stream_never_repeats (key : List UInt8) (nk : Nat) (size : KeyWords nk) (whole : key.length = 4 * nk)
    (calls : List (List UInt8 × List UInt8))
    (allowed : ∀ call ∈ calls, (7 ≤ call.1.length ∧ call.1.length ≤ 13) ∧ call.2.length < 256 ^ (15 - call.1.length))
    (fresh : (calls.map Prod.fst).Nodup) :
    ∃ cipher, ccmSetkey key (8 * key.length) = some cipher ∧
      (calls.flatMap fun call =>
        (List.range ((pieces call.2).length + 1)).map fun n => cipher (counterBlock call.1 n)).Nodup := by
  have bits : 8 * key.length = 32 * nk := by omega
  obtain ⟨cipher, set, injective⟩ := @ccmSetkey_injective key nk size
  rw [bits]
  refine ⟨cipher, set, ?_⟩
  rw [List.nodup_flatMap]
  constructor
  · intro call member
    obtain ⟨nonce, short⟩ := allowed call member
    have few := pieces_few nonce.2 short
    refine List.nodup_range.map_on fun m within n within' same => ?_
    rw [List.mem_range] at within within'
    exact counterBlock_inj nonce.2 (by omega) (by omega) (injective same)
  · rw [List.nodup_iff_pairwise_ne, List.pairwise_map] at fresh
    refine fresh.imp_of_mem ?_
    intro call call' member member' other
    rw [Function.onFun, List.disjoint_left]
    intro block inside inside'
    obtain ⟨m, -, rfl⟩ := List.mem_map.mp inside
    obtain ⟨n, -, same⟩ := List.mem_map.mp inside'
    exact other (counterBlock_nonce (allowed call member).1 (allowed call' member').1 (injective same.symm))

theorem key_stream_never_repeats_two :
    ∃ cipher, ccmSetkey (List.replicate 16 0) 128 = some cipher ∧
      ([(List.replicate 13 0, [1, 2, 3]), (List.replicate 13 1, [])].flatMap fun call =>
        (List.range ((pieces call.2).length + 1)).map fun n => cipher (counterBlock call.1 n)).Nodup :=
  key_stream_never_repeats (List.replicate 16 0) 4 (Or.inl rfl) rfl
    [(List.replicate 13 0, [1, 2, 3]), (List.replicate 13 1, [])] (by decide) (by decide)

end IotPlatform.CcmMode
