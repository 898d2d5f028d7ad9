import IotPlatform.Lib.Bytes
import IotPlatform.Shared.AesCcm

/-!
# The CCM mode

`ccm.c` of mbedTLS, over any cipher of 16-byte blocks. One pass authenticates the message and encrypts or decrypts it.
-/

namespace IotPlatform.CcmMode
open Bytes

abbrev Block := Vector UInt8 16

/-- The block cipher under the key that was set. -/
abbrev Cipher := Block → Block

inductive Mode where
  | encrypt | decrypt
  deriving DecidableEq

def Mode.other : Mode → Mode
  | .encrypt => .decrypt
  | .decrypt => .encrypt

/-- Which of the two is authenticated: the source or the destination. -/
def Mode.plaintext (mode : Mode) (src dst : List UInt8) : List UInt8 :=
  match mode with
  | .encrypt => src
  | .decrypt => dst

/-- At most 16 bytes, copied to the front of a cleared block. -/
def padded (bytes : List UInt8) : Block := Vector.ofFn fun i => bytes.getD i 0

/-- `UPDATE_CBC_MAC` -/
def updateCbcMac (cipher : Cipher) (y b : Block) : Block := cipher (Vector.zipWith (· ^^^ ·) y b)

/-- The counter block: its flags and nonce, and its counter from the last byte of the block backwards. -/
structure Ctr where
  front : List UInt8
  counter : List UInt8

def Ctr.block (ctr : Ctr) : Block := padded (ctr.front ++ ctr.counter.reverse)

/-- `++ctr[15-i]` until a byte does not wrap. -/
def incrementCounter : List UInt8 → List UInt8
  | [] => []
  | byte :: rest => if byte + 1 ≠ 0 then (byte + 1) :: rest else (byte + 1) :: incrementCounter rest

/-- `CTR_CRYPT` -/
def ctrCrypt (cipher : Cipher) (ctr : Ctr) (src : List UInt8) : List UInt8 :=
  List.zipWith (· ^^^ ·) src (cipher ctr.block).toList

/-- `UPDATE_CBC_MAC` over data in pieces of 16 bytes, with at most `rounds` left. -/
def macData (cipher : Cipher) : (rounds : Nat) → Block → List UInt8 → Block
  | 0, y, _ => y
  | rounds + 1, y, src =>
    if src = [] then y else macData cipher rounds (updateCbcMac cipher y (padded (src.take 16))) (src.drop 16)

/-- The loop over the message, with at most `rounds` left. -/
def cryptLoop (cipher : Cipher) (mode : Mode) : (rounds : Nat) → Block → Ctr → List UInt8 → Block × List UInt8
  | 0, y, _, _ => (y, [])
  | rounds + 1, y, ctr, src =>
    if src = [] then (y, [])
    else
      let dst := ctrCrypt cipher ctr (src.take 16)
      let y := updateCbcMac cipher y (padded (mode.plaintext (src.take 16) dst))
      let rest := cryptLoop cipher mode rounds y { ctr with counter := incrementCounter ctr.counter } (src.drop 16)
      (rest.1, dst ++ rest.2)

/-- The first byte of the first block. `size_t` has 32 bits. -/
def flags (addLen tagLen q : Nat) : UInt8 :=
  let present : UInt8 := if addLen > 0 then (1 : UInt8) <<< 6 else 0
  let tag := (UInt32.ofNat tagLen - 2) / 2
  present ||| (tag <<< 3).toUInt8 ||| (UInt8.ofNat q - 1)

def firstBlock (length : Nat) (iv : List UInt8) (addLen tagLen : Nat) : Block :=
  let q := 15 - iv.length
  padded (flags addLen tagLen q :: iv ++ (leBytes q length).reverse)

/-- The CBC-MAC up to the message: the first block, and the additional data behind its length. -/
def macStart (cipher : Cipher) (length : Nat) (iv add : List UInt8) (tagLen : Nat) : Block :=
  let y := updateCbcMac cipher (.replicate 16 0) (firstBlock length iv add.length tagLen)
  if add.length > 0 then
    let y := updateCbcMac cipher y (padded ((leBytes 2 add.length).reverse ++ add.take 14))
    macData cipher add.length y (add.drop 14)
  else y

def firstCounter (iv : List UInt8) : Ctr :=
  let q := 15 - iv.length
  { front := (UInt8.ofNat q - 1) :: iv, counter := 1 :: .replicate (q - 1) 0 }

/-- The tag: the CBC-MAC under the counter zero. -/
def maskTag (cipher : Cipher) (iv : List UInt8) (y : Block) (tagLen : Nat) : List UInt8 :=
  let q := 15 - iv.length
  (ctrCrypt cipher { firstCounter iv with counter := .replicate q 0 } y.toList).take tagLen

/-- `ccm_auth_crypt`: the output and the tag, unless a length is out of bounds. -/
def ccmAuthCrypt (cipher : Cipher) (mode : Mode) (iv add input : List UInt8) (tagLen : Nat) :
    Option (List UInt8 × List UInt8) :=
  if tagLen = 2 ∨ tagLen > 16 ∨ tagLen % 2 ≠ 0 then none
  else if iv.length < 7 ∨ iv.length > 13 then none
  else if add.length ≥ 0xFF00 then none
  else if input.length / 256 ^ (15 - iv.length) > 0 then none
  else
    let y := macStart cipher input.length iv add tagLen
    let crypted := cryptLoop cipher mode input.length y (firstCounter iv) input
    some (crypted.2, maskTag cipher iv crypted.1 tagLen)

/-- `mbedtls_ccm_encrypt_and_tag` -/
def ccmEncryptAndTag (cipher : Cipher) (iv add input : List UInt8) (tagLen : Nat) : Option (List UInt8 × List UInt8) :=
  if tagLen = 0 then none else ccmAuthCrypt cipher .encrypt iv add input tagLen

inductive CcmError where
  | badInput | authFailed
  deriving DecidableEq, Repr

/-- `mbedtls_ccm_auth_decrypt`, with what the output buffer held before: the return code, and what it holds then. -/
def ccmAuthDecrypt (cipher : Cipher) (iv add input tag output : List UInt8) : Option CcmError × List UInt8 :=
  if tag.length = 0 then (some .badInput, output)
  else
    match ccmAuthCrypt cipher .decrypt iv add input tag.length with
    | none => (some .badInput, output)
    | some (output, checkTag) =>
      if differenceByte tag checkTag ≠ 0 then (some .authFailed, .replicate input.length 0) else (none, output)

/-! ### One pass undoes the other -/

theorem xor_toList_cancel {bytes stream : List UInt8} (enough : bytes.length ≤ stream.length) :
    List.zipWith (· ^^^ ·) (List.zipWith (· ^^^ ·) bytes stream) stream = bytes := by
  induction bytes generalizing stream with
  | nil => rfl
  | cons byte bytes ih =>
    cases stream with
    | nil => cases enough
    | cons key stream =>
      have rest := ih (Nat.le_of_succ_le_succ enough)
      rw [List.zipWith_cons_cons, List.zipWith_cons_cons, rest, UInt8.xor_assoc, UInt8.xor_self, UInt8.xor_zero]

section Pass

variable {cipher : Cipher} {ctr : Ctr} {src : List UInt8}

theorem length_ctrCrypt (short : src.length ≤ 16) : (ctrCrypt cipher ctr src).length = src.length := by
  rw [ctrCrypt, List.length_zipWith, Vector.length_toList, Nat.min_eq_left short]

theorem ctrCrypt_ctrCrypt (short : src.length ≤ 16) : ctrCrypt cipher ctr (ctrCrypt cipher ctr src) = src := by
  refine xor_toList_cancel ?_
  rw [Vector.length_toList]
  exact short

theorem length_cryptLoop {rounds : Nat} (enough : src.length ≤ rounds) (mode : Mode) (y : Block) :
    (cryptLoop cipher mode rounds y ctr src).2.length = src.length := by
  induction rounds generalizing y ctr src with
  | zero =>
    rw [List.eq_nil_of_length_eq_zero (Nat.le_zero.mp enough)]
    rfl
  | succ rounds ih =>
    rw [cryptLoop]
    split
    · rename_i none
      rw [none]
    · have fewer : (src.drop 16).length ≤ rounds := by
        rw [List.length_drop]
        omega
      dsimp only
      rw [List.length_append, length_ctrCrypt (List.length_take_le ..), ih fewer, ← List.length_append,
        List.take_append_drop]

theorem Mode.plaintext_other (mode : Mode) (src dst : List UInt8) : mode.other.plaintext dst src = mode.plaintext src dst := by
  cases mode <;> rfl

/-- A piece and what is behind it, each as long as in the source. -/
theorem split_pieces {dst rest : List UInt8} (piece : dst.length = (src.take 16).length)
    (behind : rest.length = (src.drop 16).length) : (dst ++ rest).take 16 = dst ∧ (dst ++ rest).drop 16 = rest := by
  rw [List.length_take] at piece
  rw [List.length_drop] at behind
  by_cases full : 16 ≤ src.length
  · have sixteen : dst.length = 16 := by omega
    exact ⟨List.take_left' sixteen, List.drop_left' sixteen⟩
  · have empty : rest = [] := List.eq_nil_of_length_eq_zero (by omega)
    rw [empty, List.append_nil]
    exact ⟨List.take_of_length_le (by omega), List.drop_of_length_le (by omega)⟩

/-- Each pass authenticates the plaintext, so that both come to one tag. -/
theorem cryptLoop_other {rounds : Nat} (enough : src.length ≤ rounds) (mode : Mode) (y : Block) :
    cryptLoop cipher mode.other rounds y ctr (cryptLoop cipher mode rounds y ctr src).2 =
      ((cryptLoop cipher mode rounds y ctr src).1, src) := by
  induction rounds generalizing y ctr src with
  | zero =>
    rw [List.eq_nil_of_length_eq_zero (Nat.le_zero.mp enough)]
    rfl
  | succ rounds ih =>
    by_cases none : src = []
    · subst none
      simp [cryptLoop]
    · have fewer : (src.drop 16).length ≤ rounds := by
        rw [List.length_drop]
        omega
      have short : (src.take 16).length ≤ 16 := List.length_take_le ..
      have piece : (ctrCrypt cipher ctr (src.take 16)).length = (src.take 16).length := length_ctrCrypt short
      have some : ∀ rest, ctrCrypt cipher ctr (src.take 16) ++ rest ≠ [] := by
        intro rest empty
        have := List.length_pos_iff.mpr none
        have := congrArg List.length (List.append_eq_nil_iff.mp empty).1
        rw [piece, List.length_take, List.length_nil] at this
        omega
      simp only [cryptLoop, none, some, if_false]
      obtain ⟨first, behind⟩ := split_pieces piece (length_cryptLoop fewer mode _)
      rw [first, behind, ctrCrypt_ctrCrypt short, Mode.plaintext_other, ih fewer, List.take_append_drop]

end Pass

/-- The lengths that the mode is defined for. -/
structure LengthsAllowed (ivLen addLen length tagLen : Nat) : Prop where
  tag : tagLen ≠ 2 ∧ tagLen ≤ 16 ∧ tagLen % 2 = 0
  nonce : 7 ≤ ivLen ∧ ivLen ≤ 13
  additional : addLen < 0xFF00
  message : length < 256 ^ (15 - ivLen)

section Crypt

variable {cipher : Cipher} {mode : Mode} {iv add input output tag : List UInt8} {tagLen : Nat}

theorem ccmAuthCrypt_eq_some_iff :
    ccmAuthCrypt cipher mode iv add input tagLen = some (output, tag) ↔
      LengthsAllowed iv.length add.length input.length tagLen ∧
        ∃ y, cryptLoop cipher mode input.length (macStart cipher input.length iv add tagLen) (firstCounter iv) input =
          (y, output) ∧ maskTag cipher iv y tagLen = tag := by
  have fits : input.length / 256 ^ (15 - iv.length) > 0 ↔ ¬input.length < 256 ^ (15 - iv.length) := by
    rw [gt_iff_lt, Nat.div_pos_iff, Nat.not_lt, and_iff_right (Nat.pow_pos (by decide))]
  simp only [ccmAuthCrypt, fits]
  constructor
  · intro crypted
    split at crypted
    · cases crypted
    rename_i tag
    split at crypted
    · cases crypted
    rename_i nonce
    split at crypted
    · cases crypted
    rename_i additional
    split at crypted
    · cases crypted
    rename_i message
    obtain ⟨rfl, rfl⟩ := Prod.mk.inj (Option.some.inj crypted)
    exact ⟨⟨by omega, by omega, by omega, Decidable.not_not.mp message⟩, _, rfl, rfl⟩
  · rintro ⟨⟨tag, nonce, additional, message⟩, y, passed, rfl⟩
    rw [if_neg (by omega), if_neg (by omega), if_neg (by omega), if_neg (Decidable.not_not.mpr message), passed]

theorem length_ccmAuthCrypt (crypted : ccmAuthCrypt cipher mode iv add input tagLen = some (output, tag)) :
    output.length = input.length ∧ tag.length = tagLen := by
  obtain ⟨allowed, y, passed, rfl⟩ := ccmAuthCrypt_eq_some_iff.mp crypted
  constructor
  · have length : (cryptLoop cipher mode input.length (macStart cipher input.length iv add tagLen) (firstCounter iv)
        input).2.length = input.length := length_cryptLoop (Nat.le_refl _) mode _
    rw [passed] at length
    exact length
  · have block : y.toList.length ≤ 16 := Nat.le_of_eq (Vector.length_toList ..)
    rw [maskTag, List.length_take, length_ctrCrypt block, Vector.length_toList, Nat.min_eq_left allowed.tag.2.1]

theorem ccmAuthCrypt_other (crypted : ccmAuthCrypt cipher mode iv add input tagLen = some (output, tag)) :
    ccmAuthCrypt cipher mode.other iv add output tagLen = some (input, tag) := by
  have length := (length_ccmAuthCrypt crypted).1
  obtain ⟨allowed, y, passed, masked⟩ := ccmAuthCrypt_eq_some_iff.mp crypted
  have back : cryptLoop cipher mode.other input.length (macStart cipher input.length iv add tagLen) (firstCounter iv)
      (cryptLoop cipher mode input.length (macStart cipher input.length iv add tagLen) (firstCounter iv) input).2 = _ :=
    cryptLoop_other (Nat.le_refl _) mode _
  rw [passed] at back
  refine ccmAuthCrypt_eq_some_iff.mpr ⟨length.symm ▸ allowed, y, ?_, masked⟩
  rw [length]
  exact back

theorem ccmAuthDecrypt_cases (cipher : Cipher) (iv add input tag before : List UInt8) :
    (∃ output, ccmAuthDecrypt cipher iv add input tag before = (none, output) ∧
        ccmEncryptAndTag cipher iv add output tag.length = some (input, tag)) ∨
      ∃ error buffer, ccmAuthDecrypt cipher iv add input tag before = (some error, buffer) ∧
        (buffer = before ∨ buffer = List.replicate input.length 0) ∧
        ∀ output, ccmEncryptAndTag cipher iv add output tag.length ≠ some (input, tag) := by
  rw [ccmAuthDecrypt]
  by_cases empty : tag.length = 0
  · exact .inr ⟨.badInput, before, if_pos empty, .inl rfl, by simp [ccmEncryptAndTag, empty]⟩
  simp only [ccmEncryptAndTag, if_neg empty]
  have sealed : ∀ output, ccmAuthCrypt cipher .encrypt iv add output tag.length = some (input, tag) →
      ccmAuthCrypt cipher .decrypt iv add input tag.length = some (output, tag) :=
    fun output crypted => ccmAuthCrypt_other crypted
  cases crypted : ccmAuthCrypt cipher .decrypt iv add input tag.length with
  | none =>
    refine .inr ⟨.badInput, before, rfl, .inl rfl, fun output back => ?_⟩
    rw [sealed output back] at crypted
    cases crypted
  | some result =>
    obtain ⟨opened, checkTag⟩ := result
    have same : differenceByte tag checkTag = 0 ↔ tag = checkTag :=
      differenceByte_eq_zero (length_ccmAuthCrypt crypted).2.symm
    dsimp only
    by_cases authentic : tag = checkTag
    · subst authentic
      rw [if_neg (Decidable.not_not.mpr (same.mpr rfl))]
      exact .inl ⟨opened, rfl, ccmAuthCrypt_other crypted⟩
    · rw [if_pos fun equal => authentic (same.mp equal)]
      refine .inr ⟨.authFailed, _, rfl, .inr rfl, fun output back => authentic ?_⟩
      rw [sealed output back] at crypted
      exact (Prod.mk.inj (Option.some.inj crypted)).2

theorem ccmEncryptAndTag_inj {cipher : Cipher} {iv add output output' result : List UInt8} {tag : List UInt8} {tagLen : Nat}
    (first : ccmEncryptAndTag cipher iv add output tagLen = some (result, tag))
    (second : ccmEncryptAndTag cipher iv add output' tagLen = some (result, tag)) : output = output' := by
  unfold ccmEncryptAndTag at first second
  split at first
  · cases first
  · rename_i some_tag
    rw [if_neg some_tag] at second
    have opened := (ccmAuthCrypt_other first).symm.trans (ccmAuthCrypt_other second)
    exact (Prod.mk.inj (Option.some.inj opened)).1

/-- Exactly what encryption under the same nonce and additional data gives is accepted. Otherwise the output buffer is as it
was, or cleared. -/
theorem ccm_opens_what_it_seals (cipher : Cipher) (iv add input tag before output : List UInt8) :
    (ccmAuthDecrypt cipher iv add input tag before = (none, output) ↔
        ccmEncryptAndTag cipher iv add output tag.length = some (input, tag)) ∧
      ((ccmAuthDecrypt cipher iv add input tag before).1 ≠ none →
        (ccmAuthDecrypt cipher iv add input tag before).2 = before ∨
          (ccmAuthDecrypt cipher iv add input tag before).2 = List.replicate input.length 0) := by
  obtain ⟨opened, result, sealed⟩ | ⟨error, buffer, result, cleared, never⟩ :=
    ccmAuthDecrypt_cases cipher iv add input tag before
  · rw [result]
    refine ⟨⟨?_, fun again => ?_⟩, fun impossible => absurd rfl impossible⟩
    · rintro ⟨⟩
      exact sealed
    · rw [ccmEncryptAndTag_inj again sealed]
  · rw [result]
    exact ⟨⟨fun impossible => (nomatch impossible), fun impossible => absurd impossible (never output)⟩, fun _ => cleared⟩

end Crypt

/-! ### As the historian and the transport use it -/

/-- The two calls under a key, without additional data and with tags of one length. -/
def blockCcm (aes : Vector UInt8 16 → Cipher) (tagLen : Nat) : Ccm where
  encryptAndTag key nonce plaintext := ccmEncryptAndTag (aes key) nonce [] plaintext tagLen
  authDecrypt key nonce ciphertext tag :=
    if tag.length = tagLen then
      match ccmAuthDecrypt (aes key) nonce [] ciphertext tag [] with
      | (none, output) => some output
      | (some _, _) => none
    else none

end IotPlatform.CcmMode
