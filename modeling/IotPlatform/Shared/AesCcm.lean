import Mathlib.Init

/-!
# AES-128-CCM

The historian and the transport encryption take the cipher from mbedTLS, each with a tag length of its own; it is a
parameter of both.
-/

namespace IotPlatform

/-- `mbedtls_ccm_encrypt_and_tag` and `mbedtls_ccm_auth_decrypt` with a key set; `none` is a non-zero return code. -/
structure Ccm where
  encryptAndTag : (key : Vector UInt8 16) → (nonce plaintext : List UInt8) → Option (List UInt8 × List UInt8)
  authDecrypt : (key : Vector UInt8 16) → (nonce ciphertext tag : List UInt8) → Option (List UInt8)

structure CcmEncryption where
  key : Vector UInt8 16
  nonce : List UInt8
  plaintext : List UInt8
  deriving DecidableEq

def Ccm.KeepsLength (ccm : Ccm) : Prop :=
  ∀ key nonce plaintext ciphertext tag, ccm.encryptAndTag key nonce plaintext = some (ciphertext, tag) →
    ciphertext.length = plaintext.length

/-- The ideal cipher: decryption under a key and nonce succeeds exactly on what has been encrypted under that key and
nonce, and returns that plaintext. -/
def Ccm.Ideal (ccm : Ccm) (encrypted : List CcmEncryption) : Prop :=
  ∀ key nonce plaintext ciphertext tag, ccm.authDecrypt key nonce ciphertext tag = some plaintext ↔
    ⟨key, nonce, plaintext⟩ ∈ encrypted ∧ ccm.encryptAndTag key nonce plaintext = some (ciphertext, tag)

/-! ### A cipher on known inputs -/

structure CcmEntry where
  encryption : CcmEncryption
  ciphertext : List UInt8
  tag : List UInt8
  deriving DecidableEq

def CcmEntry.seals (e : CcmEntry) (key : Vector UInt8 16) (nonce plaintext : List UInt8) : Bool :=
  e.encryption == ⟨key, nonce, plaintext⟩

def CcmEntry.opens (e : CcmEntry) (key : Vector UInt8 16) (nonce ciphertext tag : List UInt8) : Bool :=
  e == ⟨⟨key, nonce, e.encryption.plaintext⟩, ciphertext, tag⟩

def tableCcm (entries : List CcmEntry) : Ccm where
  encryptAndTag key nonce plaintext := (entries.find? (·.seals key nonce plaintext)).map fun e => (e.ciphertext, e.tag)
  authDecrypt key nonce ciphertext tag := (entries.find? (·.opens key nonce ciphertext tag)).map (·.encryption.plaintext)

/-- No input and no output stands in the table twice. -/
def Unambiguous (entries : List CcmEntry) : Prop :=
  ∀ e ∈ entries, ∀ e' ∈ entries, e.encryption = e'.encryption ∨
    (e.encryption.key, e.encryption.nonce, e.ciphertext, e.tag) =
      (e'.encryption.key, e'.encryption.nonce, e'.ciphertext, e'.tag) → e = e'

instance (entries : List CcmEntry) : Decidable (Unambiguous entries) :=
  inferInstanceAs (Decidable (∀ e ∈ entries, ∀ e' ∈ entries, _ ∨ _ → e = e'))

section Table

variable {entries : List CcmEntry}

theorem tableCcm_encryptAndTag (unambiguous : Unambiguous entries) {key : Vector UInt8 16}
    {nonce plaintext ciphertext tag : List UInt8} :
    (tableCcm entries).encryptAndTag key nonce plaintext = some (ciphertext, tag) ↔
      ⟨⟨key, nonce, plaintext⟩, ciphertext, tag⟩ ∈ entries := by
  cases found : entries.find? (·.seals key nonce plaintext) with
  | none =>
    simp only [tableCcm, found, Option.map_none, reduceCtorEq, false_iff]
    intro member
    exact List.find?_eq_none.mp found _ member (beq_self_eq_true _)
  | some e =>
    have sealing := List.find?_some found
    have input : e.encryption = ⟨key, nonce, plaintext⟩ := eq_of_beq sealing
    simp only [tableCcm, found, Option.map_some, Option.some.injEq]
    constructor
    · rintro ⟨rfl, rfl⟩
      exact input ▸ List.mem_of_find?_eq_some found
    · intro member
      rw [unambiguous e (List.mem_of_find?_eq_some found) _ member (.inl input)]

theorem tableCcm_authDecrypt (unambiguous : Unambiguous entries) {key : Vector UInt8 16}
    {nonce plaintext ciphertext tag : List UInt8} :
    (tableCcm entries).authDecrypt key nonce ciphertext tag = some plaintext ↔
      ⟨⟨key, nonce, plaintext⟩, ciphertext, tag⟩ ∈ entries := by
  cases found : entries.find? (·.opens key nonce ciphertext tag) with
  | none =>
    simp only [tableCcm, found, Option.map_none, reduceCtorEq, false_iff]
    intro member
    exact List.find?_eq_none.mp found _ member (beq_self_eq_true _)
  | some e =>
    have opening := List.find?_some found
    have output : e = ⟨⟨key, nonce, e.encryption.plaintext⟩, ciphertext, tag⟩ := eq_of_beq opening
    simp only [tableCcm, found, Option.map_some, Option.some.injEq]
    constructor
    · rintro rfl
      exact output ▸ List.mem_of_find?_eq_some found
    · intro member
      rw [unambiguous e (List.mem_of_find?_eq_some found) _ member (.inr (by rw [output]))]

theorem tableCcm_ideal (unambiguous : Unambiguous entries) {encrypted : List CcmEncryption}
    (all : entries.map CcmEntry.encryption ⊆ encrypted) : (tableCcm entries).Ideal encrypted := by
  intro key nonce plaintext ciphertext tag
  rw [tableCcm_authDecrypt unambiguous, tableCcm_encryptAndTag unambiguous]
  exact ⟨fun member => ⟨all (List.mem_map_of_mem member), member⟩, And.right⟩

theorem tableCcm_keepsLength (unambiguous : Unambiguous entries)
    (same : ∀ e ∈ entries, e.ciphertext.length = e.encryption.plaintext.length) : (tableCcm entries).KeepsLength := by
  intro key nonce plaintext ciphertext tag encrypted
  exact same _ ((tableCcm_encryptAndTag unambiguous).mp encrypted)

end Table

end IotPlatform
