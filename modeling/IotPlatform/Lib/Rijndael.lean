import Mathlib.Data.Fin.VecNotation
import IotPlatform.Lib.Gf256
import IotPlatform.Lib.RoundCipher

/-!
# The AES cipher

As the standard has it: four columns of four bytes, with a key schedule for keys of four, six or eight words.
-/

namespace IotPlatform.Rijndael
open Gf256 RoundCipher

abbrev Column := Fin 4 → UInt8

/-- Columns first: byte `r` of column `c`. -/
abbrev State := Fin 4 → Column

def rotl (a n : UInt8) : UInt8 := a <<< n ||| a >>> (8 - n)

def affine (a : UInt8) : UInt8 := a ^^^ rotl a 1 ^^^ rotl a 2 ^^^ rotl a 3 ^^^ rotl a 4 ^^^ 0x63

def invAffine (a : UInt8) : UInt8 := rotl a 1 ^^^ rotl a 3 ^^^ rotl a 6 ^^^ 0x05

def sBox (a : UInt8) : UInt8 := affine (inverse a)

def invSBox (a : UInt8) : UInt8 := inverse (invAffine a)

def addColumn (a b : Column) : Column := fun r => a r ^^^ b r

/-- The product with the polynomial that has these coefficients. -/
def mixColumn (m a : Column) : Column := fun r =>
  mul (m 0) (a r) ^^^ mul (m 1) (a (r + 1)) ^^^ mul (m 2) (a (r + 2)) ^^^ mul (m 3) (a (r + 3))

def subBytes (s : State) : State := fun c r => sBox (s c r)

def shiftRows (s : State) : State := fun c r => s (c + r) r

def mixColumns (s : State) : State := fun c => mixColumn ![2, 3, 1, 1] (s c)

def addRoundKey (s k : State) : State := fun c => addColumn (s c) (k c)

def invSubBytes (s : State) : State := fun c r => invSBox (s c r)

def invShiftRows (s : State) : State := fun c r => s (c - r) r

def invMixColumns (s : State) : State := fun c => mixColumn ![0xE, 0xB, 0xD, 0x9] (s c)

def layers : Layers State := { substitute := subBytes, permute := shiftRows, mix := mixColumns, add := addRoundKey }

def invLayers : Layers State :=
  { substitute := invSubBytes, permute := invShiftRows, mix := invMixColumns, add := addRoundKey }

/-! ### The key schedule -/

def rotWord (a : Column) : Column := fun r => a (r + 1)

def subWord (a : Column) : Column := fun r => sBox (a r)

def rcon (i : Nat) : Column := ![xtime^[i - 1] 1, 0, 0, 0]

/-- Word `i` for a key of `nk` words. -/
def keyWord (nk : Nat) (key : Nat → Column) (i : Nat) : Column :=
  if i < nk ∨ nk = 0 then key i
  else
    let temp := keyWord nk key (i - 1)
    let temp :=
      if i % nk = 0 then addColumn (subWord (rotWord temp)) (rcon (i / nk))
      else if 6 < nk ∧ i % nk = 4 then subWord temp
      else temp
    addColumn (keyWord nk key (i - nk)) temp
termination_by i

def roundKey (nk : Nat) (key : Nat → Column) (i : Nat) : State := fun c => keyWord nk key (4 * i + c)

/-- The keys between the first and the last. -/
def middleKeys (nk : Nat) (key : Nat → Column) : List State :=
  (List.range (nk + 5)).map fun i => roundKey nk key (i + 1)

def cipher (nk : Nat) (key : Nat → Column) (block : State) : State :=
  layers.cipher (roundKey nk key 0) (middleKeys nk key) (roundKey nk key (nk + 6)) block

def invCipher (nk : Nat) (key : Nat → Column) (block : State) : State :=
  invLayers.cipher (roundKey nk key (nk + 6)) ((middleKeys nk key).reverse.map invMixColumns) (roundKey nk key 0) block

/-! ### The layers have inverses -/

theorem invAffine_affine (a : UInt8) : invAffine (affine a) = a :=
  forall_byte (p := fun a => invAffine (affine a) = a) (by decide +kernel) a

theorem affine_invAffine (a : UInt8) : affine (invAffine a) = a :=
  forall_byte (p := fun a => affine (invAffine a) = a) (by decide +kernel) a

theorem invSBox_sBox (a : UInt8) : invSBox (sBox a) = a := by
  rw [invSBox, sBox, invAffine_affine, inverse_inverse]

theorem sBox_invSBox (a : UInt8) : sBox (invSBox a) = a := by
  rw [invSBox, sBox, inverse_inverse, affine_invAffine]

theorem mixColumn_add (m a b : Column) : mixColumn m (addColumn a b) = addColumn (mixColumn m a) (mixColumn m b) := by
  funext r
  simp only [mixColumn, addColumn, mul_xor]
  ac_rfl

/-- The product of the two polynomials is 1. -/
theorem mixColumn_inverse (a : Column) : mixColumn ![0xE, 0xB, 0xD, 0x9] (mixColumn ![2, 3, 1, 1] a) = a := by
  have turns : ∀ r : Fin 4, r + 1 + 1 = r + 2 ∧ r + 1 + 2 = r + 3 ∧ r + 1 + 3 = r ∧ r + 2 + 1 = r + 3 ∧ r + 2 + 2 = r ∧
      r + 2 + 3 = r + 1 ∧ r + 3 + 1 = r ∧ r + 3 + 2 = r + 1 ∧ r + 3 + 3 = r + 2 := by decide
  funext r
  obtain ⟨t11, t12, t13, t21, t22, t23, t31, t32, t33⟩ := turns r
  have collected : mixColumn ![0xE, 0xB, 0xD, 0x9] (mixColumn ![2, 3, 1, 1] a) r =
      mul (mul 0xE 2 ^^^ mul 0xB 1 ^^^ mul 0xD 1 ^^^ mul 0x9 3) (a r) ^^^
        mul (mul 0xE 3 ^^^ mul 0xB 2 ^^^ mul 0xD 1 ^^^ mul 0x9 1) (a (r + 1)) ^^^
        mul (mul 0xE 1 ^^^ mul 0xB 3 ^^^ mul 0xD 2 ^^^ mul 0x9 1) (a (r + 2)) ^^^
        mul (mul 0xE 1 ^^^ mul 0xB 1 ^^^ mul 0xD 3 ^^^ mul 0x9 2) (a (r + 3)) := by
    simp only [mixColumn, mul_xor, xor_mul, Gf256.mul_assoc, t11, t12, t13, t21, t22, t23, t31, t32, t33, Matrix.cons_val]
    ac_rfl
  have coefficients : mul 0xE 2 ^^^ mul 0xB 1 ^^^ mul 0xD 1 ^^^ mul 0x9 3 = 1 ∧
      mul 0xE 3 ^^^ mul 0xB 2 ^^^ mul 0xD 1 ^^^ mul 0x9 1 = 0 ∧ mul 0xE 1 ^^^ mul 0xB 3 ^^^ mul 0xD 2 ^^^ mul 0x9 1 = 0 ∧
      mul 0xE 1 ^^^ mul 0xB 1 ^^^ mul 0xD 3 ^^^ mul 0x9 2 = 0 := by decide +kernel
  obtain ⟨c0, c1, c2, c3⟩ := coefficients
  rw [collected, c0, c1, c2, c3, Gf256.one_mul, Gf256.zero_mul, Gf256.zero_mul, Gf256.zero_mul]
  simp

theorem invSubBytes_subBytes (s : State) : invSubBytes (subBytes s) = s := by
  funext c r
  rw [invSubBytes, subBytes, invSBox_sBox]

theorem invShiftRows_shiftRows (s : State) : invShiftRows (shiftRows s) = s := by
  funext c r
  have turn : c - r + r = c := by decide +revert
  rw [invShiftRows, shiftRows, turn]

theorem invMixColumns_mixColumns (s : State) : invMixColumns (mixColumns s) = s := by
  funext c
  rw [invMixColumns, mixColumns, mixColumn_inverse]

theorem addRoundKey_addRoundKey (s k : State) : addRoundKey (addRoundKey s k) k = s := by
  funext c r
  rw [addRoundKey, addRoundKey, addColumn, addColumn, UInt8.xor_assoc, UInt8.xor_self, UInt8.xor_zero]

theorem invMixColumns_addRoundKey (s k : State) :
    invMixColumns (addRoundKey s k) = addRoundKey (invMixColumns s) (invMixColumns k) := by
  funext c
  rw [invMixColumns, addRoundKey, mixColumn_add, addRoundKey, invMixColumns, invMixColumns]

theorem invShiftRows_invSubBytes (s : State) : invShiftRows (invSubBytes s) = invSubBytes (invShiftRows s) := by
  funext c r
  rw [invShiftRows, invSubBytes, invSubBytes, invShiftRows]

theorem invLayers_undoes : invLayers.Undoes layers where
  substitute := invSubBytes_subBytes
  permute := invShiftRows_shiftRows
  mix := invMixColumns_mixColumns
  add := addRoundKey_addRoundKey
  commute := invShiftRows_invSubBytes
  linear := invMixColumns_addRoundKey

theorem invCipher_cipher (nk : Nat) (key : Nat → Column) (block : State) :
    invCipher nk key (cipher nk key block) = block :=
  invLayers_undoes.cipher _ _ _ block

end IotPlatform.Rijndael
