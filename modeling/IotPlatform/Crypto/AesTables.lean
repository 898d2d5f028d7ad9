import Mathlib.Tactic.FinCases
import IotPlatform.Crypto.Aes

/-!
# The generated tables of AES

They hold the S-box, its inverse and the products of the field, which the code takes from logarithms.
-/

namespace IotPlatform.Aes
open Gf256 Rijndael

/-! ### The tables are those of the field -/

section Fill

variable {ι κ ν : Type*} [DecidableEq κ] (key : ι → κ) (value : ι → ν) {is : List ι} {t : κ → ν}

theorem fill_absent {k : κ} (absent : ∀ i ∈ is, key i ≠ k) :
    is.foldl (fun t i => Function.update t (key i) (value i)) t k = t k := by
  induction is generalizing t with
  | nil => rfl
  | cons i rest ih =>
    rw [List.forall_mem_cons] at absent
    rw [List.foldl_cons, ih absent.2, Function.update_of_ne absent.1.symm]

/-- An entry that is written with one value only holds it in the end. -/
theorem fill_written {i : ι} (member : i ∈ is) (single : ∀ j ∈ is, key j = key i → value j = value i) :
    is.foldl (fun t i => Function.update t (key i) (value i)) t (key i) = value i := by
  induction is using List.reverseRecOn with
  | nil => cases member
  | append_singleton rest j ih =>
    rw [List.foldl_append, List.foldl_cons, List.foldl_nil]
    by_cases same : key j = key i
    · rw [← same, Function.update_self]
      exact single j (by simp) same
    · rw [Function.update_of_ne (Ne.symm same)]
      rw [List.mem_append, List.mem_singleton] at member
      obtain inside | rfl := member
      · exact ih inside fun j inside => single j (List.mem_append_left _ inside)
      · exact absurd rfl same

end Fill

theorem xtime_eq (x : UInt8) : xtime x = Gf256.xtime x := by
  rw [xtime, Gf256.xtime]
  by_cases top : x &&& 0x80 = 0
  · rw [if_neg (not_not.mpr top), if_pos top]
  · rw [if_pos top, if_neg top]

theorem powLogStep_foldl (n : Nat) :
    (List.range n).foldl powLogStep { x := 1, pow := fun _ => 0, log := fun _ => 0 } =
      { x := power n, pow := (List.range n).foldl (fun t i => Function.update t i (power i)) fun _ => 0,
        log := (List.range n).foldl (fun t i => Function.update t (power i) i) fun _ => 0 } := by
  induction n with
  | zero => rfl
  | succ n ih => simp only [List.range_succ, List.foldl_append, List.foldl_cons, List.foldl_nil, ih, powLogStep, xtime_eq, power]

theorem pow_eq {n : Nat} (few : n < 256) : powLog.pow n = power n := by
  rw [powLog, powLogStep_foldl]
  dsimp only
  exact fill_written (fun i => i) power (List.mem_range.mpr few) fun j _ same => congrArg power same

/-- The logarithm of 1 is 255: the last power to hit it is written last. -/
theorem log_power {n : Nat} (low : 1 ≤ n) (high : n ≤ 255) : powLog.log (power n) = n := by
  have first : List.range 256 = 0 :: List.range' 1 255 := by
    rw [List.range_eq_range', List.range'_succ]
  rw [powLog, powLogStep_foldl, first]
  dsimp only
  rw [List.foldl_cons]
  refine fill_written power (fun i => i) (List.mem_range'_1.mpr ⟨low, by omega⟩) ?_
  intro m inside same
  rw [List.mem_range'_1] at inside
  obtain order | order := Nat.le_total m n
  · exact power_inj order (by omega) same
  · exact (power_inj order (by omega) same.symm).symm

theorem mulTable_eq (x y : UInt8) : mulTable x y = mul x y := by
  unfold mulTable
  split
  · rename_i some_bits
    obtain ⟨m, low, high, rfl⟩ := exists_power some_bits.1
    obtain ⟨n, low', high', rfl⟩ := exists_power some_bits.2
    rw [log_power low high, log_power low' high', pow_eq (by omega), power_mod, mul_power]
  · rename_i zero
    by_cases first : x = 0
    · rw [first, Gf256.zero_mul]
    · have second : y = 0 := by
        by_contra some_bit
        exact zero ⟨first, some_bit⟩
      rw [second, Gf256.mul_zero]

theorem pow_log_inverse {x : UInt8} (some_bit : x ≠ 0) : powLog.pow (255 - powLog.log x) = inverse x := by
  obtain ⟨n, low, high, rfl⟩ := exists_power some_bit
  rw [log_power low high, pow_eq (by omega), inverse_power high]

theorem sBoxAffine_eq (x : UInt8) : sBoxAffine x = affine x :=
  forall_byte (p := fun x => sBoxAffine x = affine x) (by decide +kernel) x

theorem ofNat_ne_zero {i : Nat} (inside : i ∈ List.range' 1 255) : UInt8.ofNat i ≠ 0 := by
  rw [List.mem_range'_1] at inside
  intro zero
  have value : (UInt8.ofNat i).toNat = 0 := congrArg UInt8.toNat zero
  rw [UInt8.toNat_ofNat', Nat.mod_eq_of_lt (by omega)] at value
  omega

theorem exists_ofNat {x : UInt8} (some_bit : x ≠ 0) : ∃ i ∈ List.range' 1 255, UInt8.ofNat i = x := by
  have below := x.toNat_lt
  have above : x.toNat ≠ 0 := fun zero => some_bit (UInt8.toNat_inj.mp zero)
  exact ⟨x.toNat, List.mem_range'_1.mpr (by omega), UInt8.ofNat_toNat⟩

theorem sBoxStep_eq (boxes : (UInt8 → UInt8) × (UInt8 → UInt8)) {i : Nat} (inside : i ∈ List.range' 1 255) :
    sBoxStep boxes i =
      (Function.update boxes.1 (UInt8.ofNat i) (sBox (UInt8.ofNat i)), Function.update boxes.2 (sBox (UInt8.ofNat i)) (UInt8.ofNat i)) := by
  rw [sBoxStep, pow_log_inverse (ofNat_ne_zero inside), sBoxAffine_eq, sBox]

theorem sBoxes_foldl (is : List Nat) (inside : ∀ i ∈ is, i ∈ List.range' 1 255) (boxes : (UInt8 → UInt8) × (UInt8 → UInt8)) :
    is.foldl sBoxStep boxes =
      (is.foldl (fun t i => Function.update t (UInt8.ofNat i) (sBox (UInt8.ofNat i))) boxes.1,
        is.foldl (fun t i => Function.update t (sBox (UInt8.ofNat i)) (UInt8.ofNat i)) boxes.2) := by
  induction is generalizing boxes with
  | nil => rfl
  | cons i rest ih =>
    rw [List.forall_mem_cons] at inside
    rw [List.foldl_cons, ih inside.2, sBoxStep_eq boxes inside.1, List.foldl_cons, List.foldl_cons]

theorem sBox_zero : sBox 0 = 0x63 := by
  rw [sBox, inverse_zero]
  decide

theorem FSb_eq (x : UInt8) : FSb x = sBox x := by
  rw [FSb, sBoxes, sBoxes_foldl _ fun _ inside => inside]
  dsimp only
  by_cases zero : x = 0
  · rw [zero, sBox_zero]
    exact fill_absent _ _ fun i inside => ofNat_ne_zero inside
  · obtain ⟨i, inside, rfl⟩ := exists_ofNat zero
    refine fill_written _ (fun i => sBox (UInt8.ofNat i)) inside ?_
    intro j _ same
    rw [same]

theorem RSb_eq (x : UInt8) : RSb x = invSBox x := by
  rw [RSb, sBoxes, sBoxes_foldl _ fun _ inside => inside]
  dsimp only
  have found : x = sBox (invSBox x) := (sBox_invSBox x).symm
  by_cases zero : invSBox x = 0
  · have base : x = 0x63 := by rw [found, zero, sBox_zero]
    rw [zero, base]
    refine fill_absent (fun i => sBox (UInt8.ofNat i)) _ ?_
    intro i inside same
    have undone := invSBox_sBox (UInt8.ofNat i)
    rw [same, ← base, zero] at undone
    exact ofNat_ne_zero inside undone.symm
  · obtain ⟨i, inside, value⟩ := exists_ofNat zero
    have written : (List.range' 1 255).foldl
        (fun (t : UInt8 → UInt8) i => Function.update t (sBox (UInt8.ofNat i)) (UInt8.ofNat i))
        (Function.update (fun _ => 0) 0x63 0x00) (sBox (UInt8.ofNat i)) = UInt8.ofNat i := by
      refine fill_written (fun i => sBox (UInt8.ofNat i)) UInt8.ofNat inside ?_
      intro j _ same
      rw [← invSBox_sBox (UInt8.ofNat j), same, invSBox_sBox]
    rwa [value, ← found] at written

/-! ### Words as columns -/

def column (x : UInt32) : Column := fun r => byte r x

theorem byte_xor (r : Fin 4) (x y : UInt32) : byte r (x ^^^ y) = byte r x ^^^ byte r y := by
  rw [byte, UInt32.shiftRight_xor, UInt32.toUInt8_xor, byte, byte]

theorem column_xor (x y : UInt32) : column (x ^^^ y) = addColumn (column x) (column y) := by
  funext r
  exact byte_xor r x y

theorem byte_shifted (k r : Fin 4) (b : UInt8) :
    byte r (b.toUInt32 <<< (8 * UInt32.ofNat k)) = if k = r then b else 0 := by
  have all : ∀ k r : Fin 4, ∀ n < 256,
      byte r ((UInt8.ofNat n).toUInt32 <<< (8 * UInt32.ofNat k)) = if k = r then UInt8.ofNat n else 0 := by decide +kernel
  exact forall_byte (p := fun b => byte r (b.toUInt32 <<< (8 * UInt32.ofNat k)) = if k = r then b else 0) (all k r) b

theorem column_word (b0 b1 b2 b3 : UInt8) : column (word b0 b1 b2 b3) = ![b0, b1, b2, b3] := by
  have shifted : word b0 b1 b2 b3 =
      b0.toUInt32 <<< (8 * UInt32.ofNat (0 : Fin 4)) ^^^ b1.toUInt32 <<< (8 * UInt32.ofNat (1 : Fin 4)) ^^^
        b2.toUInt32 <<< (8 * UInt32.ofNat (2 : Fin 4)) ^^^ b3.toUInt32 <<< (8 * UInt32.ofNat (3 : Fin 4)) := by
    show _ = b0.toUInt32 <<< 0 ^^^ _ ^^^ _ ^^^ _
    rw [UInt32.shiftLeft_zero]
    rfl
  funext r
  rw [column, shifted, byte_xor, byte_xor, byte_xor, byte_shifted, byte_shifted, byte_shifted, byte_shifted]
  fin_cases r <;> simp

theorem column_rotl8 (x : UInt32) (r : Fin 4) : column (rotl8 x) r = column x (r - 1) := by
  unfold column byte rotl8
  apply UInt8.toBitVec_inj.mp
  ext i inside
  fin_cases r
  · simp
  · have fits : 8 + i < 32 := by omega
    have high : 24 + (8 + i) = 32 + i := by omega
    simp [-BitVec.getLsbD_eq_getElem, fits, high]
  · have fits : 16 + i < 32 ∧ ¬16 + i < 8 := by omega
    have high : 24 + (16 + i) = 32 + (8 + i) := by omega
    have moved : 16 + i - 8 = 8 + i := by omega
    simp [-BitVec.getLsbD_eq_getElem, fits, high, moved]
  · have fits : 24 + i < 32 ∧ ¬24 + i < 8 := by omega
    have high : 24 + (24 + i) = 32 + (16 + i) := by omega
    have moved : 24 + i - 8 = 16 + i := by omega
    simp [-BitVec.getLsbD_eq_getElem, fits, high, moved]

/-- The column of four bytes that starts at byte `4 * i`. -/
def columns (data : List UInt8) (i : Nat) : Column := fun r => data.getD (4 * i + r) 0

theorem byte_or (r : Fin 4) (x y : UInt32) : byte r (x ||| y) = byte r x ||| byte r y := by
  rw [byte, UInt32.shiftRight_or, UInt32.toUInt8_or, byte, byte]

theorem column_getUint32Le (data : List UInt8) (i : Nat) : column (getUint32Le data (4 * i)) = columns data i := by
  have shifted : getUint32Le data (4 * i) =
      (data.getD (4 * i) 0).toUInt32 <<< (8 * UInt32.ofNat (0 : Fin 4)) |||
        (data.getD (4 * i + 1) 0).toUInt32 <<< (8 * UInt32.ofNat (1 : Fin 4)) |||
        (data.getD (4 * i + 2) 0).toUInt32 <<< (8 * UInt32.ofNat (2 : Fin 4)) |||
        (data.getD (4 * i + 3) 0).toUInt32 <<< (8 * UInt32.ofNat (3 : Fin 4)) := by
    show _ = (data.getD (4 * i) 0).toUInt32 <<< 0 ||| _ ||| _ ||| _
    rw [UInt32.shiftLeft_zero]
    rfl
  funext r
  rw [column, shifted, byte_or, byte_or, byte_or, byte_shifted, byte_shifted, byte_shifted, byte_shifted]
  fin_cases r <;> simp [columns]

end IotPlatform.Aes
