import Mathlib.Algebra.Order.Group.Nat
import Mathlib.Data.Finset.Card
import Mathlib.Order.Interval.Finset.Nat

/-!
# The field of 256 elements

Bytes with `^^^` and the product modulo `x^8 + x^4 + x^3 + x + 1`. The powers of `x + 1` are all bytes but zero, and with
them as logarithms the laws of the product are those of sums.
-/

namespace IotPlatform.Gf256

/-- Times `x`. -/
def xtime (a : UInt8) : UInt8 := a <<< 1 ^^^ if a &&& 0x80 = 0 then 0 else 0x1B

/-- The product with the `n` low bits of the first factor. -/
def mulBits : (n : Nat) → UInt8 → UInt8 → UInt8
  | 0, _, _ => 0
  | n + 1, a, b => (if a &&& 1 = 0 then 0 else b) ^^^ mulBits n (a >>> 1) (xtime b)

def mul (a b : UInt8) : UInt8 := mulBits 8 a b

/-- The powers of `x + 1`. -/
def power : Nat → UInt8
  | 0 => 1
  | n + 1 => power n ^^^ xtime (power n)

/-- The inverse, and 0 for 0. -/
def inverse (a : UInt8) : UInt8 := (mul a)^[254] 1

theorem forall_byte {p : UInt8 → Prop} (all : ∀ n < 256, p (UInt8.ofNat n)) (a : UInt8) : p a := by
  have inside := all a.toNat a.toNat_lt
  rwa [UInt8.ofNat_toNat] at inside

/-! ### Both maps are linear -/

theorem top_bit (a : UInt8) : a &&& 0x80 = 0 ∨ a &&& 0x80 = 0x80 :=
  forall_byte (p := fun a => a &&& 0x80 = 0 ∨ a &&& 0x80 = 0x80) (by decide +kernel) a

theorem xtime_xor (a b : UInt8) : xtime (a ^^^ b) = xtime a ^^^ xtime b := by
  have bits : (a ^^^ b) &&& 0x80 = (a &&& 0x80) ^^^ (b &&& 0x80) := by
    apply UInt8.toBitVec_inj.mp
    ext i
    simp [Bool.and_xor_distrib_right]
  unfold xtime
  rw [bits, UInt8.shiftLeft_xor]
  obtain top | top := top_bit a <;> obtain top' | top' := top_bit b <;> rw [top, top']
  · simp
  · simp [UInt8.xor_assoc]
  · rw [if_neg (by decide), if_neg (by decide), if_pos rfl]
    ac_rfl
  · rw [if_pos (by decide), if_neg (by decide)]
    have twice : (0 : UInt8) = 0x1B ^^^ 0x1B := by decide
    rw [twice]
    ac_rfl

theorem mulBits_xor (n : Nat) (a b c : UInt8) : mulBits n a (b ^^^ c) = mulBits n a b ^^^ mulBits n a c := by
  induction n generalizing a b c with
  | zero => exact UInt8.xor_zero.symm
  | succ n ih =>
    rw [mulBits, mulBits, mulBits, xtime_xor, ih]
    split
    · ac_rfl
    · ac_rfl

theorem mulBits_xtime (n : Nat) (a b : UInt8) : mulBits n a (xtime b) = xtime (mulBits n a b) := by
  induction n generalizing a b with
  | zero =>
    rw [mulBits, mulBits]
    decide
  | succ n ih =>
    rw [mulBits, mulBits, xtime_xor, ← ih]
    split <;> rfl

theorem mul_xor (a b c : UInt8) : mul a (b ^^^ c) = mul a b ^^^ mul a c := mulBits_xor 8 a b c

theorem mul_xtime (a b : UInt8) : mul a (xtime b) = xtime (mul a b) := mulBits_xtime 8 a b

protected theorem mul_zero (a : UInt8) : mul a 0 = 0 := by
  have twice := mul_xor a 0 0
  rwa [UInt8.xor_self, UInt8.xor_self] at twice

protected theorem mul_one (a : UInt8) : mul a 1 = a := forall_byte (p := fun a => mul a 1 = a) (by decide +kernel) a

protected theorem zero_mul (a : UInt8) : mul 0 a = 0 := by
  have none : ∀ n a, mulBits n 0 a = 0 := by
    intro n
    induction n with
    | zero => exact fun _ => rfl
    | succ n ih =>
      intro a
      rw [mulBits, if_pos (by decide), UInt8.zero_shiftRight, ih]
      decide
  exact none 8 a

/-! ### Powers -/

theorem mul_power (m n : Nat) : mul (power m) (power n) = power (m + n) := by
  induction n with
  | zero => exact Gf256.mul_one (power m)
  | succ n ih => rw [power, mul_xor, mul_xtime, ih, ← Nat.add_assoc, power]

theorem power_period : power 255 = 1 := by decide +kernel

theorem power_order : ∀ n < 255, power n = 1 → n = 0 := by decide +kernel

theorem power_period_mul (n : Nat) : power (255 * n) = 1 := by
  induction n with
  | zero => rfl
  | succ n ih => rw [Nat.mul_succ, ← mul_power, ih, power_period, Gf256.mul_one]

theorem power_mod (n : Nat) : power (n % 255) = power n := by
  have whole : 255 * (n / 255) + n % 255 = n := Nat.div_add_mod n 255
  rw [← whole, ← mul_power, power_period_mul, Nat.mul_add_mod, Nat.mod_mod]
  have zero : power 0 = 1 := rfl
  rw [← zero, mul_power, Nat.zero_add]

theorem power_ne_zero (n : Nat) : power n ≠ 0 := by
  intro zero
  have inverted := mul_power n (254 * n)
  have turns : n + 254 * n = 255 * n := by omega
  rw [zero, Gf256.zero_mul, turns, power_period_mul] at inverted
  exact absurd inverted (by decide)

theorem power_inj {m n : Nat} (order : m ≤ n) (near : n < m + 255) (same : power m = power n) : m = n := by
  have shifted : power (254 * m + m) = power (254 * m + n) := by rw [← mul_power, ← mul_power, same]
  have turns : 254 * m + m = 255 * m := by omega
  have rest : 254 * m + n = 255 * m + (n - m) := by omega
  have zero : power 0 = 1 := rfl
  rw [turns, rest, ← mul_power, power_period_mul, ← zero, mul_power, Nat.zero_add, zero] at shifted
  have none := power_order (n - m) (by omega) shifted.symm
  omega

/-- There are 255 powers, so that every byte but zero is one. -/
theorem exists_power {a : UInt8} (some_bit : a ≠ 0) : ∃ n, 1 ≤ n ∧ n ≤ 255 ∧ power n = a := by
  have inside : Finset.image (fun n => (power n).toNat) (Finset.Icc 1 255) ⊆ Finset.Icc 1 255 := by
    intro value member
    obtain ⟨n, -, rfl⟩ := Finset.mem_image.mp member
    have below := (power n).toNat_lt
    have above : (power n).toNat ≠ 0 := fun zero => power_ne_zero n (UInt8.toNat_inj.mp zero)
    rw [Finset.mem_Icc]
    omega
  have apart : Set.InjOn (fun n => (power n).toNat) (Finset.Icc 1 255 : Finset Nat) := by
    intro m low n high same
    have same : power m = power n := UInt8.toNat_inj.mp same
    rw [Finset.mem_coe, Finset.mem_Icc] at low high
    obtain order | order := Nat.le_total m n
    · exact power_inj order (by omega) same
    · exact (power_inj order (by omega) same.symm).symm
  have all := Finset.eq_of_subset_of_card_le inside (by rw [Finset.card_image_of_injOn apart])
  have some_value : a.toNat ∈ Finset.Icc 1 255 := by
    have below := a.toNat_lt
    have above : a.toNat ≠ 0 := fun zero => some_bit (UInt8.toNat_inj.mp zero)
    rw [Finset.mem_Icc]
    omega
  rw [← all] at some_value
  obtain ⟨n, member, value⟩ := Finset.mem_image.mp some_value
  obtain ⟨low, high⟩ := Finset.mem_Icc.mp member
  exact ⟨n, low, high, UInt8.toNat_inj.mp value⟩

/-! ### The laws of the product -/

protected theorem mul_comm (a b : UInt8) : mul a b = mul b a := by
  by_cases zero : a = 0
  · rw [zero, Gf256.zero_mul, Gf256.mul_zero]
  by_cases zero' : b = 0
  · rw [zero', Gf256.zero_mul, Gf256.mul_zero]
  obtain ⟨m, -, -, rfl⟩ := exists_power zero
  obtain ⟨n, -, -, rfl⟩ := exists_power zero'
  rw [mul_power, mul_power, Nat.add_comm]

protected theorem mul_assoc (a b c : UInt8) : mul (mul a b) c = mul a (mul b c) := by
  by_cases zero : a = 0
  · rw [zero, Gf256.zero_mul, Gf256.zero_mul, Gf256.zero_mul]
  by_cases zero' : b = 0
  · rw [zero', Gf256.zero_mul, Gf256.mul_zero, Gf256.zero_mul]
  by_cases zero'' : c = 0
  · rw [zero'', Gf256.mul_zero, Gf256.mul_zero, Gf256.mul_zero]
  obtain ⟨l, -, -, rfl⟩ := exists_power zero
  obtain ⟨m, -, -, rfl⟩ := exists_power zero'
  obtain ⟨n, -, -, rfl⟩ := exists_power zero''
  rw [mul_power, mul_power, mul_power, mul_power, Nat.add_assoc]

protected theorem one_mul (a : UInt8) : mul 1 a = a := by rw [Gf256.mul_comm, Gf256.mul_one]

theorem xor_mul (a b c : UInt8) : mul (a ^^^ b) c = mul a c ^^^ mul b c := by
  rw [Gf256.mul_comm, mul_xor, Gf256.mul_comm c a, Gf256.mul_comm c b]

theorem iterate_mul_power (m n : Nat) : (mul (power m))^[n] 1 = power (m * n) := by
  induction n with
  | zero => rfl
  | succ n ih => rw [Function.iterate_succ_apply', ih, mul_power, Nat.mul_succ, Nat.add_comm]

theorem inverse_zero : inverse 0 = 0 := by
  rw [inverse, Function.iterate_succ_apply', Gf256.zero_mul]

theorem inverse_power {n : Nat} (few : n ≤ 255) : inverse (power n) = power (255 - n) := by
  have turns : n * 254 + 255 = 255 - n + 255 * n := by omega
  have same : power (n * 254 + 255) = power (255 - n + 255 * n) := by rw [turns]
  rwa [← mul_power, ← mul_power, power_period, power_period_mul, Gf256.mul_one, Gf256.mul_one, ← iterate_mul_power] at same

theorem inverse_inverse (a : UInt8) : inverse (inverse a) = a := by
  by_cases zero : a = 0
  · rw [zero, inverse_zero, inverse_zero]
  obtain ⟨n, low, high, rfl⟩ := exists_power zero
  rw [inverse_power high, inverse_power (by omega), Nat.sub_sub_self high]

-- From here on an inverse is known by its laws: unfolding it takes 254 products.
attribute [irreducible] inverse

end IotPlatform.Gf256
