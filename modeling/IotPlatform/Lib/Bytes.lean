import Mathlib.Algebra.Group.Nat.Defs

/-!
# Little-endian bytes

`leBytes w n` is the `w` bytes `(uint8_t)(n >> 8 * i)`, lowest first, and `leNat` is the number
`b[0] | b[1] << 8 | ...` they stand for. `differenceByte` is the accumulator of a comparison in
constant time.
-/

namespace IotPlatform.Bytes

def leBytes : Nat → Nat → List UInt8
  | 0, _ => []
  | w + 1, n => UInt8.ofNat n :: leBytes w (n / 256)

def leNat : List UInt8 → Nat
  | [] => 0
  | b :: rest => b.toNat + 256 * leNat rest

@[simp] theorem length_leBytes (w n : Nat) : (leBytes w n).length = w := by
  induction w generalizing n with
  | zero => rfl
  | succ w ih => simp [leBytes, ih]

theorem leNat_leBytes (w n : Nat) : leNat (leBytes w n) = n % 256 ^ w := by
  induction w generalizing n with
  | zero => simp [leBytes, leNat, Nat.mod_one]
  | succ w ih =>
    have low : (UInt8.ofNat n).toNat = n % 256 := UInt8.toNat_ofNat'
    rw [leBytes, leNat, ih, low, Nat.pow_succ, Nat.mul_comm (256 ^ w) 256, Nat.mod_mul]

theorem leNat_leBytes_of_lt {w n : Nat} (fits : n < 256 ^ w) : leNat (leBytes w n) = n := by
  rw [leNat_leBytes, Nat.mod_eq_of_lt fits]

theorem leBytes_inj {w m n : Nat} (fits : m < 256 ^ w) (fits' : n < 256 ^ w) (same : leBytes w m = leBytes w n) : m = n := by
  rw [← leNat_leBytes_of_lt fits, same, leNat_leBytes_of_lt fits']

theorem leNat_lt (bytes : List UInt8) : leNat bytes < 256 ^ bytes.length := by
  induction bytes with
  | nil => exact Nat.one_pos
  | cons b rest ih =>
    have low := b.toNat_lt
    rw [leNat, List.length_cons, Nat.pow_succ]
    omega

theorem leBytes_leNat (bytes : List UInt8) : leBytes bytes.length (leNat bytes) = bytes := by
  induction bytes with
  | nil => rfl
  | cons b rest ih =>
    have low := b.toNat_lt
    have byte : UInt8.ofNat (b.toNat + 256 * leNat rest) = b := by
      rw [← UInt8.toNat_inj, UInt8.toNat_ofNat']
      omega
    have high : (b.toNat + 256 * leNat rest) / 256 = leNat rest := by omega
    rw [List.length_cons, leNat, leBytes, byte, high, ih]

theorem ofNat_leNat16 (x : UInt16) : UInt16.ofNat (leNat (leBytes 2 x.toNat)) = x := by
  rw [leNat_leBytes_of_lt x.toNat_lt, UInt16.ofNat_toNat]

theorem ofNat_leNat32 (x : UInt32) : UInt32.ofNat (leNat (leBytes 4 x.toNat)) = x := by
  rw [leNat_leBytes_of_lt x.toNat_lt, UInt32.ofNat_toNat]

theorem ofNat_leNat64 (x : UInt64) : UInt64.ofNat (leNat (leBytes 8 x.toNat)) = x := by
  rw [leNat_leBytes_of_lt x.toNat_lt, UInt64.ofNat_toNat]

theorem leBytes_add (v w n : Nat) : leBytes (v + w) n = leBytes v n ++ leBytes w (n / 256 ^ v) := by
  induction v generalizing n with
  | zero => rw [Nat.zero_add, Nat.pow_zero, Nat.div_one, leBytes, List.nil_append]
  | succ v ih => rw [Nat.succ_add, leBytes, leBytes, ih, Nat.div_div_eq_div_mul, ← Nat.pow_succ', List.cons_append]

theorem leBytes_mod (w n : Nat) : leBytes w n = leBytes w (n % 256 ^ w) := by
  have length : (leBytes w n).length = w := length_leBytes w n
  have value := leBytes_leNat (leBytes w n)
  rw [length, leNat_leBytes] at value
  exact value.symm

theorem leBytes_ofNat16 {bytes : List UInt8} (two : bytes.length = 2) :
    leBytes 2 (UInt16.ofNat (leNat bytes)).toNat = bytes := by
  have small : leNat bytes < 2 ^ 16 := by
    have bound := leNat_lt bytes
    rwa [two] at bound
  rw [UInt16.toNat_ofNat', Nat.mod_eq_of_lt small, ← two, leBytes_leNat]

/-- `memcpy` of `data` into a buffer, from `offset` on. -/
def overwrite (buffer : List UInt8) (offset : Nat) (data : List UInt8) : List UInt8 :=
  buffer.take offset ++ data ++ buffer.drop (offset + data.length)

theorem length_overwrite {buffer data : List UInt8} {offset : Nat} (room : offset + data.length ≤ buffer.length) :
    (overwrite buffer offset data).length = buffer.length := by
  simp only [overwrite, List.length_append, List.length_take, List.length_drop]
  omega

theorem take_overwrite {buffer data : List UInt8} {offset : Nat} (room : offset + data.length ≤ buffer.length) :
    (overwrite buffer offset data).take (offset + data.length) = buffer.take offset ++ data := by
  apply List.take_left'
  rw [List.length_append, List.length_take]
  omega

/-- Two copies, the second right behind the first. -/
theorem overwrite_overwrite {buffer data : List UInt8} {offset : Nat} (room : offset + data.length ≤ buffer.length)
    (more : List UInt8) :
    overwrite (overwrite buffer offset data) (offset + data.length) more = overwrite buffer offset (data ++ more) := by
  have front : (buffer.take offset ++ data).length = offset + data.length := by
    rw [List.length_append, List.length_take]
    omega
  have behind : (overwrite buffer offset data).drop (offset + data.length + more.length) =
      buffer.drop (offset + (data ++ more).length) := by
    rw [overwrite, ← List.drop_drop, List.drop_left' front, List.drop_drop, List.length_append, Nat.add_assoc]
  rw [overwrite, take_overwrite room, behind, overwrite, List.append_assoc (buffer.take offset)]

theorem overwrite_end {buffer data : List UInt8} {offset : Nat} (full : offset + data.length = buffer.length) :
    overwrite buffer offset data = buffer.take offset ++ data := by
  rw [overwrite, full, List.drop_length, List.append_nil]

/-- `diff |= a[i] ^ b[i]` over two buffers. -/
def differenceByte (a b : List UInt8) : UInt8 :=
  (a.zip b).foldl (fun diff pair => diff ||| (pair.1 ^^^ pair.2)) 0

theorem foldl_difference_eq_zero (pairs : List (UInt8 × UInt8)) (diff : UInt8) :
    pairs.foldl (fun diff pair => diff ||| (pair.1 ^^^ pair.2)) diff = 0 ↔
      diff = 0 ∧ ∀ pair ∈ pairs, pair.1 = pair.2 := by
  induction pairs generalizing diff with
  | nil => simp
  | cons pair rest ih =>
    rw [List.foldl_cons, ih, UInt8.or_eq_zero_iff, UInt8.xor_eq_zero_iff, List.forall_mem_cons, and_assoc]

theorem differenceByte_eq_zero {a b : List UInt8} (sameLength : a.length = b.length) :
    differenceByte a b = 0 ↔ a = b := by
  rw [differenceByte, foldl_difference_eq_zero]
  simp only [true_and]
  induction a generalizing b with
  | nil =>
    cases b with
    | nil => simp
    | cons y ys => cases sameLength
  | cons x xs ih =>
    cases b with
    | nil => cases sameLength
    | cons y ys =>
      rw [List.zip_cons_cons, List.forall_mem_cons, ih (Nat.succ.inj sameLength), List.cons.injEq]

end IotPlatform.Bytes
