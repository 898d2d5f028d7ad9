import IotPlatform.Crypto.AesTables

/-!
# The key schedule of AES

Unrolled for each of the three key lengths, it fills the buffer with the words of the standard.
-/

namespace IotPlatform.Aes
open Gf256 Rijndael RoundCipher

theorem column_subWordTurned (turn : Fin 4) (x : UInt32) : column (subWordTurned turn x) = subWord fun r => column x (r + turn) := by
  have front : ∀ turn : Fin 4, 0 + turn = turn ∧ 1 + turn = turn + 1 ∧ 2 + turn = turn + 2 ∧ 3 + turn = turn + 3 := by decide
  obtain ⟨zeroth, first, second, third⟩ := front turn
  rw [subWordTurned, column_word, FSb_eq, FSb_eq, FSb_eq, FSb_eq]
  funext r
  fin_cases r
  · show _ = sBox (byte (0 + turn) x)
    rw [zeroth]
    rfl
  · show _ = sBox (byte (1 + turn) x)
    rw [first]
    rfl
  · show _ = sBox (byte (2 + turn) x)
    rw [second]
    rfl
  · show _ = sBox (byte (3 + turn) x)
    rw [third]
    rfl

theorem column_roundConstant (i : Nat) : column (roundConstant i) = rcon (i + 1) := by
  have doubled : ∀ n, Aes.xtime^[n] 1 = Gf256.xtime^[n] 1 := by
    intro n
    rw [show Aes.xtime = Gf256.xtime from funext xtime_eq]
  have padded : roundConstant i = word (Gf256.xtime^[i] 1) 0 0 0 := by
    rw [roundConstant, doubled, word]
    simp
  rw [padded, column_word]
  rfl

section Schedule

variable {nk : Nat} {key : Nat → Column} {RK : Nat → UInt32} {n : Nat}

theorem keyWord_start (inside : n < nk) : keyWord nk key n = key n := by
  rw [keyWord, if_pos (Or.inl inside)]

theorem keyWord_turn (some_word : 0 < nk) (i : Nat) :
    keyWord nk key (nk * i + nk) = addColumn (keyWord nk key (nk * i))
      (addColumn (subWord (rotWord (keyWord nk key (nk * i + nk - 1)))) (rcon (i + 1))) := by
  have quotient : (nk * i + nk) / nk = i + 1 := by
    rw [← Nat.mul_succ]
    exact Nat.mul_div_cancel_left _ some_word
  have multiple : (nk * i + nk) % nk = 0 := by
    rw [← Nat.mul_succ]
    exact Nat.mul_mod_right _ _
  rw [keyWord, if_neg (by omega)]
  dsimp only
  rw [if_pos multiple, quotient, Nat.add_sub_cancel]

theorem keyWord_plain (late : nk ≤ n) (some_word : 0 < nk) (off : n % nk ≠ 0) (off' : ¬(6 < nk ∧ n % nk = 4)) :
    keyWord nk key n = addColumn (keyWord nk key (n - nk)) (keyWord nk key (n - 1)) := by
  rw [keyWord, if_neg (by omega)]
  dsimp only
  rw [if_neg off, if_neg off']

theorem keyWord_sub (late : nk ≤ n) (long : 6 < nk) (fourth : n % nk = 4) :
    keyWord nk key n = addColumn (keyWord nk key (n - nk)) (subWord (keyWord nk key (n - 1))) := by
  rw [keyWord, if_neg (by omega)]
  dsimp only
  rw [if_neg (by omega), if_pos ⟨long, fourth⟩]

/-- The first `n` words of the buffer are those of the schedule. -/
def Agrees (nk : Nat) (key : Nat → Column) (RK : Nat → UInt32) (n : Nat) : Prop := ∀ k < n, column (RK k) = keyWord nk key k

theorem Agrees.write (agrees : Agrees nk key RK n) {v : UInt32} (value : column v = keyWord nk key n) :
    Agrees nk key (Function.update RK n v) (n + 1) := by
  intro k inside
  by_cases last : k = n
  · rw [last, Function.update_self, value]
  · rw [Function.update_of_ne last]
    exact agrees k (by omega)

theorem Agrees.plain (agrees : Agrees nk key RK n) {a b : Nat} (back : a + nk = n) (before : b + 1 = n) (some_word : 0 < nk)
    (off : n % nk ≠ 0) (off' : ¬(6 < nk ∧ n % nk = 4)) : Agrees nk key (Function.update RK n (RK a ^^^ RK b)) (n + 1) := by
  refine agrees.write ?_
  rw [column_xor, agrees a (by omega), agrees b (by omega), keyWord_plain (by omega) some_word off off', ← back,
    Nat.add_sub_cancel, back, ← before, Nat.add_sub_cancel]

theorem Agrees.turn {i : Nat} (agrees : Agrees nk key RK (nk * i + nk)) {b : Nat} (before : b + 1 = nk * i + nk) :
    Agrees nk key (Function.update RK (nk * i + nk) (RK (nk * i) ^^^ roundConstant i ^^^ subWordTurned 1 (RK b)))
      (nk * i + nk + 1) := by
  refine agrees.write ?_
  have some_word : 0 < nk := by
    by_contra none
    have zero : nk = 0 := by omega
    rw [zero] at before
    omega
  rw [column_xor, column_xor, column_roundConstant, column_subWordTurned, agrees b (by omega), agrees (nk * i) (by omega),
    keyWord_turn some_word, ← before, Nat.add_sub_cancel]
  funext r
  show _ ^^^ _ ^^^ _ = _ ^^^ (_ ^^^ _)
  rw [UInt8.xor_assoc]
  congr 1
  exact UInt8.xor_comm _ _

theorem expand10_agrees {i : Nat} (agrees : Agrees 4 key RK (4 * i + 4)) : Agrees 4 key (expand10 RK i) (4 * (i + 1) + 4) := by
  have first := agrees.turn (b := 4 * i + 3) (by omega)
  have second := first.plain (a := 4 * i + 1) (b := 4 * i + 4) (by omega) (by omega) (by omega) (by omega) (by omega)
  have third := second.plain (a := 4 * i + 2) (b := 4 * i + 5) (by omega) (by omega) (by omega) (by omega) (by omega)
  exact third.plain (a := 4 * i + 3) (b := 4 * i + 6) (by omega) (by omega) (by omega) (by omega) (by omega)

theorem expand12_agrees {i : Nat} (agrees : Agrees 6 key RK (6 * i + 6)) : Agrees 6 key (expand12 RK i) (6 * (i + 1) + 6) := by
  have first := agrees.turn (b := 6 * i + 5) (by omega)
  have second := first.plain (a := 6 * i + 1) (b := 6 * i + 6) (by omega) (by omega) (by omega) (by omega) (by omega)
  have third := second.plain (a := 6 * i + 2) (b := 6 * i + 7) (by omega) (by omega) (by omega) (by omega) (by omega)
  have fourth := third.plain (a := 6 * i + 3) (b := 6 * i + 8) (by omega) (by omega) (by omega) (by omega) (by omega)
  have fifth := fourth.plain (a := 6 * i + 4) (b := 6 * i + 9) (by omega) (by omega) (by omega) (by omega) (by omega)
  exact fifth.plain (a := 6 * i + 5) (b := 6 * i + 10) (by omega) (by omega) (by omega) (by omega) (by omega)

theorem expand14_agrees {i : Nat} (agrees : Agrees 8 key RK (8 * i + 8)) : Agrees 8 key (expand14 RK i) (8 * (i + 1) + 8) := by
  have first := agrees.turn (b := 8 * i + 7) (by omega)
  have second := first.plain (a := 8 * i + 1) (b := 8 * i + 8) (by omega) (by omega) (by omega) (by omega) (by omega)
  have third := second.plain (a := 8 * i + 2) (b := 8 * i + 9) (by omega) (by omega) (by omega) (by omega) (by omega)
  have fourth := third.plain (a := 8 * i + 3) (b := 8 * i + 10) (by omega) (by omega) (by omega) (by omega) (by omega)
  -- The fifth word of a long key goes through the S-box once more.
  have middle : ∀ {RK : Nat → UInt32}, Agrees 8 key RK (8 * i + 12) →
      Agrees 8 key (Function.update RK (8 * i + 12) (RK (8 * i + 4) ^^^ subWordTurned 0 (RK (8 * i + 11)))) (8 * i + 13) := by
    intro RK agrees
    refine agrees.write ?_
    have next : keyWord 8 key (8 * i + 12) = addColumn (keyWord 8 key (8 * i + 4)) (subWord (keyWord 8 key (8 * i + 11))) :=
      keyWord_sub (n := 8 * i + 12) (by omega) (by omega) (by omega)
    have turn : ∀ r : Fin 4, r + 0 = r := by decide
    rw [column_xor, column_subWordTurned, agrees (8 * i + 4) (by omega), agrees (8 * i + 11) (by omega), next]
    simp only [turn]
  have fifth := middle fourth
  have sixth := fifth.plain (a := 8 * i + 5) (b := 8 * i + 12) (by omega) (by omega) (by omega) (by omega) (by omega)
  have seventh := sixth.plain (a := 8 * i + 6) (b := 8 * i + 13) (by omega) (by omega) (by omega) (by omega) (by omega)
  exact seventh.plain (a := 8 * i + 7) (b := 8 * i + 14) (by omega) (by omega) (by omega) (by omega) (by omega)

theorem expand_foldl {expand : (Nat → UInt32) → Nat → Nat → UInt32}
    (step : ∀ {RK i}, Agrees nk key RK (nk * i + nk) → Agrees nk key (expand RK i) (nk * (i + 1) + nk))
    (agrees : Agrees nk key RK nk) (m : Nat) : Agrees nk key ((List.range m).foldl expand RK) (nk * m + nk) := by
  induction m with
  | zero => simpa using agrees
  | succ m ih =>
    rw [List.range_succ, List.foldl_append, List.foldl_cons, List.foldl_nil]
    exact step ih

theorem loadKey_agrees (data : List UInt8) (RK : Nat → UInt32) (few : n ≤ nk) :
    Agrees nk (columns data) ((List.range n).foldl (fun RK i => Function.update RK i (getUint32Le data (4 * i))) RK) n := by
  induction n with
  | zero => exact fun k inside => absurd inside (Nat.not_lt_zero k)
  | succ n ih =>
    rw [List.range_succ, List.foldl_append, List.foldl_cons, List.foldl_nil]
    refine (ih (by omega)).write ?_
    rw [column_getUint32Le, keyWord_start (by omega)]

end Schedule

/-- A key of four, six or eight words. -/
def KeyWords (nk : Nat) : Prop := nk = 4 ∨ nk = 6 ∨ nk = 8

theorem setkeyEnc_agrees (ctx : AesContext) (data : List UInt8) {nk : Nat} (size : KeyWords nk) :
    ∃ enc, setkeyEnc ctx data (32 * nk) = some enc ∧ enc.nr = nk + 6 ∧
      Agrees nk (columns data) enc.rk (4 * (nk + 6) + 4) := by
  have loaded := loadKey_agrees data ctx.rk (Nat.le_refl nk)
  obtain rfl | rfl | rfl := size
  · refine ⟨_, rfl, rfl, ?_⟩
    exact expand_foldl (fun agrees => expand10_agrees agrees) loaded 10
  · refine ⟨_, rfl, rfl, ?_⟩
    have all := expand_foldl (fun agrees => expand12_agrees agrees) loaded 8
    exact fun k inside => all k (by omega)
  · refine ⟨_, rfl, rfl, ?_⟩
    have all := expand_foldl (fun agrees => expand14_agrees agrees) loaded 7
    exact fun k inside => all k (by omega)

end IotPlatform.Aes
