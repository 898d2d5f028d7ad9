import Mathlib.Data.List.GetD
import IotPlatform.Crypto.AesSchedule

/-!
# The AES rounds

A round by lookup is a round of the standard, and decryption is the cipher of the inverse layers under the reversed keys.
-/

namespace IotPlatform.Aes
open Gf256 Rijndael RoundCipher

/-! ### Rounds by lookup -/

theorem addColumn_comm (a b : Column) : addColumn a b = addColumn b a := by
  funext r
  exact UInt8.xor_comm _ _

/-- A table for row 0, and the same turned by one row after the other. -/
theorem turned_lookup {t : UInt8 → UInt32} {m : Column} {S : UInt8 → UInt8}
    (base : ∀ x r, column (t x) r = mul (m (0 - r)) (S x)) (k : Fin 4) (x : UInt8) :
    column (![t, fun x => rotl8 (t x), fun x => rotl8 (rotl8 (t x)), fun x => rotl8 (rotl8 (rotl8 (t x)))] k x) =
      fun r => mul (m (k - r)) (S x) := by
  have turns : ∀ r : Fin 4, 0 - (r - 1) = 1 - r ∧ 0 - (r - 1 - 1) = 2 - r ∧ 0 - (r - 1 - 1 - 1) = 3 - r := by decide
  funext r
  obtain ⟨one, two, three⟩ := turns r
  fin_cases k
  · exact base x r
  · show column (rotl8 (t x)) r = mul (m (1 - r)) (S x)
    rw [column_rotl8, base, one]
  · show column (rotl8 (rotl8 (t x))) r = mul (m (2 - r)) (S x)
    rw [column_rotl8, column_rotl8, base, two]
  · show column (rotl8 (rotl8 (rotl8 (t x)))) r = mul (m (3 - r)) (S x)
    rw [column_rotl8, column_rotl8, column_rotl8, base, three]

theorem double_eq (x : UInt8) : Gf256.xtime x = mul 2 x := by
  rw [Gf256.mul_comm]
  have one : (2 : UInt8) = Gf256.xtime 1 := by decide
  rw [one, mul_xtime, Gf256.mul_one]

theorem triple_eq (x : UInt8) : Gf256.xtime x ^^^ x = mul 3 x := by
  have sum : (3 : UInt8) = 2 ^^^ 1 := by decide
  rw [sum, xor_mul, Gf256.one_mul, double_eq]

theorem FT_lookup (k : Fin 4) (x : UInt8) : column (FT k x) = fun r => mul (![2, 3, 1, 1] (k - r)) (sBox x) := by
  refine turned_lookup (t := FT0) (m := ![2, 3, 1, 1]) ?_ k x
  intro x r
  rw [FT0, FSb_eq, xtime_eq, triple_eq, double_eq, column_word]
  fin_cases r
  · rfl
  · exact (Gf256.one_mul _).symm
  · exact (Gf256.one_mul _).symm
  · rfl

theorem RT_lookup (k : Fin 4) (x : UInt8) : column (RT k x) = fun r => mul (![0xE, 0xB, 0xD, 0x9] (k - r)) (invSBox x) := by
  refine turned_lookup (t := RT0) (m := ![0xE, 0xB, 0xD, 0x9]) ?_ k x
  intro x r
  rw [RT0, RSb_eq, mulTable_eq, mulTable_eq, mulTable_eq, mulTable_eq, column_word]
  fin_cases r <;> rfl

theorem lastTable_lookup (box : UInt8 → UInt8) (k : Fin 4) (x : UInt8) :
    column (lastTable box k x) = fun r => mul (![1, 0, 0, 0] (k - r)) (box x) := by
  funext r
  rw [column, lastTable, byte_shifted]
  split
  · rename_i same
    have turn : ∀ r : Fin 4, r - r = 0 := by decide
    rw [same, turn]
    exact (Gf256.one_mul _).symm
  · rename_i other
    have off : ∀ k r : Fin 4, k ≠ r → (![1, 0, 0, 0] : Column) (k - r) = 0 := by decide
    rw [off k r other, Gf256.zero_mul]

/-- The lookups of a column add up to its product with the polynomial. -/
theorem column_tableSum {T : Fin 4 → UInt8 → UInt32} {m : Column} {S : UInt8 → UInt8}
    (lookup : ∀ k x, column (T k x) = fun r => mul (m (k - r)) (S x)) (y : Column) :
    column (tableSum T y) = mixColumn m fun k => S (y k) := by
  rw [tableSum, column_xor, column_xor, column_xor, lookup, lookup, lookup, lookup]
  funext r
  fin_cases r
  · rfl
  · show mul (m 3) (S (y 0)) ^^^ mul (m 0) (S (y 1)) ^^^ mul (m 1) (S (y 2)) ^^^ mul (m 2) (S (y 3)) =
      mul (m 0) (S (y 1)) ^^^ mul (m 1) (S (y 2)) ^^^ mul (m 2) (S (y 3)) ^^^ mul (m 3) (S (y 0))
    ac_rfl
  · show mul (m 2) (S (y 0)) ^^^ mul (m 3) (S (y 1)) ^^^ mul (m 0) (S (y 2)) ^^^ mul (m 1) (S (y 3)) =
      mul (m 0) (S (y 2)) ^^^ mul (m 1) (S (y 3)) ^^^ mul (m 2) (S (y 0)) ^^^ mul (m 3) (S (y 1))
    ac_rfl
  · show mul (m 1) (S (y 0)) ^^^ mul (m 2) (S (y 1)) ^^^ mul (m 3) (S (y 2)) ^^^ mul (m 0) (S (y 3)) =
      mul (m 0) (S (y 3)) ^^^ mul (m 1) (S (y 0)) ^^^ mul (m 2) (S (y 1)) ^^^ mul (m 3) (S (y 2))
    ac_rfl

theorem mixColumn_one (a : Column) : mixColumn ![1, 0, 0, 0] a = a := by
  funext r
  show mul 1 (a r) ^^^ mul 0 (a (r + 1)) ^^^ mul 0 (a (r + 2)) ^^^ mul 0 (a (r + 3)) = a r
  rw [Gf256.one_mul, Gf256.zero_mul, Gf256.zero_mul, Gf256.zero_mul, UInt8.xor_zero, UInt8.xor_zero, UInt8.xor_zero]

def stateOf (x : Words) : State := fun c => column (x c)

/-- The round key in four words from `o` on. -/
def keyState (RK : Nat → UInt32) (o : Nat) : State := fun c => column (RK (o + c))

theorem tableRound_state {T : Fin 4 → UInt8 → UInt32} {m : Column} {S : UInt8 → UInt8}
    (lookup : ∀ k x, column (T k x) = fun r => mul (m (k - r)) (S x)) (turn : Fin 4) (RK : Nat → UInt32) (o : Nat) (y : Words) :
    stateOf (tableRound T turn RK o y) =
      addRoundKey (fun c => mixColumn m fun r => S (stateOf y (c + r * turn) r)) (keyState RK o) := by
  funext c
  show column (RK (o + c) ^^^ tableSum T fun k => byte k (y (c + k * turn))) = _
  rw [column_xor, column_tableSum lookup, addColumn_comm]
  rfl

theorem turn_once : ∀ r : Fin 4, r * 1 = r := by
  decide

/-- Three columns ahead is one column back. -/
theorem turn_back : ∀ c r : Fin 4, c + r * 3 = c - r := by
  decide

theorem encryptRound_state (RK : Nat → UInt32) (o : Nat) (y : Words) :
    stateOf (tableRound FT 1 RK o y) = layers.round (stateOf y) (keyState RK o) := by
  rw [tableRound_state FT_lookup]
  simp only [turn_once]
  rfl

theorem decryptRound_state (RK : Nat → UInt32) (o : Nat) (y : Words) :
    stateOf (tableRound RT 3 RK o y) = invLayers.round (stateOf y) (keyState RK o) := by
  rw [tableRound_state RT_lookup]
  simp only [turn_back]
  rfl

theorem encryptLast_state (RK : Nat → UInt32) (o : Nat) (y : Words) :
    stateOf (tableRound (lastTable FSb) 1 RK o y) =
      layers.add (layers.permute (layers.substitute (stateOf y))) (keyState RK o) := by
  rw [tableRound_state (lastTable_lookup FSb)]
  simp only [turn_once, mixColumn_one, FSb_eq]
  rfl

theorem decryptLast_state (RK : Nat → UInt32) (o : Nat) (y : Words) :
    stateOf (tableRound (lastTable RSb) 3 RK o y) =
      invLayers.add (invLayers.permute (invLayers.substitute (stateOf y))) (keyState RK o) := by
  rw [tableRound_state (lastTable_lookup RSb)]
  simp only [turn_back, mixColumn_one, RSb_eq]
  rfl

/-! ### Blocks -/

def blockState (block : Block) : State := fun c => columns block.toList c

theorem loadBlock_state (RK : Nat → UInt32) (input : Block) :
    stateOf (loadBlock RK input) = addRoundKey (blockState input) (keyState RK 0) := by
  funext c
  show column (getUint32Le input.toList (4 * c) ^^^ RK c) = _
  rw [column_xor, column_getUint32Le, addRoundKey, keyState, Nat.zero_add]
  rfl

theorem storeBlock_state (x : Words) : blockState (storeBlock x) = stateOf x := by
  funext c r
  have inside : 4 * c.val + r.val < 16 := by omega
  have row : Fin.ofNat 4 (4 * c.val + r.val) = r := by
    ext
    simp
  have quotient : (4 * c.val + r.val) / 4 = c.val := by omega
  have columnOf : Fin.ofNat 4 c.val = c := by
    ext
    simp
  simp only [blockState, columns, storeBlock, Vector.toList_ofFn, List.getD_eq_getElem?_getD, List.getElem?_ofFn, inside,
    dif_pos, Option.getD_some, row, quotient, columnOf]
  rfl

theorem blockState_inj {a b : Block} (same : blockState a = blockState b) : a = b := by
  apply Vector.ext
  intro i inside
  have bytes := congrFun (congrFun same (Fin.ofNat 4 (i / 4))) (Fin.ofNat 4 i)
  have quotient : i / 4 % 4 = i / 4 := Nat.mod_eq_of_lt (by omega)
  have place : 4 * (i / 4) + i % 4 = i := by omega
  simpa [blockState, columns, quotient, place, inside] using bytes

/-! ### All rounds -/

/-- The next `n` round keys from word `o` on. -/
def keysFrom (RK : Nat → UInt32) (o n : Nat) : List State := (List.range n).map fun i => keyState RK (o + 4 * i)

theorem keysFrom_succ (RK : Nat → UInt32) (o n : Nat) : keysFrom RK o (n + 1) = keyState RK o :: keysFrom RK (o + 4) n := by
  rw [keysFrom, List.range_succ_eq_map, List.map_cons, List.map_map, keysFrom]
  congr 1
  apply List.map_congr_left
  intro i _
  show keyState RK (o + 4 * (i + 1)) = keyState RK (o + 4 + 4 * i)
  congr 1
  omega

section Rounds

variable {l : Layers State} {T last : Fin 4 → UInt8 → UInt32} {turn : Fin 4} {RK : Nat → UInt32}

theorem roundPairs_state (round : ∀ o y, stateOf (tableRound T turn RK o y) = l.round (stateOf y) (keyState RK o)) (i o : Nat)
    (x : Words) :
    (roundPairs (tableRound T turn RK) i o x).1 = o + 8 * i ∧
      stateOf (roundPairs (tableRound T turn RK) i o x).2 = (keysFrom RK o (2 * i)).foldl l.round (stateOf x) := by
  induction i generalizing o x with
  | zero => exact ⟨rfl, rfl⟩
  | succ i ih =>
    obtain ⟨place, state⟩ := ih (o + 8) (tableRound T turn RK (o + 4) (tableRound T turn RK o x))
    have twice : 2 * (i + 1) = 2 * i + 1 + 1 := by omega
    rw [roundPairs]
    refine ⟨by omega, ?_⟩
    rw [state, round, round, twice, keysFrom_succ, keysFrom_succ, List.foldl_cons, List.foldl_cons]

theorem aesRounds_state (round : ∀ o y, stateOf (tableRound T turn RK o y) = l.round (stateOf y) (keyState RK o))
    (final : ∀ o y, stateOf (tableRound last turn RK o y) = l.add (l.permute (l.substitute (stateOf y))) (keyState RK o))
    (add : l.add = addRoundKey) {half : Nat} (some_round : 0 < half) (input : Block) :
    blockState (aesRounds T last turn { nr := 2 * half, rk := RK } input) =
      l.cipher (keyState RK 0) (keysFrom RK 4 (2 * half - 1)) (keyState RK (8 * half)) (blockState input) := by
  have pairs : 2 * half / 2 - 1 = half - 1 := by omega
  have split : keysFrom RK 4 (2 * half - 1) = keysFrom RK 4 (2 * (half - 1)) ++ [keyState RK (8 * half - 4)] := by
    have odd : 2 * half - 1 = 2 * (half - 1) + 1 := by omega
    have place : 4 + 4 * (2 * (half - 1)) = 8 * half - 4 := by omega
    rw [odd, keysFrom, List.range_succ, List.map_append, List.map_singleton, place, keysFrom]
  obtain ⟨place, state⟩ := roundPairs_state round (half - 1) 4 (loadBlock RK input)
  have place : (roundPairs (tableRound T turn RK) (half - 1) 4 (loadBlock RK input)).1 = 8 * half - 4 := by omega
  have end_place : 8 * half - 4 + 4 = 8 * half := by omega
  rw [aesRounds]
  dsimp only
  rw [pairs, storeBlock_state, final, round, state, loadBlock_state, place, end_place, Layers.cipher, split, List.foldl_append,
    List.foldl_cons, List.foldl_nil, add]

end Rounds

section Keys

variable {nk : Nat} {data : List UInt8}

theorem keyState_agrees {RK : Nat → UInt32} {n i : Nat} (agrees : Agrees nk (columns data) RK n) (inside : 4 * i + 4 ≤ n) :
    keyState RK (4 * i) = roundKey nk (columns data) i := by
  funext c
  exact agrees (4 * i + c) (by omega)

theorem KeyWords.even_rounds (size : KeyWords nk) : ∃ half, nk + 6 = 2 * half := by
  unfold KeyWords at size
  exact ⟨(nk + 6) / 2, by omega⟩

theorem aesEncrypt_state {ctx enc : AesContext} (size : KeyWords nk) (set : setkeyEnc ctx data (32 * nk) = some enc)
    (block : Block) : blockState (aesEncrypt enc block) = cipher nk (columns data) (blockState block) := by
  obtain ⟨enc', set', rounds, agrees⟩ := setkeyEnc_agrees ctx data size
  obtain rfl : enc' = enc := Option.some.inj (set'.symm.trans set)
  obtain ⟨half, even⟩ := size.even_rounds
  have shape : enc' = { nr := 2 * half, rk := enc'.rk } := by rw [← even, ← rounds]
  have first : keyState enc'.rk 0 = roundKey nk (columns data) 0 := keyState_agrees (i := 0) agrees (by omega)
  have final : keyState enc'.rk (8 * half) = roundKey nk (columns data) (nk + 6) := by
    have place : 8 * half = 4 * (nk + 6) := by omega
    rw [place]
    exact keyState_agrees agrees (by omega)
  have middle : keysFrom enc'.rk 4 (2 * half - 1) = middleKeys nk (columns data) := by
    have count : 2 * half - 1 = nk + 5 := by omega
    rw [count, keysFrom, middleKeys]
    apply List.map_congr_left
    intro i inside
    rw [List.mem_range] at inside
    have place : 4 + 4 * i = 4 * (i + 1) := by omega
    rw [place]
    exact keyState_agrees agrees (by omega)
  rw [aesEncrypt, shape]
  rw [aesRounds_state (encryptRound_state _) (encryptLast_state _) rfl (by omega), first, middle, final, cipher]

theorem column_inverseWord (SK : UInt32) : column (inverseWord SK) = mixColumn ![0xE, 0xB, 0xD, 0x9] (column SK) := by
  have lookup : ∀ (k : Fin 4) x, column (RT k (FSb x)) = fun r => mul (![0xE, 0xB, 0xD, 0x9] (k - r)) x := by
    intro k x
    rw [RT_lookup, FSb_eq, invSBox_sBox]
  exact column_tableSum (S := fun x => x) lookup (column SK)

/-- The words that are written for decryption, a row for each round key. -/
theorem getD_rows (f : Nat → Nat → UInt32) {n i j : Nat} (inside : i < n) (four : j < 4) (d : UInt32) :
    ((List.range n).flatMap fun i => (List.range 4).map (f i)).getD (4 * i + j) d = f i j := by
  induction n with
  | zero => exact absurd inside (Nat.not_lt_zero i)
  | succ n ih =>
    have length : ((List.range n).flatMap fun i => (List.range 4).map (f i)).length = 4 * n := by
      simp [List.length_flatMap, Nat.mul_comm]
    rw [List.range_succ (n := n), List.flatMap_append, List.flatMap_singleton]
    by_cases last : i = n
    · rw [List.getD_append_right _ _ _ _ (by omega), length, last, Nat.add_sub_cancel_left]
      simp [four]
    · rw [List.getD_append _ _ _ _ (by omega)]
      exact ih (by omega)

/-- Round key `i` for decryption, out of the words for encryption. -/
def decRow (nk : Nat) (RK : Nat → UInt32) (i j : Nat) : UInt32 :=
  if i = 0 then RK (4 * (nk + 6) + j)
  else if i = nk + 6 then RK j
  else inverseWord (RK (4 * (nk + 6 - i) + j))

section DecRow

variable (nk : Nat) (RK : Nat → UInt32)

theorem decRow_first : decRow nk RK 0 = fun j => RK (4 * (nk + 6) + j) := by
  funext j
  rw [decRow, if_pos rfl]

theorem decRow_middle {i : Nat} (inside : i < nk + 5) :
    decRow nk RK (i + 1) = fun j => inverseWord (RK (4 * (nk + 5 - i) + j)) := by
  funext j
  have place : nk + 6 - (i + 1) = nk + 5 - i := by omega
  rw [decRow, if_neg (by omega), if_neg (by omega), place]

theorem decRow_last : decRow nk RK (nk + 6) = RK := by
  funext j
  rw [decRow, if_neg (by omega), if_pos rfl]

/-- The words in the order in which they are written. -/
theorem decRow_written :
    (List.range 4).map (fun j => RK (4 * (nk + 6) + j)) ++
      (List.range (nk + 5)).flatMap (fun i => (List.range 4).map fun j => inverseWord (RK (4 * (nk + 5 - i) + j))) ++
      (List.range 4).map RK = (List.range (nk + 7)).flatMap fun i => (List.range 4).map (decRow nk RK i) := by
  have all : List.range (nk + 7) = 0 :: (List.range (nk + 5)).map Nat.succ ++ [nk + 6] := by
    rw [List.range_succ, List.range_succ_eq_map]
  rw [all, List.flatMap_append, List.flatMap_cons, List.flatMap_map, List.flatMap_singleton, decRow_first, decRow_last]
  congr 2
  apply List.flatMap_congr
  intro i inside
  rw [List.mem_range] at inside
  rw [decRow_middle nk RK inside]

end DecRow

theorem setkeyDec_keys (ctx : AesContext) (size : KeyWords nk) :
    ∃ dec, setkeyDec ctx data (32 * nk) = some dec ∧ dec.nr = nk + 6 ∧
      keyState dec.rk 0 = roundKey nk (columns data) (nk + 6) ∧
      keysFrom dec.rk 4 (nk + 5) = (middleKeys nk (columns data)).reverse.map invMixColumns ∧
      keyState dec.rk (4 * (nk + 6)) = roundKey nk (columns data) 0 := by
  obtain ⟨cty, set, rounds, agrees⟩ := setkeyEnc_agrees { nr := 0, rk := fun _ => 0 } data size
  refine ⟨_, congrArg (Option.map _) set, rounds, ?_⟩
  dsimp only
  have less : nk + 6 - 1 = nk + 5 := by omega
  rw [rounds, less, decRow_written]
  have key : ∀ i < nk + 7,
      keyState (fun k => ((List.range (nk + 7)).flatMap fun i => (List.range 4).map (decRow nk cty.rk i)).getD k (ctx.rk k))
        (4 * i) = fun c : Fin 4 => column (decRow nk cty.rk i c.val) := by
    intro i inside
    funext c
    show column (List.getD _ (4 * i + c) _) = _
    rw [getD_rows (decRow nk cty.rk) inside c.isLt]
  refine ⟨?_, ?_, ?_⟩
  · rw [show (0 : Nat) = 4 * 0 from rfl, key 0 (by omega), ← keyState_agrees agrees (by omega), decRow_first]
    rfl
  · rw [keysFrom, middleKeys, ← List.map_reverse, List.map_map]
    apply List.ext_getElem
    · simp
    · intro i inside _
      simp only [List.length_map, List.length_range] at inside
      simp only [List.getElem_map, List.getElem_reverse, List.getElem_range, List.length_range, Function.comp_apply]
      have place : 4 + 4 * i = 4 * (i + 1) := by omega
      have back : nk + 5 - 1 - i + 1 = nk + 5 - i := by omega
      rw [place, key (i + 1) (by omega), back, ← keyState_agrees agrees (by omega), decRow_middle nk cty.rk inside]
      funext c
      exact column_inverseWord _
  · rw [key (nk + 6) (by omega), decRow_last]
    funext c
    rw [agrees c (by omega), roundKey, Nat.mul_zero, Nat.zero_add]

theorem aesDecrypt_state {ctx dec : AesContext} (size : KeyWords nk) (set : setkeyDec ctx data (32 * nk) = some dec)
    (block : Block) : blockState (aesDecrypt dec block) = invCipher nk (columns data) (blockState block) := by
  obtain ⟨dec', set', rounds, first, middle, final⟩ := @setkeyDec_keys nk data ctx size
  obtain rfl : dec' = dec := Option.some.inj (set'.symm.trans set)
  obtain ⟨half, even⟩ := size.even_rounds
  have shape : dec' = { nr := 2 * half, rk := dec'.rk } := by rw [← even, ← rounds]
  have count : 2 * half - 1 = nk + 5 := by omega
  have place : 8 * half = 4 * (nk + 6) := by omega
  rw [aesDecrypt, shape]
  rw [aesRounds_state (decryptRound_state _) (decryptLast_state _) rfl (by omega), count, place, first, middle, final, invCipher]

end Keys

/-- For keys of all three lengths the tables, the unrolled schedules and the rounds by lookup compute the cipher of the standard and
its inverse: what was encrypted under a key is decrypted under it. -/
theorem aes_is_standard (ctx ctx' : AesContext) (key : List UInt8) (nk : Nat) (size : KeyWords nk) (whole : key.length = 4 * nk) :
    ∃ enc dec, setkeyEnc ctx key (8 * key.length) = some enc ∧ setkeyDec ctx' key (8 * key.length) = some dec ∧
      (∀ block, blockState (aesCryptEcb enc .encrypt block) = cipher nk (columns key) (blockState block)) ∧
      (∀ block, blockState (aesCryptEcb dec .decrypt block) = invCipher nk (columns key) (blockState block)) ∧
      ∀ block, aesCryptEcb dec .decrypt (aesCryptEcb enc .encrypt block) = block := by
  have bits : 8 * key.length = 32 * nk := by omega
  obtain ⟨enc, set, -, -⟩ := setkeyEnc_agrees ctx key size
  obtain ⟨dec, set', -, -, -, -⟩ := @setkeyDec_keys nk key ctx' size
  rw [bits]
  refine ⟨enc, dec, set, set', aesEncrypt_state size set, aesDecrypt_state size set', ?_⟩
  intro block
  apply blockState_inj
  show blockState (aesDecrypt dec (aesEncrypt enc block)) = blockState block
  rw [aesDecrypt_state size set', aesEncrypt_state size set, invCipher_cipher]

theorem aes_is_standard_zero_key :
    ∃ enc dec, setkeyEnc { nr := 0, rk := fun _ => 0 } (List.replicate 16 0) 128 = some enc ∧
      setkeyDec { nr := 0, rk := fun _ => 0 } (List.replicate 16 0) 128 = some dec ∧
      ∀ block, aesCryptEcb dec .decrypt (aesCryptEcb enc .encrypt block) = block := by
  obtain ⟨enc, dec, set, set', -, -, undone⟩ :=
    aes_is_standard { nr := 0, rk := fun _ => 0 } { nr := 0, rk := fun _ => 0 } (List.replicate 16 0) 4 (Or.inl rfl) rfl
  exact ⟨enc, dec, set, set', undone⟩

end IotPlatform.Aes
