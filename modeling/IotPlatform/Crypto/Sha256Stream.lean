import IotPlatform.Lib.BlockStream
import IotPlatform.Crypto.Sha256

/-!
# SHA-256 of a message in pieces

The digest of a message is that of its padded bytes, block by block. The context gives it for every way to cut the message
into pieces, whatever its buffer held before.
-/

namespace IotPlatform.Sha256
open Bytes BlockStream

/-- What is behind a message of that length: a bit, zeros up to the last eight bytes of a block, and the length in bits. -/
def padding (length : Nat) : List UInt8 :=
  0x80 :: (List.replicate ((119 - length % 64) % 64) 0 ++ (leBytes 8 (8 * length)).reverse)

def digest (is224 : Bool) (message : List UInt8) : List UInt8 :=
  output is224 (whole 64 process (initialState is224) (message ++ padding message.length))

def Context.count (ctx : Context) : Nat := ctx.total1.toNat * 2 ^ 32 + ctx.total0.toNat

/-- The context after the bytes `xs` of a message. -/
structure Context.Absorbed (ctx : Context) (is224 : Bool) (xs : List UInt8) : Prop where
  variant : ctx.is224 = is224
  state : ctx.state = whole 64 process (initialState is224) xs
  sized : ctx.buffer.length = 64
  pending : ctx.buffer.take (xs.length % 64) = leftover 64 xs
  counted : ctx.count = xs.length % 2 ^ 64

theorem processBlocks_eq {rounds : Nat} {input : List UInt8} (enough : input.length ≤ rounds) (state : State) :
    processBlocks rounds state input = (whole 64 process state input, leftover 64 input) := by
  induction rounds generalizing state input with
  | zero =>
    have short : input.length < 64 := by omega
    rw [processBlocks, whole_short short, leftover_short short]
  | succ rounds ih =>
    rw [processBlocks]
    split
    · rename_i block
      have fewer : (input.drop 64).length ≤ rounds := by
        rw [List.length_drop]
        omega
      rw [ih fewer, ← whole_step block (by decide), ← leftover_step block (by decide)]
    · rename_i short
      rw [whole_short (Nat.lt_of_not_le short), leftover_short (Nat.lt_of_not_le short)]

section TakeIn

variable {ctx : Context} {left : Nat} {input : List UInt8}

theorem takeIn_state : (takeIn ctx left input).state = whole 64 process ctx.state input := by
  rw [takeIn, processBlocks_eq (Nat.le_refl _)]

theorem takeIn_frame (ctx : Context) (left : Nat) (input : List UInt8) :
    (takeIn ctx left input).is224 = ctx.is224 ∧ (takeIn ctx left input).count = ctx.count := ⟨rfl, rfl⟩

theorem takeIn_buffer (sized : ctx.buffer.length = 64) (room : left + (leftover 64 input).length ≤ 64) :
    (takeIn ctx left input).buffer.length = 64 ∧
      (takeIn ctx left input).buffer.take (left + (leftover 64 input).length) =
        ctx.buffer.take left ++ leftover 64 input := by
  rw [takeIn, processBlocks_eq (Nat.le_refl _)]
  dsimp only
  split
  · rename_i none
    rw [none]
    exact ⟨sized, by simp⟩
  · have room : left + (leftover 64 input).length ≤ ctx.buffer.length := sized ▸ room
    exact ⟨(length_overwrite room).trans sized, take_overwrite room⟩

end TakeIn

theorem toNat_and_63 (x : UInt32) : (x &&& 0x3F).toNat = x.toNat % 64 := by
  rw [UInt32.toNat_and]
  exact Nat.and_two_pow_sub_one_eq_mod x.toNat 6

theorem Context.Absorbed.used {ctx : Context} {is224 : Bool} {xs : List UInt8} (absorbed : ctx.Absorbed is224 xs) :
    (ctx.total0 &&& 0x3F).toNat = xs.length % 64 := by
  have counted := absorbed.counted
  rw [Context.count] at counted
  rw [toNat_and_63]
  omega

theorem count_add (ctx : Context) {n : Nat} (small : n < 2 ^ 32) :
    let total0 := ctx.total0 + UInt32.ofNat n
    let total1 := if total0 < UInt32.ofNat n then ctx.total1 + 1 else ctx.total1
    total1.toNat * 2 ^ 32 + total0.toNat = (ctx.count + n) % 2 ^ 64 := by
  have low := ctx.total0.toNat_lt
  have high := ctx.total1.toNat_lt
  have added : (UInt32.ofNat n).toNat = n := UInt32.toNat_ofNat_of_lt' small
  simp only [Context.count, UInt32.lt_iff_toNat_lt, UInt32.toNat_add, added]
  split
  · rw [UInt32.toNat_add, UInt32.toNat_one]
    omega
  · omega

/-- What stands in the buffer and what is left of the input make up what is pending of the longer message. -/
theorem absorbed_takeIn {ctx : Context} {left : Nat} {input ys : List UInt8} (sized : ctx.buffer.length = 64)
    (counted : ctx.count = ys.length % 2 ^ 64)
    (state : whole 64 process ctx.state input = whole 64 process (initialState ctx.is224) ys)
    (pending : ctx.buffer.take left ++ leftover 64 input = leftover 64 ys) (inside : left ≤ 64) :
    (takeIn ctx left input).Absorbed ctx.is224 ys := by
  have lengths := congrArg List.length pending
  have length : (leftover 64 ys).length = ys.length % 64 := length_leftover
  rw [List.length_append, List.length_take, sized, Nat.min_eq_left inside, length] at lengths
  have room : left + (leftover 64 input).length ≤ 64 := by omega
  obtain ⟨sized', buffered⟩ := takeIn_buffer sized room
  obtain ⟨variant, count⟩ := takeIn_frame ctx left input
  refine ⟨variant, takeIn_state.trans state, sized', ?_, count.trans counted⟩
  rw [← lengths, buffered, pending]

/-- A piece is taken in behind what is pending: with a full buffer first, if there is enough of it. -/
theorem Context.Absorbed.update {ctx : Context} {is224 : Bool} {xs input : List UInt8} (absorbed : ctx.Absorbed is224 xs)
    (small : input.length < 2 ^ 32) : (update ctx input).Absorbed is224 (xs ++ input) := by
  obtain ⟨rfl, state, sized, pending, counted⟩ := absorbed
  have used := Context.Absorbed.used ⟨rfl, state, sized, pending, counted⟩
  have length : (leftover 64 xs).length = xs.length % 64 := length_leftover
  have added := count_add ctx small
  have total : (ctx.count + input.length) % 2 ^ 64 = (xs ++ input).length % 2 ^ 64 := by
    rw [counted, List.length_append, Nat.mod_add_mod]
  rw [total] at added
  rw [Sha256.update]
  split
  · rename_i nothing
    rw [nothing, List.append_nil]
    exact ⟨rfl, state, sized, pending, counted⟩
  · simp only [used]
    split
    · rename_i fills
      obtain ⟨partly, enough⟩ := fills
      have head : (input.take (64 - xs.length % 64)).length = 64 - xs.length % 64 := List.length_take_of_le enough
      have full : xs.length % 64 + (input.take (64 - xs.length % 64)).length = ctx.buffer.length := by omega
      have block : (leftover 64 xs ++ input.take (64 - xs.length % 64)).length = 64 := by
        rw [List.length_append]
        omega
      have split : leftover 64 xs ++ input =
          (leftover 64 xs ++ input.take (64 - xs.length % 64)) ++ input.drop (64 - xs.length % 64) := by
        rw [List.append_assoc, List.take_append_drop]
      rw [overwrite_end full, pending]
      refine absorbed_takeIn block added ?_ ?_ (Nat.zero_le _)
      · rw [whole_append (by decide), split, whole_block block (by decide), ← state]
      · rw [leftover_append (by decide), split, leftover_block block (by decide)]
        rfl
    · rename_i waits
      obtain ⟨blocks, rest⟩ : whole 64 process ctx.state input = whole 64 process ctx.state (leftover 64 xs ++ input) ∧
          leftover 64 xs ++ leftover 64 input = leftover 64 (leftover 64 xs ++ input) := by
        by_cases none : xs.length % 64 = 0
        · have empty : leftover 64 xs = [] := List.eq_nil_of_length_eq_zero (length.trans none)
          rw [empty, List.nil_append, List.nil_append]
          exact ⟨rfl, rfl⟩
        · have short : (leftover 64 xs ++ input).length < 64 := by
            rw [List.length_append]
            omega
          have short' : input.length < 64 := by omega
          rw [whole_short short, whole_short short', leftover_short short, leftover_short short']
          exact ⟨rfl, rfl⟩
      refine absorbed_takeIn sized added ?_ ?_ (by omega)
      · rw [whole_append (by decide), ← state, blocks]
      · rw [leftover_append (by decide), pending, rest]

theorem Context.Absorbed.updates {ctx : Context} {is224 : Bool} {xs : List UInt8} (absorbed : ctx.Absorbed is224 xs)
    {pieces : List (List UInt8)} (small : ∀ piece ∈ pieces, piece.length < 2 ^ 32) :
    (pieces.foldl Sha256.update ctx).Absorbed is224 (xs ++ pieces.flatten) := by
  induction pieces generalizing ctx xs with
  | nil => simpa using absorbed
  | cons piece rest ih =>
    rw [List.forall_mem_cons] at small
    rw [List.foldl_cons, List.flatten_cons, ← List.append_assoc]
    exact ih (absorbed.update small.1) small.2

theorem absorbed_starts {ctx : Context} (sized : ctx.buffer.length = 64) (is224 : Bool) :
    (starts ctx is224).Absorbed is224 [] :=
  ⟨rfl, (whole_short (by decide) _).symm, sized, rfl, by simp [Context.count, starts]⟩

/-! ### The end of a message -/

theorem putUint32Be_eq (n : UInt32) : putUint32Be n = (leBytes 4 n.toNat).reverse := by
  have byte : ∀ {x : UInt32} {m : Nat}, x.toNat = m → x.toUInt8 = UInt8.ofNat m := by
    rintro x m rfl
    rw [← UInt8.toNat_inj, UInt32.toNat_toUInt8, UInt8.toNat_ofNat']
  have byte1 : (n >>> 8).toUInt8 = UInt8.ofNat (n.toNat / 256) := byte (by simp [Nat.shiftRight_eq_div_pow])
  have byte2 : (n >>> 16).toUInt8 = UInt8.ofNat (n.toNat / 65536) := byte (by simp [Nat.shiftRight_eq_div_pow])
  have byte3 : (n >>> 24).toUInt8 = UInt8.ofNat (n.toNat / 16777216) := byte (by simp [Nat.shiftRight_eq_div_pow])
  rw [putUint32Be, byte1, byte2, byte3, byte rfl]
  simp [leBytes, Nat.div_div_eq_div_mul]

theorem length_bytes {total0 total1 : UInt32} {length : Nat}
    (counted : total1.toNat * 2 ^ 32 + total0.toNat = length % 2 ^ 64) :
    putUint32Be (total0 >>> 29 ||| total1 <<< 3) ++ putUint32Be (total0 <<< 3) = (leBytes 8 (8 * length)).reverse := by
  have small := total0.toNat_lt
  have low : (total0 <<< 3).toNat = 8 * length % 256 ^ 4 := by
    rw [UInt32.toNat_shiftLeft, Nat.shiftLeft_eq]
    simp
    omega
  have high : (total0 >>> 29 ||| total1 <<< 3).toNat = 8 * length / 256 ^ 4 % 256 ^ 4 := by
    have shifted : (total1 <<< 3).toNat = 2 ^ 3 * (total1.toNat % 2 ^ 29) := by
      rw [UInt32.toNat_shiftLeft, Nat.shiftLeft_eq]
      simp
      omega
    have top : (total0 >>> 29).toNat = total0.toNat / 2 ^ 29 := by
      simp [Nat.shiftRight_eq_div_pow]
    have three : total0.toNat / 2 ^ 29 < 2 ^ 3 := by omega
    rw [UInt32.toNat_or, shifted, top, Nat.or_comm, ← Nat.two_pow_add_eq_or_of_lt three]
    omega
  rw [putUint32Be_eq, putUint32Be_eq, low, high, ← leBytes_mod, ← leBytes_mod, ← List.reverse_append, ← leBytes_add]

theorem Context.Absorbed.marked {ctx : Context} {is224 : Bool} {xs : List UInt8} (absorbed : ctx.Absorbed is224 xs)
    {n : Nat} (room : xs.length % 64 + 1 + n ≤ 64) :
    let buffer := overwrite (overwrite ctx.buffer (xs.length % 64) [0x80]) (xs.length % 64 + 1) (List.replicate n 0)
    buffer.length = 64 ∧
      buffer.take (xs.length % 64 + 1 + n) = leftover 64 xs ++ 0x80 :: List.replicate n 0 := by
  have sized := absorbed.sized
  have one : xs.length % 64 + [(0x80 : UInt8)].length ≤ ctx.buffer.length := by
    rw [sized]
    exact Nat.mod_lt _ (by decide)
  have all : xs.length % 64 + ([(0x80 : UInt8)] ++ List.replicate n 0).length ≤ ctx.buffer.length := by
    simp only [sized, List.length_append, List.length_singleton, List.length_replicate]
    omega
  have fused := overwrite_overwrite one (List.replicate n 0)
  rw [List.length_singleton] at fused
  intro buffer
  have written : buffer = overwrite ctx.buffer (xs.length % 64) ([0x80] ++ List.replicate n 0) := fused
  rw [written, length_overwrite all]
  have upTo := take_overwrite all
  rw [absorbed.pending, List.length_append, List.length_replicate, List.length_singleton, ← Nat.add_assoc] at upTo
  exact ⟨sized, upTo⟩

/-- Together with the last eight bytes, the padded buffer brings the message and its padding to an end. -/
theorem Context.Absorbed.pad {ctx : Context} {is224 : Bool} {xs : List UInt8} (absorbed : ctx.Absorbed is224 xs)
    {last : List UInt8} (eight : last.length = 8) :
    (pad ctx).is224 = is224 ∧ (pad ctx).buffer.length = 64 ∧
      process (pad ctx).state ((pad ctx).buffer.take 56 ++ last) =
        whole 64 process (initialState is224)
          (xs ++ 0x80 :: (List.replicate ((119 - xs.length % 64) % 64) 0 ++ last)) := by
  have length : (leftover 64 xs).length = xs.length % 64 := length_leftover
  have some : xs.length % 64 < 64 := Nat.mod_lt _ (by decide)
  rw [whole_append (by decide), ← absorbed.state, Sha256.pad]
  simp only [absorbed.used]
  split
  · rename_i fits
    have zeros : (119 - xs.length % 64) % 64 = 56 - (xs.length % 64 + 1) := by omega
    have upTo : xs.length % 64 + 1 + (56 - (xs.length % 64 + 1)) = 56 := by omega
    obtain ⟨sized, filled⟩ := absorbed.marked (n := 56 - (xs.length % 64 + 1)) (by omega)
    rw [upTo] at filled
    refine ⟨absorbed.variant, sized, ?_⟩
    have block : (leftover 64 xs ++ 0x80 :: (List.replicate (56 - (xs.length % 64 + 1)) 0 ++ last)).length = 64 := by
      simp only [List.length_append, List.length_cons, List.length_replicate, length, eight]
      omega
    dsimp only
    rw [filled, zeros, whole_single block (by decide), List.append_assoc, List.cons_append]
  · rename_i beyond
    have upTo : xs.length % 64 + 1 + (64 - (xs.length % 64 + 1)) = 64 := by omega
    have zeros : (119 - xs.length % 64) % 64 = 64 - (xs.length % 64 + 1) + 56 := by omega
    obtain ⟨sized, filled⟩ := absorbed.marked (n := 64 - (xs.length % 64 + 1)) (by omega)
    rw [upTo, List.take_of_length_le (Nat.le_of_eq sized)] at filled
    have fresh : (overwrite (leftover 64 xs ++ 0x80 :: List.replicate (64 - (xs.length % 64 + 1)) 0) 0
        (List.replicate 56 0)).take 56 = List.replicate 56 0 := by
      have front : 0 + (List.replicate 56 (0 : UInt8)).length ≤
          (leftover 64 xs ++ 0x80 :: List.replicate (64 - (xs.length % 64 + 1)) 0).length := by
        rw [← filled, sized]
        decide
      simpa using take_overwrite front
    have block : (leftover 64 xs ++ 0x80 :: List.replicate (64 - (xs.length % 64 + 1)) 0).length = 64 := filled ▸ sized
    have final : (List.replicate 56 0 ++ last).length = 64 := by
      rw [List.length_append, List.length_replicate, eight]
    have split : leftover 64 xs ++ 0x80 :: (List.replicate (64 - (xs.length % 64 + 1) + 56) 0 ++ last) =
        (leftover 64 xs ++ 0x80 :: List.replicate (64 - (xs.length % 64 + 1)) 0) ++ (List.replicate 56 0 ++ last) := by
      rw [← List.replicate_append_replicate]
      simp
    dsimp only
    rw [filled, fresh, zeros, split, whole_block block (by decide), whole_single final (by decide)]
    refine ⟨absorbed.variant, ?_, rfl⟩
    rw [length_overwrite]
    · exact block
    · rw [block]
      decide

theorem length_putUint32Be (n : UInt32) : (putUint32Be n).length = 4 := rfl

/-- What a context holds in the end is the digest of all it was given; it may be started again. -/
theorem Context.Absorbed.finish {ctx : Context} {is224 : Bool} {xs : List UInt8} (absorbed : ctx.Absorbed is224 xs) :
    (finish ctx).2 = digest is224 xs ∧ (finish ctx).1.buffer.length = 64 := by
  have bits := length_bytes absorbed.counted
  have eight : (leBytes 8 (8 * xs.length)).reverse.length = 8 := by rw [List.length_reverse, length_leBytes]
  obtain ⟨variant, sized, final⟩ := absorbed.pad eight
  have room : 56 + (putUint32Be (ctx.total0 >>> 29 ||| ctx.total1 <<< 3)).length ≤ (Sha256.pad ctx).buffer.length := by
    rw [sized, length_putUint32Be]
    decide
  have block : overwrite (overwrite (Sha256.pad ctx).buffer 56 (putUint32Be (ctx.total0 >>> 29 ||| ctx.total1 <<< 3))) 60
      (putUint32Be (ctx.total0 <<< 3)) = (Sha256.pad ctx).buffer.take 56 ++ (leBytes 8 (8 * xs.length)).reverse := by
    have fused := overwrite_overwrite room (putUint32Be (ctx.total0 <<< 3))
    rw [length_putUint32Be, bits] at fused
    rw [fused, overwrite_end]
    rw [eight, sized]
  simp only [Sha256.finish, block, variant, final]
  refine ⟨rfl, ?_⟩
  rw [List.length_append, List.length_take, sized, eight]
  rfl

/-! ### The buffer -/

/-- However a message is cut into pieces, the digest is that of the whole message. -/
theorem sha256_streaming (ctx : Context) (sized : ctx.buffer.length = 64) (is224 : Bool) (pieces : List (List UInt8))
    (small : ∀ piece ∈ pieces, piece.length < 2 ^ 32) :
    (Sha256.finish (pieces.foldl Sha256.update (starts ctx is224))).2 = digest is224 pieces.flatten := by
  have absorbed := (absorbed_starts sized is224).updates small
  exact absorbed.finish.1

theorem sha256_streaming_abc :
    (Sha256.finish ([[0x61], [], [0x62, 0x63]].foldl Sha256.update (starts init false))).2 = digest false [0x61, 0x62, 0x63] :=
  sha256_streaming init rfl false [[0x61], [], [0x62, 0x63]] (by decide)

/-! ### Collisions -/

theorem flatMap_putUint32Be_inj {xs ys : List UInt32} (same : xs.flatMap putUint32Be = ys.flatMap putUint32Be) : xs = ys := by
  induction xs generalizing ys with
  | nil =>
    cases ys with
    | nil => rfl
    | cons y rest => cases same
  | cons x xs ih =>
    cases ys with
    | nil => cases same
    | cons y ys =>
      obtain ⟨first, rest⟩ := List.append_inj same rfl
      rw [putUint32Be_eq, putUint32Be_eq, List.reverse_inj] at first
      have word := leBytes_inj x.toNat_lt y.toNat_lt first
      rw [UInt32.toNat_inj.mp word, ih rest]

theorem length_padding (message : List UInt8) : (message ++ padding message.length).length % 64 = 0 := by
  simp only [padding, List.length_append, List.length_cons, List.length_replicate, List.length_reverse, length_leBytes]
  omega

/-- The padded message is a number of blocks and a last one, which tells the length. -/
theorem exists_last_block (message : List UInt8) :
    ∃ n front last, message ++ padding message.length = front ++ last ∧ front.length = 64 * n ∧ last.length = 64 ∧
      last.drop 56 = (leBytes 8 (8 * message.length)).reverse := by
  have padded : message ++ padding message.length = (message ++ 0x80 :: List.replicate ((119 - message.length % 64) % 64) 0) ++
      (leBytes 8 (8 * message.length)).reverse := by simp [padding]
  have blocks := length_padding message
  have longer : (message ++ padding message.length).length =
      (message ++ 0x80 :: List.replicate ((119 - message.length % 64) % 64) 0).length + 8 := by
    rw [padded, List.length_append, List.length_reverse, length_leBytes]
  generalize message ++ padding message.length = bytes at padded blocks longer
  refine ⟨bytes.length / 64 - 1, bytes.take (64 * (bytes.length / 64 - 1)), bytes.drop (64 * (bytes.length / 64 - 1)),
    (List.take_append_drop ..).symm, ?_, ?_, ?_⟩
  · rw [List.length_take]
    omega
  · rw [List.length_drop]
    omega
  · have place : 64 * (bytes.length / 64 - 1) + 56 =
        (message ++ 0x80 :: List.replicate ((119 - message.length % 64) % 64) 0).length := by omega
    rw [List.drop_drop, place, padded, List.drop_left]

theorem output_inj {s t : State} (same : output false s = output false t) : s = t :=
  Vector.toList_inj.mp (flatMap_putUint32Be_inj same)

/-- The calls of the block function that the digest of a message takes. -/
def compressions (message : List UInt8) : List (State × List UInt8) :=
  let padded := message ++ padding message.length
  steps 64 process (padded.length / 64) (initialState false) padded

/-- Two messages with one digest are the same, or a block of the one collides with a block of the other. -/
theorem sha256_binds (message message' : List UInt8) (short : message.length < 2 ^ 61) (short' : message'.length < 2 ^ 61)
    (same : digest false message = digest false message') :
    message = message' ∨ Collide process (compressions message) (compressions message') := by
  have joined := output_inj same
  rw [whole, whole] at joined
  rw [Classical.or_iff_not_imp_left]
  intro differ
  rw [compressions, compressions]
  by_cases lengths : message.length = message'.length
  · have blocks := length_padding message
    have blocks' := length_padding message'
    have total : (message ++ padding message.length).length = (message' ++ padding message'.length).length := by
      rw [List.length_append, List.length_append, lengths]
    rw [total] at joined ⊢
    refine collide_of_absorb_eq ?_ ?_ ?_ joined
    · omega
    · omega
    · intro equal
      exact differ (List.append_inj_left (Prod.mk.inj equal).2 lengths)
  · obtain ⟨m, front, last, padded, before, block, bits⟩ := exists_last_block message
    obtain ⟨n, front', last', padded', before', block', bits'⟩ := exists_last_block message'
    have count : (front ++ last).length / 64 = m + 1 := by
      rw [List.length_append]
      omega
    have count' : (front' ++ last').length / 64 = n + 1 := by
      rw [List.length_append]
      omega
    rw [padded, padded', count, count'] at joined ⊢
    refine collide_of_last_ne before before' block block' ?_ joined
    rintro rfl
    rw [bits, List.reverse_inj] at bits'
    have bound : 8 * message.length < 256 ^ 8 := by omega
    have bound' : 8 * message'.length < 256 ^ 8 := by omega
    have := leBytes_inj bound bound' bits'
    omega

end IotPlatform.Sha256
