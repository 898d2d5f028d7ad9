import Mathlib.Logic.Function.Iterate

/-!
# Cyclic redundancy codes

The shift register of a CRC of width `w`, most significant bit first. `feed` adds a bit to the top of the register and
shifts; `poly` is the polynomial without its leading term. A message followed by its own CRC leaves the register at
zero, the register is linear in exclusive or, and so an altered codeword is accepted exactly when the error pattern by
itself leaves an empty register at zero.
-/

namespace IotPlatform.Crc

/-! ### Words of bits -/

def parityOf (bits : List Bool) : Bool := bits.foldr xor false

theorem parityOf_cons (bit : Bool) (bits : List Bool) : parityOf (bit :: bits) = (bit ^^ parityOf bits) := rfl

theorem parityOf_append (xs ys : List Bool) : parityOf (xs ++ ys) = (parityOf xs ^^ parityOf ys) := by
  induction xs with
  | nil => simp [parityOf]
  | cons x xs ih => rw [List.cons_append, parityOf_cons, parityOf_cons, ih, Bool.xor_assoc]

theorem parityOf_eq_count (bits : List Bool) : parityOf bits = decide (bits.count true % 2 = 1) := by
  induction bits with
  | nil => rfl
  | cons bit bits ih =>
    rw [parityOf_cons, ih]
    cases bit
    · rw [List.count_cons_of_ne (by decide), Bool.false_xor]
    · rw [List.count_cons_self, Bool.true_xor, ← decide_not, decide_eq_decide]
      omega

theorem parityOf_zipWith {xs ys : List Bool} (sameLength : xs.length = ys.length) :
    parityOf (List.zipWith xor xs ys) = (parityOf xs ^^ parityOf ys) := by
  induction xs generalizing ys with
  | nil =>
    cases ys with
    | nil => rfl
    | cons y ys => cases sameLength
  | cons x xs ih =>
    cases ys with
    | nil => cases sameLength
    | cons y ys =>
      rw [List.zipWith_cons_cons, parityOf_cons, parityOf_cons, parityOf_cons, ih (Nat.succ.inj sameLength)]
      cases x <;> cases y <;> simp

theorem zipWith_replicate_false (bits : List Bool) :
    List.zipWith xor (List.replicate bits.length false) bits = bits := by
  induction bits with
  | nil => rfl
  | cons bit bits ih => rw [List.length_cons, List.replicate_succ, List.zipWith_cons_cons, ih, Bool.false_xor]

theorem split_at_first {bits : List Bool} (some : 0 < bits.count true) :
    ∃ before rest, bits = List.replicate before false ++ true :: rest ∧ rest.count true + 1 = bits.count true := by
  induction bits with
  | nil => exact absurd some (by decide)
  | cons bit bits ih =>
    cases bit
    · rw [List.count_cons_of_ne (by decide)] at some ⊢
      obtain ⟨before, rest, rfl, count⟩ := ih some
      exact ⟨before + 1, rest, rfl, count⟩
    · exact ⟨0, bits, rfl, by rw [List.count_cons_self]⟩

theorem eq_replicate_of_count {bits : List Bool} (none : bits.count true = 0) :
    bits = List.replicate bits.length false := by
  rw [List.eq_replicate_iff]
  refine ⟨rfl, fun bit member => ?_⟩
  cases bit
  · rfl
  · exact absurd member (List.count_eq_zero.mp none)

section Register

variable {w : Nat}

def msbBits (n : Nat) (x : BitVec w) : List Bool := (List.range n).map x.getMsbD

@[simp] theorem length_msbBits (n : Nat) (x : BitVec w) : (msbBits n x).length = n := by simp [msbBits]

theorem msbBits_succ (n : Nat) (x : BitVec w) : msbBits (n + 1) x = msbBits n x ++ [x.getMsbD n] := by
  simp [msbBits, List.range_succ]

theorem msbBits_succ_left (n : Nat) (x : BitVec w) : msbBits (n + 1) x = x.msb :: msbBits n (x <<< 1) := by
  simp only [msbBits, List.range_succ_eq_map, List.map_cons, List.map_map, List.cons.injEq, BitVec.msb, true_and]
  apply List.map_congr_left
  intro i _
  simp only [Function.comp, BitVec.getMsbD_shiftLeft, Nat.succ_eq_add_one]

theorem msbBits_xor (n : Nat) (x y : BitVec w) : msbBits n (x ^^^ y) = List.zipWith xor (msbBits n x) (msbBits n y) := by
  simp [msbBits, List.zipWith_map]

theorem msbBits_append {m n : Nat} (x : BitVec m) (y : BitVec n) :
    msbBits (m + n) (x ++ y) = msbBits m x ++ msbBits n y := by
  rw [msbBits, List.range_add, List.map_append, List.map_map]
  refine congrArg₂ (· ++ ·) (List.map_congr_left fun i inside => ?_) (List.map_congr_left fun i _ => ?_)
  · rw [BitVec.getMsbD_append, if_neg (by rw [List.mem_range] at inside; omega)]
  · rw [Function.comp_apply, BitVec.getMsbD_append, if_pos (Nat.le_add_right m i), Nat.add_sub_cancel_left]

def parity (x : BitVec w) : Bool := parityOf (msbBits w x)

theorem parity_xor (x y : BitVec w) : parity (x ^^^ y) = (parity x ^^ parity y) := by
  rw [parity, msbBits_xor, parityOf_zipWith (by simp), parity, parity]

theorem parity_shiftLeft (x : BitVec w) : parity (x <<< 1) = (parity x ^^ x.msb) := by
  have left := msbBits_succ_left w x
  rw [msbBits_succ, BitVec.getMsbD_of_ge x w (Nat.le_refl w)] at left
  have whole := congrArg parityOf left
  rw [parityOf_append, parityOf_cons x.msb] at whole
  rw [parity, parity]
  revert whole
  cases parityOf (msbBits w x) <;> cases parityOf (msbBits w (x <<< 1)) <;> cases x.msb <;> decide

/-! ### The register -/

variable (poly : BitVec w)

def shift (crc : BitVec w) : BitVec w := if crc.msb then (crc <<< 1) ^^^ poly else crc <<< 1

/-- One round with the next bit of the message. -/
def feed (crc : BitVec w) (bit : Bool) : BitVec w := if crc.msb ^^ bit then (crc <<< 1) ^^^ poly else crc <<< 1

def feedAll (crc : BitVec w) (bits : List Bool) : BitVec w := bits.foldl (feed poly) crc

theorem feed_false (crc : BitVec w) : feed poly crc false = shift poly crc := by
  rw [feed, shift, Bool.xor_false]

theorem feed_xor (a b : BitVec w) (x y : Bool) : feed poly (a ^^^ b) (x ^^ y) = feed poly a x ^^^ feed poly b y := by
  have apart : (a ^^^ b) <<< 1 = (a <<< 1) ^^^ (b <<< 1) := BitVec.shiftLeft_xor_distrib a b 1
  have cancel : ∀ c d : BitVec w, (c ^^^ poly) ^^^ (d ^^^ poly) = c ^^^ d := by
    intro c d
    rw [BitVec.xor_comm d poly, BitVec.xor_assoc, ← BitVec.xor_assoc poly poly, BitVec.xor_self, BitVec.zero_xor]
  have outside : ∀ c d : BitVec w, (c ^^^ poly) ^^^ d = (c ^^^ d) ^^^ poly := by
    intro c d
    rw [BitVec.xor_assoc, BitVec.xor_comm poly d, ← BitVec.xor_assoc]
  simp only [feed, BitVec.msb_xor, apart]
  cases a.msb <;> cases b.msb <;> cases x <;> cases y <;> simp [cancel, outside, BitVec.xor_assoc]

theorem feed_zero_true : feed poly 0#w true = poly := by simp [feed]

theorem feed_true (crc : BitVec w) : feed poly crc true = shift poly crc ^^^ poly := by
  have linear := feed_xor poly crc 0#w false true
  rw [BitVec.xor_zero, feed_false, feed_zero_true] at linear
  exact linear

theorem feedAll_append (crc : BitVec w) (xs ys : List Bool) :
    feedAll poly crc (xs ++ ys) = feedAll poly (feedAll poly crc xs) ys := List.foldl_append

theorem feedAll_xor {xs ys : List Bool} (sameLength : xs.length = ys.length) (a b : BitVec w) :
    feedAll poly (a ^^^ b) (List.zipWith xor xs ys) = feedAll poly a xs ^^^ feedAll poly b ys := by
  induction xs generalizing ys a b with
  | nil =>
    cases ys with
    | nil => rfl
    | cons y ys => cases sameLength
  | cons x xs ih =>
    cases ys with
    | nil => cases sameLength
    | cons y ys =>
      have rest := ih (Nat.succ.inj sameLength) (feed poly a x) (feed poly b y)
      rw [← feed_xor] at rest
      exact rest

theorem feedAll_replicate_false (n : Nat) (crc : BitVec w) :
    feedAll poly crc (List.replicate n false) = (shift poly)^[n] crc := by
  induction n generalizing crc with
  | zero => rfl
  | succ n ih =>
    rw [List.replicate_succ, Function.iterate_succ_apply, ← ih, ← feed_false]
    rfl

theorem shift_zero : shift poly 0#w = 0#w := by simp [shift]

theorem iterate_shift_zero (n : Nat) : (shift poly)^[n] 0#w = 0#w := Function.iterate_fixed (shift_zero poly) n

theorem shift_xor (a b : BitVec w) : shift poly (a ^^^ b) = shift poly a ^^^ shift poly b := by
  rw [← feed_false, ← feed_false, ← feed_false, ← feed_xor]
  rfl

/-- A register that takes in its own bits only moves up. -/
theorem feedAll_self (n : Nat) (x : BitVec w) : feedAll poly x (msbBits n x) = x <<< n := by
  induction n with
  | zero => simp [feedAll, msbBits]
  | succ n ih =>
    have top : (x <<< n).msb = x.getMsbD n := by simp [BitVec.msb]
    rw [msbBits_succ, feedAll_append, ih]
    show feed poly (x <<< n) (x.getMsbD n) = x <<< (n + 1)
    rw [feed, top, Bool.xor_self, if_neg (by decide), ← BitVec.shiftLeft_add]

/-- Feeding a word bit by bit is adding it at the top and shifting. -/
theorem feedAll_msbBits (n : Nat) (crc x : BitVec w) :
    feedAll poly crc (msbBits n x) = (shift poly)^[n] (crc ^^^ x) ^^^ (x <<< n) := by
  have zeros := zipWith_replicate_false (msbBits n x)
  rw [length_msbBits] at zeros
  have sameLength : (List.replicate n false).length = (msbBits n x).length := by
    rw [List.length_replicate, length_msbBits]
  have linear := feedAll_xor poly sameLength (crc ^^^ x) x
  rw [zeros, BitVec.xor_assoc, BitVec.xor_self, BitVec.xor_zero, feedAll_self, feedAll_replicate_false] at linear
  exact linear

theorem parity_feedAll (odd : parity poly = true) (crc : BitVec w) (bits : List Bool) :
    parity (feedAll poly crc bits) = (parity crc ^^ parityOf bits) := by
  induction bits generalizing crc with
  | nil => simp [feedAll, parityOf]
  | cons bit bits ih =>
    have step : parity (feed poly crc bit) = (parity crc ^^ bit) := by
      rw [feed]
      split
      · rename_i out
        rw [parity_xor, parity_shiftLeft, odd]
        revert out
        cases parity crc <;> cases crc.msb <;> cases bit <;> decide
      · rename_i stays
        rw [parity_shiftLeft]
        revert stays
        cases parity crc <;> cases crc.msb <;> cases bit <;> decide
    show parity (feedAll poly (feed poly crc bit) bits) = _
    rw [ih, step, parityOf_cons, Bool.xor_assoc]

/-! ### Codewords -/

theorem shift_injective (low : poly.getLsbD 0 = true) {a b : BitVec w} (same : shift poly a = shift poly b) : a = b := by
  have zero : shift poly (a ^^^ b) = 0#w := by rw [shift_xor, same, BitVec.xor_self]
  have wide : 0 < w := by
    apply Nat.pos_of_ne_zero
    rintro rfl
    rw [BitVec.getLsbD_of_ge poly 0 (Nat.le_refl 0)] at low
    cases low
  generalize difference : a ^^^ b = d at zero
  have top : d.msb = false := by
    apply Bool.eq_false_iff.mpr
    intro out
    rw [shift, if_pos out] at zero
    have bit := congrArg (fun x : BitVec w => x.getLsbD 0) zero
    simp [BitVec.getLsbD_xor, low] at bit
  have clear : d = 0#w := by
    rw [shift, if_neg (by simp [top])] at zero
    apply BitVec.eq_of_getLsbD_eq
    intro i _
    rcases Nat.lt_or_ge (i + 1) w with inside | last
    · have bit := congrArg (fun x : BitVec w => x.getLsbD (i + 1)) zero
      simp only [BitVec.getLsbD_shiftLeft, inside, decide_true, Bool.true_and, Nat.add_sub_cancel,
        BitVec.getLsbD_zero] at bit
      rw [BitVec.getLsbD_zero]
      simpa using bit
    · have here : i = w - 1 := by omega
      rw [BitVec.msb_eq_getLsbD_last] at top
      rw [here, top]
      simp
  rw [clear] at difference
  exact BitVec.xor_eq_zero_iff.mp difference

theorem iterate_shift_eq_zero (low : poly.getLsbD 0 = true) {n : Nat} {crc : BitVec w} :
    (shift poly)^[n] crc = 0#w ↔ crc = 0#w := by
  constructor
  · intro zero
    have injective : Function.Injective (shift poly) := fun _ _ same => shift_injective poly low same
    exact injective.iterate n (zero.trans (iterate_shift_zero poly n).symm)
  · rintro rfl
    exact iterate_shift_zero poly n

/-- A message with a check word leaves the register at zero exactly when the word is the message's CRC. -/
theorem codeword_iff (low : poly.getLsbD 0 = true) (init check : BitVec w) (message : List Bool) :
    feedAll poly init (message ++ msbBits w check) = 0#w ↔ check = feedAll poly init message := by
  rw [feedAll_append, feedAll_msbBits, BitVec.shiftLeft_eq_zero (Nat.le_refl w), BitVec.xor_zero,
    iterate_shift_eq_zero poly low]
  exact BitVec.xor_eq_zero_iff.trans ⟨Eq.symm, Eq.symm⟩

/-- Whether an altered codeword passes depends on the error pattern alone. -/
theorem altered_codeword_iff {init : BitVec w} {word error : List Bool} (sameLength : word.length = error.length)
    (codeword : feedAll poly init word = 0#w) :
    feedAll poly init (List.zipWith xor word error) = 0#w ↔ feedAll poly 0#w error = 0#w := by
  have linear := feedAll_xor poly sameLength init 0#w
  rw [BitVec.xor_zero, codeword, BitVec.zero_xor] at linear
  rw [linear]

/-! ### What the code detects -/

/-- A polynomial with an odd number of terms below the leading one detects every odd number of flipped bits. -/
theorem detects_odd (odd : parity poly = true) {error : List Bool} (weight : error.count true % 2 = 1) :
    feedAll poly 0#w error ≠ 0#w := by
  intro zero
  have preserved := parity_feedAll poly odd 0#w error
  rw [zero, parityOf_eq_count, weight] at preserved
  revert preserved
  cases parity 0#w <;> decide

/-- The register does not come back to the polynomial in fewer than `n` rounds. -/
def NoReturn (n : Nat) : Prop := ∀ m, 0 < m → m < n → (shift poly)^[m] poly ≠ poly

/-- The next `n` states of the register are not the polynomial. -/
def avoids : Nat → BitVec w → Bool
  | 0, _ => true
  | n + 1, crc => crc != poly && avoids n (shift poly crc)

theorem iterate_ne_of_avoids {n : Nat} {crc : BitVec w} (avoided : avoids poly n crc = true) {m : Nat} (inside : m < n) :
    (shift poly)^[m] crc ≠ poly := by
  induction n generalizing crc m with
  | zero => exact absurd inside (Nat.not_lt_zero m)
  | succ n ih =>
    simp only [avoids, Bool.and_eq_true, bne_iff_ne] at avoided
    cases m with
    | zero => exact avoided.1
    | succ m => exact ih avoided.2 (Nat.lt_of_succ_lt_succ inside)

theorem noReturn_of_avoids {n : Nat} (avoided : avoids poly n (shift poly poly) = true) : NoReturn poly (n + 1) := by
  intro m positive inside
  obtain ⟨m, rfl⟩ := Nat.exists_eq_succ_of_ne_zero (Nat.pos_iff_ne_zero.mp positive)
  exact iterate_ne_of_avoids poly avoided (Nat.lt_of_succ_lt_succ inside)

theorem feedAll_replicate_zero (n : Nat) : feedAll poly 0#w (List.replicate n false) = 0#w := by
  rw [feedAll_replicate_false, iterate_shift_zero]

theorem feedAll_first (before : Nat) (rest : List Bool) :
    feedAll poly 0#w (List.replicate before false ++ true :: rest) = feedAll poly poly rest := by
  rw [feedAll_append, feedAll_replicate_zero]
  show feedAll poly (feed poly 0#w true) rest = _
  rw [feed_zero_true]

theorem detects_two (low : poly.getLsbD 0 = true) {n : Nat} (noReturn : NoReturn poly n) {error : List Bool}
    (fits : error.length ≤ n) (weight : error.count true = 2) : feedAll poly 0#w error ≠ 0#w := by
  obtain ⟨before, rest, rfl, restWeight⟩ := split_at_first (show 0 < error.count true by omega)
  obtain ⟨between, last, rfl, lastWeight⟩ := split_at_first (show 0 < rest.count true by omega)
  have clean := eq_replicate_of_count (show last.count true = 0 by omega)
  rw [feedAll_first, feedAll_append, feedAll_replicate_false]
  intro zero
  have register : feedAll poly (feed poly ((shift poly)^[between] poly) true) last = 0#w := zero
  rw [clean, feedAll_replicate_false, iterate_shift_eq_zero poly low, feed_true, BitVec.xor_eq_zero_iff] at register
  apply noReturn (between + 1) (Nat.succ_pos _) _ ((Function.iterate_succ_apply' _ _ _).trans register)
  simp only [List.length_append, List.length_replicate, List.length_cons] at fits
  omega

end Register

theorem msbBits_ofBoolListBE (bits : List Bool) : msbBits bits.length (BitVec.ofBoolListBE bits) = bits := by
  apply List.ext_getElem (by simp)
  intro i _ inside
  simp [msbBits, BitVec.getMsbD_ofBoolListBE, List.getElem?_eq_getElem inside]

/-- As many bits as the register holds, not all of them clear, are never lost. -/
theorem detects_word {w : Nat} {poly : BitVec w} (low : poly.getLsbD 0 = true) {bits : List Bool}
    (width : bits.length = w) (some : 0 < bits.count true) : feedAll poly 0#w bits ≠ 0#w := by
  subst width
  intro zero
  have word := codeword_iff poly low (0#(bits.length)) (BitVec.ofBoolListBE bits) []
  rw [List.nil_append, msbBits_ofBoolListBE] at word
  have own := msbBits_ofBoolListBE bits
  rw [word.mp zero] at own
  have clear : bits.count true = 0 := by
    rw [← own]
    simp [feedAll, msbBits, List.count_eq_zero]
  omega

/-- Every flipped bit is one of the `n` from position `k`. -/
def Burst (k n : Nat) (error : List Bool) : Prop := ∀ i, error[i]? = some true → k ≤ i ∧ i < k + n

theorem detects_burst {w : Nat} {poly : BitVec w} (low : poly.getLsbD 0 = true) {k : Nat} {error : List Bool}
    (burst : Burst k w error) (some : 0 < error.count true) : feedAll poly 0#w error ≠ 0#w := by
  have clear : ∀ i, (i < k ∨ k + w ≤ i) → error[i]? ≠ .some true := by
    intro i outside set
    have inside := burst i set
    omega
  have head : (error.take k).count true = 0 := by
    rw [List.count_eq_zero, List.mem_iff_getElem?]
    rintro ⟨i, at_i⟩
    rw [List.getElem?_take] at at_i
    split at at_i
    · exact clear i (Or.inl ‹_›) at_i
    · cases at_i
  have tail : ((error.drop k).drop w).count true = 0 := by
    rw [List.count_eq_zero, List.mem_iff_getElem?]
    rintro ⟨i, at_i⟩
    rw [List.drop_drop, List.getElem?_drop] at at_i
    exact clear (k + w + i) (Or.inr (Nat.le_add_right _ _)) at_i
  have parts : error = error.take k ++ ((error.drop k).take w ++ (error.drop k).drop w) := by
    rw [List.take_append_drop, List.take_append_drop]
  have window : 0 < ((error.drop k).take w).count true := by
    have total := congrArg (List.count true) parts
    rw [List.count_append, List.count_append] at total
    omega
  -- A window cut short by the end of the word is filled up with clear bits.
  have width : ((error.drop k).take w ++ List.replicate (w - ((error.drop k).take w).length) false).length = w := by
    simp only [List.length_append, List.length_replicate, List.length_take]
    omega
  have filled := detects_word low width (by
    rw [List.count_append]
    omega)
  rw [feedAll_append, feedAll_replicate_false, ne_eq, iterate_shift_eq_zero poly low] at filled
  rw [parts, feedAll_append, feedAll_append, eq_replicate_of_count head, feedAll_replicate_zero,
    eq_replicate_of_count tail, feedAll_replicate_false, ne_eq, iterate_shift_eq_zero poly low]
  exact filled

/-! ### Bytes -/

/-- Most significant bit first. -/
def bitsOf (bytes : List UInt8) : List Bool := bytes.flatMap fun byte => msbBits 8 byte.toBitVec

theorem bitsOf_cons (byte : UInt8) (bytes : List UInt8) : bitsOf (byte :: bytes) = msbBits 8 byte.toBitVec ++ bitsOf bytes :=
  List.flatMap_cons

theorem bitsOf_append (xs ys : List UInt8) : bitsOf (xs ++ ys) = bitsOf xs ++ bitsOf ys := List.flatMap_append

@[simp] theorem length_bitsOf (bytes : List UInt8) : (bitsOf bytes).length = 8 * bytes.length := by
  induction bytes with
  | nil => rfl
  | cons byte bytes ih =>
    rw [bitsOf_cons, List.length_append, length_msbBits, ih, List.length_cons]
    omega

theorem bitsOf_zipWith_xor {xs ys : List UInt8} (sameLength : xs.length = ys.length) :
    bitsOf (List.zipWith (· ^^^ ·) xs ys) = List.zipWith xor (bitsOf xs) (bitsOf ys) := by
  induction xs generalizing ys with
  | nil =>
    cases ys with
    | nil => rfl
    | cons y ys => cases sameLength
  | cons x xs ih =>
    cases ys with
    | nil => cases sameLength
    | cons y ys =>
      rw [List.zipWith_cons_cons, bitsOf_cons, bitsOf_cons, bitsOf_cons, ih (Nat.succ.inj sameLength),
        UInt8.toBitVec_xor, msbBits_xor, List.zipWith_append (by simp)]

theorem count_bitsOf_perm {xs ys : List UInt8} (same : xs.Perm ys) :
    (bitsOf xs).count true = (bitsOf ys).count true := (same.flatMap_right _).count_eq true

end IotPlatform.Crc
