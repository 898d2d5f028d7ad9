import Mathlib.Data.List.Nodup
import IotPlatform.Crypto.CcmMode

/-!
# What CCM computes

The one pass of `ccm.c` as the two things it does: the message under a stream of counter blocks, no two of them the same, and
a CBC-MAC of the nonce, the additional data and the message in a format in which none is the beginning of another.
-/

namespace IotPlatform.CcmMode
open Bytes

theorem incrementCounter_leBytes (q n : Nat) : incrementCounter (leBytes q n) = leBytes q (n + 1) := by
  induction q generalizing n with
  | zero => rfl
  | succ q ih =>
    have low : UInt8.ofNat n + 1 = UInt8.ofNat (n + 1) := (UInt8.ofNat_add n 1).symm
    have value : (UInt8.ofNat (n + 1)).toNat = (n + 1) % 256 := UInt8.toNat_ofNat'
    rw [leBytes, leBytes, incrementCounter, low]
    split
    · rename_i stays
      have high : (n + 1) / 256 = n / 256 := by
        have wraps : (n + 1) % 256 ≠ 0 := fun zero => stays (UInt8.toNat_inj.mp (value.trans zero))
        omega
      rw [high]
    · rename_i wraps
      have high : (n + 1) / 256 = n / 256 + 1 := by
        have zero : (n + 1) % 256 = 0 := by rw [← value, Decidable.not_not.mp wraps]; rfl
        omega
      rw [ih, high]

/-- The block of counter `n` under a nonce. -/
def counterBlock (iv : List UInt8) (n : Nat) : Block :=
  let q := 15 - iv.length
  padded ((UInt8.ofNat q - 1) :: iv ++ (leBytes q n).reverse)

/-- Pieces of 16 bytes, the last one of what is left. -/
def pieces (bytes : List UInt8) : List (List UInt8) :=
  (List.range ((bytes.length + 15) / 16)).map fun i => (bytes.drop (16 * i)).take 16

def cbcMac (cipher : Cipher) (y : Block) (blocks : List Block) : Block := blocks.foldl (updateCbcMac cipher) y

/-- What is authenticated: the first block, the additional data behind its length, and the message, each in whole blocks. -/
def formatted (iv add message : List UInt8) (tagLen : Nat) : List Block :=
  let additional := if add = [] then [] else pieces ((leBytes 2 add.length).reverse ++ add)
  firstBlock message.length iv add.length tagLen :: (additional ++ pieces message).map padded

/-- A message under the cipher's blocks of the counters from `n` on. -/
def counterMode (cipher : Cipher) (iv : List UInt8) (n : Nat) (message : List UInt8) : List UInt8 :=
  ((pieces message).zipIdx n).flatMap fun piece =>
    List.zipWith (· ^^^ ·) piece.1 (cipher (counterBlock iv piece.2)).toList

theorem pieces_nil : pieces [] = [] := rfl

theorem pieces_step {bytes : List UInt8} (some : bytes ≠ []) : pieces bytes = bytes.take 16 :: pieces (bytes.drop 16) := by
  have pos := List.length_pos_iff.mpr some
  have count : (bytes.length + 15) / 16 = ((bytes.drop 16).length + 15) / 16 + 1 := by
    rw [List.length_drop]
    omega
  rw [pieces, pieces, count, List.range_succ_eq_map, List.map_cons, List.map_map, Nat.mul_zero, List.drop_zero]
  congr 1
  refine List.map_congr_left fun i _ => ?_
  rw [Function.comp_apply, List.drop_drop, Nat.mul_succ, Nat.add_comm]

section Loops

variable {cipher : Cipher} {rounds : Nat} {src : List UInt8}

theorem macData_eq (enough : src.length ≤ rounds) (y : Block) :
    macData cipher rounds y src = cbcMac cipher y ((pieces src).map padded) := by
  induction rounds generalizing y src with
  | zero =>
    rw [List.eq_nil_of_length_eq_zero (Nat.le_zero.mp enough)]
    rfl
  | succ rounds ih =>
    rw [macData]
    split
    · rename_i none
      rw [none, pieces_nil]
      rfl
    · rename_i some
      have fewer : (src.drop 16).length ≤ rounds := by
        rw [List.length_drop]
        omega
      rw [ih fewer, pieces_step some]
      rfl

/-- The counter runs along with the pieces. -/
theorem cryptLoop_eq (enough : src.length ≤ rounds) (iv : List UInt8) (y : Block) (n : Nat) :
    cryptLoop cipher .encrypt rounds y ⟨(UInt8.ofNat (15 - iv.length) - 1) :: iv, leBytes (15 - iv.length) n⟩ src =
      (cbcMac cipher y ((pieces src).map padded), counterMode cipher iv n src) := by
  induction rounds generalizing y n src with
  | zero =>
    rw [List.eq_nil_of_length_eq_zero (Nat.le_zero.mp enough)]
    rfl
  | succ rounds ih =>
    rw [cryptLoop]
    split
    · rename_i none
      rw [none]
      rfl
    · rename_i some
      have fewer : (src.drop 16).length ≤ rounds := by
        rw [List.length_drop]
        omega
      simp only [incrementCounter_leBytes, ih fewer, counterMode, pieces_step some, List.zipIdx_cons, List.flatMap_cons]
      rfl

end Loops

theorem leBytes_zero (w : Nat) : leBytes w 0 = List.replicate w 0 := by
  induction w with
  | zero => rfl
  | succ w ih =>
    rw [leBytes, List.replicate_succ, Nat.zero_div, ih]
    rfl

theorem firstCounter_eq {iv : List UInt8} (nonce : iv.length ≤ 13) :
    firstCounter iv = ⟨(UInt8.ofNat (15 - iv.length) - 1) :: iv, leBytes (15 - iv.length) 1⟩ := by
  obtain ⟨q, counted⟩ : ∃ q, 15 - iv.length = q + 1 := ⟨14 - iv.length, by omega⟩
  rw [firstCounter, counted, leBytes, Nat.add_sub_cancel, Nat.div_eq_of_lt (by decide), leBytes_zero]
  rfl

theorem macStart_eq (cipher : Cipher) (length : Nat) (iv add : List UInt8) (tagLen : Nat) :
    macStart cipher length iv add tagLen =
      cbcMac cipher (.replicate 16 0) (firstBlock length iv add.length tagLen ::
        (if add = [] then [] else pieces ((leBytes 2 add.length).reverse ++ add)).map padded) := by
  by_cases none : add = []
  · subst none
    rfl
  · have two : (leBytes 2 add.length).reverse.length = 2 := by rw [List.length_reverse, length_leBytes]
    have some : (leBytes 2 add.length).reverse ++ add ≠ [] := List.append_ne_nil_of_right_ne_nil _ none
    have enough : (add.drop 14).length ≤ add.length := List.length_drop ▸ Nat.sub_le ..
    have first : ((leBytes 2 add.length).reverse ++ add).take 16 = (leBytes 2 add.length).reverse ++ add.take 14 := by
      rw [List.take_append, two, List.take_of_length_le (by omega)]
    have behind : ((leBytes 2 add.length).reverse ++ add).drop 16 = add.drop 14 := by
      rw [List.drop_append, two, List.drop_of_length_le (by omega), List.nil_append]
    rw [macStart, if_neg none, pieces_step some, first, behind, if_pos (List.length_pos_iff.mpr none), macData_eq enough]
    rfl

/-- The first block is 16 bytes: none of them is left out, and none is added. -/
theorem length_firstBlock {iv : List UInt8} (nonce : iv.length ≤ 13) (flags : UInt8) (n : Nat) :
    (flags :: iv ++ (leBytes (15 - iv.length) n).reverse).length = 16 := by
  simp only [List.cons_append, List.length_cons, List.length_append, List.length_reverse, length_leBytes]
  omega

theorem padded_inj {xs ys : List UInt8} (same : xs.length = ys.length) (fits : xs.length ≤ 16)
    (equal : padded xs = padded ys) : xs = ys := by
  have cut (zs : List UInt8) (short : zs.length ≤ 16) : (padded zs).toList.take zs.length = zs := by
    refine List.ext_getElem (by simp [short]) fun i inside inside' => ?_
    simp [padded, List.getElem?_eq_getElem inside']
  rw [← cut xs fits, equal, same, cut ys (same ▸ fits)]

theorem counterBlock_inj {iv : List UInt8} (nonce : iv.length ≤ 13) {m n : Nat} (small : m < 256 ^ (15 - iv.length))
    (small' : n < 256 ^ (15 - iv.length)) (same : counterBlock iv m = counterBlock iv n) : m = n := by
  have bytes := padded_inj ((length_firstBlock nonce _ m).trans (length_firstBlock nonce _ n).symm)
    (Nat.le_of_eq (length_firstBlock nonce _ m)) same
  exact leBytes_inj small small' (List.reverse_inj.mp (List.append_cancel_left bytes))

/-- There are more counters than blocks. -/
theorem pieces_few {iv input : List UInt8} (nonce : iv.length ≤ 13) (short : input.length < 256 ^ (15 - iv.length)) :
    (pieces input).length + 1 ≤ 256 ^ (15 - iv.length) := by
  have wide : 256 ^ 2 ≤ 256 ^ (15 - iv.length) := Nat.pow_le_pow_right (by decide) (by omega)
  rw [pieces, List.length_map, List.length_range]
  omega

/-- Encryption is counter mode from one on and a CBC-MAC under counter zero, on counter blocks that are all different. -/
theorem ccm_computes (cipher : Cipher) (iv add input output tag : List UInt8) (tagLen : Nat) :
    (ccmAuthCrypt cipher .encrypt iv add input tagLen = some (output, tag) ↔
      LengthsAllowed iv.length add.length input.length tagLen ∧ output = counterMode cipher iv 1 input ∧
        tag = (List.zipWith (· ^^^ ·) (cbcMac cipher (.replicate 16 0) (formatted iv add input tagLen)).toList
          (cipher (counterBlock iv 0)).toList).take tagLen) ∧
      (LengthsAllowed iv.length add.length input.length tagLen →
        ((List.range ((pieces input).length + 1)).map (counterBlock iv)).Nodup) := by
  constructor
  · rw [ccmAuthCrypt_eq_some_iff]
    refine and_congr_right fun allowed => ?_
    have masked : ∀ y : Block, maskTag cipher iv y tagLen =
        (List.zipWith (· ^^^ ·) y.toList (cipher (counterBlock iv 0)).toList).take tagLen := by
      intro y
      have zeros : leBytes (15 - iv.length) 0 = List.replicate (15 - iv.length) 0 := leBytes_zero _
      rw [maskTag, ctrCrypt, counterBlock, zeros]
      rfl
    have whole : cbcMac cipher (macStart cipher input.length iv add tagLen) ((pieces input).map padded) =
        cbcMac cipher (.replicate 16 0) (formatted iv add input tagLen) := by
      rw [macStart_eq, formatted, List.map_append, ← List.cons_append, cbcMac, cbcMac, cbcMac, List.foldl_append]
    rw [firstCounter_eq allowed.nonce.2, cryptLoop_eq (Nat.le_refl _), whole]
    constructor
    · rintro ⟨y, passed, rfl⟩
      obtain ⟨rfl, rfl⟩ := Prod.mk.inj passed
      exact ⟨rfl, masked _⟩
    · rintro ⟨rfl, rfl⟩
      exact ⟨_, rfl, masked _⟩
  · intro allowed
    have blocks := pieces_few allowed.nonce.2 allowed.message
    refine List.nodup_range.map_on fun m within n within' same => ?_
    rw [List.mem_range] at within within'
    exact counterBlock_inj allowed.nonce.2 (by omega) (by omega) same

/-! ### The format -/

theorem flags_toNat {addLen tagLen q : Nat} (tag : 4 ≤ tagLen ∧ tagLen ≤ 16 ∧ tagLen % 2 = 0) (width : 2 ≤ q ∧ q ≤ 8) :
    (flags addLen tagLen q).toNat = (if addLen > 0 then 64 else 0) + (tagLen - 2) / 2 * 8 + (q - 1) := by
  have bits : ∀ present ∈ [true, false], ∀ t < 17, ∀ q < 9, 4 ≤ t → t % 2 = 0 → 2 ≤ q →
      ((if present then (1 : UInt8) <<< 6 else 0) ||| (((UInt32.ofNat t - 2) / 2) <<< (3 : UInt32)).toUInt8 |||
        (UInt8.ofNat q - 1)).toNat = (if present then 64 else 0) + (t - 2) / 2 * 8 + (q - 1) := by decide
  have now := bits (decide (addLen > 0)) (by cases decide (addLen > 0) <;> decide) tagLen (by omega) q (by omega) tag.1
    tag.2.2 width.1
  simp only [decide_eq_true_eq] at now
  exact now

theorem pieces_inj {xs ys : List UInt8} {rest rest' : List Block} (same : xs.length = ys.length)
    (equal : (pieces xs).map padded ++ rest = (pieces ys).map padded ++ rest') : xs = ys ∧ rest = rest' := by
  obtain ⟨n, bound⟩ : ∃ n, xs.length ≤ n := ⟨_, Nat.le_refl _⟩
  induction n generalizing xs ys with
  | zero =>
    have none : xs = [] := List.eq_nil_of_length_eq_zero (Nat.le_zero.mp bound)
    have none' : ys = [] := List.eq_nil_of_length_eq_zero (by omega)
    subst none none'
    exact ⟨rfl, equal⟩
  | succ n ih =>
    by_cases none : xs = []
    · have none' : ys = [] := List.eq_nil_of_length_eq_zero (by rw [← same, none, List.length_nil])
      subst none none'
      exact ⟨rfl, equal⟩
    · have pos := List.length_pos_iff.mpr none
      have some : ys ≠ [] := List.length_pos_iff.mp (same ▸ pos)
      rw [pieces_step none, pieces_step some] at equal
      obtain ⟨first, behind⟩ := List.cons.inj equal
      have heads : xs.take 16 = ys.take 16 :=
        padded_inj (by rw [List.length_take, List.length_take, same]) (List.length_take_le ..) first
      have lengths : (xs.drop 16).length = (ys.drop 16).length := by rw [List.length_drop, List.length_drop, same]
      have fewer : (xs.drop 16).length ≤ n := by
        rw [List.length_drop]
        omega
      obtain ⟨tails, rests⟩ := ih lengths behind fewer
      exact ⟨by rw [← List.take_append_drop 16 xs, ← List.take_append_drop 16 ys, heads, tails], rests⟩

theorem take_padded {bytes : List UInt8} {n : Nat} (inside : n ≤ bytes.length) (fits : n ≤ 16) :
    (padded bytes).toList.take n = bytes.take n := by
  refine List.ext_getElem (by simp [inside, fits]) fun i before _ => ?_
  rw [List.length_take] at before
  have within : i < bytes.length := by omega
  simp [padded, List.getElem?_eq_getElem within]

theorem length_of_additional {add add' : List UInt8} {rest rest' : List Block} (few : add.length < 0xFF00)
    (few' : add'.length < 0xFF00)
    (same : (pieces ((leBytes 2 add.length).reverse ++ add)).map padded ++ rest =
      (pieces ((leBytes 2 add'.length).reverse ++ add')).map padded ++ rest') : add.length = add'.length := by
  have front : ∀ add : List UInt8, (leBytes 2 add.length).reverse ++ add ≠ [] ∧
      (padded (((leBytes 2 add.length).reverse ++ add).take 16)).toList.take 2 = (leBytes 2 add.length).reverse := by
    intro add
    have two : (leBytes 2 add.length).reverse.length = 2 := by rw [List.length_reverse, length_leBytes]
    have long : 2 ≤ (((leBytes 2 add.length).reverse ++ add).take 16).length := by
      rw [List.length_take, List.length_append, two]
      omega
    refine ⟨List.append_ne_nil_of_left_ne_nil (List.ne_nil_of_length_eq_add_one two) _, ?_⟩
    rw [take_padded long (by decide), List.take_take, Nat.min_eq_left (by decide), List.take_left' two]
  rw [pieces_step (front add).1, pieces_step (front add').1] at same
  have first := congrArg (fun block => block.toList.take 2) (List.cons.inj same).1
  rw [(front add).2, (front add').2, List.reverse_inj] at first
  exact leBytes_inj (by omega) (by omega) first

theorem firstBlock_inj {length length' addLen addLen' tagLen tagLen' : Nat} {iv iv' : List UInt8}
    (allowed : LengthsAllowed iv.length addLen length tagLen) (allowed' : LengthsAllowed iv'.length addLen' length' tagLen')
    (tagged : tagLen ≠ 0) (tagged' : tagLen' ≠ 0)
    (same : firstBlock length iv addLen tagLen = firstBlock length' iv' addLen' tagLen') :
    iv = iv' ∧ length = length' ∧ tagLen = tagLen' ∧ (addLen = 0 ↔ addLen' = 0) := by
  obtain ⟨tag, nonce, -, short⟩ := allowed
  obtain ⟨tag', nonce', -, short'⟩ := allowed'
  have sized : ∀ {iv : List UInt8} (length addLen tagLen : Nat), iv.length ≤ 13 →
      (flags addLen tagLen (15 - iv.length) :: iv ++ (leBytes (15 - iv.length) length).reverse).length = 16 :=
    fun length addLen tagLen nonce => length_firstBlock nonce _ length
  have bytes := padded_inj ((sized length addLen tagLen nonce.2).trans (sized length' addLen' tagLen' nonce'.2).symm)
    (Nat.le_of_eq (sized length addLen tagLen nonce.2)) same
  rw [List.cons_append, List.cons_append] at bytes
  obtain ⟨first, behind⟩ := List.cons.inj bytes
  have values := congrArg UInt8.toNat first
  rw [flags_toNat (by omega) (by omega), flags_toNat (by omega) (by omega)] at values
  have decoded : iv.length = iv'.length ∧ tagLen = tagLen' ∧ (addLen > 0 ↔ addLen' > 0) := by
    split at values <;> split at values <;> omega
  obtain ⟨nonces, tags, present⟩ := decoded
  obtain ⟨equal, lengths⟩ := List.append_inj behind nonces
  subst equal
  exact ⟨rfl, leBytes_inj short short' (List.reverse_inj.mp lengths), tags, by omega⟩

/-- No authenticated stream is the beginning of another one: it tells its nonce, its additional data, its message and its
tag length. -/
theorem formatted_prefix_free (iv iv' add add' message message' : List UInt8) (tagLen tagLen' : Nat)
    (allowed : LengthsAllowed iv.length add.length message.length tagLen)
    (allowed' : LengthsAllowed iv'.length add'.length message'.length tagLen') (tagged : tagLen ≠ 0) (tagged' : tagLen' ≠ 0)
    (leads : formatted iv add message tagLen <+: formatted iv' add' message' tagLen') :
    iv = iv' ∧ add = add' ∧ message = message' ∧ tagLen = tagLen' := by
  obtain ⟨more, joined⟩ := leads
  rw [formatted, formatted, List.cons_append, List.map_append, List.map_append] at joined
  obtain ⟨first, behind⟩ := List.cons.inj joined
  obtain ⟨rfl, length, rfl, present⟩ := firstBlock_inj allowed allowed' tagged tagged' first
  rw [List.length_eq_zero_iff, List.length_eq_zero_iff] at present
  rw [List.append_assoc] at behind
  have additional : add = add' ∧ (pieces message).map padded ++ more = (pieces message').map padded := by
    by_cases none : add = []
    · have none' := present.mp none
      subst none none'
      exact ⟨rfl, behind⟩
    · have none' := fun empty => none (present.mpr empty)
      rw [if_neg none, if_neg none'] at behind
      have lengths := length_of_additional allowed.additional allowed'.additional behind
      obtain ⟨data, rests⟩ := pieces_inj (by simp [lengths]) behind
      rw [lengths] at data
      exact ⟨List.append_cancel_left data, rests⟩
  obtain ⟨rfl, messages⟩ := additional
  rw [← List.append_nil ((pieces message').map padded)] at messages
  exact ⟨rfl, rfl, (pieces_inj length messages).1, rfl⟩

theorem formatted_prefix_free_itself :
    ([1, 2, 3, 4, 5, 6, 7] : List UInt8) = [1, 2, 3, 4, 5, 6, 7] ∧ ([8] : List UInt8) = [8] ∧ ([9, 9] : List UInt8) = [9, 9] ∧
      4 = 4 := by
  have allowed : LengthsAllowed 7 1 2 4 := ⟨by decide, by decide, by decide, by decide⟩
  exact formatted_prefix_free [1, 2, 3, 4, 5, 6, 7] [1, 2, 3, 4, 5, 6, 7] [8] [8] [9, 9] [9, 9] 4 4 allowed allowed (by decide)
    (by decide) (List.prefix_refl _)

end IotPlatform.CcmMode
