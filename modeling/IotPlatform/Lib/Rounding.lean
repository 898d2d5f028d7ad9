import IotPlatform.Lib.Binary32

/-!
# Overflow and underflow of the rounding

A quotient of naturals is rounded to zero up to half the least magnitude, and to infinity from half a step above the
greatest one on.
-/

namespace IotPlatform.Binary32

variable {p q : Nat}

/-! ### The nearest integer -/

theorem lt_divNearest_iff (positive : 0 < q) (n : Nat) :
    n < divNearest p q ↔ (2 * n + 1) * q < 2 * p ∨ (2 * n + 1) * q = 2 * p ∧ n % 2 = 1 := by
  have split : q * (p / q) + p % q = p := Nat.div_add_mod p q
  have small : p % q < q := Nat.mod_lt p positive
  have product : (2 * n + 1) * q = 2 * (q * n) + q := by ring
  rw [divNearest, product]
  generalize p / q = low at split ⊢
  generalize p % q = rest at split small ⊢
  rcases Nat.lt_trichotomy n low with below | rfl | above
  · have le : q * n + q ≤ q * low := by
      rw [← Nat.mul_succ]
      exact Nat.mul_le_mul_left q below
    have less : n < if 2 * rest < q ∨ 2 * rest = q ∧ low % 2 = 0 then low else low + 1 := by
      split <;> omega
    exact iff_of_true less (.inl (by omega))
  · split <;> omega
  · have le : q * low + q ≤ q * n := by
      rw [← Nat.mul_succ]
      exact Nat.mul_le_mul_left q above
    refine iff_of_false ?_ ?_
    · split <;> omega
    · omega

theorem divNearest_eq_zero_iff (positive : 0 < q) : divNearest p q = 0 ↔ 2 * p ≤ q := by
  have above := lt_divNearest_iff (p := p) positive 0
  omega

/-! ### The exponent -/

/-- Where `2 ^ e` stands to `p / q`. -/
def Leads (p q : Nat) (e : Int) : Prop :=
  q * 2 ^ e.toNat ≤ p * 2 ^ (-e).toNat ∧ p * 2 ^ (-(e + 1)).toNat < q * 2 ^ (e + 1).toNat

theorem leads_natCast (k : Nat) : Leads p q k ↔ q * 2 ^ k ≤ p ∧ p < q * 2 ^ (k + 1) := by
  have low : (-(k : Int)).toNat = 0 := by omega
  have high : (-((k : Int) + 1)).toNat = 0 := by omega
  have next : ((k : Int) + 1).toNat = k + 1 := by omega
  rw [Leads, Int.toNat_natCast, low, high, next, Nat.pow_zero, Nat.mul_one]

theorem leads_negSucc (k : Nat) : Leads p q (.negSucc k) ↔ q ≤ p * 2 ^ (k + 1) ∧ p * 2 ^ k < q := by
  have low : (-Int.negSucc k).toNat = k + 1 := by omega
  have high : (-(Int.negSucc k + 1)).toNat = k := by omega
  have next : (Int.negSucc k + 1).toNat = 0 := by omega
  rw [Leads, Int.toNat_negSucc, low, high, next, Nat.pow_zero, Nat.mul_one]

/-- The lengths of `p` and `q` give the exponent but for one. -/
theorem leads_estimate (nonzero : p ≠ 0) (positive : 0 < q) :
    let estimate : Int := (p.log2 : Int) - q.log2
    Leads p q (if p * 2 ^ (-estimate).toNat < q * 2 ^ estimate.toNat then estimate - 1 else estimate) := by
  have pLow := Nat.log2_self_le nonzero
  have pHigh : p < 2 ^ (p.log2 + 1) := Nat.lt_log2_self
  have qLow := Nat.log2_self_le (Nat.ne_of_gt positive)
  have qHigh : q < 2 ^ (q.log2 + 1) := Nat.lt_log2_self
  generalize p.log2 = a at pLow pHigh
  generalize q.log2 = b at qLow qHigh
  dsimp only
  rcases Nat.lt_or_ge a b with less | le
  · obtain ⟨k, rfl⟩ := Nat.exists_eq_add_of_lt less
    have estimate : (a : Int) - ↑(a + k + 1) = .negSucc k := by omega
    have before : Int.negSucc k - 1 = .negSucc (k + 1) := rfl
    have down : (-Int.negSucc k).toNat = k + 1 := by omega
    rw [estimate, before, down, Int.toNat_negSucc, Nat.pow_zero, Nat.mul_one]
    split
    · rename_i below
      refine (leads_negSucc (k + 1)).mpr ⟨?_, below⟩
      calc q ≤ 2 ^ (a + k + 1 + 1) := Nat.le_of_lt qHigh
        _ = 2 ^ a * 2 ^ (k + 1 + 1) := by ring
        _ ≤ p * 2 ^ (k + 1 + 1) := Nat.mul_le_mul_right _ pLow
    · rename_i above
      refine (leads_negSucc k).mpr ⟨Nat.le_of_not_lt above, ?_⟩
      calc p * 2 ^ k < 2 ^ (a + 1) * 2 ^ k := Nat.mul_lt_mul_of_pos_right pHigh (Nat.two_pow_pos k)
        _ = 2 ^ (a + k + 1) := by ring
        _ ≤ q := qLow
  · obtain ⟨k, rfl⟩ := Nat.exists_eq_add_of_le le
    have estimate : ((b + k : Nat) : Int) - b = k := by omega
    have up : (-(k : Int)).toNat = 0 := by omega
    have high : 2 ^ (b + k + 1) ≤ q * 2 ^ (k + 1) := calc
      2 ^ (b + k + 1) = 2 ^ b * 2 ^ (k + 1) := by ring
      _ ≤ q * 2 ^ (k + 1) := Nat.mul_le_mul_right _ qLow
    rw [estimate, up, Int.toNat_natCast, Nat.pow_zero, Nat.mul_one]
    split
    · rename_i below
      cases k with
      | zero =>
        refine (leads_negSucc 0).mpr ⟨?_, by simpa using below⟩
        rw [Nat.add_zero] at pLow
        rw [Nat.pow_succ] at qHigh ⊢
        omega
      | succ j =>
        have before : ((j + 1 : Nat) : Int) - 1 = j := by omega
        rw [before]
        refine (leads_natCast j).mpr ⟨?_, below⟩
        calc q * 2 ^ j ≤ 2 ^ (b + 1) * 2 ^ j := Nat.mul_le_mul_right _ (Nat.le_of_lt qHigh)
          _ = 2 ^ (b + (j + 1)) := by ring
          _ ≤ p := pLow
    · rename_i above
      exact (leads_natCast k).mpr ⟨Nat.le_of_not_lt above, Nat.lt_of_lt_of_le pHigh high⟩

theorem roundMagnitude_eq (nonzero : p ≠ 0) (positive : 0 < q) :
    ∃ e, Leads p q e ∧ roundMagnitude p q = min infMagnitude ((max e (-126) + 126).toNat * 2 ^ 23 +
      divNearest (p * 2 ^ (-(max e (-126) - 23)).toNat) (q * 2 ^ (max e (-126) - 23).toNat)) := by
  refine ⟨_, leads_estimate nonzero positive, ?_⟩
  rw [roundMagnitude, if_neg nonzero]

/-- The exponent is at least `n` exactly when the quotient is at least its power. -/
theorem Leads.le_iff {e : Int} (leads : Leads p q e) (n : Nat) : (n : Int) ≤ e ↔ q * 2 ^ n ≤ p := by
  cases e with
  | ofNat k =>
    obtain ⟨low, high⟩ := (leads_natCast k).mp leads
    rw [Int.ofNat_eq_natCast, Int.ofNat_le]
    constructor
    · intro le
      exact Nat.le_trans (Nat.mul_le_mul_left q (Nat.pow_le_pow_right (by decide) le)) low
    · intro above
      apply Nat.le_of_not_lt
      intro less
      have more : q * 2 ^ (k + 1) ≤ q * 2 ^ n := Nat.mul_le_mul_left q (Nat.pow_le_pow_right (by decide) less)
      omega
  | negSucc k =>
    obtain ⟨-, high⟩ := (leads_negSucc k).mp leads
    refine iff_of_false (by omega) fun above => ?_
    have shorter : p ≤ p * 2 ^ k := Nat.le_mul_of_pos_right p (Nat.two_pow_pos k)
    have longer : q ≤ q * 2 ^ n := Nat.le_mul_of_pos_right q (Nat.two_pow_pos n)
    omega

theorem divNearest_le {n : Nat} (positive : 0 < q) (below : p < n * q) : divNearest p q ≤ n := by
  apply Nat.le_of_not_lt
  rw [lt_divNearest_iff positive]
  have product : (2 * n + 1) * q = 2 * (n * q) + q := by ring
  omega

theorem Leads.scaled_lt {e : Int} (leads : Leads p q e) :
    p * 2 ^ (-(e - 23)).toNat < 2 ^ 24 * (q * 2 ^ (e - 23).toNat) := by
  cases e with
  | ofNat k =>
    obtain ⟨-, high⟩ := (leads_natCast k).mp leads
    rw [Int.ofNat_eq_natCast]
    rcases Nat.lt_or_ge k 23 with small | large
    · obtain ⟨j, twentyThree⟩ := Nat.exists_eq_add_of_lt small
      have left : (-((k : Int) - 23)).toNat = j + 1 := by omega
      have right : ((k : Int) - 23).toNat = 0 := by omega
      rw [left, right]
      calc p * 2 ^ (j + 1) < q * 2 ^ (k + 1) * 2 ^ (j + 1) := Nat.mul_lt_mul_of_pos_right high (Nat.two_pow_pos _)
        _ = q * 2 ^ (k + j + 1 + 1) := by ring
        _ = 2 ^ 24 * (q * 2 ^ 0) := by rw [← twentyThree]; ring
    · obtain ⟨j, rfl⟩ := Nat.exists_eq_add_of_le large
      have left : (-(((23 + j : Nat) : Int) - 23)).toNat = 0 := by omega
      have right : (((23 + j : Nat) : Int) - 23).toNat = j := by omega
      rw [left, right, Nat.pow_zero, Nat.mul_one]
      calc p < q * 2 ^ (23 + j + 1) := high
        _ = 2 ^ 24 * (q * 2 ^ j) := by ring
  | negSucc k =>
    obtain ⟨-, high⟩ := (leads_negSucc k).mp leads
    have left : (-(Int.negSucc k - 23)).toNat = k + 24 := by omega
    have right : (Int.negSucc k - 23).toNat = 0 := by omega
    rw [left, right, Nat.pow_zero, Nat.mul_one]
    calc p * 2 ^ (k + 24) = p * 2 ^ k * 2 ^ 24 := by ring
      _ < q * 2 ^ 24 := Nat.mul_lt_mul_of_pos_right high (Nat.two_pow_pos 24)
      _ = 2 ^ 24 * q := Nat.mul_comm _ _

/-- The digits kept have at most the length of a fraction. -/
theorem Leads.digits_le {e : Int} (leads : Leads p q e) (positive : 0 < q) :
    divNearest (p * 2 ^ (-(max e (-126) - 23)).toNat) (q * 2 ^ (max e (-126) - 23).toNat) ≤ 2 ^ 24 := by
  rcases le_or_gt (-126) e with normal | subnormal
  · rw [max_eq_left normal]
    exact divNearest_le (Nat.mul_pos positive (Nat.two_pow_pos _)) leads.scaled_lt
  · obtain ⟨k, rfl⟩ : ∃ k : Nat, e = .negSucc (k + 125) := ⟨(-e - 126).toNat, by omega⟩
    obtain ⟨-, high⟩ := (leads_negSucc (k + 125)).mp leads
    have left : (-((-126 : Int) - 23)).toNat = 149 := rfl
    have right : ((-126 : Int) - 23).toNat = 0 := rfl
    rw [max_eq_right (Int.le_of_lt subnormal), left, right, Nat.pow_zero, Nat.mul_one]
    apply divNearest_le positive
    calc p * 2 ^ 149 ≤ p * 2 ^ 149 * 2 ^ k := Nat.le_mul_of_pos_right _ (Nat.two_pow_pos k)
      _ = 2 ^ 24 * (p * 2 ^ (k + 125)) := by ring
      _ < 2 ^ 24 * q := Nat.mul_lt_mul_of_pos_left high (by decide)

/-! ### Zero and infinity -/

theorem roundMagnitude_eq_zero_iff (positive : 0 < q) : roundMagnitude p q = 0 ↔ p * 2 ^ 150 ≤ q := by
  by_cases nonzero : p = 0
  · simp [nonzero, roundMagnitude]
  obtain ⟨e, leads, rounded⟩ := roundMagnitude_eq nonzero positive
  have inf : infMagnitude = 255 * 2 ^ 23 := rfl
  rcases lt_or_ge (-126) e with normal | subnormal
  · rw [max_eq_left (Int.le_of_lt normal)] at rounded
    refine iff_of_false (by omega) fun tiny => ?_
    cases e with
    | ofNat k =>
      obtain ⟨low, -⟩ := (leads_natCast k).mp leads
      have longer : q ≤ q * 2 ^ k := Nat.le_mul_of_pos_right q (Nat.two_pow_pos k)
      omega
    | negSucc k =>
      obtain ⟨low, -⟩ := (leads_negSucc k).mp leads
      have shift : p * 2 ^ (k + 1) ≤ p * 2 ^ 149 := Nat.mul_le_mul_left p (Nat.pow_le_pow_right (by decide) (by omega))
      omega
  · rw [max_eq_right subnormal] at rounded
    have digits := divNearest_eq_zero_iff (p := p * 2 ^ 149) positive
    have step : (-((-126 : Int) - 23)).toNat = 149 ∧ ((-126 : Int) - 23).toNat = 0 ∧ ((-126 : Int) + 126).toNat = 0 := by decide
    rw [step.1, step.2.1, step.2.2, Nat.pow_zero, Nat.mul_one, Nat.zero_mul, Nat.zero_add] at rounded
    omega

theorem roundMagnitude_eq_inf_iff (positive : 0 < q) :
    roundMagnitude p q = infMagnitude ↔ (2 ^ 25 - 1) * 2 ^ 103 * q ≤ p := by
  have inf : infMagnitude = 255 * 2 ^ 23 := rfl
  by_cases nonzero : p = 0
  · have zero : roundMagnitude p q = 0 := by rw [roundMagnitude, if_pos nonzero]
    omega
  obtain ⟨e, leads, rounded⟩ := roundMagnitude_eq nonzero positive
  have digits := leads.digits_le positive
  rcases lt_or_ge e 127 with finite | large
  · -- below the last exponent neither side holds
    have small : ¬q * 2 ^ 127 ≤ p := fun above => by
      have le := (leads.le_iff 127).mpr above
      omega
    refine iff_of_false ?_ (by omega)
    have exponent : (max e (-126) + 126).toNat ≤ 252 := by omega
    rw [rounded]
    omega
  · obtain ⟨k, rfl⟩ : ∃ k : Nat, e = (k + 127 : Nat) := ⟨(e - 127).toNat, by omega⟩
    obtain ⟨low, -⟩ := (leads_natCast (k + 127)).mp leads
    have exponent : (max ((k + 127 : Nat) : Int) (-126) + 126).toNat = k + 253 := by omega
    have left : (-(max ((k + 127 : Nat) : Int) (-126) - 23)).toNat = 0 := by omega
    have right : (max ((k + 127 : Nat) : Int) (-126) - 23).toNat = k + 104 := by omega
    rw [exponent, left, right, Nat.pow_zero, Nat.mul_one] at rounded
    have scaled : 0 < q * 2 ^ (k + 104) := Nat.mul_pos positive (Nat.two_pow_pos _)
    cases k with
    | zero =>
      -- at the last exponent the digits have to carry
      have carry := lt_divNearest_iff (p := p) scaled (2 ^ 24 - 1)
      have threshold : (2 * (2 ^ 24 - 1) + 1) * (q * 2 ^ (0 + 104)) = 2 * ((2 ^ 25 - 1) * 2 ^ 103 * q) := by ring
      rw [threshold] at carry
      omega
    | succ k =>
      have kept := (lt_divNearest_iff (p := p) scaled (2 ^ 23 - 1)).mpr
      have whole : 2 ^ 24 * (q * 2 ^ (k + 1 + 104)) = 2 * (q * 2 ^ (k + 1 + 127)) := by ring
      have least : q * 2 ^ 128 ≤ p := calc
        q * 2 ^ 128 ≤ q * 2 ^ 128 * 2 ^ k := Nat.le_mul_of_pos_right _ (Nat.two_pow_pos k)
        _ = q * 2 ^ (k + 1 + 127) := by ring
        _ ≤ p := low
      have digits : 2 ^ 23 ≤ divNearest p (q * 2 ^ (k + 1 + 104)) := kept (.inl (by omega))
      exact iff_of_true (by omega) (by omega)

end IotPlatform.Binary32
