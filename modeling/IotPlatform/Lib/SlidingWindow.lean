import Mathlib.Data.Set.Insert
import Mathlib.Data.Nat.Init

/-!
# Sliding windows

A `w`-bit register beside a highest value `h` stands for a set of naturals: bit `i` says whether
`h - i` belongs to it. `Records` is that reading, with one rule for each way the register moves.
-/

namespace IotPlatform.SlidingWindow

variable {w : Nat} {bits : BitVec w} {h : Nat} {A : Set Nat}

/-- Bit `i` of the register records exactly whether `h - i` is in `A`. -/
def Records (bits : BitVec w) (h : Nat) (A : Set Nat) : Prop :=
  ∀ i < w, bits.getLsbD i = true ↔ i ≤ h ∧ h - i ∈ A

theorem getLsbD_one_iff {i : Nat} (hi : i < w) : (1 : BitVec w).getLsbD i = true ↔ i = 0 := by
  rw [show (1 : BitVec w) = 1#w from rfl, BitVec.getLsbD_one]
  simp only [Bool.and_eq_true, decide_eq_true_eq]
  omega

theorem getLsbD_mask_iff {i delta : Nat} (hi : i < w) :
    ((1 : BitVec w) <<< delta).getLsbD i = true ↔ i = delta := by
  simp only [BitVec.getLsbD_shiftLeft, Bool.and_eq_true, decide_eq_true_eq, Bool.not_eq_true',
    decide_eq_false_iff_not]
  constructor
  · rintro ⟨⟨_, reached⟩, bit⟩
    have zero := (getLsbD_one_iff (by omega)).mp bit
    omega
  · rintro rfl
    exact ⟨⟨hi, by omega⟩, (getLsbD_one_iff (by omega)).mpr (by omega)⟩

theorem records_first : Records (1 : BitVec w) h {h} := by
  intro i hi
  rw [getLsbD_one_iff hi, Set.mem_singleton_iff]
  omega

theorem records_advance (records : Records bits h A) (top : ∀ a ∈ A, a ≤ h) (shift : Nat) (positive : 0 < shift) :
    Records ((bits <<< shift) ||| 1) (h + shift) (insert (h + shift) A) := by
  intro i hi
  simp only [BitVec.getLsbD_or, BitVec.getLsbD_shiftLeft, Bool.or_eq_true, Bool.and_eq_true, decide_eq_true_eq,
    Bool.not_eq_true', decide_eq_false_iff_not, getLsbD_one_iff hi, Set.mem_insert_iff]
  constructor
  · rintro (⟨⟨_, reached⟩, bit⟩ | rfl)
    · obtain ⟨below, member⟩ := (records (i - shift) (by omega)).mp bit
      exact ⟨by omega, Or.inr (by rwa [show h + shift - i = h - (i - shift) by omega])⟩
    · exact ⟨by omega, Or.inl rfl⟩
  · rintro ⟨below, same | member⟩
    · exact Or.inr (by omega)
    · have bound := top _ member
      refine Or.inl ⟨⟨hi, by omega⟩, (records (i - shift) (by omega)).mpr ⟨by omega, ?_⟩⟩
      rwa [show h - (i - shift) = h + shift - i by omega]

theorem records_jump (top : ∀ a ∈ A, a ≤ h) {next : Nat} (far : h + w ≤ next) :
    Records (1 : BitVec w) next (insert next A) := by
  intro i hi
  rw [getLsbD_one_iff hi, Set.mem_insert_iff]
  constructor
  · rintro rfl
    exact ⟨by omega, Or.inl rfl⟩
  · rintro ⟨below, same | member⟩
    · omega
    · have bound := top _ member
      omega

theorem records_mark (records : Records bits h A) (delta : Nat) (below : delta ≤ h) :
    Records (bits ||| ((1 : BitVec w) <<< delta)) h (insert (h - delta) A) := by
  intro i hi
  rw [BitVec.getLsbD_or, Bool.or_eq_true, getLsbD_mask_iff hi, records i hi, Set.mem_insert_iff]
  constructor
  · rintro (⟨reach, member⟩ | rfl)
    · exact ⟨reach, Or.inr member⟩
    · exact ⟨below, Or.inl rfl⟩
  · rintro ⟨reach, same | member⟩
    · exact Or.inr (by omega)
    · exact Or.inl ⟨reach, member⟩

/-- The C test `bits & (1 << delta)` reads one bit. -/
theorem and_mask_eq_zero {delta : Nat} (hd : delta < w) :
    bits &&& ((1 : BitVec w) <<< delta) = 0 ↔ bits.getLsbD delta = false := by
  constructor
  · intro zero
    have bit := congrArg (fun b => b.getLsbD delta) zero
    simp only [BitVec.getLsbD_and, (getLsbD_mask_iff hd).mpr rfl, Bool.and_true] at bit
    exact bit.trans BitVec.getLsbD_zero
  · intro clear
    apply BitVec.eq_of_getLsbD_eq
    intro i hi
    rw [BitVec.getLsbD_and, show (0 : BitVec w).getLsbD i = false from BitVec.getLsbD_zero]
    by_cases same : i = delta
    · rw [same, clear, Bool.false_and]
    · rw [Bool.eq_false_iff.mpr fun bit => same ((getLsbD_mask_iff hi).mp bit), Bool.and_false]

theorem records_ne_zero (records : Records bits h A) (member : h ∈ A) (positive : 0 < w) : bits ≠ 0 := by
  rintro rfl
  have bit := (records 0 positive).mpr ⟨Nat.zero_le _, by simpa using member⟩
  simp at bit

end IotPlatform.SlidingWindow
