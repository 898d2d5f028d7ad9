import Mathlib.Data.List.Nodup

/-!
# Numbered occurrences

The elements of a list, each with the number of times it has come before, and when a label of the element and a counter
that wraps still tell them apart.
-/

namespace IotPlatform.Occurrences

variable {α β γ : Type} [DecidableEq α]

def occurrencesFrom (seen : List α) : List α → List (α × Nat)
  | [] => []
  | x :: rest => (x, seen.count x) :: occurrencesFrom (x :: seen) rest

def occurrences (xs : List α) : List (α × Nat) := occurrencesFrom [] xs

theorem occurrencesFrom_concat (seen xs : List α) (x : α) :
    occurrencesFrom seen (xs ++ [x]) = occurrencesFrom seen xs ++ [(x, seen.count x + xs.count x)] := by
  induction xs generalizing seen with
  | nil => rfl
  | cons y rest ih =>
    rw [List.cons_append, occurrencesFrom, ih, occurrencesFrom, List.cons_append, List.count_cons, List.count_cons,
      Nat.add_assoc, Nat.add_comm (List.count x rest)]

theorem occurrences_concat (xs : List α) (x : α) :
    occurrences (xs ++ [x]) = occurrences xs ++ [(x, xs.count x)] := by
  rw [occurrences, occurrencesFrom_concat, List.count_nil, Nat.zero_add, occurrences]

theorem mem_occurrencesFrom {seen xs : List α} {x : α} {k : Nat} :
    (x, k) ∈ occurrencesFrom seen xs ↔ seen.count x ≤ k ∧ k < seen.count x + xs.count x := by
  induction xs generalizing seen with
  | nil =>
    simp only [occurrencesFrom, List.not_mem_nil, List.count_nil, Nat.add_zero, false_iff]
    omega
  | cons y rest ih =>
    rw [occurrencesFrom, List.mem_cons, ih, Prod.mk.injEq, List.count_cons, List.count_cons]
    by_cases same : y = x
    · subst same
      simp only [true_and, beq_self_eq_true, if_true]
      omega
    · have other : ¬ x = y := fun eq => same eq.symm
      simp only [other, false_and, false_or, beq_iff_eq, same, if_false, Nat.add_zero]

theorem mem_occurrences {xs : List α} {x : α} {k : Nat} : (x, k) ∈ occurrences xs ↔ k < xs.count x := by
  rw [occurrences, mem_occurrencesFrom, List.count_nil, Nat.zero_add]
  exact and_iff_right (Nat.zero_le k)

theorem nodup_occurrencesFrom (seen xs : List α) : (occurrencesFrom seen xs).Nodup := by
  induction xs generalizing seen with
  | nil => exact List.nodup_nil
  | cons x rest ih =>
    refine List.nodup_cons.mpr ⟨fun later => ?_, ih (x :: seen)⟩
    have above := (mem_occurrencesFrom.mp later).1
    rw [List.count_cons_self] at above
    omega

theorem nodup_occurrences (xs : List α) : (occurrences xs).Nodup := nodup_occurrencesFrom [] xs

/-- A label and a counter that wraps at `m` tell the occurrences apart exactly when no two elements share a label and none
comes more than `m` times. -/
theorem nodup_labelled_iff (label : α → β) {wrap : Nat → γ} {m : Nat} (wraps : ∀ k l, wrap k = wrap l ↔ k % m = l % m)
    (positive : 0 < m) (xs : List α) :
    ((occurrences xs).map fun o => (label o.1, wrap o.2)).Nodup ↔
      (∀ x ∈ xs, ∀ y ∈ xs, label x = label y → x = y) ∧ ∀ x, xs.count x ≤ m := by
  rw [List.nodup_map_iff_inj_on (nodup_occurrences xs)]
  constructor
  · intro apart
    refine ⟨fun x in_x y in_y same => ?_, fun x => ?_⟩
    · have first := apart (x, 0) (mem_occurrences.mpr (List.count_pos_iff.mpr in_x)) (y, 0)
        (mem_occurrences.mpr (List.count_pos_iff.mpr in_y)) (by rw [same])
      exact congrArg Prod.fst first
    · by_contra many
      have lap : wrap 0 = wrap m := (wraps 0 m).mpr (by rw [Nat.zero_mod, Nat.mod_self])
      have first := apart (x, 0) (mem_occurrences.mpr (by omega)) (x, m) (mem_occurrences.mpr (by omega)) (by rw [lap])
      have zero := congrArg Prod.snd first
      exact absurd zero (Nat.ne_of_lt positive)
  · rintro ⟨distinct, few⟩ ⟨x, k⟩ in_x ⟨y, l⟩ in_y same
    have below_k := mem_occurrences.mp in_x
    have below_l := mem_occurrences.mp in_y
    obtain ⟨same_label, same_counter⟩ := Prod.mk.inj same
    obtain rfl : x = y := distinct x (List.count_pos_iff.mp (by omega)) y (List.count_pos_iff.mp (by omega)) same_label
    have bound := few x
    have same_number := (wraps k l).mp same_counter
    rw [Nat.mod_eq_of_lt (by omega), Nat.mod_eq_of_lt (by omega)] at same_number
    rw [same_number]

end IotPlatform.Occurrences
