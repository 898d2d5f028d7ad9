import Mathlib.Data.List.Basic

/-!
# Tests that only turn true

Along a list on which a test, once true, stays true, the elements that pass are a suffix: filtering, dropping the
failing head and cutting the list by a position agree.
-/

namespace IotPlatform.Suffix

variable {α : Type} {p : α → Bool} {xs : List α}

/-- Once `p` is true it stays true. -/
def Rising (p : α → Bool) (xs : List α) : Prop := xs.Pairwise fun x y => p x = true → p y = true

theorem Rising.sublist {ys : List α} (rising : Rising p xs) (part : ys.Sublist xs) : Rising p ys :=
  List.Pairwise.sublist part rising

theorem Rising.filter_of_head {x : α} (rising : Rising p (x :: xs)) (passes : p x = true) :
    (x :: xs).filter p = x :: xs := by
  rw [List.filter_eq_self]
  intro y member
  rcases List.mem_cons.mp member with rfl | later
  · exact passes
  · exact (List.pairwise_cons.mp rising).1 y later passes

theorem Rising.dropWhile_eq_filter {fails : α → Bool} (rising : Rising p xs) (opposite : ∀ x ∈ xs, fails x = !p x) :
    xs.dropWhile fails = xs.filter p := by
  induction xs with
  | nil => rfl
  | cons x xs ih =>
    have head := opposite x List.mem_cons_self
    cases passes : p x with
    | true =>
      rw [rising.filter_of_head passes, List.dropWhile_cons_of_neg]
      simp [head, passes]
    | false =>
      rw [List.filter_cons_of_neg (by simp [passes]), List.dropWhile_cons_of_pos (by simp [head, passes])]
      exact ih (List.pairwise_cons.mp rising).2 fun y member => opposite y (List.mem_cons_of_mem _ member)

theorem Rising.filter_drop (rising : Rising p xs) :
    ∃ cut, cut ≤ xs.length ∧ ∀ m, (xs.drop m).filter p = xs.drop (max m cut) := by
  induction xs with
  | nil => exact ⟨0, Nat.le_refl _, by simp⟩
  | cons x xs ih =>
    cases passes : p x with
    | true =>
      refine ⟨0, Nat.zero_le _, fun m => ?_⟩
      have all := List.filter_eq_self.mp (rising.filter_of_head passes)
      rw [Nat.max_zero, List.filter_eq_self]
      exact fun y member => all y (List.mem_of_mem_drop member)
    | false =>
      obtain ⟨cut, bound, cuts⟩ := ih (List.pairwise_cons.mp rising).2
      refine ⟨cut + 1, Nat.succ_le_succ bound, fun m => ?_⟩
      cases m with
      | zero =>
        have tail := cuts 0
        rw [List.drop_zero, Nat.zero_max] at tail
        rw [List.drop_zero, Nat.zero_max, List.filter_cons_of_neg (by simp [passes]), tail, List.drop_succ_cons]
      | succ m => rw [List.drop_succ_cons, cuts m, Nat.succ_max_succ, List.drop_succ_cons]

/-- What the weaker of two tests takes from the front passes the stronger one exactly when the first element that fails
the stronger one fails the weaker one too. -/
theorem forall_takeWhile_iff {q : α → Bool} (weaker : ∀ x, p x = true → q x = true) :
    (∀ x ∈ xs.takeWhile q, p x = true) ↔ ∀ x, (xs.dropWhile p).head? = some x → q x = false := by
  induction xs with
  | nil => simp
  | cons y ys ih =>
    cases strong : p y with
    | true => simp [strong, weaker y strong, ih]
    | false =>
      cases weak : q y with
      | true => simp [strong, weak]
      | false => simp [strong, weak]

end IotPlatform.Suffix
