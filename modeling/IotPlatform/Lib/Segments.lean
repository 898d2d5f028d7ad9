import Mathlib.Data.List.TakeWhile

/-!
# Segments of a path

A list read as segments between separators.
-/

namespace IotPlatform.Segments

variable {α : Type} [DecidableEq α] {sep : α} {a b xs ys rest rest' : List α} {n : Nat}

/-- What follows the first `n` separators. -/
def skip (sep : α) : Nat → List α → Option (List α)
  | 0, xs => some xs
  | _ + 1, [] => none
  | n + 1, x :: rest => if x = sep then skip sep n rest else skip sep (n + 1) rest

theorem skip_zero (sep : α) (xs : List α) : skip sep 0 xs = some xs := by rw [skip]

theorem mem_of_skip {x : α} (skipped : skip sep n xs = some ys) (member : x ∈ ys) : x ∈ xs := by
  induction xs generalizing n with
  | nil =>
    cases n with
    | zero => exact Option.some.inj skipped ▸ member
    | succ n => cases skipped
  | cons y rest ih =>
    cases n with
    | zero => exact Option.some.inj skipped ▸ member
    | succ n =>
      rw [skip] at skipped
      split at skipped
      · exact List.mem_cons_of_mem y (ih skipped)
      · exact List.mem_cons_of_mem y (ih skipped)

def first (sep : α) (xs : List α) : List α := xs.takeWhile (· ≠ sep)

theorem skip_append (n : Nat) (free : sep ∉ a) : skip sep (n + 1) (a ++ sep :: rest) = skip sep n rest := by
  induction a with
  | nil => rw [List.nil_append, skip, if_pos rfl]
  | cons x tail ih =>
    rw [List.mem_cons, not_or] at free
    rw [List.cons_append, skip, if_neg (Ne.symm free.1), ih free.2]

theorem exists_of_skip (skipped : skip sep (n + 1) xs = some ys) :
    ∃ a rest, sep ∉ a ∧ xs = a ++ sep :: rest ∧ skip sep n rest = some ys := by
  induction xs with
  | nil => cases skipped
  | cons x tail ih =>
    rw [skip] at skipped
    split at skipped
    · rename_i same
      exact ⟨[], tail, List.not_mem_nil, by rw [same, List.nil_append], skipped⟩
    · rename_i other
      obtain ⟨a, rest, free, split, later⟩ := ih skipped
      refine ⟨x :: a, rest, ?_, by rw [split, List.cons_append], later⟩
      rw [List.mem_cons, not_or]
      exact ⟨Ne.symm other, free⟩

theorem keeps_of_free (free : sep ∉ a) : ∀ x ∈ a, decide (x ≠ sep) = true := by
  intro x member
  exact decide_eq_true fun same => free (same ▸ member)

theorem first_of_free (free : sep ∉ a) : first sep a = a := List.takeWhile_eq_self_iff.mpr (keeps_of_free free)

theorem first_append (free : sep ∉ a) : first sep (a ++ sep :: rest) = a := by
  rw [first, List.takeWhile_append_of_pos (keeps_of_free free), List.takeWhile_cons_of_neg (by simp), List.append_nil]

/-- A list is its first segment, and then nothing or a separator. -/
theorem eq_first_append (sep : α) (xs : List α) :
    ∃ rest, xs = first sep xs ++ rest ∧ (rest = [] ∨ ∃ tail, rest = sep :: tail) := by
  refine ⟨xs.dropWhile (· ≠ sep), (List.takeWhile_append_dropWhile).symm, ?_⟩
  cases dropped : xs.dropWhile (· ≠ sep) with
  | nil => exact .inl rfl
  | cons x tail =>
    have ends := List.head?_dropWhile_not (fun y => decide (y ≠ sep)) xs
    rw [dropped] at ends
    right
    exact ⟨tail, by simpa using ends⟩

theorem append_sep_inj (left : sep ∉ a) (right : sep ∉ b) (same : a ++ sep :: rest = b ++ sep :: rest') :
    a = b ∧ rest = rest' := by
  have heads := congrArg (first sep) same
  rw [first_append left, first_append right] at heads
  subst heads
  exact ⟨rfl, (List.cons.inj (List.append_cancel_left same)).2⟩

end IotPlatform.Segments
