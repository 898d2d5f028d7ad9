import Mathlib.Data.List.Basic

/-!
# Streams of blocks

An iterated function takes in a stream block by block: `absorb` is its state after `n` blocks. What is left over behind the
last complete block waits for the rest of the stream, so that the stream may come in pieces. Two streams that end in the same
state contain two steps that collide.
-/

namespace IotPlatform.BlockStream

variable {σ α : Type} (size : Nat) (step : σ → List α → σ)

def absorb : Nat → σ → List α → σ
  | 0, s, _ => s
  | n + 1, s, xs => absorb n (step s (xs.take size)) (xs.drop size)

/-- The state after all complete blocks. -/
def whole (s : σ) (xs : List α) : σ := absorb size step (xs.length / size) s xs

def leftover (xs : List α) : List α := xs.drop (size * (xs.length / size))

variable {size} {step} {s t : σ} {xs ys : List α} {m n : Nat}

theorem absorb_add (m n : Nat) (s : σ) (xs : List α) :
    absorb size step (m + n) s xs = absorb size step n (absorb size step m s xs) (xs.drop (size * m)) := by
  induction m generalizing s xs with
  | zero => rw [Nat.zero_add, absorb, Nat.mul_zero, List.drop_zero]
  | succ m ih =>
    have next : size + size * m = size * (m + 1) := by rw [Nat.mul_succ, Nat.add_comm]
    rw [Nat.succ_add, absorb, absorb, ih, List.drop_drop, next]

theorem absorb_append (long : size * n ≤ xs.length) (s : σ) (ys : List α) :
    absorb size step n s (xs ++ ys) = absorb size step n s xs := by
  induction n generalizing s xs with
  | zero => rfl
  | succ n ih =>
    rw [Nat.mul_succ] at long
    have first : size ≤ xs.length := by omega
    have rest : size * n ≤ (xs.drop size).length := by
      rw [List.length_drop]
      omega
    rw [absorb, absorb, List.take_append_of_le_length first, List.drop_append_of_le_length first, ih rest]

theorem whole_short (short : xs.length < size) (s : σ) : whole size step s xs = s := by
  rw [whole, Nat.div_eq_of_lt short, absorb]

theorem whole_block (full : xs.length = size) (pos : 0 < size) (s : σ) (ys : List α) :
    whole size step s (xs ++ ys) = whole size step (step s xs) ys := by
  rw [whole, whole, List.length_append, full, Nat.add_div_left _ pos, absorb, List.take_left' full, List.drop_left' full]

theorem whole_single (full : xs.length = size) (pos : 0 < size) (s : σ) : whole size step s xs = step s xs := by
  have none : ([] : List α).length < size := pos
  rw [← List.append_nil xs, whole_block full pos, whole_short none, List.append_nil]

theorem whole_step (enough : size ≤ xs.length) (pos : 0 < size) (s : σ) :
    whole size step s xs = whole size step (step s (xs.take size)) (xs.drop size) := by
  have full : (xs.take size).length = size := List.length_take_of_le enough
  rw [← whole_block full pos, List.take_append_drop]

theorem length_leftover : (leftover size xs).length = xs.length % size := by
  rw [leftover, List.length_drop]
  have := Nat.div_add_mod xs.length size
  omega

theorem leftover_short (short : xs.length < size) : leftover size xs = xs := by
  rw [leftover, Nat.div_eq_of_lt short, Nat.mul_zero, List.drop_zero]

theorem leftover_block (full : xs.length = size) (pos : 0 < size) (ys : List α) :
    leftover size (xs ++ ys) = leftover size ys := by
  rw [leftover, leftover, List.length_append, full, Nat.add_div_left _ pos, Nat.mul_succ, Nat.add_comm, ← List.drop_drop,
    List.drop_left' full]

theorem leftover_step (enough : size ≤ xs.length) (pos : 0 < size) :
    leftover size xs = leftover size (xs.drop size) := by
  have full : (xs.take size).length = size := List.length_take_of_le enough
  rw [← leftover_block full pos (xs.drop size), List.take_append_drop]

theorem div_append (pos : 0 < size) (xs ys : List α) :
    (xs ++ ys).length / size = xs.length / size + (leftover size xs ++ ys).length / size := by
  have split : (xs ++ ys).length = (leftover size xs ++ ys).length + size * (xs.length / size) := by
    have := Nat.div_add_mod xs.length size
    rw [List.length_append, List.length_append, length_leftover]
    omega
  rw [split, Nat.add_mul_div_left _ _ pos, Nat.add_comm]

theorem drop_complete (xs ys : List α) :
    (xs ++ ys).drop (size * (xs.length / size)) = leftover size xs ++ ys :=
  List.drop_append_of_le_length (Nat.mul_div_le xs.length size)

/-- A stream that comes in two pieces: the second is taken in behind what the first left over. -/
theorem whole_append (pos : 0 < size) (s : σ) (xs ys : List α) :
    whole size step s (xs ++ ys) = whole size step (whole size step s xs) (leftover size xs ++ ys) := by
  rw [whole, div_append pos, absorb_add, drop_complete, absorb_append (Nat.mul_div_le ..), whole, whole]

theorem leftover_append (pos : 0 < size) (xs ys : List α) :
    leftover size (xs ++ ys) = leftover size (leftover size xs ++ ys) := by
  rw [leftover, div_append pos, Nat.mul_add, ← List.drop_drop, drop_complete]
  rfl

/-! ### Collisions -/

variable (size step)

/-- The states and blocks that the steps are taken on. -/
def steps : Nat → σ → List α → List (σ × List α)
  | 0, _, _ => []
  | n + 1, s, xs => (s, xs.take size) :: steps n (step s (xs.take size)) (xs.drop size)

/-- A step of the one list and a different step of the other lead to the same state. -/
def Collide (ps qs : List (σ × List α)) : Prop := ∃ p ∈ ps, ∃ q ∈ qs, p ≠ q ∧ step p.1 p.2 = step q.1 q.2

variable {size step}

theorem Collide.mono {ps ps' qs qs' : List (σ × List α)} (collide : Collide step ps qs) (sub : ps ⊆ ps') (sub' : qs ⊆ qs') :
    Collide step ps' qs' := by
  obtain ⟨p, member, q, member', differ, joined⟩ := collide
  exact ⟨p, sub member, q, sub' member', differ, joined⟩

theorem last_mem_steps (n : Nat) (s : σ) (xs : List α) :
    (absorb size step n s xs, (xs.drop (size * n)).take size) ∈ steps size step (n + 1) s xs := by
  induction n generalizing s xs with
  | zero => exact List.mem_singleton_self _
  | succ n ih =>
    have next : size + size * n = size * (n + 1) := by rw [Nat.mul_succ, Nat.add_comm]
    have later := ih (step s (xs.take size)) (xs.drop size)
    rw [List.drop_drop, next] at later
    rw [steps, absorb]
    exact List.mem_cons_of_mem _ later

/-- Backwards from the common final state to the last difference. -/
theorem collide_of_absorb_eq (filled : xs.length = size * n) (filled' : ys.length = size * n) (differ : (s, xs) ≠ (t, ys))
    (same : absorb size step n s xs = absorb size step n t ys) :
    Collide step (steps size step n s xs) (steps size step n t ys) := by
  induction n generalizing s t xs ys with
  | zero =>
    rw [Nat.mul_zero, List.length_eq_zero_iff] at filled filled'
    subst filled filled'
    exact absurd (congrArg (·, []) same) differ
  | succ n ih =>
    rw [Nat.mul_succ] at filled filled'
    by_cases later : (step s (xs.take size), xs.drop size) = (step t (ys.take size), ys.drop size)
    · obtain ⟨joined, tails⟩ := Prod.mk.inj later
      refine ⟨(s, xs.take size), List.mem_cons_self, (t, ys.take size), List.mem_cons_self, ?_, joined⟩
      intro equal
      obtain ⟨rfl, heads⟩ := Prod.mk.inj equal
      refine differ ?_
      rw [← List.take_append_drop size xs, ← List.take_append_drop size ys, heads, tails]
    · have rest : (xs.drop size).length = size * n := by
        rw [List.length_drop]
        omega
      have rest' : (ys.drop size).length = size * n := by
        rw [List.length_drop]
        omega
      exact (ih rest rest' later same).mono (List.subset_cons_self ..) (List.subset_cons_self ..)

/-- Streams that end in different blocks collide in the last step. -/
theorem collide_of_last_ne {last last' : List α} (filled : xs.length = size * m) (filled' : ys.length = size * n)
    (block : last.length = size) (block' : last'.length = size) (differ : last ≠ last')
    (same : absorb size step (m + 1) s (xs ++ last) = absorb size step (n + 1) t (ys ++ last')) :
    Collide step (steps size step (m + 1) s (xs ++ last)) (steps size step (n + 1) t (ys ++ last')) := by
  have final : _ ∈ steps size step (m + 1) s (xs ++ last) := last_mem_steps m s (xs ++ last)
  have final' : _ ∈ steps size step (n + 1) t (ys ++ last') := last_mem_steps n t (ys ++ last')
  rw [List.drop_left' filled, List.take_of_length_le (Nat.le_of_eq block)] at final
  rw [List.drop_left' filled', List.take_of_length_le (Nat.le_of_eq block')] at final'
  rw [absorb_add, absorb_add, List.drop_left' filled, List.drop_left' filled', absorb, absorb, absorb, absorb,
    List.take_of_length_le (Nat.le_of_eq block), List.take_of_length_le (Nat.le_of_eq block')] at same
  refine ⟨_, final, _, final', ?_, same⟩
  intro equal
  exact differ (Prod.mk.inj equal).2

end IotPlatform.BlockStream
