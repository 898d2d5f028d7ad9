import Mathlib.Logic.Function.Basic
import Mathlib.Data.Nat.ModEq

/-!
# Ring buffers

A buffer of `capacity` cells with the position of the next write. The `count` cells before it are in use, oldest
first. A cell may store its element in a form that depends on the position.
-/

namespace IotPlatform.RingBuffer

variable {α β : Type} {capacity writeIndex : Nat}

/-- The cell of the element number `j`, counted from the oldest. -/
def slot (capacity writeIndex count j : Nat) : Nat := (writeIndex + capacity - count + j) % capacity

theorem slot_lt (inside : writeIndex < capacity) (count j : Nat) : slot capacity writeIndex count j < capacity :=
  Nat.mod_lt _ (by omega)

theorem slot_drop {count : Nat} (k j : Nat) (used : k ≤ count) (fits : count ≤ capacity) :
    slot capacity writeIndex (count - k) j = slot capacity writeIndex count (k + j) := by
  unfold slot
  congr 1
  omega

theorem slot_push {count : Nat} (j : Nat) (inside : writeIndex < capacity) (fits : count < capacity) :
    slot capacity ((writeIndex + 1) % capacity) (count + 1) j = slot capacity writeIndex count j := by
  unfold slot
  rcases Nat.lt_or_ge (writeIndex + 1) capacity with next | wraps
  · rw [Nat.mod_eq_of_lt next]
    congr 1
    omega
  · have last : writeIndex + 1 = capacity := by omega
    rw [last, Nat.mod_self, show writeIndex + capacity - count + j = 0 + capacity - (count + 1) + j + capacity by omega,
      Nat.add_mod_right]

theorem slot_newest {count : Nat} (inside : writeIndex < capacity) (fits : count < capacity) :
    slot capacity writeIndex count count = writeIndex := by
  unfold slot
  rw [show writeIndex + capacity - count + count = writeIndex + capacity by omega, Nat.add_mod_right,
    Nat.mod_eq_of_lt inside]

theorem slot_ne_writeIndex {count j : Nat} (inside : writeIndex < capacity) (fits : count < capacity) (used : j < count) :
    slot capacity writeIndex count j ≠ writeIndex := by
  unfold slot
  rcases Nat.lt_or_ge (writeIndex + capacity - count + j) capacity with low | high
  · rw [Nat.mod_eq_of_lt low]
    omega
  · rw [Nat.mod_eq_sub_mod high, Nat.mod_eq_of_lt (by omega)]
    omega

/-- The ring holds the list, oldest first, each element in the form `rep` gives it at its position. -/
structure Stores (capacity writeIndex : Nat) (ring : Nat → α) (rep : Nat → β → α) (xs : List β) : Prop where
  inside : writeIndex < capacity
  fits : xs.length ≤ capacity
  cell : ∀ j x, xs[j]? = some x →
    ring (slot capacity writeIndex xs.length j) = rep (slot capacity writeIndex xs.length j) x

variable {ring : Nat → α} {rep : Nat → β → α} {xs : List β}

theorem Stores.drop (stores : Stores capacity writeIndex ring rep xs) (k : Nat) (used : k ≤ xs.length) :
    Stores capacity writeIndex ring rep (xs.drop k) where
  inside := stores.inside
  fits := by
    rw [List.length_drop]
    exact Nat.le_trans (Nat.sub_le ..) stores.fits
  cell := by
    intro j x found
    rw [List.getElem?_drop] at found
    rw [List.length_drop, slot_drop k j used stores.fits]
    exact stores.cell (k + j) x found

theorem Stores.push (stores : Stores capacity writeIndex ring rep xs) (room : xs.length < capacity) (x : β) :
    Stores capacity ((writeIndex + 1) % capacity) (Function.update ring writeIndex (rep writeIndex x)) rep (xs ++ [x]) where
  inside := Nat.mod_lt _ (Nat.zero_lt_of_lt room)
  fits := by
    rw [List.length_append, List.length_singleton]
    exact room
  cell := by
    intro j y found
    rw [List.length_append, List.length_singleton, slot_push j stores.inside room]
    rcases Nat.lt_or_ge j xs.length with old | new
    · rw [List.getElem?_append_left old] at found
      rw [Function.update_of_ne (slot_ne_writeIndex stores.inside room old)]
      exact stores.cell j y found
    · rw [List.getElem?_append_right new] at found
      obtain ⟨bound, same⟩ := List.getElem?_eq_some_iff.mp found
      have newest : j = xs.length := by
        rw [List.length_singleton] at bound
        omega
      subst newest
      rw [List.getElem_singleton] at same
      rw [slot_newest stores.inside room, Function.update_self, same]

/-! ### Elements numbered from the first one pushed -/

theorem mod_ne_mod {m n : Nat} (later : m < n) (near : n < m + capacity) : m % capacity ≠ n % capacity := by
  intro same
  have divides := (Nat.modEq_iff_dvd' (Nat.le_of_lt later)).mp same
  have lap := Nat.le_of_dvd (by omega) divides
  omega

/-- In a ring whose next write has the number `m`, the cell of an element depends on its number alone. -/
theorem slot_mod {m count : Nat} (j : Nat) (pushed : count ≤ m) (fits : count ≤ capacity) :
    slot capacity (m % capacity) count j = (m - count + j) % capacity := by
  have laps : m - count + j + capacity = m % capacity + capacity - count + j + capacity * (m / capacity) := by
    have split := Nat.div_add_mod m capacity
    omega
  rw [slot, ← Nat.add_mod_right (m - count + j), laps, Nat.add_mul_mod_self_left]

/-- The cells hold the last `capacity` elements, each at the position its number gives it. -/
def LastLap (capacity : Nat) (cells : Nat → α) (rep : Nat → β → α) (xs : List β) : Prop :=
  ∀ n x, xs[n]? = some x → xs.length ≤ n + capacity → cells (n % capacity) = rep (n % capacity) x

theorem LastLap.nil (cells : Nat → α) (rep : Nat → β → α) : LastLap capacity cells rep [] := by
  intro n x found
  cases found

theorem LastLap.push (lap : LastLap capacity ring rep xs) (x : β) :
    LastLap capacity (Function.update ring (xs.length % capacity) (rep (xs.length % capacity) x)) rep (xs ++ [x]) := by
  intro n y found recent
  rw [List.length_append, List.length_singleton] at recent
  rcases Nat.lt_or_ge n xs.length with old | new
  · rw [List.getElem?_append_left old] at found
    rw [Function.update_of_ne (mod_ne_mod old (by omega))]
    exact lap n y found (by omega)
  · obtain ⟨bound, -⟩ := List.getElem?_eq_some_iff.mp found
    have newest : n = xs.length := by
      rw [List.length_append, List.length_singleton] at bound
      omega
    rw [newest, List.getElem?_concat_length] at found
    cases found
    rw [newest, Function.update_self]

/-- The elements of `count` cells, read from the one at `head` on. -/
def readFrom (capacity head count : Nat) (cells : Nat → α) : List α :=
  (List.range count).map fun j => cells ((head + j) % capacity)

/-- Read from the oldest element on, the cells give back the last ones pushed. -/
theorem LastLap.readFrom_eq {f : β → α} {count : Nat} (lap : LastLap capacity ring (fun _ => f) xs) (pushed : count ≤ xs.length)
    (fits : count ≤ capacity) :
    readFrom capacity ((xs.length - count) % capacity) count ring = (xs.drop (xs.length - count)).map f := by
  apply List.ext_getElem
  · simp only [readFrom, List.length_map, List.length_range, List.length_drop]
    omega
  · intro j inRange inside
    rw [readFrom, List.length_map, List.length_range] at inRange
    have present : xs.length - count + j < xs.length := by omega
    have cell := lap (xs.length - count + j) _ (List.getElem?_eq_getElem present) (by omega)
    simp only [readFrom, List.getElem_map, List.getElem_range, List.getElem_drop, Nat.mod_add_mod]
    exact cell

end IotPlatform.RingBuffer
