import IotPlatform.Lib.Run
import IotPlatform.Lib.RingBuffer

/-!
# Bounded queues

A list that gives back its elements in the order it took them and refuses what does not fit, and its form as a ring with
the position of the oldest element and a count.
-/

namespace IotPlatform.Fifo
open Run RingBuffer

variable {α : Type} {capacity : Nat}

inductive Op (α : Type) where
  | enqueue (x : α)
  | dequeue

inductive Answer (α : Type) where
  | accepted | refused | dequeued (x : α) | empty
  deriving DecidableEq

def step (capacity : Nat) (xs : List α) : Op α → List α × Answer α
  | .enqueue x => if xs.length < capacity then (xs ++ [x], .accepted) else (xs, .refused)
  | .dequeue =>
    match xs with
    | [] => ([], .empty)
    | x :: rest => (rest, .dequeued x)

def acceptedOf : Op α × Answer α → Option α
  | (.enqueue x, .accepted) => some x
  | _ => none

def dequeuedOf : Answer α → Option α
  | .dequeued x => some x
  | _ => none

theorem step_conserves (xs : List α) (op : Op α) :
    xs ++ (acceptedOf (op, (step capacity xs op).2)).toList =
      (dequeuedOf (step capacity xs op).2).toList ++ (step capacity xs op).1 := by
  cases op with
  | enqueue x =>
    rw [step]
    split
    · rfl
    · exact List.append_nil xs
  | dequeue =>
    cases xs with
    | nil => rfl
    | cons x rest => exact List.append_nil _

/-- What was accepted is what was given back, in that order, and then what is left. -/
theorem conservation (xs : List α) (ops : List (Op α)) :
    xs ++ (ops.zip (outputs (step capacity) xs ops)).filterMap acceptedOf =
      (outputs (step capacity) xs ops).filterMap dequeuedOf ++ finalState (step capacity) xs ops := by
  induction ops generalizing xs with
  | nil => exact List.append_nil xs
  | cons op rest ih =>
    have now : xs ++ (acceptedOf (op, (step capacity xs op).2)).toList =
        (dequeuedOf (step capacity xs op).2).toList ++ (step capacity xs op).1 := step_conserves xs op
    have later := ih (step capacity xs op).1
    have filtered : ∀ {β γ : Type} (f : β → Option γ) (b : β) (bs : List β),
        (b :: bs).filterMap f = (f b).toList ++ bs.filterMap f := by
      intro β γ f b bs
      rw [List.filterMap_cons]
      cases f b <;> rfl
    rw [outputs, finalState, List.zip_cons_cons, filtered, filtered, ← List.append_assoc, now, List.append_assoc, later,
      List.append_assoc]

/-! ### As a ring -/

/-- The cells from `head` on hold the list, oldest first. -/
def Queues (capacity head : Nat) (ring : Nat → α) (xs : List α) : Prop :=
  head < capacity ∧ Stores capacity ((head + xs.length) % capacity) ring (fun _ x => x) xs

variable {head : Nat} {ring : Nat → α} {xs : List α}

theorem Queues.nil (ring : Nat → α) (inside : head < capacity) : Queues capacity head ring [] := by
  refine ⟨inside, Nat.mod_lt _ (by omega), Nat.zero_le _, ?_⟩
  intro j x found
  cases found

theorem Queues.enqueue (queues : Queues capacity head ring xs) (room : xs.length < capacity) (x : α) :
    Queues capacity head (Function.update ring ((head + xs.length) % capacity) x) (xs ++ [x]) := by
  obtain ⟨inside, stores⟩ := queues
  refine ⟨inside, ?_⟩
  have next : (head + (xs ++ [x]).length) % capacity = ((head + xs.length) % capacity + 1) % capacity := by
    rw [List.length_append, List.length_singleton, ← Nat.add_assoc, Nat.mod_add_mod]
  rw [next]
  exact stores.push room x

theorem Queues.oldest {x : α} (queues : Queues capacity head ring (x :: xs)) : ring head = x := by
  obtain ⟨inside, stores⟩ := queues
  have fits := stores.fits
  have first := stores.cell 0 x rfl
  have cell : slot capacity ((head + (x :: xs).length) % capacity) (x :: xs).length 0 = head := by
    rw [slot_mod 0 (by omega) fits]
    have start : head + (x :: xs).length - (x :: xs).length + 0 = head := by omega
    rw [start, Nat.mod_eq_of_lt inside]
  rwa [cell] at first

theorem Queues.dequeue {x : α} (queues : Queues capacity head ring (x :: xs)) :
    Queues capacity ((head + 1) % capacity) ring xs := by
  obtain ⟨inside, stores⟩ := queues
  refine ⟨Nat.mod_lt _ (by omega), ?_⟩
  have same : ((head + 1) % capacity + xs.length) % capacity = (head + (x :: xs).length) % capacity := by
    rw [Nat.mod_add_mod, List.length_cons]
    congr 1
    omega
  rw [same]
  exact stores.drop 1 (by simp)

end IotPlatform.Fifo
