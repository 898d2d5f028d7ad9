import Mathlib.Init

/-!
# Runs of a machine with outputs

A machine is a step function from a state and an input to the next state and an output. `finalState`
and `outputs` fold it over a list of inputs; invariants and simulations are proved for one step here
and hold of every run.
-/

namespace IotPlatform.Run

variable {S T I O : Type}

def finalState (step : S → I → S × O) (s : S) : List I → S
  | [] => s
  | i :: rest => finalState step (step s i).1 rest

def outputs (step : S → I → S × O) (s : S) : List I → List O
  | [] => []
  | i :: rest => (step s i).2 :: outputs step (step s i).1 rest

variable {step : S → I → S × O} {step' : T → I → T × O} {s : S} {t : T}

theorem finalState_append (xs ys : List I) :
    finalState step s (xs ++ ys) = finalState step (finalState step s xs) ys := by
  induction xs generalizing s with
  | nil => rfl
  | cons i rest ih => exact ih

theorem finalState_concat (xs : List I) (i : I) :
    finalState step s (xs ++ [i]) = (step (finalState step s xs) i).1 := finalState_append xs [i]

theorem outputs_append (xs ys : List I) :
    outputs step s (xs ++ ys) = outputs step s xs ++ outputs step (finalState step s xs) ys := by
  induction xs generalizing s with
  | nil => rfl
  | cons i rest ih => exact congrArg _ ih

theorem outputs_concat (xs : List I) (i : I) :
    outputs step s (xs ++ [i]) = outputs step s xs ++ [(step (finalState step s xs) i).2] := outputs_append xs [i]

theorem length_outputs (xs : List I) : (outputs step s xs).length = xs.length := by
  induction xs generalizing s with
  | nil => rfl
  | cons i rest ih => exact congrArg _ ih

theorem outputs_take (xs : List I) (n : Nat) : (outputs step s xs).take n = outputs step s (xs.take n) := by
  induction xs generalizing s n with
  | nil => simp [outputs]
  | cons i rest ih =>
    cases n with
    | zero => rfl
    | succ n => exact congrArg _ (ih n)

theorem outputs_drop (xs : List I) (n : Nat) :
    (outputs step s xs).drop n = outputs step (finalState step s (xs.take n)) (xs.drop n) := by
  induction xs generalizing s n with
  | nil => simp [outputs]
  | cons i rest ih =>
    cases n with
    | zero => rfl
    | succ n => exact ih n

theorem outputs_after {xs : List I} {n : Nat} {i : I} (at_n : xs[n]? = some i) (k : Nat) :
    ((outputs step s xs).drop (n + 1)).take k =
      outputs step (step (finalState step s (xs.take n)) i).1 ((xs.drop (n + 1)).take k) := by
  rw [outputs_drop, outputs_take, List.take_add_one, at_n, Option.toList_some, finalState_concat]

theorem getElem?_outputs (xs : List I) (n : Nat) :
    (outputs step s xs)[n]? = xs[n]?.map fun i => (step (finalState step s (xs.take n)) i).2 := by
  induction xs generalizing s n with
  | nil => rfl
  | cons i rest ih =>
    cases n with
    | zero => rfl
    | succ n => exact ih n

/-- What holds at the start and is kept by every step holds after every run. -/
theorem finalState_invariant {P : S → Prop} (start : P s) (keeps : ∀ s i, P s → P (step s i).1) (xs : List I) :
    P (finalState step s xs) := by
  induction xs generalizing s with
  | nil => exact start
  | cons i rest ih => exact ih (keeps s i start)

theorem finalState_invariant_of_mem {P : S → Prop} {xs : List I} (start : P s)
    (keeps : ∀ s, ∀ i ∈ xs, P s → P (step s i).1) : P (finalState step s xs) := by
  induction xs generalizing s with
  | nil => exact start
  | cons i rest ih =>
    exact ih (keeps s i List.mem_cons_self start) fun s j member => keeps s j (List.mem_cons_of_mem _ member)

/-- An invariant between the state and the outputs so far. -/
theorem history_invariant {P : S → List O → Prop} (start : P s [])
    (keeps : ∀ s history i, P s history → P (step s i).1 (history ++ [(step s i).2])) (xs : List I) :
    P (finalState step s xs) (outputs step s xs) := by
  have general : ∀ history s, P s history → P (finalState step s xs) (history ++ outputs step s xs) := by
    induction xs with
    | nil => simp [finalState, outputs]
    | cons i rest ih =>
      intro history s holds
      simpa [finalState, outputs] using ih _ _ (keeps s history i holds)
  exact general [] s start

/-- `P` holds in every state the run goes through, the first and the last included. -/
def Always (P : S → Prop) (step : S → I → S × O) (s : S) (xs : List I) : Prop :=
  ∀ n, P (finalState step s (xs.take n))

/-- `K` holds of every input of the run and the state it finds. -/
def EachStep (K : S → I → Prop) (step : S → I → S × O) (s : S) : List I → Prop
  | [] => True
  | i :: rest => K s i ∧ EachStep K step (step s i).1 rest

theorem always_cons {P : S → Prop} {i : I} {rest : List I} :
    Always P step s (i :: rest) ↔ P s ∧ Always P step (step s i).1 rest := by
  constructor
  · intro always
    exact ⟨always 0, fun n => always (n + 1)⟩
  · rintro ⟨now, later⟩ n
    cases n with
    | zero => exact now
    | succ n => exact later n

theorem eachStep_iff {K : S → I → Prop} {xs : List I} :
    EachStep K step s xs ↔ ∀ n i, xs[n]? = some i → K (finalState step s (xs.take n)) i := by
  induction xs generalizing s with
  | nil => simp [EachStep]
  | cons i rest ih =>
    rw [EachStep, ih]
    constructor
    · rintro ⟨now, later⟩ (_ | n) j found
      · exact Option.some.inj found ▸ now
      · exact later n j found
    · intro each
      exact ⟨each 0 i rfl, fun n j found => each (n + 1) j found⟩

theorem eachStep_append {K : S → I → Prop} {xs ys : List I} :
    EachStep K step s (xs ++ ys) ↔ EachStep K step s xs ∧ EachStep K step (finalState step s xs) ys := by
  induction xs generalizing s with
  | nil => simp [EachStep, finalState]
  | cons i rest ih =>
    rw [List.cons_append, EachStep, EachStep, ih, and_assoc]
    exact Iff.rfl

/-- An invariant that the inputs with `K` keep, along a run of such inputs. -/
theorem always_of_eachStep {P J : S → Prop} {K : S → I → Prop} (start : J s) (holds : ∀ s, J s → P s)
    (keeps : ∀ s i, J s → K s i → J (step s i).1) {xs : List I} (each : EachStep K step s xs) : Always P step s xs := by
  induction xs generalizing s with
  | nil => exact fun n => by simpa [finalState] using holds s start
  | cons i rest ih => exact always_cons.mpr ⟨holds s start, ih (keeps s i start each.1) each.2⟩

/-- Where the invariant holds, an input leads to a state with `P` only if `K` holds of it: then `P` holds along a run
exactly when `K` holds of every step. -/
theorem always_iff_eachStep {P J : S → Prop} {K : S → I → Prop} (start : J s) (holds : ∀ s, J s → P s)
    (keeps : ∀ s i, J s → K s i → J (step s i).1) (needed : ∀ s i, J s → P (step s i).1 → K s i) (xs : List I) :
    Always P step s xs ↔ EachStep K step s xs := by
  refine ⟨fun always => ?_, always_of_eachStep start holds keeps⟩
  induction xs generalizing s with
  | nil => trivial
  | cons i rest ih =>
    obtain ⟨-, later⟩ := always_cons.mp always
    have now := needed s i start (later 0)
    exact ⟨now, ih (keeps s i start now) later⟩

/-- Where the steps with `K` keep an invariant, what is true of a step may be read off `K`. -/
theorem eachStep_mono {J : S → Prop} {K K' : S → I → Prop} (start : J s)
    (keeps : ∀ s i, J s → K s i → J (step s i).1) (implies : ∀ s i, J s → K s i → K' s i) {xs : List I}
    (each : EachStep K step s xs) : EachStep K' step s xs := by
  induction xs generalizing s with
  | nil => trivial
  | cons i rest ih => exact ⟨implies s i start each.1, ih (keeps s i start each.1) each.2⟩

/-- Conditions that agree wherever an invariant of every step holds are met by the same runs. -/
theorem eachStep_iff_of_invariant {J : S → Prop} {K K' : S → I → Prop} (start : J s)
    (keeps : ∀ s i, J s → J (step s i).1) (same : ∀ s i, J s → (K s i ↔ K' s i)) (xs : List I) :
    EachStep K step s xs ↔ EachStep K' step s xs := by
  constructor
  · exact eachStep_mono start (fun s i invariant _ => keeps s i invariant) (fun s i invariant => (same s i invariant).mp)
  · exact eachStep_mono start (fun s i invariant _ => keeps s i invariant) (fun s i invariant => (same s i invariant).mpr)

/-- Where the invariant holds, `K` holds of an input exactly when the next state has `P` and the step has `Q`: then `P` holds
along a run and `Q` of its steps exactly when `K` holds of every step. -/
theorem always_and_eachStep_iff {P J : S → Prop} {Q K : S → I → Prop} (start : J s) (holds : ∀ s, J s → P s)
    (keeps : ∀ s i, J s → K s i → J (step s i).1) (exact : ∀ s i, J s → (P (step s i).1 ∧ Q s i ↔ K s i)) (xs : List I) :
    Always P step s xs ∧ EachStep Q step s xs ↔ EachStep K step s xs := by
  constructor
  · rintro ⟨always, each⟩
    induction xs generalizing s with
    | nil => trivial
    | cons i rest ih =>
      obtain ⟨-, later⟩ := always_cons.mp always
      have now := (exact s i start).mp ⟨later 0, each.1⟩
      exact ⟨now, ih (keeps s i start now) later each.2⟩
  · intro each
    exact ⟨always_of_eachStep start holds keeps each,
      eachStep_mono start keeps (fun s i invariant now => ((exact s i invariant).mpr now).2) each⟩

/-- Related machines whose steps agree on a property and stay related agree on it for ever. -/
theorem eachStep_congr {O' : Type} {step' : T → I → T × O'} {R : S → T → Prop} {K : S → I → Prop} {K' : T → I → Prop}
    (start : R s t) (keeps : ∀ s t i, R s t → (K s i ↔ K' t i) ∧ R (step s i).1 (step' t i).1) (xs : List I) :
    EachStep K step s xs ↔ EachStep K' step' t xs := by
  induction xs generalizing s t with
  | nil => exact Iff.rfl
  | cons i rest ih =>
    obtain ⟨same, related⟩ := keeps s t i start
    exact and_congr same (ih related)

/-- A preorder that every input with `K` goes up in orders the states of a run of such inputs. -/
theorem ordered_of_eachStep {J : S → Prop} {K : S → I → Prop} {R : S → S → Prop} (refl : ∀ s, R s s)
    (trans : ∀ s t u, R s t → R t u → R s u) (start : J s) (keeps : ∀ s i, J s → K s i → J (step s i).1)
    (up : ∀ s i, J s → K s i → R s (step s i).1) {xs : List I} (each : EachStep K step s xs) {m n : Nat} (le : m ≤ n) :
    R (finalState step s (xs.take m)) (finalState step s (xs.take n)) := by
  induction xs generalizing s m n with
  | nil => simpa [finalState] using refl s
  | cons i rest ih =>
    have later : ∀ {m n}, m ≤ n → R _ _ := ih (keeps s i start each.1) each.2
    cases n with
    | zero =>
      obtain rfl := Nat.le_zero.mp le
      exact refl _
    | succ n =>
      cases m with
      | zero => exact trans _ _ _ (up s i start each.1) (later (Nat.zero_le n))
      | succ m => exact later (Nat.le_of_succ_le_succ le)

/-- Related machines that answer alike and stay related answer alike for ever. -/
theorem simulation {R : S → T → Prop} (start : R s t)
    (keeps : ∀ s t i, R s t → (step s i).2 = (step' t i).2 ∧ R (step s i).1 (step' t i).1) (xs : List I) :
    outputs step s xs = outputs step' t xs ∧ R (finalState step s xs) (finalState step' t xs) := by
  induction xs generalizing s t with
  | nil => exact ⟨rfl, start⟩
  | cons i rest ih =>
    obtain ⟨same, related⟩ := keeps s t i start
    obtain ⟨tail, final⟩ := ih related
    exact ⟨by rw [outputs, outputs, same, tail], final⟩

/-- Machines that stay related over the inputs of a run and answer alike as far as `view` shows. -/
theorem simulation_view {P : Type} {step' : T → I → T × P} {R : S → T → Prop} {view : O → P} {xs : List I} (start : R s t)
    (keeps : ∀ s t, ∀ i ∈ xs, R s t → view (step s i).2 = (step' t i).2 ∧ R (step s i).1 (step' t i).1) :
    (outputs step s xs).map view = outputs step' t xs ∧ R (finalState step s xs) (finalState step' t xs) := by
  induction xs generalizing s t with
  | nil => exact ⟨rfl, start⟩
  | cons i rest ih =>
    obtain ⟨same, related⟩ := keeps s t i List.mem_cons_self start
    obtain ⟨tail, final⟩ := ih related fun s t j member => keeps s t j (List.mem_cons_of_mem i member)
    exact ⟨by rw [outputs, outputs, List.map_cons, same, tail], final⟩

end IotPlatform.Run
