import Mathlib.Logic.Function.Basic

/-!
# Checksums

A message followed by its checksum. Where one altered letter of a message always alters the checksum, no such word differs
from another of the same length in one letter only.
-/

namespace IotPlatform.Checksum

variable {α β σ : Type}

theorem getElem?_altered {before after : List α} (x y : α) {i : Nat} (elsewhere : before.length ≠ i) :
    (before ++ x :: after)[i]? = (before ++ y :: after)[i]? := by
  rcases Nat.lt_or_gt_of_ne elsewhere with later | earlier
  · rw [List.getElem?_append_right (Nat.le_of_lt later), List.getElem?_append_right (Nat.le_of_lt later)]
    obtain ⟨k, rest⟩ := Nat.exists_eq_add_of_lt later
    rw [show i - before.length = k + 1 by omega, List.getElem?_cons_succ, List.getElem?_cons_succ]
  · rw [List.getElem?_append_left earlier, List.getElem?_append_left earlier]

/-- Two messages that differ in one letter only have different checksums. -/
def Separates (check : List α → β) : Prop :=
  ∀ (before after : List α) {x y : α}, x ≠ y → check (before ++ x :: after) ≠ check (before ++ y :: after)

/-- A checksum computed letter by letter, where each step keeps different states and different letters apart. -/
theorem separates_foldl {step : σ → α → σ} (states : ∀ x, Function.Injective fun s => step s x)
    (letters : ∀ s, Function.Injective (step s)) (init : σ) : Separates (List.foldl step init) := by
  have apart : ∀ (after : List α) {s s' : σ}, s ≠ s' → after.foldl step s ≠ after.foldl step s' := by
    intro after
    induction after with
    | nil => exact id
    | cons x after ih =>
      intro s s' different
      rw [List.foldl_cons, List.foldl_cons]
      exact ih fun same => different (states x same)
  intro before after x y different
  rw [List.foldl_append, List.foldl_append, List.foldl_cons, List.foldl_cons]
  exact apart after fun same => different (letters _ same)

theorem Separates.comp {γ : Type} {check : List α → β} (separates : Separates check) {encode : β → γ}
    (injective : Function.Injective encode) : Separates fun message => encode (check message) :=
  fun before after _ _ different same => separates before after different (injective same)

/-- An altered word is not the word of any message of that length. -/
theorem Separates.altered_ne {check : List α → List α} (separates : Separates check) {message other before after : List α}
    {x y : α} (word : message ++ check message = before ++ x :: after) (different : x ≠ y)
    (sameLength : other.length = message.length) : other ++ check other ≠ before ++ y :: after := by
  intro altered
  -- The altered letter is one of the checksum or one of the message.
  rcases List.append_eq_append_iff.mp word with ⟨front, rfl, tail⟩ | ⟨front, rfl, tail⟩
  · rw [List.append_assoc] at altered
    obtain ⟨rfl, tail'⟩ := List.append_inj altered sameLength
    rw [tail] at tail'
    exact different (List.cons.inj (List.append_cancel_left tail')).1
  · cases front with
    | nil =>
      rw [List.append_nil] at tail sameLength
      obtain ⟨rfl, tail'⟩ := List.append_inj altered sameLength
      rw [List.nil_append, tail'] at tail
      exact different (List.cons.inj tail).1
    | cons z front =>
      rw [List.cons_append, List.cons.injEq] at tail
      obtain ⟨rfl, rfl⟩ := tail
      rw [← List.cons_append, ← List.append_assoc] at altered
      have sameLength' : other.length = (before ++ y :: front).length := by
        rw [sameLength, List.length_append, List.length_append, List.length_cons, List.length_cons]
      obtain ⟨rfl, same⟩ := List.append_inj altered sameLength'
      exact separates before front different same.symm

end IotPlatform.Checksum
