import Mathlib.Data.Finset.Card
import Mathlib.Data.List.Dedup

/-!
# Distinct values

How many different values a list has, counted by a scan that keeps the values it has met.
-/

namespace IotPlatform.Distinct

variable {α β γ : Type} [DecidableEq β] [DecidableEq γ]

/-- The values met, in the order they are met first. -/
def meet (seen : List β) : List β → List β
  | [] => seen
  | x :: rest => if x ∈ seen then meet seen rest else meet (seen ++ [x]) rest

def distinct (xs : List β) : Nat := xs.toFinset.card

theorem distinct_le_length (xs : List β) : distinct xs ≤ xs.length := List.toFinset_card_le xs

theorem distinct_le_of_subset {xs ys : List β} (sub : xs ⊆ ys) : distinct xs ≤ distinct ys :=
  Finset.card_le_card fun _ member => List.mem_toFinset.mpr (sub (List.mem_toFinset.mp member))

theorem distinct_of_nodup {xs : List β} (nodup : xs.Nodup) : distinct xs = xs.length := List.toFinset_card_of_nodup nodup

theorem length_meet {seen : List β} (fresh : seen.Nodup) (xs : List β) : (meet seen xs).length = distinct (seen ++ xs) := by
  induction xs generalizing seen with
  | nil => rw [meet, List.append_nil, distinct_of_nodup fresh]
  | cons x rest ih =>
    rw [meet]
    split
    · rename_i known
      rw [ih fresh, distinct, distinct]
      congr 1
      ext y
      simp only [List.mem_toFinset, List.mem_append, List.mem_cons]
      constructor
      · exact Or.imp_right Or.inr
      · rintro (old | rfl | later)
        · exact .inl old
        · exact .inl known
        · exact .inr later
    · rename_i new
      have longer : (seen ++ [x]).Nodup := by
        rw [← List.concat_eq_append]
        exact fresh.concat new
      rw [ih longer, List.append_assoc, List.singleton_append]

theorem length_meet_nil (xs : List β) : (meet [] xs).length = distinct xs := length_meet List.nodup_nil xs

/-- A name for each value counts the values exactly when no two of them have one name. -/
theorem distinct_map_iff (name : β → γ) (f : α → β) (xs : List α) :
    distinct (xs.map fun x => name (f x)) = distinct (xs.map f) ↔
      ∀ x ∈ xs, ∀ y ∈ xs, name (f x) = name (f y) → f x = f y := by
  have image : (xs.map fun x => name (f x)).toFinset = (xs.map f).toFinset.image name := by
    ext z
    simp
  rw [distinct, distinct, image, Finset.card_image_iff]
  simp only [Set.InjOn, List.coe_toFinset, List.mem_map, Set.mem_ofPred_eq]
  constructor
  · intro injective x inX y inY same
    exact injective ⟨x, inX, rfl⟩ ⟨y, inY, rfl⟩ same
  · rintro injective _ ⟨x, inX, rfl⟩ _ ⟨y, inY, rfl⟩ same
    exact injective x inX y inY same

end IotPlatform.Distinct
