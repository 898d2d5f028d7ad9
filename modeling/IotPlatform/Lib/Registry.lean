import Mathlib.Data.List.Nodup
import IotPlatform.Lib.Table

/-!
# Registries

A bounded table with one record for each key: a record whose key is there is rewritten in place, any other is added at the
end. The room is checked first.
-/

namespace IotPlatform.Registry
open Table

variable {α κ : Type} [DecidableEq κ] {key : α → κ} {f : α → α} {x : α} {xs ys : List α}

def insertOrUpdate (key : α → κ) (f : α → α) (x : α) (xs : List α) : List α :=
  if (xs.find? (key · == key x)).isSome then updateFirst (key · == key x) f xs else xs ++ [x]

def register (capacity : Nat) (key : α → κ) (f : α → α) (x : α) (xs : List α) : Option (List α) :=
  if capacity ≤ xs.length then none else some (insertOrUpdate key f x xs)

/-- The second table is the first with the record of key `k` rewritten and every other as it was. -/
def Replaces (key : α → κ) (k : κ) (f : α → α) (xs ys : List α) : Prop := ys = xs.map fun y => if key y = k then f y else y

theorem Replaces.distinct {k : κ} (replaces : Replaces key k f xs ys) (keeps : ∀ y, key y = k → key (f y) = k)
    (distinct : (xs.map key).Nodup) : (ys.map key).Nodup := by
  have same : key ∘ (fun y => if key y = k then f y else y) = key := by
    funext y
    by_cases own : key y = k
    · rw [Function.comp_apply, if_pos own, keeps y own, own]
    · rw [Function.comp_apply, if_neg own]
  rw [replaces, List.map_map, same]
  exact distinct

theorem isSome_find?_key {k : κ} : (xs.find? (key · == k)).isSome = true ↔ k ∈ xs.map key := by
  rw [List.find?_isSome, List.mem_map]
  simp only [beq_iff_eq]

theorem insertOrUpdate_replaces (distinct : (xs.map key).Nodup) (present : key x ∈ xs.map key) :
    Replaces key (key x) f xs (insertOrUpdate key f x xs) := by
  rw [Replaces, insertOrUpdate, if_pos (isSome_find?_key.mpr present)]
  exact updateFirst_eq_map distinct fun _ _ => beq_iff_eq

theorem insertOrUpdate_of_absent (absent : key x ∉ xs.map key) : insertOrUpdate key f x xs = xs ++ [x] := by
  rw [insertOrUpdate, if_neg (mt isSome_find?_key.mp absent)]

omit [DecidableEq κ] in
theorem distinct_concat (absent : key x ∉ xs.map key) (distinct : (xs.map key).Nodup) : ((xs ++ [x]).map key).Nodup := by
  rw [List.map_append, List.nodup_append]
  refine ⟨distinct, List.nodup_singleton _, ?_⟩
  rintro k member k' new rfl
  rw [List.map_singleton, List.mem_singleton] at new
  exact absent (new ▸ member)

/-- A record that takes the place of the one with its key is found under it, and every other key finds what it found. -/
theorem find?_insertOrUpdate (k : κ) :
    (insertOrUpdate key (fun _ => x) x xs).find? (key · == k) = if k = key x then some x else xs.find? (key · == k) := by
  rw [insertOrUpdate]
  split
  · rename_i present
    split
    · rename_i own
      obtain ⟨old, found⟩ := Option.isSome_iff_exists.mp present
      have kept : ∀ y, (key y == key x) = true → (key ((fun _ => x) y) == key x) = true := fun _ _ => beq_self_eq_true _
      rw [own, find?_updateFirst_self kept, found]
      rfl
    · rename_i other
      apply find?_updateFirst_other
      · intro y same
        rw [beq_eq_false_iff_ne, beq_iff_eq.mp same]
        exact Ne.symm other
      · intro _ _
        exact beq_eq_false_iff_ne.mpr (Ne.symm other)
  · rename_i absent
    rw [List.find?_append]
    split
    · rename_i own
      rw [own, Option.not_isSome_iff_eq_none.mp absent]
      simp
    · rename_i other
      simp [Ne.symm other]

theorem insertOrUpdate_distinct (keeps : ∀ y, key y = key x → key (f y) = key x) (distinct : (xs.map key).Nodup) :
    ((insertOrUpdate key f x xs).map key).Nodup := by
  by_cases present : key x ∈ xs.map key
  · exact (insertOrUpdate_replaces distinct present).distinct keeps distinct
  · rw [insertOrUpdate_of_absent present]
    exact distinct_concat present distinct

theorem register_replaces_iff {capacity : Nat} (distinct : (xs.map key).Nodup) (present : key x ∈ xs.map key) :
    (∃ ys, register capacity key f x xs = some ys ∧ Replaces key (key x) f xs ys) ↔ xs.length < capacity := by
  by_cases full : capacity ≤ xs.length
  · simp [register, full]
  · simp [register, full, insertOrUpdate_replaces distinct present, Nat.lt_of_not_le full]

theorem register_distinct {capacity : Nat} (keeps : ∀ y, key y = key x → key (f y) = key x) (distinct : (xs.map key).Nodup)
    (registered : register capacity key f x xs = some ys) : (ys.map key).Nodup := by
  rw [register] at registered
  split at registered
  · cases registered
  · rw [← Option.some.inj registered]
    exact insertOrUpdate_distinct keeps distinct

end IotPlatform.Registry
