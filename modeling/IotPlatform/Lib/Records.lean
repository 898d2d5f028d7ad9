import Mathlib.Data.List.Induction

/-!
# Records of a sequence

The elements that stand above all before them: what is left when everything that is late is dropped.
-/

namespace IotPlatform.Records

variable {α β : Type} [LT β] [DecidableLT β]

/-- The elements that rank above everything kept before them. -/
def records (rank : α → β) (xs : List α) : List α :=
  xs.foldl (fun kept x => if ∀ y ∈ kept, rank y < rank x then kept ++ [x] else kept) []

theorem records_concat (rank : α → β) (xs : List α) (x : α) :
    records rank (xs ++ [x]) =
      if ∀ y ∈ records rank xs, rank y < rank x then records rank xs ++ [x] else records rank xs := by
  rw [records, List.foldl_append]
  rfl

theorem records_sublist (rank : α → β) (xs : List α) : (records rank xs).Sublist xs := by
  induction xs using List.reverseRecOn with
  | nil => exact List.Sublist.refl []
  | append_singleton xs x ih =>
    rw [records_concat]
    split
    · exact ih.append (List.Sublist.refl [x])
    · exact ih.trans (List.sublist_append_left xs [x])

end IotPlatform.Records
