import Mathlib.Algebra.Order.Group.Multiset
import Mathlib.Tactic.Abel
import IotPlatform.Lib.Table

/-!
# Slots as a bag

Records in slots that may be empty. Which slot a record is in does not matter: a table of slots is the bag of its records, a
write to an empty slot adds one and a write that empties a slot takes one away.
-/

namespace IotPlatform.Slots
open Table

variable {α β : Type} {content : α → Option β} {p : α → Bool} {f : α → α} {slots : List α} {x : α} {b : β}

def contents (content : α → Option β) (slots : List α) : Multiset β := ↑(slots.filterMap content)

theorem mem_contents : b ∈ contents content slots ↔ ∃ x ∈ slots, content x = some b := by
  rw [contents, Multiset.mem_coe, List.mem_filterMap]

theorem contents_cons (x : α) (slots : List α) :
    contents content (x :: slots) = Multiset.ofList (content x).toList + contents content slots := by
  unfold contents
  cases filled : content x with
  | none => simp [filled]
  | some b => simp [filled]

/-- What the written slot gives up and takes. -/
theorem contents_updateFirst (found : slots.find? p = some x) :
    contents content (updateFirst p f slots) + Multiset.ofList (content x).toList =
      contents content slots + Multiset.ofList (content (f x)).toList := by
  induction slots with
  | nil => cases found
  | cons y ys ih =>
    rw [List.find?_cons] at found
    split at found
    · rename_i matched
      obtain rfl := Option.some.inj found
      rw [updateFirst, if_pos matched, contents_cons, contents_cons]
      abel
    · rename_i different
      have rest := ih found
      rw [updateFirst, if_neg (by simp [different]), contents_cons, contents_cons, add_assoc, rest, add_assoc]

theorem contents_fill (found : slots.find? p = some x) (empty : content x = none) (filled : content (f x) = some b) :
    contents content (updateFirst p f slots) = b ::ₘ contents content slots := by
  have exchanged : contents content (updateFirst p f slots) + Multiset.ofList (content x).toList =
    contents content slots + Multiset.ofList (content (f x)).toList := contents_updateFirst found
  rw [empty, filled] at exchanged
  simpa [add_comm (contents content slots)] using exchanged

theorem contents_clear [DecidableEq β] (found : slots.find? p = some x) (filled : content x = some b)
    (cleared : content (f x) = none) : contents content (updateFirst p f slots) = (contents content slots).erase b := by
  have exchanged : contents content (updateFirst p f slots) + Multiset.ofList (content x).toList =
    contents content slots + Multiset.ofList (content (f x)).toList := contents_updateFirst found
  rw [filled, cleared] at exchanged
  have whole : contents content slots = b ::ₘ contents content (updateFirst p f slots) := by
    simpa [add_comm (contents content (updateFirst p f slots))] using exchanged.symm
  rw [whole, Multiset.erase_cons_head]

theorem contents_empty (empty : ∀ x ∈ slots, content x = none) : contents content slots = 0 := by
  rw [contents, List.filterMap_eq_nil_iff.mpr empty]
  rfl

/-- A slot is free exactly when the bag has fewer records than there are slots. -/
theorem card_contents_lt_iff : (contents content slots).card < slots.length ↔ ∃ x ∈ slots, content x = none := by
  rw [contents, Multiset.coe_card]
  induction slots with
  | nil => simp
  | cons y ys ih =>
    have most := List.length_filterMap_le content ys
    cases filled : content y with
    | none => simp [filled, Nat.lt_succ_of_le most]
    | some b => simp [filled, ih]

end IotPlatform.Slots
