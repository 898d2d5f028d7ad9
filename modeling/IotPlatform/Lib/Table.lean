import Mathlib.Data.List.Basic

/-!
# First-match tables

A fixed array scanned from its first slot: a lookup is `List.find?`, and a write through the pointer
it returns is `updateFirst`. The counting rule `countP_updateFirst` carries the bookkeeping facts.
-/

namespace IotPlatform.Table

variable {α β : Type} {p q : α → Bool} {f : α → α} {xs : List α} {x : α}

def updateFirst (p : α → Bool) (f : α → α) : List α → List α
  | [] => []
  | x :: xs => if p x then f x :: xs else x :: updateFirst p f xs

theorem length_updateFirst (p : α → Bool) (f : α → α) (xs : List α) :
    (updateFirst p f xs).length = xs.length := by
  induction xs with
  | nil => rfl
  | cons x xs ih =>
    rw [updateFirst]
    split
    · rfl
    · simp [ih]

theorem map_updateFirst {k : α → β} (keeps : ∀ x, k (f x) = k x) : (updateFirst p f xs).map k = xs.map k := by
  induction xs with
  | nil => rfl
  | cons x xs ih =>
    rw [updateFirst]
    split
    · rw [List.map_cons, List.map_cons, keeps]
    · rw [List.map_cons, List.map_cons, ih]

theorem map_modify {k : α → β} (keeps : ∀ x, k (f x) = k x) (i : Nat) : (xs.modify i f).map k = xs.map k := by
  apply List.ext_getElem?
  intro j
  rw [List.getElem?_map, List.getElem?_map, List.getElem?_modify]
  cases xs[j]? with
  | none => rfl
  | some x =>
    show some (k (if i = j then f x else x)) = some (k x)
    split
    · rw [keeps]
    · rfl

/-- A write by the index that a search found. -/
theorem modify_findIdx? {i : Nat} (found : xs.findIdx? p = some i) : xs.modify i f = updateFirst p f xs := by
  induction xs generalizing i with
  | nil => cases found
  | cons x xs ih =>
    rw [List.findIdx?_cons] at found
    rw [updateFirst]
    split at found
    · obtain rfl := Option.some.inj found
      rw [if_pos ‹_›, List.modify_zero_cons]
    · obtain ⟨j, later, rfl⟩ := Option.map_eq_some_iff.mp found
      rw [if_neg ‹_›, List.modify_succ_cons, ih later]

theorem modify_concat (xs : List α) (x : α) : (xs ++ [x]).modify xs.length f = xs ++ [f x] := by
  rw [List.modify_eq_take_drop, List.take_left, List.drop_left]
  rfl

theorem updateFirst_of_none (absent : xs.find? p = none) : updateFirst p f xs = xs := by
  induction xs with
  | nil => rfl
  | cons x xs ih =>
    rw [List.find?_cons] at absent
    split at absent
    · cases absent
    · rename_i different
      rw [updateFirst, different, ih absent]
      rfl

theorem countP_updateFirst (found : xs.find? p = some x) :
    (updateFirst p f xs).countP q + (if q x then 1 else 0) = xs.countP q + (if q (f x) then 1 else 0) := by
  induction xs with
  | nil => simp at found
  | cons y ys ih =>
    rw [List.find?_cons] at found
    split at found
    · rename_i matched
      obtain rfl := Option.some.inj found
      simp only [updateFirst, matched, if_true, List.countP_cons]
      omega
    · rename_i different
      simp only [updateFirst, different, Bool.false_eq_true, if_false, List.countP_cons]
      have rest := ih found
      omega

theorem find?_updateFirst_self (keeps : ∀ x, p x = true → p (f x) = true) :
    (updateFirst p f xs).find? p = (xs.find? p).map f := by
  induction xs with
  | nil => rfl
  | cons y ys ih =>
    rw [updateFirst]
    cases matched : p y with
    | true => simp [matched, keeps y matched]
    | false => simp [matched, ih]

/-- A write to slots that `q` never sees leaves the lookup by `q` alone. -/
theorem find?_updateFirst_other (before : ∀ x, p x = true → q x = false)
    (after : ∀ x, p x = true → q (f x) = false) : (updateFirst p f xs).find? q = xs.find? q := by
  induction xs with
  | nil => rfl
  | cons y ys ih =>
    rw [updateFirst]
    cases matched : p y with
    | true => simp [before y matched, after y matched]
    | false => simp [List.find?_cons, ih]

theorem find?_updateFirst_fresh (absent : xs.find? q = none) (found : xs.find? p = some x)
    (claims : q (f x) = true) : (updateFirst p f xs).find? q = some (f x) := by
  induction xs with
  | nil => simp at found
  | cons y ys ih =>
    rw [List.find?_cons] at absent found
    split at absent
    · cases absent
    rename_i unseen
    split at found
    · rename_i matched
      obtain rfl := Option.some.inj found
      simp [updateFirst, matched, claims]
    · rename_i different
      simp [updateFirst, different, unseen, ih absent found]

theorem forall_updateFirst {P : α → Prop} (holds : ∀ x ∈ xs, P x) (keeps : ∀ x, P x → P (f x)) :
    ∀ x ∈ updateFirst p f xs, P x := by
  induction xs with
  | nil => exact holds
  | cons y ys ih =>
    have rest := ih fun x member => holds x (List.mem_cons_of_mem y member)
    rw [updateFirst]
    split
    · rw [List.forall_mem_cons] at holds ⊢
      exact ⟨keeps y holds.1, holds.2⟩
    · rw [List.forall_mem_cons] at holds ⊢
      exact ⟨holds.1, rest⟩

theorem find?_none_iff_countP : xs.find? p = none ↔ xs.countP p = 0 := by
  rw [List.find?_eq_none, List.countP_eq_zero]

/-! ### Keys -/

section Keyed

variable {κ : Type} {named : κ → α → Bool} {a b : κ}

/-- No record is found under two keys. -/
def OneKey (named : κ → α → Bool) : Prop := ∀ x a b, named a x = true → named b x = true → a = b

theorem OneKey.other (one : OneKey named) (own : named a x = true) (different : a ≠ b) : named b x = false := by
  rw [← Bool.not_eq_true]
  exact fun both => different (one x a b own both)

/-- A write under one key, read under any. -/
theorem find?_updateFirst_key [DecidableEq κ] (one : OneKey named) (keeps : ∀ k x, named k (f x) = named k x) (a b : κ) :
    (updateFirst (named a) f xs).find? (named b) = if a = b then (xs.find? (named a)).map f else xs.find? (named b) := by
  by_cases same : a = b
  · subst same
    rw [if_pos rfl]
    exact find?_updateFirst_self fun x own => (keeps a x).trans own
  · rw [if_neg same]
    exact find?_updateFirst_other (fun x own => one.other own same) fun x own => (keeps b x).trans (one.other own same)

/-- A new record at the end of a table without its key, read under any. -/
theorem find?_concat_key [DecidableEq κ] (one : OneKey named) (own : named a x = true) (absent : xs.find? (named a) = none)
    (b : κ) : (xs ++ [x]).find? (named b) = if a = b then some x else xs.find? (named b) := by
  rw [List.find?_append, List.find?_cons, List.find?_nil]
  by_cases same : a = b
  · subst same
    rw [if_pos rfl, absent, own, Option.none_or]
  · rw [if_neg same, one.other own same, Option.or_none]

end Keyed

theorem updateFirst_eq_map [DecidableEq β] {k : α → β} {key : β} (distinct : (xs.map k).Nodup)
    (matches_key : ∀ x ∈ xs, p x = true ↔ k x = key) :
    updateFirst p f xs = xs.map (fun x => if k x = key then f x else x) := by
  induction xs with
  | nil => rfl
  | cons y ys ih =>
    obtain ⟨absent, rest⟩ := List.nodup_cons.mp distinct
    have head := matches_key y List.mem_cons_self
    rw [updateFirst, List.map_cons]
    by_cases matched : k y = key
    · have untouched : ∀ z ∈ ys, (if k z = key then f z else z) = z := by
        intro z member
        rw [if_neg]
        intro same
        exact absent (matched.trans same.symm ▸ List.mem_map_of_mem member)
      rw [if_pos (head.mpr matched), if_pos matched, List.map_congr_left untouched, List.map_id']
    · have different : ¬p y = true := fun h => matched (head.mp h)
      rw [if_neg different, if_neg matched, ih rest fun z member => matches_key z (List.mem_cons_of_mem _ member)]

end IotPlatform.Table
