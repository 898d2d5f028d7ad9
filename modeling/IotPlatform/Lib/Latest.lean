import Mathlib.Data.List.Dedup
import Mathlib.Data.List.Perm.Subperm

/-!
# The latest event of a key

`latest events key` is the value of the last event of `key` in a log that grows at its end: what a table with one slot
for each key, updated in place, stands for. `room_for_fresh` is why such a table of `cap` slots has one left for a key it
does not hold yet.
-/

namespace IotPlatform.Latest

variable {κ τ : Type} [DecidableEq κ]

def latest (events : List (κ × τ)) (key : κ) : Option τ := (events.reverse.find? fun e => e.1 == key).map Prod.snd

theorem latest_concat (events : List (κ × τ)) (key other : κ) (value : τ) :
    latest (events ++ [(key, value)]) other = if key = other then some value else latest events other := by
  rw [latest, List.reverse_append, List.reverse_singleton, List.singleton_append, List.find?_cons]
  by_cases same : key = other
  · simp [same]
  · rw [beq_false_of_ne same, if_neg same]
    rfl

theorem mem_of_latest {events : List (κ × τ)} {key : κ} {value : τ} (found : latest events key = some value) :
    (key, value) ∈ events := by
  obtain ⟨event, here, rfl⟩ := Option.map_eq_some_iff.mp found
  have same : event.1 = key := by simpa using List.find?_some here
  exact same ▸ List.mem_reverse.mp (List.mem_of_find?_eq_some here)

/-- Nothing of the key comes after its latest event. -/
theorem latest_eq_some_iff {events : List (κ × τ)} {key : κ} {value : τ} :
    latest events key = some value ↔
      ∃ before after, events = before ++ (key, value) :: after ∧ ∀ event ∈ after, event.1 ≠ key := by
  rw [latest, Option.map_eq_some_iff]
  constructor
  · rintro ⟨event, found, rfl⟩
    obtain ⟨same, after, before, split, others⟩ := List.find?_eq_some_iff_append.mp found
    obtain rfl : event.1 = key := by simpa using same
    refine ⟨before.reverse, after.reverse, ?_, fun other member => ?_⟩
    · rw [← List.reverse_reverse events, split]
      simp
    · simpa using others other (List.mem_reverse.mp member)
  · rintro ⟨before, after, rfl, others⟩
    refine ⟨(key, value), List.find?_eq_some_iff_append.mpr ⟨by simp, after.reverse, before.reverse, by simp, ?_⟩, rfl⟩
    intro other member
    simpa using others other (List.mem_reverse.mp member)

/-- If no more than `cap` keys have been seen, and the table's keys are among them, there is room for one it lacks. -/
theorem room_for_fresh {held seen : List κ} {key : κ} {cap : Nat} (distinct : held.Nodup) (fresh : key ∉ held)
    (within : ∀ k ∈ key :: held, k ∈ seen) (few : seen.dedup.length ≤ cap) : held.length < cap := by
  have known : key :: held ⊆ seen.dedup := fun k member => List.mem_dedup.mpr (within k member)
  have count := (List.subperm_of_subset (List.nodup_cons.mpr ⟨fresh, distinct⟩) known).length_le
  rw [List.length_cons] at count
  exact Nat.lt_of_lt_of_le (Nat.lt_of_succ_le count) few

theorem length_dedup_le_append (xs ys : List κ) : xs.dedup.length ≤ (xs ++ ys).dedup.length := by
  refine (List.subperm_of_subset (List.nodup_dedup xs) fun k member => ?_).length_le
  rw [List.mem_dedup] at member ⊢
  exact List.mem_append_left ys member

end IotPlatform.Latest
