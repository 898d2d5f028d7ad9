import Mathlib.Data.List.Range

/-!
# Write cursors

A buffer filled from its start, each write at the position after the last: `buf[pos++] = byte`. The cursor keeps every write
with its index, and no index is skipped or written twice.
-/

namespace IotPlatform

structure Cursor where
  writes : List (Nat × UInt8)
  pos : Nat
  dense : writes.map Prod.fst = List.range pos

namespace Cursor

def start : Cursor := { writes := [], pos := 0, dense := rfl }

def put (c : Cursor) (byte : UInt8) : Cursor where
  writes := c.writes ++ [(c.pos, byte)]
  pos := c.pos + 1
  dense := by
    rw [List.map_append, c.dense, List.range_succ]
    rfl

/-- Several bytes at once, the position moved behind them. -/
def copy (c : Cursor) (bytes : List UInt8) : Cursor := bytes.foldl put c

/-- What the buffer holds up to the position. -/
def bytes (c : Cursor) : List UInt8 := c.writes.map Prod.snd

@[simp] theorem bytes_start : start.bytes = [] := rfl

@[simp] theorem bytes_put (c : Cursor) (byte : UInt8) : (c.put byte).bytes = c.bytes ++ [byte] := by
  simp [bytes, put]

@[simp] theorem bytes_copy (c : Cursor) (added : List UInt8) : (c.copy added).bytes = c.bytes ++ added := by
  induction added generalizing c with
  | nil => simp [copy]
  | cons byte rest ih => rw [copy, List.foldl_cons, ← copy, ih, bytes_put, List.append_assoc, List.singleton_append]

theorem bytes_foldl {ι : Type} {write : Cursor → ι → Cursor} {text : ι → List UInt8}
    (writes : ∀ c i, (write c i).bytes = c.bytes ++ text i) (c : Cursor) (items : List ι) :
    (items.foldl write c).bytes = c.bytes ++ items.flatMap text := by
  induction items generalizing c with
  | nil => simp
  | cons i rest ih => rw [List.foldl_cons, ih, writes, List.flatMap_cons, List.append_assoc]

@[simp] theorem length_bytes (c : Cursor) : c.bytes.length = c.pos := by
  have length := congrArg List.length c.dense
  rwa [List.length_map, List.length_range, ← List.length_map (f := Prod.snd)] at length

theorem inside_iff (c : Cursor) (size : Nat) : (∀ write ∈ c.writes, write.1 < size) ↔ c.pos ≤ size := by
  have indices : ∀ i, (∃ write ∈ c.writes, write.1 = i) ↔ i < c.pos := by
    intro i
    rw [← List.mem_range, ← c.dense, List.mem_map]
  constructor
  · intro inside
    rcases Nat.eq_zero_or_pos c.pos with empty | some_written
    · rw [empty]
      exact Nat.zero_le size
    · obtain ⟨write, member, last⟩ := (indices (c.pos - 1)).mpr (by omega)
      have below := inside write member
      omega
  · intro fits write member
    have written := (indices write.1).mp ⟨write, member, rfl⟩
    omega

end Cursor

end IotPlatform
