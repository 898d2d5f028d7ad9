import Mathlib.Data.List.Basic

/-!
# Ciphers in rounds

In a round a block is substituted, permuted, mixed and then added to a key; the last round does not mix. The inverse of such a
cipher has the same form, over the inverse layers and with the keys in between mixed back.
-/

namespace IotPlatform.RoundCipher

variable {α : Type*}

structure Layers (α : Type*) where
  substitute : α → α
  permute : α → α
  mix : α → α
  add : α → α → α

def Layers.round (l : Layers α) (block key : α) : α := l.add (l.mix (l.permute (l.substitute block))) key

def Layers.cipher (l : Layers α) (first : α) (middle : List α) (last : α) (block : α) : α :=
  l.add (l.permute (l.substitute (middle.foldl l.round (l.add block first)))) last

structure Layers.Undoes (m l : Layers α) : Prop where
  substitute : ∀ block, m.substitute (l.substitute block) = block
  permute : ∀ block, m.permute (l.permute block) = block
  mix : ∀ block, m.mix (l.mix block) = block
  add : ∀ block key, m.add (l.add block key) key = block
  commute : ∀ block, m.permute (m.substitute block) = m.substitute (m.permute block)
  linear : ∀ block key, m.mix (m.add block key) = m.add (m.mix block) (m.mix key)

section Undo

variable {m l : Layers α}

/-- A round of the inverse starts where its own mixing would come. -/
theorem Layers.Undoes.round (undoes : m.Undoes l) (block key : α) :
    m.round (l.permute (l.substitute (l.round block key))) (m.mix key) = l.permute (l.substitute block) := by
  rw [Layers.round, undoes.commute, undoes.permute, undoes.substitute, ← undoes.linear, Layers.round, undoes.add, undoes.mix]

theorem Layers.Undoes.rounds (undoes : m.Undoes l) (block : α) (keys : List α) :
    (keys.reverse.map m.mix).foldl m.round (l.permute (l.substitute (keys.foldl l.round block))) =
      l.permute (l.substitute block) := by
  induction keys generalizing block with
  | nil => rfl
  | cons key rest ih =>
    rw [List.reverse_cons, List.map_append, List.foldl_append, List.foldl_cons, ih, List.map_singleton, List.foldl_cons,
      List.foldl_nil, undoes.round]

theorem Layers.Undoes.cipher (undoes : m.Undoes l) (first : α) (middle : List α) (last block : α) :
    m.cipher last (middle.reverse.map m.mix) first (l.cipher first middle last block) = block := by
  rw [Layers.cipher, Layers.cipher, undoes.add, undoes.rounds, undoes.commute, undoes.permute, undoes.substitute, undoes.add]

end Undo

end IotPlatform.RoundCipher
