import Mathlib.Data.FinEnum
import Mathlib.Data.Finset.Lattice.Fold
import Mathlib.Data.Finset.Card
import Mathlib.Order.Lattice.Nat
import IotPlatform.Lib.Run
import IotPlatform.Lib.SlidingWindow
import IotPlatform.Shared.ReplayProtection

/-!
# The replay checker as a set of accepted nonces

The reference machine keeps, for every known node, the set of nonces accepted since its last reset and
the timestamp of the frame with the highest one. `step_simulates` shows that the table of shift registers
answers every call as this machine does.
-/

namespace IotPlatform.Replay
open Table SlidingWindow

namespace Reference

structure Node where
  accepted : Finset Nat
  timestamp : Nat

def Node.highest (r : Node) : Nat := r.accepted.sup id

abbrev Machine := UInt8 → Option Node

def known (m : Machine) : Finset UInt8 := Finset.univ.filter fun id => (m id).isSome

def checkNode (r : Node) (nonce timestampMs : Nat) : Node × ReplayCheckResult :=
  if 10000 < ((timestampMs : Int) - r.timestamp).natAbs then (r, .errStaleTimestamp)
  else if r.highest < nonce then ({ accepted := insert nonce r.accepted, timestamp := timestampMs }, .ok)
  else if r.highest - nonce < 64 ∧ nonce ∉ r.accepted then ({ r with accepted := insert nonce r.accepted }, .ok)
  else (r, .errDuplicate)

def check (m : Machine) (id : UInt8) (nonce timestampMs : Nat) : Machine × ReplayCheckResult :=
  match m id with
  | none =>
    if (known m).card < 64 then
      (Function.update m id (some { accepted := {nonce}, timestamp := timestampMs }), .ok)
    else (m, .errParamNull)
  | some r =>
    let (r', result) := checkNode r nonce timestampMs
    (Function.update m id (some r'), result)

def step (m : Machine) : Call → Machine × Option ReplayCheckResult
  | .check id nonce timestampMs =>
    let (m', result) := check m id nonce.toNat timestampMs.toNat
    (m', some result)
  | .resetNode id => (Function.update m id none, none)
  | .resetAll => (fun _ => none, none)

theorem mem_known {m : Machine} {id : UInt8} : id ∈ known m ↔ (m id).isSome = true := by
  simp [known]

theorem known_update_some {m : Machine} {id : UInt8} {r : Node} :
    known (Function.update m id (some r)) = insert id (known m) := by
  ext other
  rw [Finset.mem_insert, mem_known, mem_known]
  by_cases same : other = id
  · simp [same]
  · simp [same]

theorem known_update_none {m : Machine} {id : UInt8} :
    known (Function.update m id none) = (known m).erase id := by
  ext other
  rw [Finset.mem_erase, mem_known, mem_known]
  by_cases same : other = id
  · simp [same]
  · simp [same]

end Reference

open Reference (Node Machine known checkNode)

/-! ### One slot -/

/-- A slot's registers stand for the node's accepted set. -/
structure Represents (s : ReplayNodeState) (r : Node) : Prop where
  top : s.highestNonce.toNat ∈ r.accepted
  bound : ∀ a ∈ r.accepted, a ≤ s.highestNonce.toNat
  timestamp : r.timestamp = s.highestTimestampMs.toNat
  window : Records s.bitmap s.highestNonce.toNat r.accepted

theorem Represents.highest {s : ReplayNodeState} {r : Node} (h : Represents s r) :
    r.highest = s.highestNonce.toNat :=
  le_antisymm (Finset.sup_le h.bound) (Finset.le_sup (f := id) h.top)

theorem drift_exceeds (a b : UInt64) :
    (if a > b then a - b else b - a) > maxDriftMs ↔ 10000 < ((a.toNat : Int) - b.toNat).natAbs := by
  have ha := a.toNat_lt
  have hb := b.toNat_lt
  rw [gt_iff_lt, UInt64.lt_iff_toNat_lt, show maxDriftMs.toNat = 10000 from rfl]
  split
  · rename_i later
    rw [gt_iff_lt, UInt64.lt_iff_toNat_lt] at later
    rw [UInt64.toNat_sub]
    omega
  · rename_i earlier
    rw [gt_iff_lt, UInt64.lt_iff_toNat_lt] at earlier
    rw [UInt64.toNat_sub]
    omega

theorem checkSlot_first {s : ReplayNodeState} (nonce : UInt32) (timestampMs : UInt64)
    (zero : s.highestNonce = 0) (empty : s.bitmap = 0) :
    (checkSlot s nonce timestampMs).2 = .ok ∧
      Represents (checkSlot s nonce timestampMs).1 { accepted := {nonce.toNat}, timestamp := timestampMs.toNat } := by
  simp only [checkSlot, zero, empty, and_self, if_true, true_and]
  exact ⟨by simp, by simp, rfl, by simpa using records_first⟩

theorem Represents.advance {s : ReplayNodeState} {r : Node} (h : Represents s r) {nonce : UInt32}
    (timestampMs : UInt64) (ahead : s.highestNonce.toNat < nonce.toNat) :
    let shift := nonce - s.highestNonce
    let bitmap := if shift.toNat < windowSize then (s.bitmap <<< shift.toNat) ||| 1 else 1
    Represents { s with highestNonce := nonce, highestTimestampMs := timestampMs, bitmap := bitmap }
      { accepted := insert nonce.toNat r.accepted, timestamp := timestampMs.toNat } := by
  have shift : (nonce - s.highestNonce).toNat = nonce.toNat - s.highestNonce.toNat := by
    have hn := nonce.toNat_lt
    rw [UInt32.toNat_sub]
    omega
  refine ⟨by simp, ?_, rfl, ?_⟩
  · intro a member
    rcases Finset.mem_insert.mp member with rfl | member
    · exact Nat.le_refl _
    · exact (h.bound a member).trans ahead.le
  · dsimp only
    rw [shift, Finset.coe_insert]
    split
    · have moved := records_advance h.window h.bound (nonce.toNat - s.highestNonce.toNat) (by omega)
      rwa [show s.highestNonce.toNat + (nonce.toNat - s.highestNonce.toNat) = nonce.toNat by omega] at moved
    · rename_i far
      exact records_jump h.bound (by simp only [windowSize] at far; omega)

theorem Represents.fill {s : ReplayNodeState} {r : Node} (h : Represents s r) {nonce : UInt32}
    (behind : nonce.toNat ≤ s.highestNonce.toNat) :
    Represents { s with bitmap := s.bitmap ||| (1 : BitVec 64) <<< (s.highestNonce.toNat - nonce.toNat) }
      { r with accepted := insert nonce.toNat r.accepted } := by
  refine ⟨Finset.mem_insert_of_mem h.top, ?_, h.timestamp, ?_⟩
  · intro a member
    rcases Finset.mem_insert.mp member with rfl | member
    · exact behind
    · exact h.bound a member
  · have marked := records_mark h.window (s.highestNonce.toNat - nonce.toNat) (by omega)
    rw [show s.highestNonce.toNat - (s.highestNonce.toNat - nonce.toNat) = nonce.toNat by omega] at marked
    rwa [Finset.coe_insert]

theorem Represents.unseen {s : ReplayNodeState} {r : Node} (h : Represents s r) {nonce : UInt32}
    (behind : nonce.toNat ≤ s.highestNonce.toNat) (reach : s.highestNonce.toNat - nonce.toNat < 64) :
    s.bitmap &&& ((1 : BitVec 64) <<< (s.highestNonce.toNat - nonce.toNat)) = 0 ↔ nonce.toNat ∉ r.accepted := by
  rw [and_mask_eq_zero reach, ← Bool.not_eq_true, h.window _ reach,
    show s.highestNonce.toNat - (s.highestNonce.toNat - nonce.toNat) = nonce.toNat by omega, Finset.mem_coe]
  exact not_congr ⟨And.right, fun member => ⟨by omega, member⟩⟩

/-- On a known node the slot answers as the reference does and keeps standing for it. -/
theorem checkSlot_represents {s : ReplayNodeState} {r : Node} (h : Represents s r) (nonce : UInt32)
    (timestampMs : UInt64) :
    (checkSlot s nonce timestampMs).2 = (checkNode r nonce.toNat timestampMs.toNat).2 ∧
      Represents (checkSlot s nonce timestampMs).1 (checkNode r nonce.toNat timestampMs.toNat).1 := by
  have seen : s.bitmap ≠ 0 := records_ne_zero h.window h.top (by decide)
  have stale := drift_exceeds timestampMs s.highestTimestampMs
  rw [← h.timestamp] at stale
  unfold checkSlot checkNode
  rw [if_neg fun first => seen first.2, h.highest]
  dsimp only
  by_cases late : 10000 < ((timestampMs.toNat : Int) - r.timestamp).natAbs
  · rw [if_pos (stale.mpr late), if_pos late]
    exact ⟨rfl, h⟩
  rw [if_neg (mt stale.mp late), if_neg late]
  by_cases ahead : s.highestNonce.toNat < nonce.toNat
  · rw [if_pos (UInt32.lt_iff_toNat_lt.mpr ahead), if_pos ahead]
    exact ⟨rfl, h.advance timestampMs ahead⟩
  rw [if_neg (mt UInt32.lt_iff_toNat_lt.mp ahead), if_neg ahead]
  have behind : nonce.toNat ≤ s.highestNonce.toNat := Nat.not_lt.mp ahead
  have delta : (s.highestNonce - nonce).toNat = s.highestNonce.toNat - nonce.toNat := by
    have hs := s.highestNonce.toNat_lt
    rw [UInt32.toNat_sub]
    omega
  rw [delta]
  by_cases reach : s.highestNonce.toNat - nonce.toNat < 64
  · have bit := h.unseen behind reach
    rw [if_neg (show ¬s.highestNonce.toNat - nonce.toNat ≥ windowSize from Nat.not_le.mpr reach)]
    by_cases fresh : nonce.toNat ∉ r.accepted
    · rw [if_neg (not_not.mpr (bit.mpr fresh)), if_pos ⟨reach, fresh⟩]
      exact ⟨rfl, h.fill behind⟩
    · rw [if_pos fun zero => fresh (bit.mp zero), if_neg fun both => fresh both.2]
      exact ⟨rfl, h⟩
  · rw [if_pos (show s.highestNonce.toNat - nonce.toNat ≥ windowSize from Nat.not_lt.mp reach),
      if_neg fun both => reach both.1]
    exact ⟨rfl, h⟩

theorem checkSlot_tracks {s : ReplayNodeState} {id : UInt8} (nonce : UInt32) (timestampMs : UInt64)
    (tracked : s.tracks id = true) : (checkSlot s nonce timestampMs).1.tracks id = true := by
  unfold checkSlot
  dsimp only
  repeat' split
  all_goals exact tracked

/-! ### The slot table -/

/-- The table holds one slot for each known node, and that slot stands for it. -/
structure Simulates (s : ReplayState) (m : Machine) : Prop where
  initialised : s.initialised = true
  size : s.nodes.length = maxNodes
  unique : ∀ id, s.nodes.countP (·.tracks id) ≤ 1
  counted : s.nodes.countP (·.initialised) = (known m).card
  slots : ∀ id, Option.Rel Represents (s.nodes.find? (·.tracks id)) (m id)

theorem tracks_other {s : ReplayNodeState} {id other : UInt8} (different : other ≠ id) (tracked : s.tracks id = true) :
    s.tracks other = false := by
  simp only [ReplayNodeState.tracks, Bool.and_eq_true, beq_iff_eq] at tracked
  simp [ReplayNodeState.tracks, tracked.2, different.symm]

theorem tracks_initialised {s : ReplayNodeState} {id : UInt8} (tracked : s.tracks id = true) : s.initialised = true := by
  simp only [ReplayNodeState.tracks, Bool.and_eq_true] at tracked
  exact tracked.1

theorem free_tracks {s : ReplayNodeState} (id : UInt8) (free : s.free = true) : s.tracks id = false := by
  simp only [ReplayNodeState.free, Bool.not_eq_true'] at free
  simp [ReplayNodeState.tracks, free]

theorem Simulates.cases {s : ReplayState} {m : Machine} (h : Simulates s m) (id : UInt8) :
    (s.nodes.find? (·.tracks id) = none ∧ m id = none) ∨
      ∃ slot r, s.nodes.find? (·.tracks id) = some slot ∧ m id = some r ∧ Represents slot r := by
  have related := h.slots id
  cases found : s.nodes.find? (·.tracks id) with
  | none =>
    rw [found] at related
    cases reference : m id with
    | none => exact Or.inl ⟨rfl, rfl⟩
    | some r => rw [reference] at related; cases related
  | some slot =>
    rw [found] at related
    cases reference : m id with
    | none => rw [reference] at related; cases related
    | some r =>
      rw [reference] at related
      cases related with
      | some represents => exact Or.inr ⟨slot, r, rfl, rfl, represents⟩

theorem Simulates.free_iff {s : ReplayState} {m : Machine} (h : Simulates s m) :
    s.nodes.find? (·.free) = none ↔ ¬(known m).card < 64 := by
  have split := List.length_eq_countP_add_countP (fun slot : ReplayNodeState => slot.initialised) (l := s.nodes)
  have spare : s.nodes.countP (·.free) = s.nodes.countP (fun slot => !slot.initialised) := rfl
  rw [find?_none_iff_countP, spare]
  simp only [h.size, maxNodes, h.counted, Bool.not_eq_true, Bool.decide_eq_false] at split
  omega

theorem Simulates.rewrite {s : ReplayState} {m : Machine} (h : Simulates s m) {id : UInt8} {slot slot' : ReplayNodeState}
    {r r' : Node} (found : s.nodes.find? (·.tracks id) = some slot) (reference : m id = some r)
    (tracked : slot'.tracks id = true) (represents : Represents slot' r') :
    Simulates { s with nodes := updateFirst (·.tracks id) (fun _ => slot') s.nodes }
      (Function.update m id (some r')) := by
  have old : slot.tracks id = true := List.find?_some found
  refine ⟨h.initialised, (length_updateFirst _ _ _).trans h.size, ?_, ?_, ?_⟩
  · intro other
    have count := countP_updateFirst (f := fun _ => slot') (q := (·.tracks other)) found
    have bound := h.unique other
    by_cases same : other = id
    · subst same
      simp only [old, tracked, if_true] at count
      dsimp only
      omega
    · simp only [tracks_other same old, tracks_other same tracked, Bool.false_eq_true, if_false] at count
      dsimp only
      omega
  · have count := countP_updateFirst (f := fun _ => slot') (q := (·.initialised)) found
    simp only [tracks_initialised old, tracks_initialised tracked, if_true] at count
    have member : id ∈ known m := by rw [Reference.mem_known, reference]; rfl
    rw [Reference.known_update_some, Finset.insert_eq_of_mem member, ← h.counted]
    dsimp only
    omega
  · intro other
    by_cases same : other = id
    · subst same
      dsimp only
      rw [find?_updateFirst_self fun _ _ => tracked, found, Function.update_self]
      exact .some represents
    · dsimp only
      rw [find?_updateFirst_other (p := ReplayNodeState.tracks id) (fun _ => tracks_other same)
        (fun _ _ => tracks_other same tracked), Function.update_of_ne same]
      exact h.slots other

theorem Simulates.claim {s : ReplayState} {m : Machine} (h : Simulates s m) {id : UInt8} {spare slot : ReplayNodeState}
    {r : Node} (absent : s.nodes.find? (·.tracks id) = none) (reference : m id = none)
    (found : s.nodes.find? (·.free) = some spare) (tracked : slot.tracks id = true) (represents : Represents slot r) :
    Simulates { s with nodes := updateFirst (·.free) (fun _ => slot) s.nodes } (Function.update m id (some r)) := by
  have free : spare.free = true := List.find?_some found
  refine ⟨h.initialised, (length_updateFirst _ _ _).trans h.size, ?_, ?_, ?_⟩
  · intro other
    have count := countP_updateFirst (f := fun _ => slot) (q := (·.tracks other)) found
    simp only [free_tracks other free, Bool.false_eq_true, if_false] at count
    dsimp only
    by_cases same : other = id
    · subst same
      have zero := find?_none_iff_countP.mp absent
      simp only [tracked, if_true] at count
      omega
    · have bound := h.unique other
      simp only [tracks_other same tracked, Bool.false_eq_true, if_false] at count
      omega
  · have count := countP_updateFirst (f := fun _ => slot) (q := (·.initialised)) found
    have unused : spare.initialised = false := by simpa [ReplayNodeState.free] using free
    simp only [unused, tracks_initialised tracked, Bool.false_eq_true, if_false, if_true] at count
    have fresh : id ∉ known m := by rw [Reference.mem_known, reference]; simp
    rw [Reference.known_update_some, Finset.card_insert_of_notMem fresh, ← h.counted]
    dsimp only
    omega
  · intro other
    by_cases same : other = id
    · subst same
      dsimp only
      rw [find?_updateFirst_fresh absent found tracked, Function.update_self]
      exact .some represents
    · dsimp only
      rw [find?_updateFirst_other (p := ReplayNodeState.free) (fun _ => free_tracks other)
        (fun _ _ => tracks_other same tracked), Function.update_of_ne same]
      exact h.slots other

theorem updateFirst_updateFirst_free {nodes : List ReplayNodeState} {id : UInt8} {slot slot' : ReplayNodeState}
    (absent : nodes.find? (·.tracks id) = none) (tracked : slot.tracks id = true) :
    updateFirst (·.tracks id) (fun _ => slot') (updateFirst (·.free) (fun _ => slot) nodes) =
      updateFirst (·.free) (fun _ => slot') nodes := by
  induction nodes with
  | nil => rfl
  | cons head rest ih =>
    rw [List.find?_cons] at absent
    split at absent
    · cases absent
    · rename_i unseen
      cases free : head.free with
      | true => simp [updateFirst, free, tracked]
      | false => simp [updateFirst, free, unseen, ih absent]

theorem check_simulates {s : ReplayState} {m : Machine} (h : Simulates s m) (id : UInt8) (nonce : UInt32)
    (timestampMs : UInt64) :
    (replayCheck s id nonce timestampMs).2 = (Reference.check m id nonce.toNat timestampMs.toNat).2 ∧
      Simulates (replayCheck s id nonce timestampMs).1 (Reference.check m id nonce.toNat timestampMs.toNat).1 := by
  unfold replayCheck Reference.check findOrAllocNode
  rw [if_neg (show ¬(!s.initialised) = true by rw [h.initialised]; decide)]
  rcases h.cases id with ⟨absent, reference⟩ | ⟨slot, r, found, reference, represents⟩
  · simp only [absent, reference]
    cases spare : s.nodes.find? (·.free) with
    | none =>
      rw [if_neg (h.free_iff.mp spare)]
      exact ⟨rfl, h⟩
    | some empty =>
      have room : (known m).card < 64 := by
        by_contra full
        rw [h.free_iff.mpr full] at spare
        cases spare
      rw [if_pos room]
      dsimp only
      have tracked : ReplayNodeState.tracks id { nodeId := id, initialised := true } = true := by
        simp [ReplayNodeState.tracks]
      obtain ⟨accepts, represents⟩ :=
        checkSlot_first (s := { nodeId := id, initialised := true }) nonce timestampMs rfl rfl
      refine ⟨accepts, ?_⟩
      rw [updateFirst_updateFirst_free absent tracked]
      exact h.claim absent reference spare (checkSlot_tracks nonce timestampMs tracked) represents
  · simp only [found, reference]
    obtain ⟨same, represents'⟩ := checkSlot_represents represents nonce timestampMs
    exact ⟨same, h.rewrite found reference (checkSlot_tracks nonce timestampMs (List.find?_some found)) represents'⟩

theorem resetNode_simulates {s : ReplayState} {m : Machine} (h : Simulates s m) (id : UInt8) :
    Simulates (replayResetNode s id) (Function.update m id none) := by
  rcases h.cases id with ⟨absent, reference⟩ | ⟨slot, r, found, reference, -⟩
  · rw [show replayResetNode s id = s by simp only [replayResetNode, updateFirst_of_none absent],
      show Function.update m id none = m by rw [← reference, Function.update_eq_self]]
    exact h
  have old : slot.tracks id = true := List.find?_some found
  have zero : ∀ other, ReplayNodeState.tracks other {} = false := fun other => rfl
  have count := fun q => countP_updateFirst (f := fun _ => ({} : ReplayNodeState)) (q := q) found
  have bound := h.unique id
  have removed : (replayResetNode s id).nodes.countP (·.tracks id) = 0 := by
    have traded := count (·.tracks id)
    simp only [old, zero, if_true, Bool.false_eq_true, if_false] at traded
    simp only [replayResetNode]
    omega
  refine ⟨h.initialised, (length_updateFirst _ _ _).trans h.size, ?_, ?_, ?_⟩
  · intro other
    by_cases same : other = id
    · subst same
      omega
    · have traded := count (·.tracks other)
      have limit := h.unique other
      simp only [tracks_other same old, zero, Bool.false_eq_true, if_false] at traded
      simp only [replayResetNode]
      omega
  · have traded := count (·.initialised)
    simp only [tracks_initialised old, if_true, Bool.false_eq_true, if_false] at traded
    have member : id ∈ known m := by rw [Reference.mem_known, reference]; rfl
    rw [Reference.known_update_none, Finset.card_erase_of_mem member, ← h.counted]
    simp only [replayResetNode]
    omega
  · intro other
    by_cases same : other = id
    · subst same
      rw [find?_none_iff_countP.mpr removed, Function.update_self]
      exact .none
    · simp only [replayResetNode]
      rw [find?_updateFirst_other (p := ReplayNodeState.tracks id) (fun _ => tracks_other same) (fun _ _ => zero other),
        Function.update_of_ne same]
      exact h.slots other

theorem empty_simulates {s : ReplayState} (initialised : s.initialised = true)
    (empty : s.nodes = List.replicate maxNodes {}) : Simulates s (fun _ => none) := by
  refine ⟨initialised, by simp [empty], ?_, ?_, ?_⟩
  · intro id
    rw [empty, List.countP_replicate]
    exact Nat.zero_le 1
  · rw [empty, List.countP_replicate]
    simp [known]
  · intro id
    have absent : s.nodes.find? (·.tracks id) = none := by
      rw [empty, List.find?_replicate]
      rfl
    rw [absent]
    exact .none

theorem step_simulates (s : ReplayState) (m : Machine) (call : Call) (h : Simulates s m) :
    (step s call).2 = (Reference.step m call).2 ∧ Simulates (step s call).1 (Reference.step m call).1 := by
  cases call with
  | check id nonce timestampMs =>
    obtain ⟨same, related⟩ := check_simulates h id nonce timestampMs
    exact ⟨congrArg some same, related⟩
  | resetNode id => exact ⟨rfl, resetNode_simulates h id⟩
  | resetAll => exact ⟨rfl, empty_simulates h.initialised rfl⟩

theorem init_simulates : Simulates replayInit (fun _ => none) := empty_simulates rfl rfl

end IotPlatform.Replay
