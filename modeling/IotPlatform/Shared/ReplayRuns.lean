import IotPlatform.Shared.ReplayReference

/-!
# Runs of the replay checker

What every sequence of checks and resets is answered, and what an honest sender can rely on.
-/

namespace IotPlatform.Replay
open Run
open Reference (Node Machine known checkNode)

def after (calls : List Call) : ReplayState := finalState step replayInit calls

def Reference.after (calls : List Call) : Machine := finalState Reference.step (fun _ => none) calls

def answer (calls : List Call) (id : UInt8) (nonce : UInt32) (timestampMs : UInt64) : ReplayCheckResult :=
  (replayCheck (after calls) id nonce timestampMs).2

def Resets (id : UInt8) : Call → Prop
  | .check _ _ _ => False
  | .resetNode other => other = id
  | .resetAll => True

def OfOther (id : UInt8) : Call → Prop
  | .check other _ _ => other ≠ id
  | .resetNode other => other ≠ id
  | .resetAll => False

theorem after_simulates (calls : List Call) : Simulates (after calls) (Reference.after calls) :=
  (simulation init_simulates step_simulates calls).2

theorem answer_eq (calls : List Call) (id : UInt8) (nonce : UInt32) (timestampMs : UInt64) :
    answer calls id nonce timestampMs =
      (Reference.check (Reference.after calls) id nonce.toNat timestampMs.toNat).2 :=
  (check_simulates (after_simulates calls) id nonce timestampMs).1

theorem reference_after_append (calls more : List Call) :
    Reference.after (calls ++ more) = finalState Reference.step (Reference.after calls) more :=
  finalState_append calls more

/-! ### The reference machine, call by call -/

theorem check_other {m : Machine} {id other : UInt8} {nonce timestampMs : Nat} (different : id ≠ other) :
    (Reference.check m other nonce timestampMs).1 id = m id := by
  unfold Reference.check
  split
  · split
    · exact Function.update_of_ne different _ _
    · rfl
  · exact Function.update_of_ne different _ _

theorem check_unknown {m : Machine} {id : UInt8} (nonce timestampMs : Nat) (unknown : m id = none)
    (room : (known m).card < 64) :
    Reference.check m id nonce timestampMs =
      (Function.update m id (some { accepted := {nonce}, timestamp := timestampMs }), .ok) := by
  simp only [Reference.check, unknown, if_pos room]

theorem check_known {m : Machine} {id : UInt8} {r : Node} (nonce timestampMs : Nat) (reference : m id = some r) :
    Reference.check m id nonce timestampMs =
      (Function.update m id (some (checkNode r nonce timestampMs).1), (checkNode r nonce timestampMs).2) := by
  simp only [Reference.check, reference]

theorem step_other {m : Machine} {id : UInt8} (call : Call) (other : OfOther id call) :
    (Reference.step m call).1 id = m id := by
  cases call with
  | check node nonce timestampMs => exact check_other (Ne.symm other)
  | resetNode node => exact Function.update_of_ne (Ne.symm other) _ _
  | resetAll => exact other.elim

theorem checkNode_cases (r : Node) (nonce timestampMs : Nat) :
    (10000 < ((timestampMs : Int) - r.timestamp).natAbs ∧
      checkNode r nonce timestampMs = (r, .errStaleTimestamp)) ∨
    (((timestampMs : Int) - r.timestamp).natAbs ≤ 10000 ∧ r.highest < nonce ∧
      checkNode r nonce timestampMs = ({ accepted := insert nonce r.accepted, timestamp := timestampMs }, .ok)) ∨
    (((timestampMs : Int) - r.timestamp).natAbs ≤ 10000 ∧ nonce ≤ r.highest ∧
      r.highest - nonce < 64 ∧ nonce ∉ r.accepted ∧
      checkNode r nonce timestampMs = ({ r with accepted := insert nonce r.accepted }, .ok)) ∨
    (((timestampMs : Int) - r.timestamp).natAbs ≤ 10000 ∧ nonce ≤ r.highest ∧
      ¬(r.highest - nonce < 64 ∧ nonce ∉ r.accepted) ∧ checkNode r nonce timestampMs = (r, .errDuplicate)) := by
  unfold checkNode
  by_cases late : 10000 < ((timestampMs : Int) - r.timestamp).natAbs
  · exact Or.inl ⟨late, if_pos late⟩
  rw [if_neg late]
  have timely := Nat.not_lt.mp late
  by_cases ahead : r.highest < nonce
  · exact Or.inr (Or.inl ⟨timely, ahead, if_pos ahead⟩)
  rw [if_neg ahead]
  have behind := Nat.not_lt.mp ahead
  by_cases fresh : r.highest - nonce < 64 ∧ nonce ∉ r.accepted
  · exact Or.inr (Or.inr (Or.inl ⟨timely, behind, fresh.1, fresh.2, if_pos fresh⟩))
  · exact Or.inr (Or.inr (Or.inr ⟨timely, behind, fresh, if_neg fresh⟩))

theorem checkNode_grows (r : Node) (nonce timestampMs : Nat) : r.accepted ⊆ (checkNode r nonce timestampMs).1.accepted := by
  rcases checkNode_cases r nonce timestampMs with ⟨_, eq⟩ | ⟨_, _, eq⟩ | ⟨_, _, _, _, eq⟩ | ⟨_, _, _, eq⟩ <;> rw [eq]
  · exact Finset.subset_insert _ _
  · exact Finset.subset_insert _ _

theorem checkNode_ok_mem {r : Node} {nonce timestampMs : Nat} (accepted : (checkNode r nonce timestampMs).2 = .ok) :
    nonce ∈ (checkNode r nonce timestampMs).1.accepted := by
  rcases checkNode_cases r nonce timestampMs with ⟨_, eq⟩ | ⟨_, _, eq⟩ | ⟨_, _, _, _, eq⟩ | ⟨_, _, _, eq⟩ <;>
    rw [eq] at accepted ⊢
  · cases accepted
  · exact Finset.mem_insert_self _ _
  · exact Finset.mem_insert_self _ _
  · cases accepted

theorem checkNode_seen {r : Node} {nonce : Nat} (timestampMs : Nat) (seen : nonce ∈ r.accepted) :
    (checkNode r nonce timestampMs).2 ≠ .ok := by
  have below : nonce ≤ r.highest := Finset.le_sup (f := id) seen
  rcases checkNode_cases r nonce timestampMs with ⟨_, eq⟩ | ⟨_, ahead, _⟩ | ⟨_, _, _, unseen, _⟩ | ⟨_, _, _, eq⟩
  · rw [eq]; nofun
  · omega
  · exact (unseen seen).elim
  · rw [eq]; nofun

def HasAccepted (id : UInt8) (nonce : Nat) (m : Machine) : Prop := ∃ r, m id = some r ∧ nonce ∈ r.accepted

theorem check_ok_accepted {m : Machine} {id : UInt8} {nonce timestampMs : Nat}
    (accepted : (Reference.check m id nonce timestampMs).2 = .ok) :
    HasAccepted id nonce (Reference.check m id nonce timestampMs).1 := by
  unfold Reference.check at accepted ⊢
  split at accepted
  · split at accepted
    · rename_i room
      rw [if_pos room]
      exact ⟨_, Function.update_self .., Finset.mem_singleton_self _⟩
    · cases accepted
  · exact ⟨_, Function.update_self .., checkNode_ok_mem accepted⟩

theorem step_keeps_accepted {m : Machine} {id : UInt8} {nonce : Nat} {call : Call} (kept : ¬Resets id call)
    (seen : HasAccepted id nonce m) : HasAccepted id nonce (Reference.step m call).1 := by
  obtain ⟨r, reference, member⟩ := seen
  cases call with
  | check other nonce' timestampMs =>
    by_cases same : other = id
    · subst same
      refine ⟨(checkNode r nonce'.toNat timestampMs.toNat).1, ?_, checkNode_grows _ _ _ member⟩
      simp only [Reference.step, Reference.check, reference, Function.update_self]
    · exact ⟨r, (check_other (Ne.symm same)).trans reference, member⟩
  | resetNode other => exact ⟨r, (step_other (.resetNode other) kept).trans reference, member⟩
  | resetAll => exact (kept trivial).elim

theorem check_accepted {m : Machine} {id : UInt8} {nonce : Nat} (timestampMs : Nat) (seen : HasAccepted id nonce m) :
    (Reference.check m id nonce timestampMs).2 ≠ .ok := by
  obtain ⟨r, reference, member⟩ := seen
  simp only [Reference.check, reference]
  exact checkNode_seen timestampMs member

theorem check_fresh {m : Machine} {id : UInt8} {nonce : Nat} (timestampMs : Nat)
    (fresh : ∀ r, m id = some r → nonce ∉ r.accepted ∧ r.highest < nonce + 64) :
    (Reference.check m id nonce timestampMs).2 ≠ .errDuplicate := by
  unfold Reference.check
  split
  · split <;> nofun
  · rename_i r reference
    obtain ⟨unseen, reach⟩ := fresh r reference
    dsimp only
    rcases checkNode_cases r nonce timestampMs with ⟨_, eq⟩ | ⟨_, _, eq⟩ | ⟨_, _, _, _, eq⟩ | ⟨_, _, refused, _⟩
    · rw [eq]; nofun
    · rw [eq]; nofun
    · rw [eq]; nofun
    · exact (refused ⟨by omega, unseen⟩).elim

/-- Every run of checks and resets is answered as the reference machine answers it. So no nonce of a node is
accepted twice between resets, no fresh nonce in reach is refused as a duplicate, and the calls for other
nodes leave the answers of a known node alone. -/
theorem replay_answers_exact :
    (∀ calls, outputs step replayInit calls = outputs Reference.step (fun _ => none) calls) ∧
    (∀ before between id nonce timestampMs timestampMs', (∀ call ∈ between, ¬Resets id call) →
      answer before id nonce timestampMs = .ok →
      answer (before ++ .check id nonce timestampMs :: between) id nonce timestampMs' ≠ .ok) ∧
    (∀ calls id nonce timestampMs,
      (∀ r, Reference.after calls id = some r → nonce.toNat ∉ r.accepted ∧ r.highest < nonce.toNat + 64) →
      answer calls id nonce timestampMs ≠ .errDuplicate) ∧
    (∀ calls others id nonce timestampMs, id ∈ known (Reference.after calls) → (∀ call ∈ others, OfOther id call) →
      answer (calls ++ others) id nonce timestampMs = answer calls id nonce timestampMs) := by
  refine ⟨fun calls => (simulation init_simulates step_simulates calls).1, ?_, ?_, ?_⟩
  · intro before between id nonce timestampMs timestampMs' kept accepted
    rw [answer_eq] at accepted ⊢
    rw [reference_after_append, finalState]
    apply check_accepted
    exact finalState_invariant_of_mem (P := HasAccepted id nonce.toNat) (check_ok_accepted accepted)
      fun m call member seen => step_keeps_accepted (kept call member) seen
  · intro calls id nonce timestampMs fresh
    rw [answer_eq]
    exact check_fresh _ fresh
  · intro calls others id nonce timestampMs member unrelated
    obtain ⟨r, reference⟩ := Option.isSome_iff_exists.mp (Reference.mem_known.mp member)
    have kept : Reference.after (calls ++ others) id = some r := by
      rw [reference_after_append]
      exact finalState_invariant_of_mem (P := fun m : Machine => m id = some r) reference
        fun m call present known => (step_other call (unrelated call present)).trans known
    rw [answer_eq, answer_eq]
    simp only [Reference.check, kept, reference]

/-! ### An honest sender -/

structure Frame where
  node : UInt8
  nonce : UInt32
  timestampMs : UInt64
  deriving DecidableEq

def Frame.call (f : Frame) : Call := .check f.node f.nonce f.timestampMs

def frameAnswer (before : List Frame) (f : Frame) : ReplayCheckResult :=
  answer (before.map Frame.call) f.node f.nonce f.timestampMs

/-- Each node's frames carry strictly increasing nonces and non-decreasing timestamps. -/
def Honest (frames : List Frame) : Prop :=
  frames.Pairwise fun f g => f.node = g.node → f.nonce < g.nonce ∧ f.timestampMs ≤ g.timestampMs

def FewNodes (frames : List Frame) : Prop := (frames.map Frame.node).toFinset.card ≤ 64

instance (frames : List Frame) : Decidable (Honest frames) := inferInstanceAs (Decidable (List.Pairwise _ _))

instance (frames : List Frame) : Decidable (FewNodes frames) := inferInstanceAs (Decidable (_ ≤ _))

/-- The last frame of the node, accepted or not. -/
def lastFrame (node : UInt8) (before : List Frame) : Option Frame :=
  (before.filter fun f => f.node = node).getLast?

/-- The last frame of the node that was accepted, found by replaying the frames from state `s`. -/
def lastAccepted (node : UInt8) (s : ReplayState) (last : Option Frame) : List Frame → Option Frame
  | [] => last
  | f :: rest =>
    let (s', result) := replayCheck s f.node f.nonce f.timestampMs
    lastAccepted node s' (if f.node = node ∧ result = .ok then some f else last) rest

theorem lastAccepted_concat (node : UInt8) (s : ReplayState) (last : Option Frame) (before : List Frame) (f : Frame) :
    lastAccepted node s last (before ++ [f]) =
      if f.node = node ∧
          (replayCheck (finalState step s (before.map Frame.call)) f.node f.nonce f.timestampMs).2 = .ok then some f
      else lastAccepted node s last before := by
  induction before generalizing s last with
  | nil => rfl
  | cons g rest ih => exact ih _ _

def honestAnswer (f : Frame) : Option Frame → ReplayCheckResult
  | none => .ok
  | some g => if f.timestampMs.toNat - g.timestampMs.toNat ≤ 10000 then .ok else .errStaleTimestamp

structure Latest (before : List Frame) (node : UInt8) (f : Frame) (r : Node) : Prop where
  present : f ∈ before
  sender : f.node = node
  highest : r.highest = f.nonce.toNat
  timestamp : r.timestamp = f.timestampMs.toNat

/-- The reference machine remembers, for each node, the last frame that was accepted. -/
def Remembers (before : List Frame) : Prop :=
  ∀ node, Option.Rel (Latest before node) (lastAccepted node replayInit none before)
    (Reference.after (before.map Frame.call) node)

theorem Remembers.known_subset {before : List Frame} (h : Remembers before) :
    known (Reference.after (before.map Frame.call)) ⊆ (before.map Frame.node).toFinset := by
  intro node member
  obtain ⟨r, reference⟩ := Option.isSome_iff_exists.mp (Reference.mem_known.mp member)
  have remembered := h node
  rw [reference] at remembered
  generalize lastAccepted node replayInit none before = last at remembered
  cases remembered with
  | some latest => exact List.mem_toFinset.mpr (latest.sender ▸ List.mem_map_of_mem latest.present)

theorem Remembers.room {before : List Frame} (h : Remembers before) {f : Frame} (few : FewNodes (before ++ [f]))
    (unknown : Reference.after (before.map Frame.call) f.node = none) :
    (known (Reference.after (before.map Frame.call))).card < 64 := by
  have fresh : f.node ∉ known (Reference.after (before.map Frame.call)) := by
    rw [Reference.mem_known, unknown]
    simp
  have subset : insert f.node (known (Reference.after (before.map Frame.call))) ⊆
      ((before ++ [f]).map Frame.node).toFinset := by
    intro node member
    rw [List.map_append, List.toFinset_append, Finset.mem_union]
    rcases Finset.mem_insert.mp member with rfl | member
    · exact Or.inr (by simp)
    · exact Or.inl (h.known_subset member)
  have room := (Finset.card_le_card subset).trans few
  rw [Finset.card_insert_of_notMem fresh] at room
  omega

/-- An honest frame is accepted and becomes the one remembered, or is stale and changes nothing. -/
theorem Remembers.check {before : List Frame} (h : Remembers before) {f : Frame} (honest : Honest (before ++ [f]))
    (few : FewNodes (before ++ [f])) :
    let last := lastAccepted f.node replayInit none before
    let m := Reference.after (before.map Frame.call)
    let m' := (Reference.check m f.node f.nonce.toNat f.timestampMs.toNat).1
    (frameAnswer before f = .ok ∧ honestAnswer f last = .ok ∧ ∃ r, m' f.node = some r ∧ Latest (before ++ [f]) f.node f r) ∨
    (frameAnswer before f = .errStaleTimestamp ∧ honestAnswer f last = .errStaleTimestamp ∧ m' f.node = m f.node) := by
  intro last m m'
  have remembered := h f.node
  have answered : frameAnswer before f = (Reference.check m f.node f.nonce.toNat f.timestampMs.toNat).2 := answer_eq ..
  change Option.Rel _ last (m f.node) at remembered
  cases unknown : m f.node with
  | none =>
    have accepts := check_unknown f.nonce.toNat f.timestampMs.toNat unknown (h.room few unknown)
    rw [unknown] at remembered
    generalize last = previous at remembered ⊢
    cases remembered
    refine Or.inl ⟨by rw [answered, accepts], rfl, _, by simp only [m', accepts, Function.update_self]; rfl, ?_⟩
    exact ⟨by simp, rfl, by simp [Node.highest], rfl⟩
  | some r =>
    have answers := check_known f.nonce.toNat f.timestampMs.toNat unknown
    rw [unknown] at remembered
    generalize last = previous at remembered ⊢
    cases remembered with
    | @some g _ latest =>
      obtain ⟨ahead, later⟩ :=
        (List.pairwise_append.mp honest).2.2 g latest.present f (List.mem_singleton_self f) latest.sender
      rw [UInt32.lt_iff_toNat_lt, ← latest.highest] at ahead
      rw [UInt64.le_iff_toNat_le, ← latest.timestamp] at later
      simp only [honestAnswer, ← latest.timestamp, answered, m', answers, Function.update_self]
      rcases checkNode_cases r f.nonce.toNat f.timestampMs.toNat with
        ⟨late, eq⟩ | ⟨timely, _, eq⟩ | ⟨_, behind, _⟩ | ⟨_, behind, _⟩
      · rw [eq]
        exact Or.inr ⟨rfl, if_neg (by omega), rfl⟩
      · rw [eq]
        refine Or.inl ⟨rfl, if_pos (by omega), _, rfl, by simp, rfl, ?_, rfl⟩
        dsimp only [Node.highest] at ahead ⊢
        rw [Finset.sup_insert]
        exact max_eq_left ahead.le
      · omega
      · omega

theorem Latest.append {before : List Frame} {node : UInt8} {f g : Frame} {r : Node} (h : Latest before node g r) :
    Latest (before ++ [f]) node g r :=
  ⟨List.mem_append_left _ h.present, h.sender, h.highest, h.timestamp⟩

theorem Remembers.concat {before : List Frame} (h : Remembers before) {f : Frame} (honest : Honest (before ++ [f]))
    (few : FewNodes (before ++ [f])) : Remembers (before ++ [f]) := by
  intro node
  rw [lastAccepted_concat, List.map_append, reference_after_append]
  change Option.Rel _ (if f.node = node ∧ frameAnswer before f = .ok then some f else _)
    ((Reference.check (Reference.after (before.map Frame.call)) f.node f.nonce.toNat f.timestampMs.toNat).1 node)
  have kept : Option.Rel (Latest (before ++ [f]) node) (lastAccepted node replayInit none before)
      (Reference.after (before.map Frame.call) node) := by
    have remembered := h node
    generalize lastAccepted node replayInit none before = last at remembered ⊢
    generalize Reference.after (before.map Frame.call) node = reference at remembered ⊢
    cases remembered with
    | none => exact .none
    | some latest => exact .some latest.append
  by_cases same : f.node = node
  · subst same
    rcases h.check honest few with ⟨accepted, -, r, reference, latest⟩ | ⟨stale, -, unchanged⟩
    · rw [if_pos ⟨rfl, accepted⟩, reference]
      exact .some latest
    · rw [if_neg (by rw [stale]; nofun), unchanged]
      exact kept
  · rw [if_neg fun both => same both.1, check_other (Ne.symm same)]
    exact kept

theorem FewNodes.of_append {frames more : List Frame} (few : FewNodes (frames ++ more)) : FewNodes frames := by
  refine le_trans (Finset.card_le_card ?_) few
  rw [List.map_append, List.toFinset_append]
  exact Finset.subset_union_left

theorem Honest.of_append {frames more : List Frame} (honest : Honest (frames ++ more)) : Honest frames :=
  (List.pairwise_append.mp honest).1

theorem remembers_of_honest {before : List Frame} (honest : Honest before) (few : FewNodes before) : Remembers before := by
  induction before using List.reverseRecOn with
  | nil => intro node; exact .none
  | append_singleton before f ih => exact (ih honest.of_append few.of_append).concat honest few

/-- In every run of an honest sender each frame at most 10000 ms after the last accepted frame of its node is
accepted, and so is a node's first frame. A later frame is stale, and the reference does not move to it. -/
theorem honest_frames_accepted (before rest : List Frame) (f : Frame) (honest : Honest (before ++ f :: rest))
    (few : FewNodes (before ++ f :: rest)) :
    frameAnswer before f = honestAnswer f (lastAccepted f.node replayInit none before) := by
  rw [List.append_cons] at honest few
  have honest' := honest.of_append
  have few' := few.of_append
  rcases (remembers_of_honest honest'.of_append few'.of_append).check honest' few' with
    ⟨answered, expected, -⟩ | ⟨answered, expected, -⟩
  · rw [answered, expected]
  · rw [answered, expected]

theorem honest_second_frame_accepted : frameAnswer [⟨1, 1, 0⟩] ⟨1, 2, 10000⟩ = .ok :=
  (honest_frames_accepted [⟨1, 1, 0⟩] [] ⟨1, 2, 10000⟩ (by decide) (by decide)).trans (by decide)

/-- A pause of 20 s makes the frame after it stale, and the next frame too, one millisecond later. -/
theorem honest_sender_locked_out :
    ¬∀ (before rest : List Frame) (f g : Frame), Honest (before ++ f :: rest) → FewNodes (before ++ f :: rest) →
      lastFrame f.node before = some g → f.timestampMs.toNat - g.timestampMs.toNat ≤ 10000 →
      frameAnswer before f = .ok := by
  intro accepted
  have third := accepted [⟨1, 1, 0⟩, ⟨1, 2, 20000⟩] [] ⟨1, 3, 20001⟩ ⟨1, 2, 20000⟩ (by decide) (by decide) rfl (by decide)
  exact absurd third (by decide)

end IotPlatform.Replay
