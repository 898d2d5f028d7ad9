import IotPlatform.Lib.Run
import IotPlatform.Shared.LoraCodec

/-!
# Two nodes over a lossy LoRa link

`lora_send` at one node, `lora_receive` at the other, and between them a channel that loses or delivers each
transmission and each ACK. Every packet on the air carries the number of the call that sent it, so that the packets the
peer takes in can be told apart; the code itself sees only the bytes.
-/

namespace IotPlatform
open Bytes Run

/-- What `payload` and `payload_len` can stand for. -/
def LoraPayload : Type := { bytes : List UInt8 // bytes.length ≤ 255 }

/-- What becomes of one transmission: whether the radio takes it, whether it arrives, how often the peer polls before
the ACK timeout ends, and whether the ACK comes back. -/
structure LoraFate where
  taken : Bool
  arrives : Bool
  polls : Nat
  acked : Bool
  deriving DecidableEq, Repr

abbrev LoraAir : Type := List (Nat × List UInt8)

def pollAir : LoraAir → LoraAir × Option (List UInt8)
  | [] => ([], none)
  | (_, raw) :: rest => (rest, some raw)

/-- The receiving node; `returned` has the call and the payload of every frame `lora_receive` returned with `LORA_OK`. -/
structure LoraPeer where
  handler : LoraHandler
  air : LoraAir := []
  returned : List (Nat × List UInt8) := []

def LoraPeer.receive (p : LoraPeer) : LoraPeer × LoraResult :=
  let o := loraReceive pollAir p.handler p.air
  let returned :=
    match o.result, p.air, o.frame with
    | .ok, (call, _) :: _, some frame => p.returned ++ [(call, frame.payload)]
    | _, _, _ => p.returned
  ({ handler := o.handler, air := o.world, returned := returned }, o.result)

def LoraPeer.polled (n : Nat) (p : LoraPeer) : LoraPeer := (fun p => p.receive.1)^[n] p

/-- The world the sender's radio works on during the call numbered `call`. -/
structure LoraChannel where
  peer : LoraPeer
  call : Nat
  plan : List LoraFate

/-- A transmission past the end of the plan is lost. -/
def LoraChannel.send (c : LoraChannel) (packet : List UInt8) : LoraChannel × Bool :=
  match c.plan with
  | [] => (c, true)
  | fate :: _ =>
    if fate.taken && fate.arrives then
      ({ c with peer := { c.peer with air := c.peer.air ++ [(c.call, packet)] } }, true)
    else (c, fate.taken)

def LoraChannel.waitAck (c : LoraChannel) (_ : UInt8) : LoraChannel × Bool :=
  match c.plan with
  | [] => (c, false)
  | fate :: rest =>
    ({ c with plan := rest, peer := c.peer.polled fate.polls }, fate.arrives && fate.acked)

def channelRadio : LoraRadio LoraChannel := { send := LoraChannel.send, waitAck := LoraChannel.waitAck }

/-- Both nodes and the payloads handed to `lora_send` so far. -/
structure LoraLink where
  sender : LoraHandler
  peer : LoraPeer
  sent : List LoraPayload := []

inductive LoraLinkCall where
  | send (destAddr : UInt16) (payload : LoraPayload) (plan : List LoraFate)
  | receive

def loraLinkStep (s : LoraLink) : LoraLinkCall → LoraLink × LoraResult
  | .send destAddr payload plan =>
    let o := loraSend channelRadio s.sender { peer := s.peer, call := s.sent.length, plan := plan } destAddr payload.val
    ({ sender := o.handler, peer := o.world.peer, sent := s.sent ++ [payload] }, o.result)
  | .receive =>
    let (peer, result) := s.peer.receive
    ({ s with peer := peer }, result)

def LoraLink.AtMostOnce (s : LoraLink) : Prop := ∀ call, (s.peer.returned.map Prod.fst).count call ≤ 1

/-- The transmissions of a call that arrive: it stops at the first that the radio refuses and at the first that is
acknowledged. -/
def arrivals : Nat → List LoraFate → Nat
  | 0, _ => 0
  | _, [] => 0
  | attempts + 1, fate :: rest =>
    if !fate.taken then 0
    else if fate.arrives then if fate.acked then 1 else arrivals attempts rest + 1
    else arrivals attempts rest

def LoraLinkCall.ArrivesOnce : LoraLinkCall → Prop
  | .send _ _ plan => arrivals (loraMaxRetries + 1) plan ≤ 1
  | .receive => True

instance : DecidablePred LoraLinkCall.ArrivesOnce
  | .send _ _ plan => inferInstanceAs (Decidable (arrivals (loraMaxRetries + 1) plan ≤ 1))
  | .receive => .isTrue trivial

/-! ### The peer -/

/-- The calls whose packets have arrived, in their order: those returned and those still waiting. -/
def LoraPeer.seen (p : LoraPeer) : List Nat := p.returned.map Prod.fst ++ p.air.map Prod.fst

structure LoraPeer.Sound (sent : List LoraPayload) (p : LoraPeer) : Prop where
  joined : p.handler.Joined
  waiting : ∀ entry ∈ p.air, ∃ payload, sent[entry.1]? = some payload ∧
    ∃ destAddr srcAddr seqNum, entry.2 = loraBuildPacket destAddr srcAddr seqNum LoraMsgType.data.code payload.val
  delivered : ∀ entry ∈ p.returned, ∃ payload, sent[entry.1]? = some payload ∧ payload.val = entry.2

theorem LoraPeer.Sound.concat {sent : List LoraPayload} {p : LoraPeer} (sound : p.Sound sent) (payload : LoraPayload) :
    p.Sound (sent ++ [payload]) := by
  have kept : ∀ {call : Nat} {old : LoraPayload}, sent[call]? = some old → (sent ++ [payload])[call]? = some old := by
    intro call old found
    rw [List.getElem?_append_left (List.getElem?_eq_some_iff.mp found).1, found]
  refine ⟨sound.joined, fun entry member => ?_, fun entry member => ?_⟩
  · obtain ⟨old, found, packet⟩ := sound.waiting entry member
    exact ⟨old, kept found, packet⟩
  · obtain ⟨old, found, same⟩ := sound.delivered entry member
    exact ⟨old, kept found, same⟩

/-- A poll takes the first waiting packet, whatever its sequence number, and returns its payload. -/
theorem LoraPeer.receive_sound {sent : List LoraPayload} {p : LoraPeer} (sound : p.Sound sent) :
    p.receive.1.Sound sent ∧ p.receive.1.seen = p.seen ∧ p.receive.1.air = p.air.tail := by
  obtain ⟨⟨initialised, state⟩, waiting, delivered⟩ := sound
  have ready : ¬p.handler.state = .joining := by simp [state]
  cases air : p.air with
  | nil =>
    have idle : p.receive.1 = p := by
      simp only [LoraPeer.receive, loraReceive, initialised, ready, air, pollAir, Bool.not_true, Bool.false_eq_true,
        if_false]
      rw [← air]
    rw [idle, air]
    exact ⟨⟨⟨initialised, state⟩, waiting, delivered⟩, rfl, rfl⟩
  | cons entry rest =>
    obtain ⟨call, raw⟩ := entry
    rw [air] at waiting
    obtain ⟨payload, found, destAddr, srcAddr, seqNum, packet⟩ := waiting _ List.mem_cons_self
    change raw = _ at packet
    have nonempty : ¬raw.length = 0 := by
      have length := length_loraBuildPacket destAddr srcAddr seqNum LoraMsgType.data.code payload.val
      rw [← packet] at length
      omega
    have parsed := loraParsePacket_build p.handler.stats destAddr srcAddr seqNum LoraMsgType.data.code payload.property
    rw [← packet] at parsed
    simp only [LoraPeer.receive, loraReceive, initialised, ready, air, pollAir, Bool.not_true, Bool.false_eq_true,
      if_false, nonempty, parsed, loraBuiltHeader, ne_eq, not_true_eq_false, List.tail_cons, and_true]
    refine ⟨⟨⟨rfl, state⟩, fun entry member => waiting entry (List.mem_cons_of_mem _ member), ?_⟩, ?_⟩
    · intro entry member
      rcases List.mem_append.mp member with old | new
      · exact delivered entry old
      · rw [List.mem_singleton.mp new]
        exact ⟨payload, found, rfl⟩
    · simp only [LoraPeer.seen, air, List.map_append, List.map_cons, List.map_nil, List.append_assoc, List.singleton_append]

theorem LoraPeer.polled_sound {sent : List LoraPayload} {p : LoraPeer} (sound : p.Sound sent) (n : Nat) :
    (p.polled n).Sound sent ∧ (p.polled n).seen = p.seen ∧ (p.polled n).air = p.air.drop n := by
  induction n generalizing p with
  | zero => exact ⟨sound, rfl, rfl⟩
  | succ n ih =>
    obtain ⟨sound', seen, air⟩ := p.receive_sound sound
    obtain ⟨final, finalSeen, finalAir⟩ := ih sound'
    refine ⟨final, finalSeen.trans seen, finalAir.trans ?_⟩
    rw [air, List.drop_tail]

/-! ### A call of `lora_send` -/

theorem LoraPeer.Sound.push {sent : List LoraPayload} {p : LoraPeer} (sound : p.Sound sent) {call : Nat}
    {payload : LoraPayload} (here : sent[call]? = some payload) (packet : List UInt8)
    (built : ∃ destAddr srcAddr seqNum,
      packet = loraBuildPacket destAddr srcAddr seqNum LoraMsgType.data.code payload.val) :
    LoraPeer.Sound sent { p with air := p.air ++ [(call, packet)] } := by
  refine ⟨sound.joined, fun entry member => ?_, sound.delivered⟩
  rcases List.mem_append.mp member with old | new
  · exact sound.waiting entry old
  · rw [List.mem_singleton.mp new]
    exact ⟨payload, here, built⟩

theorem seen_push (p : LoraPeer) (call : Nat) (packet : List UInt8) :
    LoraPeer.seen { p with air := p.air ++ [(call, packet)] } = p.seen ++ [call] := by
  simp only [LoraPeer.seen, List.map_append, List.map_cons, List.map_nil, List.append_assoc]

/-- One transmission arrives, and the peer polls while the sender waits. -/
theorem LoraPeer.Sound.arrival {sent : List LoraPayload} {p : LoraPeer} (sound : p.Sound sent) {call : Nat}
    {payload : LoraPayload} (here : sent[call]? = some payload) (packet : List UInt8)
    (built : ∃ destAddr srcAddr seqNum,
      packet = loraBuildPacket destAddr srcAddr seqNum LoraMsgType.data.code payload.val) (polls : Nat) :
    (LoraPeer.polled polls { p with air := p.air ++ [(call, packet)] }).Sound sent ∧
      (LoraPeer.polled polls { p with air := p.air ++ [(call, packet)] }).seen = p.seen ++ [call] := by
  obtain ⟨polled, polledSeen, -⟩ := LoraPeer.polled_sound (sound.push here packet built) polls
  exact ⟨polled, polledSeen.trans (seen_push p call packet)⟩

/-- Where the rounds left of a call leave the world: the peer is sound and has seen the arrivals of the plan. -/
structure SendLeaves (sent : List LoraPayload) (attempts : Nat) (c : LoraChannel) (o : LoraSendOutcome LoraChannel) : Prop
    where
  joined : o.handler.Joined
  sound : o.world.peer.Sound sent
  seen : o.world.peer.seen = c.peer.seen ++ List.replicate (arrivals attempts c.plan) c.call

theorem SendLeaves.after_round {sent : List LoraPayload} {attempts : Nat} {c : LoraChannel} (c' : LoraChannel)
    {o : LoraSendOutcome LoraChannel} (leaves : SendLeaves sent attempts c' o)
    (seen : c'.peer.seen ++ List.replicate (arrivals attempts c'.plan) c'.call =
      c.peer.seen ++ List.replicate (arrivals (attempts + 1) c.plan) c.call) : SendLeaves sent (attempts + 1) c o :=
  ⟨leaves.joined, leaves.sound, leaves.seen.trans seen⟩

theorem arrivals_nil (attempts : Nat) : arrivals attempts [] = 0 := by cases attempts <;> rfl

/-- By induction on the rounds left, one case for each fate of the next transmission. -/
theorem loraSendAttempts_leaves {sent : List LoraPayload} {payload : LoraPayload} (destAddr : UInt16) (attempts : Nat)
    {h : LoraHandler} (initialised : h.initialised = true) {c : LoraChannel} (sound : c.peer.Sound sent)
    (here : sent[c.call]? = some payload) :
    SendLeaves sent attempts c (loraSendAttempts channelRadio destAddr payload.val attempts h c) := by
  induction attempts generalizing h c with
  | zero =>
    refine ⟨⟨initialised, rfl⟩, sound, ?_⟩
    simp [loraSendAttempts, arrivals]
  | succ attempts ih =>
    obtain ⟨peer, call, plan⟩ := c
    cases plan with
    | nil =>
      rw [loraSendAttempts_retry attempts ⟨peer, call, []⟩ ⟨peer, call, []⟩ rfl rfl]
      refine SendLeaves.after_round ⟨peer, call, []⟩ (ih (by exact initialised) sound here) ?_
      rw [arrivals_nil, arrivals_nil]
    | cons fate rest =>
      obtain ⟨taken, arrives, polls, acked⟩ := fate
      cases taken with
      | false =>
        rw [loraSendAttempts_refused attempts ⟨peer, call, ⟨false, arrives, polls, acked⟩ :: rest⟩ rfl]
        exact ⟨⟨initialised, rfl⟩, sound, (List.append_nil _).symm⟩
      | true =>
        cases arrives with
        | false =>
          obtain ⟨polled, polledSeen, -⟩ := peer.polled_sound sound polls
          rw [loraSendAttempts_retry attempts ⟨peer, call, ⟨true, false, polls, acked⟩ :: rest⟩
            ⟨peer.polled polls, call, rest⟩ rfl rfl]
          refine SendLeaves.after_round ⟨peer.polled polls, call, rest⟩ (ih (by exact initialised) polled here) ?_
          rw [polledSeen]
          rfl
        | true =>
          obtain ⟨polled, polledSeen⟩ :=
            sound.arrival here (h.dataPacket destAddr payload.val) ⟨destAddr, _, h.txSeq, rfl⟩ polls
          generalize arrived : LoraPeer.mk _ _ _ = peer' at polled polledSeen
          cases acked with
          | true =>
            rw [loraSendAttempts_acked attempts ⟨peer', call, ⟨true, true, polls, true⟩ :: rest⟩
              ⟨peer'.polled polls, call, rest⟩ (by rw [← arrived]; rfl) rfl]
            exact ⟨⟨initialised, rfl⟩, polled, polledSeen⟩
          | false =>
            rw [loraSendAttempts_retry attempts ⟨peer', call, ⟨true, true, polls, false⟩ :: rest⟩
              ⟨peer'.polled polls, call, rest⟩ (by rw [← arrived]; rfl) rfl]
            refine SendLeaves.after_round ⟨peer'.polled polls, call, rest⟩
              (ih (by exact initialised) polled here) ?_
            rw [polledSeen, List.append_assoc]
            rfl

/-! ### Runs -/

/-- The calls of a run whose packets arrive, once for each arrival; `calls` is the number of calls before it. -/
def arrivalLog (calls : Nat) : List LoraLinkCall → List Nat
  | [] => []
  | .send _ _ plan :: rest =>
    List.replicate (arrivals (loraMaxRetries + 1) plan) calls ++ arrivalLog (calls + 1) rest
  | .receive :: rest => arrivalLog calls rest

theorem le_of_mem_arrivalLog {calls : Nat} {xs : List LoraLinkCall} {call : Nat} (member : call ∈ arrivalLog calls xs) :
    calls ≤ call := by
  induction xs generalizing calls with
  | nil => cases member
  | cons x rest ih =>
    cases x with
    | send destAddr payload plan =>
      rcases List.mem_append.mp member with here | later
      · exact Nat.le_of_eq (List.eq_of_mem_replicate here).symm
      · exact Nat.le_of_succ_le (ih later)
    | receive => exact ih member

theorem nodup_arrivalLog_iff {calls : Nat} {xs : List LoraLinkCall} :
    (arrivalLog calls xs).Nodup ↔ ∀ x ∈ xs, x.ArrivesOnce := by
  induction xs generalizing calls with
  | nil => simp [arrivalLog]
  | cons x rest ih =>
    rw [List.forall_mem_cons]
    cases x with
    | send destAddr payload plan =>
      rw [arrivalLog, List.nodup_append, ih, List.nodup_replicate]
      constructor
      · rintro ⟨once, later, -⟩
        exact ⟨once, later⟩
      · rintro ⟨once, later⟩
        refine ⟨once, later, fun call here other member same => ?_⟩
        have before := le_of_mem_arrivalLog member
        have now := List.eq_of_mem_replicate here
        omega
    | receive =>
      rw [arrivalLog, ih]
      exact ⟨fun later => ⟨trivial, later⟩, fun both => both.2⟩

structure LoraLink.Sound (s : LoraLink) : Prop where
  joined : s.sender.Joined
  peer : s.peer.Sound s.sent

/-- Every step keeps the link sound and adds its arrivals to what the peer has seen. -/
theorem loraLinkStep_sound {s : LoraLink} (sound : s.Sound) (x : LoraLinkCall) :
    (loraLinkStep s x).1.Sound ∧ ∀ rest, (loraLinkStep s x).1.peer.seen ++ arrivalLog (loraLinkStep s x).1.sent.length rest =
      s.peer.seen ++ arrivalLog s.sent.length (x :: rest) := by
  cases x with
  | send destAddr payload plan =>
    obtain ⟨⟨initialised, state⟩, peer⟩ := sound
    have called : loraSend channelRadio s.sender ⟨s.peer, s.sent.length, plan⟩ destAddr payload.val =
        loraSendAttempts channelRadio destAddr payload.val (loraMaxRetries + 1) s.sender
          ⟨s.peer, s.sent.length, plan⟩ := by
      simp [loraSend, initialised, state]
    have here : (s.sent ++ [payload])[s.sent.length]? = some payload := by simp
    have leaves := loraSendAttempts_leaves destAddr (loraMaxRetries + 1) initialised
      (c := ⟨s.peer, s.sent.length, plan⟩) (peer.concat payload) here
    rw [← called] at leaves
    refine ⟨⟨leaves.joined, leaves.sound⟩, fun rest => ?_⟩
    have seen := leaves.seen
    simp only [loraLinkStep, seen, arrivalLog, List.length_append, List.length_singleton, List.append_assoc]
  | receive =>
    obtain ⟨received, seen, -⟩ := LoraPeer.receive_sound sound.peer
    exact ⟨⟨sound.joined, received⟩, fun rest => congrArg (· ++ arrivalLog s.sent.length rest) seen⟩

theorem loraLink_run_sound {s : LoraLink} (sound : s.Sound) (xs : List LoraLinkCall) :
    (finalState loraLinkStep s xs).Sound ∧
      (finalState loraLinkStep s xs).peer.seen = s.peer.seen ++ arrivalLog s.sent.length xs := by
  induction xs generalizing s with
  | nil => exact ⟨sound, (List.append_nil _).symm⟩
  | cons x rest ih =>
    obtain ⟨sound', seen⟩ := loraLinkStep_sound sound x
    obtain ⟨final, finalSeen⟩ := ih sound'
    exact ⟨final, finalSeen.trans (seen rest)⟩

def loraLinkStart (sender receiver : LoraHandler) : LoraLink := { sender := sender, peer := { handler := receiver } }

theorem loraLinkStart_sound {sender receiver : LoraHandler} (joined : sender.Joined) (peerJoined : receiver.Joined) :
    (loraLinkStart sender receiver).Sound :=
  ⟨joined, peerJoined, fun _ member => absurd member List.not_mem_nil, fun _ member => absurd member List.not_mem_nil⟩

theorem returned_payload_sent {sender receiver : LoraHandler} (joined : sender.Joined) (peerJoined : receiver.Joined)
    (xs : List LoraLinkCall) {call : Nat} {bytes : List UInt8}
    (returned : (call, bytes) ∈ (finalState loraLinkStep (loraLinkStart sender receiver) xs).peer.returned) :
    ∃ payload, (finalState loraLinkStep (loraLinkStart sender receiver) xs).sent[call]? = some payload ∧
      payload.val = bytes :=
  (loraLink_run_sound (loraLinkStart_sound joined peerJoined) xs).1.peer.delivered _ returned

theorem finalState_receives {s : LoraLink} (sound : s.Sound) (n : Nat) :
    (finalState loraLinkStep s (List.replicate n .receive)).peer.air = s.peer.air.drop n := by
  have polled : (finalState loraLinkStep s (List.replicate n .receive)).peer = s.peer.polled n := by
    clear sound
    induction n generalizing s with
    | zero => rfl
    | succ n ih => exact ih
  rw [polled]
  exact (LoraPeer.polled_sound sound.peer n).2.2

theorem atMostOnce_iff (s : LoraLink) : s.AtMostOnce ↔ (s.peer.returned.map Prod.fst).Nodup :=
  List.nodup_iff_count.symm

/-- The payload of a call is returned at most once, however often the peer goes on polling, exactly when at most one
transmission of each call arrives: nothing compares the sequence number of a retransmission. -/
theorem lora_at_most_once_exact {sender receiver : LoraHandler} (joined : sender.Joined) (peerJoined : receiver.Joined)
    (xs : List LoraLinkCall) :
    (∀ polls, Always LoraLink.AtMostOnce loraLinkStep (loraLinkStart sender receiver)
      (xs ++ List.replicate polls .receive)) ↔ ∀ x ∈ xs, x.ArrivesOnce := by
  have start := loraLinkStart_sound joined peerJoined
  have log : ∀ ys, (finalState loraLinkStep (loraLinkStart sender receiver) ys).peer.seen = arrivalLog 0 ys :=
    fun ys => (loraLink_run_sound start ys).2
  constructor
  · intro always
    have sound := (loraLink_run_sound start xs).1
    generalize waiting : (finalState loraLinkStep (loraLinkStart sender receiver) xs).peer.air.length = n
    have drained := finalState_receives sound n
    rw [← waiting, List.drop_length, waiting, ← finalState_append] at drained
    have final := always n (xs ++ List.replicate n LoraLinkCall.receive).length
    rw [List.take_length, atMostOnce_iff] at final
    have total := log (xs ++ List.replicate n LoraLinkCall.receive)
    rw [LoraPeer.seen, drained, List.map_nil, List.append_nil] at total
    rw [total, nodup_arrivalLog_iff] at final
    exact fun x member => final x (List.mem_append_left _ member)
  · intro once polls n
    rw [atMostOnce_iff]
    have nodup : (arrivalLog 0 ((xs ++ List.replicate polls LoraLinkCall.receive).take n)).Nodup := by
      rw [nodup_arrivalLog_iff]
      intro x member
      rcases List.mem_append.mp (List.mem_of_mem_take member) with call | poll
      · exact once x call
      · rw [List.eq_of_mem_replicate poll]
        trivial
    rw [← log] at nodup
    exact (List.nodup_append.mp nodup).1

/-- Both nodes after `lora_init` and `lora_join`. -/
def loraJoined : LoraHandler := { loraInit none with state := .joined }

theorem loraJoined_joined : loraJoined.Joined := ⟨rfl, rfl⟩

theorem lora_at_most_once_exact_lost :
    Always LoraLink.AtMostOnce loraLinkStep (loraLinkStart loraJoined loraJoined)
      ([.send 1 ⟨[7], by decide⟩ [⟨true, false, 0, false⟩, ⟨true, true, 1, true⟩]] ++ List.replicate 3 .receive) :=
  (lora_at_most_once_exact loraJoined_joined loraJoined_joined _).mpr (by decide) 3

/-- A call whose first packet arrives but not its ACK, and whose second packet arrives with its ACK. -/
def lostAckRun : List LoraLinkCall := [.send 1 ⟨[7], by decide⟩ [⟨true, true, 1, false⟩, ⟨true, true, 1, true⟩]]

/-- The retransmission is returned as well. -/
theorem retransmission_returned_twice :
    outputs loraLinkStep (loraLinkStart loraJoined loraJoined) lostAckRun = [.ok] ∧
      (finalState loraLinkStep (loraLinkStart loraJoined loraJoined) lostAckRun).peer.returned = [(0, [7]), (0, [7])] ∧
      ¬Always LoraLink.AtMostOnce loraLinkStep (loraLinkStart loraJoined loraJoined) lostAckRun := by
  have twice : (finalState loraLinkStep (loraLinkStart loraJoined loraJoined) lostAckRun).peer.returned =
      [(0, [7]), (0, [7])] := by decide +kernel
  refine ⟨by decide +kernel, twice, fun always => ?_⟩
  have once := always lostAckRun.length 0
  rw [List.take_length, twice] at once
  exact absurd once (by decide)

end IotPlatform
