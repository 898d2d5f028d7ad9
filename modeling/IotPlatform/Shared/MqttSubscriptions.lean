import Mathlib.Data.List.Induction
import IotPlatform.Lib.Run
import IotPlatform.Lib.CText
import IotPlatform.Lib.Slots

/-!
# Subscriptions of the MQTT client

`mqtt_client.c` on its target: the calls and the events of the MQTT library around a table of eight subscriptions. What the
library answers to a call is part of the call.
-/

namespace IotPlatform
open Run Slots Table

abbrev mqttMaxTopicLen : Nat := 128

def mqttMaxPayload : Nat := 256

def mqttMaxSubscriptions : Nat := 8

inductive MqttState where
  | disconnected | connecting | connected | error
  deriving DecidableEq, Repr

inductive MqttQos where
  | qos0 | qos1 | qos2
  deriving DecidableEq, Repr

/-- Whatever can be called back. -/
structure MqttSubscription (C : Type) where
  topicFilter : CArray mqttMaxTopicLen
  qos : MqttQos
  callback : Option C
  active : Bool
  espMsgId : Int
  deriving DecidableEq

structure MqttMessage where
  topic : CArray mqttMaxTopicLen
  payload : List UInt8
  qos : MqttQos
  retain : Bool
  deriving DecidableEq

/-- `client` says that there is a handle of the library. -/
structure MqttClient (C : Type) where
  client : Bool
  state : MqttState
  subscriptions : List (MqttSubscription C)
  initialised : Bool
  deriving DecidableEq

inductive MqttEvent where
  | connected | disconnected | error | other
  | subscribed (msgId : Int)
  | data (topic payload : List UInt8)

structure MqttPublication where
  topic : List UInt8
  payload : List UInt8
  qos : MqttQos
  retain : Bool
  deriving DecidableEq

/-- The handle, the error and the message ids are the library's answers. -/
inductive MqttOp (C : Type) where
  | configure (handle : Bool)
  | connect (started : Bool)
  | disconnect (stopped : Bool)
  | publish (publication : MqttPublication) (msgId : Int)
  | subscribe (topic : List UInt8) (qos : MqttQos) (callback : C) (msgId : Int)
  | unsubscribe (topic : List UInt8)
  | event (event : MqttEvent)

/-- What a call returns, what it hands to the library to publish, and what is called back. -/
structure MqttOutcome (C : Type) where
  result : Bool := true
  published : Option MqttPublication := none
  delivered : Option (C × MqttMessage) := none
  deriving DecidableEq

section Client

variable {C : Type}

def emptySubscription : MqttSubscription C :=
  { topicFilter := strncpy (mqttMaxTopicLen - 1) [], qos := .qos0, callback := none, active := false, espMsgId := 0 }

/-- A handle from before stays. -/
def mqttClientInit (c : MqttClient C) : MqttClient C :=
  { c with subscriptions := .replicate mqttMaxSubscriptions emptySubscription, state := .disconnected, initialised := true }

def mqttClientConfigure (c : MqttClient C) (handle : Bool) : MqttClient C × Bool :=
  if !c.initialised then (c, false) else ({ c with client := handle }, handle)

def mqttClientConnect (c : MqttClient C) (started : Bool) : MqttClient C × Bool :=
  if !c.initialised || !c.client then (c, false)
  else if started then ({ c with state := .connecting }, true)
  else ({ c with state := .error }, false)

def mqttClientDisconnect (c : MqttClient C) (stopped : Bool) : MqttClient C × Bool :=
  if !c.initialised || !c.client then (c, false) else ({ c with state := .disconnected }, stopped)

def mqttClientPublish (c : MqttClient C) (publication : MqttPublication) (msgId : Int) : Bool × Option MqttPublication :=
  if !c.initialised || !c.client then (false, none)
  else if c.state ≠ .connected then (false, none)
  else if publication.payload.length > mqttMaxPayload then (false, none)
  else (decide (0 ≤ msgId), some publication)

def filledSubscription (topic : List UInt8) (qos : MqttQos) (callback : C) (msgId : Int) : MqttSubscription C :=
  { topicFilter := strncpy (mqttMaxTopicLen - 1) topic, qos := qos, callback := some callback, active := true
    espMsgId := msgId }

/-- The library is asked only when there is a slot. -/
def mqttClientSubscribe (c : MqttClient C) (topic : List UInt8) (qos : MqttQos) (callback : C) (msgId : Int) :
    MqttClient C × Bool :=
  if !c.initialised || !c.client then (c, false)
  else
    match c.subscriptions.find? fun s => !s.active with
    | none => (c, false)
    | some _ =>
      if msgId < 0 then (c, false)
      else
        let fill (_ : MqttSubscription C) : MqttSubscription C := filledSubscription topic qos callback msgId
        ({ c with subscriptions := updateFirst (fun s => !s.active) fill c.subscriptions }, true)

def MqttSubscription.named (topic : List UInt8) (s : MqttSubscription C) : Bool :=
  s.active && decide (s.topicFilter.text = cString topic)

def MqttSubscription.clear (s : MqttSubscription C) : MqttSubscription C := { s with active := false, callback := none }

def mqttClientUnsubscribe (c : MqttClient C) (topic : List UInt8) : MqttClient C × Bool :=
  if !c.initialised || !c.client then (c, false)
  else
    match c.subscriptions.find? (·.named topic) with
    | none => (c, false)
    | some _ =>
      ({ c with subscriptions := updateFirst (·.named topic) MqttSubscription.clear c.subscriptions }, true)

/-- The message of a subscription, for the one the library brings. -/
def MqttSubscription.message (s : MqttSubscription C) (topic payload : List UInt8) : MqttMessage :=
  { topic := strncpy (mqttMaxTopicLen - 1) topic, payload := payload.take mqttMaxPayload, qos := s.qos, retain := false }

/-- `topic_buf`; the topic of an event has no terminator. -/
def topicBuf (topic : List UInt8) : List UInt8 := topic.take (mqttMaxTopicLen - 1)

/-- `MQTT_EVENT_DATA` -/
def mqttDeliver (c : MqttClient C) (topic payload : List UInt8) : Option (C × MqttMessage) :=
  match c.subscriptions.find? (·.named (topicBuf topic)) with
  | none => none
  | some s => s.callback.map fun callback => (callback, s.message (topicBuf topic) payload)

def espMqttEventHandler (c : MqttClient C) : MqttEvent → MqttClient C × MqttOutcome C
  | .connected => ({ c with state := .connected }, {})
  | .disconnected => ({ c with state := .disconnected }, {})
  | .error => ({ c with state := .error }, {})
  | .subscribed _ => (c, {})
  | .other => (c, {})
  | .data topic payload => (c, { delivered := mqttDeliver c topic payload })

def mqttStep (c : MqttClient C) : MqttOp C → MqttClient C × MqttOutcome C
  | .configure handle => ((mqttClientConfigure c handle).1, { result := (mqttClientConfigure c handle).2 })
  | .connect started => ((mqttClientConnect c started).1, { result := (mqttClientConnect c started).2 })
  | .disconnect stopped => ((mqttClientDisconnect c stopped).1, { result := (mqttClientDisconnect c stopped).2 })
  | .publish publication msgId =>
    (c, { result := (mqttClientPublish c publication msgId).1, published := (mqttClientPublish c publication msgId).2 })
  | .subscribe topic qos callback msgId =>
    ((mqttClientSubscribe c topic qos callback msgId).1, { result := (mqttClientSubscribe c topic qos callback msgId).2 })
  | .unsubscribe topic => ((mqttClientUnsubscribe c topic).1, { result := (mqttClientUnsubscribe c topic).2 })
  | .event event => espMqttEventHandler c event

end Client

/-! ### A session with a bag of filters -/

/-- The part of a topic that a filter keeps. -/
def topicCut (topic : List UInt8) : List UInt8 := (cString topic).take (mqttMaxTopicLen - 1)

/-- What the client is for: a connection that is up or not, and at most eight filters. -/
structure MqttSession where
  client : Bool
  up : Bool
  filters : Multiset (List UInt8)

/-- The outcome of a call, but for which callback a message goes to. -/
structure MqttSessionOutcome where
  result : Bool := true
  published : Option MqttPublication := none
  delivered : Bool := false
  deriving DecidableEq

def mqttSessionStep {C : Type} (m : MqttSession) : MqttOp C → MqttSession × MqttSessionOutcome
  | .configure handle => ({ m with client := handle }, { result := handle })
  | .connect started => ({ m with up := m.up && !m.client }, { result := m.client && started })
  | .disconnect stopped => ({ m with up := m.up && !m.client }, { result := m.client && stopped })
  | .publish publication msgId =>
    if m.client ∧ m.up ∧ publication.payload.length ≤ mqttMaxPayload then
      (m, { result := decide (0 ≤ msgId), published := some publication })
    else (m, { result := false })
  | .subscribe topic _ _ msgId =>
    if m.client ∧ m.filters.card < mqttMaxSubscriptions ∧ 0 ≤ msgId then
      ({ m with filters := topicCut topic ::ₘ m.filters }, {})
    else (m, { result := false })
  | .unsubscribe topic =>
    if m.client ∧ cString topic ∈ m.filters then ({ m with filters := m.filters.erase (cString topic) }, {})
    else (m, { result := false })
  | .event .connected => ({ m with up := true }, {})
  | .event .disconnected => ({ m with up := false }, {})
  | .event .error => ({ m with up := false }, {})
  | .event (.subscribed _) => (m, {})
  | .event .other => (m, {})
  | .event (.data topic _) => (m, { delivered := decide (topicCut topic ∈ m.filters) })

def MqttOutcome.forget {C : Type} (o : MqttOutcome C) : MqttSessionOutcome :=
  { result := o.result, published := o.published, delivered := o.delivered.isSome }

section Bag

variable {C : Type} {c : MqttClient C} {m : MqttSession} {s : MqttSubscription C} {slots : List (MqttSubscription C)}
  {topic payload : List UInt8}

def MqttSubscription.filter (s : MqttSubscription C) : Option (List UInt8) :=
  if s.active then some s.topicFilter.text else none

theorem named_iff : s.named topic = true ↔ s.filter = some (cString topic) := by
  unfold MqttSubscription.named MqttSubscription.filter
  cases s.active <;> simp

theorem free_iff : (!s.active) = true ↔ s.filter = none := by
  unfold MqttSubscription.filter
  cases s.active <;> simp

theorem filledSubscription_filter (topic : List UInt8) (qos : MqttQos) (callback : C) (msgId : Int) :
    (filledSubscription topic qos callback msgId).filter = some (topicCut topic) :=
  congrArg some (strncpy_text (mqttMaxTopicLen - 1) topic)

/-- The filters a table holds. -/
def heldFilters (slots : List (MqttSubscription C)) : Multiset (List UInt8) := contents MqttSubscription.filter slots

theorem exists_free_iff :
    (∃ s, slots.find? (fun s => !s.active) = some s) ↔ (heldFilters slots).card < slots.length := by
  simp only [← Option.isSome_iff_exists, List.find?_isSome, free_iff, heldFilters, card_contents_lt_iff]

theorem exists_named_iff : (∃ s, slots.find? (·.named topic) = some s) ↔ cString topic ∈ heldFilters slots := by
  simp only [← Option.isSome_iff_exists, List.find?_isSome, named_iff, heldFilters, mem_contents]

/-- A subscription is made in the first free slot, if there is one and the library takes it. -/
theorem mqttClientSubscribe_eq (initialised : c.initialised = true) (topic : List UInt8) (qos : MqttQos) (callback : C)
    (msgId : Int) : mqttClientSubscribe c topic qos callback msgId =
      if c.client ∧ (heldFilters c.subscriptions).card < c.subscriptions.length ∧ 0 ≤ msgId then
        ({ c with
          subscriptions :=
            updateFirst (fun s => !s.active) (fun _ => filledSubscription topic qos callback msgId) c.subscriptions }, true)
      else (c, false) := by
  have room : (∃ s, c.subscriptions.find? (fun s => !s.active) = some s) ↔
    (heldFilters c.subscriptions).card < c.subscriptions.length := exists_free_iff
  rw [mqttClientSubscribe, initialised]
  cases client : c.client with
  | false => simp
  | true =>
    simp only [Bool.not_true, Bool.or_self, Bool.false_eq_true, ↓reduceIte]
    cases slot : c.subscriptions.find? fun s => !s.active with
    | none =>
      have full : ¬(heldFilters c.subscriptions).card < c.subscriptions.length := by simp [← room, slot]
      simp [full]
    | some s =>
      have spare := room.mp ⟨s, slot⟩
      rcases Int.lt_or_le msgId 0 with refused | taken
      · simp [refused, Int.not_le.mpr refused]
      · simp [spare, taken, Int.not_lt.mpr taken]

theorem mqttClientUnsubscribe_eq (initialised : c.initialised = true) (topic : List UInt8) :
    mqttClientUnsubscribe c topic =
      if c.client ∧ cString topic ∈ heldFilters c.subscriptions then
        ({ c with subscriptions := updateFirst (·.named topic) MqttSubscription.clear c.subscriptions }, true)
      else (c, false) := by
  have held : (∃ s, c.subscriptions.find? (·.named topic) = some s) ↔ cString topic ∈ heldFilters c.subscriptions :=
    exists_named_iff
  rw [mqttClientUnsubscribe, initialised]
  cases client : c.client with
  | false => simp
  | true =>
    simp only [Bool.not_true, Bool.or_self, Bool.false_eq_true, ↓reduceIte]
    cases slot : c.subscriptions.find? (·.named topic) with
    | none =>
      have missing : cString topic ∉ heldFilters c.subscriptions := by simp [← held, slot]
      simp [missing]
    | some s => simp [held.mp ⟨s, slot⟩]

/-- A message goes to the first subscription of its topic. -/
theorem mqttDeliver_eq_some {callback : C} {message : MqttMessage} :
    mqttDeliver c topic payload = some (callback, message) ↔
      ∃ s, c.subscriptions.find? (·.named (topicBuf topic)) = some s ∧ s.callback = some callback ∧
        s.message (topicBuf topic) payload = message := by
  rw [mqttDeliver]
  cases c.subscriptions.find? (·.named (topicBuf topic)) with
  | none => simp
  | some s => simp

theorem cString_topicBuf (topic : List UInt8) : cString (topicBuf topic) = topicCut topic := List.take_takeWhile.symm

/-! ### Every call -/

/-- The session of a client. -/
structure MqttClient.Shows (c : MqttClient C) (m : MqttSession) : Prop where
  initialised : c.initialised = true
  client : c.client = m.client
  up : decide (c.state = .connected) = m.up
  filters : heldFilters c.subscriptions = m.filters
  slots : c.subscriptions.length = mqttMaxSubscriptions
  called : ∀ s ∈ c.subscriptions, s.active = true → s.callback.isSome = true

theorem mqttClientInit_shows (c : MqttClient C) :
    (mqttClientInit c).Shows { client := c.client, up := false, filters := 0 } := by
  refine ⟨rfl, rfl, rfl, ?_, List.length_replicate, ?_⟩
  · exact contents_empty fun s member => List.eq_of_mem_replicate member ▸ rfl
  · intro s member active
    rw [List.eq_of_mem_replicate member] at active
    cases active

namespace MqttClient.Shows

theorem subscribe (shows : c.Shows m) (topic : List UInt8) (qos : MqttQos) (callback : C) (msgId : Int) :
    (mqttStep c (.subscribe topic qos callback msgId)).2.forget = (mqttSessionStep m (.subscribe topic qos callback msgId)).2 ∧
      (mqttStep c (.subscribe topic qos callback msgId)).1.Shows (mqttSessionStep m (.subscribe topic qos callback msgId)).1 := by
  rw [mqttStep, mqttClientSubscribe_eq shows.initialised, mqttSessionStep, shows.client, shows.filters, shows.slots]
  split
  · rename_i allowed
    have room : (heldFilters c.subscriptions).card < c.subscriptions.length := by
      rw [shows.filters, shows.slots]
      exact allowed.2.1
    obtain ⟨s, free⟩ := exists_free_iff.mpr room
    have vacant : s.filter = none := free_iff.mp (by simpa using List.find?_some free)
    refine ⟨rfl, shows.initialised, rfl, shows.up, ?_, ?_, ?_⟩
    · rw [← shows.filters]
      exact contents_fill free vacant (filledSubscription_filter topic qos callback msgId)
    · rw [length_updateFirst]
      exact shows.slots
    · exact forall_updateFirst shows.called fun _ _ _ => rfl
  · exact ⟨rfl, shows⟩

theorem unsubscribe (shows : c.Shows m) (topic : List UInt8) :
    (mqttStep c (.unsubscribe topic)).2.forget = (mqttSessionStep (C := C) m (.unsubscribe topic)).2 ∧
      (mqttStep c (.unsubscribe topic)).1.Shows (mqttSessionStep (C := C) m (.unsubscribe topic)).1 := by
  rw [mqttStep, mqttClientUnsubscribe_eq shows.initialised, mqttSessionStep, shows.client, shows.filters]
  split
  · rename_i allowed
    obtain ⟨s, found⟩ := exists_named_iff.mpr (shows.filters ▸ allowed.2)
    refine ⟨rfl, shows.initialised, rfl, shows.up, ?_, ?_, ?_⟩
    · rw [← shows.filters]
      exact contents_clear found (named_iff.mp (List.find?_some found)) rfl
    · rw [length_updateFirst]
      exact shows.slots
    · exact forall_updateFirst shows.called fun _ _ impossible => nomatch impossible
  · exact ⟨rfl, shows⟩

theorem publish (shows : c.Shows m) (publication : MqttPublication) (msgId : Int) :
    (mqttStep c (.publish publication msgId)).2.forget = (mqttSessionStep (C := C) m (.publish publication msgId)).2 := by
  rw [mqttStep, mqttSessionStep, mqttClientPublish, shows.initialised, shows.client, ← shows.up]
  cases m.client with
  | false => rfl
  | true =>
    by_cases connected : c.state = .connected
    · by_cases fits : publication.payload.length ≤ mqttMaxPayload
      · simp [MqttOutcome.forget, connected, fits, Nat.not_lt.mpr fits]
      · simp [MqttOutcome.forget, connected, fits, Nat.lt_of_not_le fits]
    · simp [MqttOutcome.forget, connected]

theorem deliver (shows : c.Shows m) (topic payload : List UInt8) :
    (mqttDeliver c topic payload).isSome = decide (topicCut topic ∈ m.filters) := by
  rw [Bool.eq_iff_iff, decide_eq_true_iff, ← shows.filters, ← cString_topicBuf, ← exists_named_iff, mqttDeliver]
  cases found : c.subscriptions.find? (·.named (topicBuf topic)) with
  | none => simp
  | some s =>
    have named : s.named (topicBuf topic) = true := by simpa using List.find?_some found
    simpa using shows.called s (List.mem_of_find?_eq_some found) (Bool.and_eq_true_iff.mp named).1

theorem event (shows : c.Shows m) (e : MqttEvent) :
    (mqttStep c (.event e)).2.forget = (mqttSessionStep (C := C) m (.event e)).2 ∧
      (mqttStep c (.event e)).1.Shows (mqttSessionStep (C := C) m (.event e)).1 := by
  cases e with
  | connected => exact ⟨rfl, { shows with up := rfl }⟩
  | disconnected => exact ⟨rfl, { shows with up := rfl }⟩
  | error => exact ⟨rfl, { shows with up := rfl }⟩
  | other => exact ⟨rfl, shows⟩
  | subscribed msgId => exact ⟨rfl, shows⟩
  | data topic payload =>
    refine ⟨?_, shows⟩
    simp only [mqttStep, espMqttEventHandler, mqttSessionStep, MqttOutcome.forget, shows.deliver]

/-- Every call keeps the session and answers as it does. -/
theorem step (shows : c.Shows m) (op : MqttOp C) :
    (mqttStep c op).2.forget = (mqttSessionStep m op).2 ∧ (mqttStep c op).1.Shows (mqttSessionStep m op).1 := by
  cases op with
  | configure handle =>
    rw [mqttStep, mqttSessionStep, mqttClientConfigure, shows.initialised]
    exact ⟨rfl, rfl, rfl, shows.up, shows.filters, shows.slots, shows.called⟩
  | connect started =>
    rw [mqttStep, mqttSessionStep, mqttClientConnect, shows.initialised, shows.client]
    cases handle : m.client with
    | false => exact ⟨rfl, shows.initialised, shows.client.trans handle, by simp [shows.up], shows.filters, shows.slots, shows.called⟩
    | true => cases started <;> exact ⟨rfl, rfl, rfl, by simp, shows.filters, shows.slots, shows.called⟩
  | disconnect stopped =>
    rw [mqttStep, mqttSessionStep, mqttClientDisconnect, shows.initialised, shows.client]
    cases handle : m.client with
    | false => exact ⟨rfl, shows.initialised, shows.client.trans handle, by simp [shows.up], shows.filters, shows.slots, shows.called⟩
    | true => exact ⟨rfl, rfl, rfl, by simp, shows.filters, shows.slots, shows.called⟩
  | publish publication msgId =>
    refine ⟨shows.publish publication msgId, ?_⟩
    rw [mqttSessionStep]
    split <;> exact shows
  | subscribe topic qos callback msgId => exact shows.subscribe topic qos callback msgId
  | unsubscribe topic => exact shows.unsubscribe topic
  | event e => exact shows.event e

end MqttClient.Shows

/-! ### Where a subscription comes from -/

/-- The subscription is what a call made that returned true. -/
def Subscribed (calls : List (MqttOp C × MqttOutcome C)) (s : MqttSubscription C) : Prop :=
  ∃ topic qos callback msgId, (.subscribe topic qos callback msgId, { result := true }) ∈ calls ∧
    s = filledSubscription topic qos callback msgId

/-- What a call does to the table. -/
theorem mqttStep_subscriptions (initialised : c.initialised = true) (op : MqttOp C) :
    (mqttStep c op).1.subscriptions = c.subscriptions ∨
      (∃ topic, (mqttStep c op).1.subscriptions = updateFirst (·.named topic) MqttSubscription.clear c.subscriptions) ∨
      ∃ topic qos callback msgId, op = .subscribe topic qos callback msgId ∧ (mqttStep c op).2 = { result := true } ∧
        (mqttStep c op).1.subscriptions =
          updateFirst (fun s => !s.active) (fun _ => filledSubscription topic qos callback msgId) c.subscriptions := by
  cases op with
  | configure handle =>
    rw [mqttStep, mqttClientConfigure]
    exact .inl (by split <;> rfl)
  | connect started =>
    rw [mqttStep, mqttClientConnect]
    refine .inl ?_
    split
    · rfl
    · split <;> rfl
  | disconnect stopped =>
    rw [mqttStep, mqttClientDisconnect]
    exact .inl (by split <;> rfl)
  | publish publication msgId => exact .inl rfl
  | subscribe topic qos callback msgId =>
    rw [mqttStep, mqttClientSubscribe_eq initialised]
    split
    · exact .inr (.inr ⟨topic, qos, callback, msgId, rfl, rfl, rfl⟩)
    · exact .inl rfl
  | unsubscribe topic =>
    rw [mqttStep, mqttClientUnsubscribe_eq initialised]
    split
    · exact .inr (.inl ⟨topic, rfl⟩)
    · exact .inl rfl
  | event e => cases e <;> exact .inl rfl

theorem mqttStep_active (initialised : c.initialised = true) (op : MqttOp C) (active : s.active = true)
    (member : s ∈ (mqttStep c op).1.subscriptions) : s ∈ c.subscriptions ∨ Subscribed [(op, (mqttStep c op).2)] s := by
  rcases mqttStep_subscriptions initialised op with same | ⟨topic, cleared⟩ | ⟨topic, qos, callback, msgId, call, outcome, filled⟩
  · exact .inl (same ▸ member)
  · rw [cleared] at member
    have kept : ∀ s ∈ updateFirst (·.named topic) MqttSubscription.clear c.subscriptions,
        s.active = true → s ∈ c.subscriptions :=
      forall_updateFirst (fun s inside _ => inside) fun _ _ impossible => nomatch impossible
    exact .inl (kept s member active)
  · rw [filled] at member
    have kept : ∀ s ∈ updateFirst (fun s => !s.active) (fun _ => filledSubscription topic qos callback msgId) c.subscriptions,
        s ∈ c.subscriptions ∨ Subscribed [(op, (mqttStep c op).2)] s := by
      refine forall_updateFirst (fun s inside => .inl inside) fun _ _ => .inr ⟨topic, qos, callback, msgId, ?_, rfl⟩
      rw [call, ← call, outcome]
      exact List.mem_singleton_self _
    exact kept s member

theorem mqttRun_shows (c : MqttClient C) (ops : List (MqttOp C)) :
    (outputs mqttStep (mqttClientInit c) ops).map MqttOutcome.forget =
        outputs mqttSessionStep { client := c.client, up := false, filters := 0 } ops ∧
      (finalState mqttStep (mqttClientInit c) ops).Shows
        (finalState mqttSessionStep { client := c.client, up := false, filters := 0 } ops) :=
  simulation_view (mqttClientInit_shows c) fun _ _ op _ shows => shows.step op

theorem mqttRun_subscribed (c : MqttClient C) (ops : List (MqttOp C)) :
    ∀ s ∈ (finalState mqttStep (mqttClientInit c) ops).subscriptions, s.active = true →
      Subscribed (ops.zip (outputs mqttStep (mqttClientInit c) ops)) s := by
  induction ops using List.reverseRecOn with
  | nil =>
    intro s member active
    rw [List.eq_of_mem_replicate member] at active
    cases active
  | append_singleton ops op ih =>
    have initialised := (mqttRun_shows c ops).2.initialised
    rw [finalState_concat, outputs_concat, List.zip_append (length_outputs ops).symm]
    intro s member active
    rcases mqttStep_active initialised op active member with before | ⟨topic, qos, callback, msgId, called, made⟩
    · obtain ⟨topic, qos, callback, msgId, called, made⟩ := ih s before active
      exact ⟨topic, qos, callback, msgId, List.mem_append_left _ called, made⟩
    · exact ⟨topic, qos, callback, msgId, List.mem_append_right _ called, made⟩

end Bag

/-- Over every run the client answers as a session with a bag of at most eight filters does: it publishes on a connection that
is up, a topic takes as many calls to leave as were made to join, and a message is passed on when its topic is in the bag. It
goes to a callback that a call subscribed to that topic, and carries the topic and the payload as far as they fit. -/
theorem mqtt_subscriptions_form_bag {C : Type} (c : MqttClient C) (ops : List (MqttOp C)) :
    (outputs mqttStep (mqttClientInit c) ops).map MqttOutcome.forget =
        outputs mqttSessionStep { client := c.client, up := false, filters := 0 } ops ∧
      ∀ topic payload callback message,
        mqttDeliver (finalState mqttStep (mqttClientInit c) ops) topic payload = some (callback, message) →
          message.topic.text = topicCut topic ∧ message.payload = payload.take mqttMaxPayload ∧
            ∃ joined msgId, topicCut joined = topicCut topic ∧
              (.subscribe joined message.qos callback msgId, { result := true }) ∈
                ops.zip (outputs mqttStep (mqttClientInit c) ops) := by
  refine ⟨(mqttRun_shows c ops).1, ?_⟩
  intro topic payload callback message delivered
  obtain ⟨s, found, called, rfl⟩ := mqttDeliver_eq_some.mp delivered
  have named : s.named (topicBuf topic) = true := by simpa using List.find?_some found
  obtain ⟨active, filter⟩ := Bool.and_eq_true_iff.mp named
  obtain ⟨joined, qos, callback', msgId, made, rfl⟩ :=
    mqttRun_subscribed c ops s (List.mem_of_find?_eq_some found) active
  obtain rfl := Option.some.inj called
  have same : topicCut joined = topicCut topic := by
    rw [← cString_topicBuf topic, ← of_decide_eq_true filter]
    exact (strncpy_text (mqttMaxTopicLen - 1) joined).symm
  refine ⟨?_, rfl, joined, msgId, same, made⟩
  refine (strncpy_text (mqttMaxTopicLen - 1) (topicBuf topic)).trans ?_
  rw [cString_topicBuf, topicCut, List.take_take, Nat.min_self]

/-- Two calls join a topic; after one has left it the other still gets its messages. -/
example : (outputs mqttStep (mqttClientInit { client := true, state := .error, subscriptions := [], initialised := false })
    [.subscribe (asciiBytes "t") .qos0 1 7, .subscribe (asciiBytes "t") .qos1 2 8, .unsubscribe (asciiBytes "t"),
      .event (.data (asciiBytes "t") [9])]).map (fun o => o.delivered.map Prod.fst) = [none, none, none, some 2] := by
  decide +kernel

end IotPlatform
