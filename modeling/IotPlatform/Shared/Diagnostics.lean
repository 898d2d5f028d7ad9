import Mathlib.Data.List.Chain
import IotPlatform.Lib.Run
import IotPlatform.Lib.RingBuffer
import IotPlatform.Lib.CText
import IotPlatform.Shared.FaultTree

/-!
# Diagnostics

`diagnostics.c`: counters that are named by strings, and a ring of their last changes.
-/

namespace IotPlatform
open Run RingBuffer

def diagHistorySize : Nat := 64

inductive DiagResult where
  | ok | errNotInit | errParamNull | errBufferTooSmall
  deriving DecidableEq, Repr

/-- The fields of a snapshot that a name stands for. -/
inductive DiagCounter where
  | uptimeMs | freeHeapBytes | radioTxCount | radioRxCount | radioErrors | attestationSuccess | attestationFailures
  | ruleEngineEvaluations | ruleEngineSafetyFires | historianWrites | historianEvictions | otaTransfersAttempted
  | otaTransfersSucceeded | otaTransfersFailed | mqttPublishCount | mqttReconnectCount | watchdogResets
  deriving DecidableEq, Repr

structure SystemDiagnostics where
  counters : DiagCounter → UInt32 := fun _ => 0
  activeFaultCount : UInt32 := 0
  currentDegradation : DegradationLevel := .normal

structure DiagEvent where
  timestampMs : UInt32 := 0
  oldValue : UInt32 := 0
  newValue : UInt32 := 0
  counterIndex : UInt8 := 0
  deriving DecidableEq, Repr

structure DiagnosticsContext where
  snapshot : SystemDiagnostics := {}
  history : Nat → DiagEvent := fun _ => {}
  historyHead : UInt16 := 0
  historyCount : UInt16 := 0
  initialized : Bool := false

def counterMap : List String :=
  ["uptime_ms", "free_heap_bytes", "radio_tx_count", "radio_rx_count", "radio_errors", "attestation_success",
    "attestation_failures", "rule_engine_evaluations", "rule_engine_safety_fires", "historian_writes", "historian_evictions",
    "ota_transfers_attempted", "ota_transfers_succeeded", "ota_transfers_failed", "mqtt_publish_count",
    "mqtt_reconnect_count", "watchdog_resets"]

/-- The comparisons of `find_counter`, in their order. -/
def counterFields : List (String × DiagCounter) :=
  [("uptime_ms", .uptimeMs), ("free_heap_bytes", .freeHeapBytes), ("radio_tx_count", .radioTxCount),
    ("radio_rx_count", .radioRxCount), ("radio_errors", .radioErrors), ("attestation_success", .attestationSuccess),
    ("attestation_failures", .attestationFailures), ("rule_engine_evaluations", .ruleEngineEvaluations),
    ("rule_engine_safety_fires", .ruleEngineSafetyFires), ("historian_writes", .historianWrites),
    ("historian_evictions", .historianEvictions), ("ota_transfers_attempted", .otaTransfersAttempted),
    ("ota_transfers_succeeded", .otaTransfersSucceeded), ("ota_transfers_failed", .otaTransfersFailed),
    ("mqtt_publish_count", .mqttPublishCount), ("mqtt_reconnect_count", .mqttReconnectCount),
    ("watchdog_resets", .watchdogResets)]

/-- `strcmp` finds the C string equal to the literal. -/
def strcmpEq (name : List UInt8) (literal : String) : Bool := decide (cString name = asciiBytes literal)

def findCounter (name : List UInt8) : Option DiagCounter :=
  (counterFields.find? fun entry => strcmpEq name entry.1).map Prod.snd

def findCounterIndex (name : List UInt8) : UInt8 :=
  match counterMap.findIdx? (strcmpEq name) with
  | some i => UInt8.ofNat i
  | none => 0xFF

def SystemDiagnostics.write (snapshot : SystemDiagnostics) (counter : DiagCounter) (value : UInt32) : SystemDiagnostics :=
  { snapshot with counters := Function.update snapshot.counters counter value }

section Operations

variable (ctx : DiagnosticsContext)

/-- `memset` leaves nothing of what was there. -/
def diagnosticsInit : DiagnosticsContext × DiagResult := ({ initialized := true }, .ok)

def diagnosticsRecordEvent (counterIndex : UInt8) (oldValue newValue : UInt32) : DiagnosticsContext × DiagResult :=
  if !ctx.initialized then (ctx, .errParamNull)
  else
    let slot := (ctx.historyHead.toNat + ctx.historyCount.toNat) % diagHistorySize
    let moved :=
      if ctx.historyCount < 64 then { ctx with historyCount := ctx.historyCount + 1 }
      else { ctx with historyHead := (ctx.historyHead + 1) % 64 }
    let event := { moved.history slot with counterIndex := counterIndex, oldValue := oldValue, newValue := newValue }
    ({ moved with history := Function.update moved.history slot event }, .ok)

/-- `none` is a null pointer. -/
def diagnosticsAdd (counterName : Option (List UInt8)) (amount : UInt32) : DiagnosticsContext × DiagResult :=
  match counterName with
  | none => (ctx, .errParamNull)
  | some counterName =>
    if !ctx.initialized then (ctx, .errParamNull)
    else
      match findCounter counterName with
      | none => (ctx, .ok)
      | some counter =>
        let oldValue := ctx.snapshot.counters counter
        let newValue := oldValue + amount
        let ctx := { ctx with snapshot := ctx.snapshot.write counter newValue }
        let idx := findCounterIndex counterName
        if idx ≠ 0xFF then ((diagnosticsRecordEvent ctx idx oldValue newValue).1, .ok) else (ctx, .ok)

def diagnosticsIncrement (counterName : Option (List UInt8)) : DiagnosticsContext × DiagResult :=
  diagnosticsAdd ctx counterName 1

def diagnosticsGetSnapshot : SystemDiagnostics := ctx.snapshot

def diagnosticsGetCounter (counterName : Option (List UInt8)) : Except DiagResult UInt32 :=
  match counterName with
  | none => .error .errParamNull
  | some counterName =>
    match findCounter counterName with
    | none => .error .errParamNull
    | some counter => .ok (ctx.snapshot.counters counter)

def diagnosticsSetUptime (ms : UInt32) : DiagnosticsContext × DiagResult :=
  if !ctx.initialized then (ctx, .errParamNull)
  else ({ ctx with snapshot := ctx.snapshot.write .uptimeMs ms }, .ok)

end Operations

/-! ### The two tables of names -/

def DiagCounter.index : DiagCounter → UInt8
  | .uptimeMs => 0
  | .freeHeapBytes => 1
  | .radioTxCount => 2
  | .radioRxCount => 3
  | .radioErrors => 4
  | .attestationSuccess => 5
  | .attestationFailures => 6
  | .ruleEngineEvaluations => 7
  | .ruleEngineSafetyFires => 8
  | .historianWrites => 9
  | .historianEvictions => 10
  | .otaTransfersAttempted => 11
  | .otaTransfersSucceeded => 12
  | .otaTransfersFailed => 13
  | .mqttPublishCount => 14
  | .mqttReconnectCount => 15
  | .watchdogResets => 16

theorem DiagCounter.index_inj {c d : DiagCounter} : c.index = d.index ↔ c = d := by
  constructor
  · intro same
    cases c <;> cases d <;> first | rfl | cases same
  · rintro rfl
    rfl

theorem DiagCounter.index_ne (c : DiagCounter) : c.index ≠ 0xFF := by
  cases c <;> decide

theorem counterMap_eq : counterMap = counterFields.map Prod.fst := rfl

theorem counterFields_index : ∀ i : Fin counterFields.length, counterFields[i].2.index = UInt8.ofNat i := by decide

/-- A name that stands for a field has the field's index in the other table, and a name that stands for none has none. -/
theorem findCounterIndex_eq (name : List UInt8) :
    findCounterIndex name = ((findCounter name).map DiagCounter.index).getD 0xFF := by
  unfold findCounterIndex findCounter
  rw [counterMap_eq, List.findIdx?_map]
  cases found : counterFields.find? fun entry => strcmpEq name entry.1 with
  | none =>
    have absent : counterFields.findIdx? (strcmpEq name ∘ Prod.fst) = none := by
      rw [List.findIdx?_eq_none_iff]
      intro entry member
      exact eq_false_of_ne_true (List.find?_eq_none.mp found entry member)
    rw [absent]
    rfl
  | some entry =>
    obtain ⟨named, i, inside, here, before⟩ := List.find?_eq_some_iff_getElem.mp found
    have at_i : counterFields.findIdx? (strcmpEq name ∘ Prod.fst) = some i := by
      rw [List.findIdx?_eq_some_iff_getElem]
      refine ⟨inside, ?_, fun j earlier => ?_⟩
      · rw [here]
        exact named
      · have other := before j earlier
        rw [Bool.not_eq_true'] at other
        exact ne_true_of_eq_false other
    have index := counterFields_index ⟨i, inside⟩
    rw [at_i, Option.map_some, Option.map_some, Option.getD_some, ← here]
    exact index.symm

theorem findCounter_name : ∀ entry ∈ counterFields, findCounter (asciiBytes entry.1) = some entry.2 := by decide

/-! ### What should be recorded -/

structure DiagChange where
  counter : DiagCounter
  oldValue : UInt32
  newValue : UInt32
  deriving DecidableEq, Repr

def DiagChange.event (change : DiagChange) : DiagEvent :=
  { oldValue := change.oldValue, newValue := change.newValue, counterIndex := change.counter.index }

/-- The sum of the amounts of a counter. -/
def total (counter : DiagCounter) (additions : List (DiagCounter × UInt32)) : Nat :=
  ((additions.filter fun addition => addition.1 = counter).map fun addition => addition.2.toNat).sum

/-- The changes that additions make after those in `before`. -/
def changes (before : List (DiagCounter × UInt32)) : List (DiagCounter × UInt32) → List DiagChange
  | [] => []
  | (counter, amount) :: rest =>
    let after := before ++ [(counter, amount)]
    { counter := counter, oldValue := UInt32.ofNat (total counter before), newValue := UInt32.ofNat (total counter after) } ::
      changes after rest

/-- What was read from the ring links the changes of each counter. -/
def LinkedChanges (events : List DiagEvent) : Prop :=
  ∀ counter : DiagCounter, (events.filter fun event => event.counterIndex = counter.index).IsChain
    fun earlier later => later.oldValue = earlier.newValue

variable {before additions : List (DiagCounter × UInt32)} {counter : DiagCounter} {amount : UInt32}

theorem total_concat (counter : DiagCounter) (additions : List (DiagCounter × UInt32)) (addition : DiagCounter × UInt32) :
    total counter (additions ++ [addition]) =
      total counter additions + if addition.1 = counter then addition.2.toNat else 0 := by
  unfold total
  rw [List.filter_append, List.map_append, List.sum_append]
  congr 1
  by_cases same : addition.1 = counter
  · simp [same]
  · simp [same]

theorem changes_append (before additions more : List (DiagCounter × UInt32)) :
    changes before (additions ++ more) = changes before additions ++ changes (before ++ additions) more := by
  induction additions generalizing before with
  | nil => rw [List.nil_append, List.append_nil, changes, List.nil_append]
  | cons addition rest ih =>
    rw [List.cons_append, changes, changes, ih, List.append_assoc, List.singleton_append, List.cons_append]

theorem changes_concat (additions : List (DiagCounter × UInt32)) (counter : DiagCounter) (amount : UInt32) :
    changes [] (additions ++ [(counter, amount)]) = changes [] additions ++
      [{ counter := counter, oldValue := UInt32.ofNat (total counter additions)
         newValue := UInt32.ofNat (total counter (additions ++ [(counter, amount)])) }] := changes_append ..

theorem length_changes (before additions : List (DiagCounter × UInt32)) : (changes before additions).length = additions.length := by
  induction additions generalizing before with
  | nil => rfl
  | cons addition rest ih => exact congrArg _ (ih _)

/-- The changes of one counter are linked, and the last of them leaves its total. -/
theorem changes_linked (counter : DiagCounter) (additions : List (DiagCounter × UInt32)) :
    ((changes [] additions).filter fun change => change.counter = counter).IsChain
        (fun earlier later => later.oldValue = earlier.newValue) ∧
      ∀ last ∈ ((changes [] additions).filter fun change => change.counter = counter).getLast?,
        last.newValue = UInt32.ofNat (total counter additions) := by
  induction additions using List.reverseRecOn with
  | nil => simp [changes]
  | append_singleton additions addition ih =>
    obtain ⟨chain, last⟩ := ih
    obtain ⟨changed, amount⟩ := addition
    rw [changes_concat, List.filter_append]
    by_cases same : changed = counter
    · subst same
      rw [List.filter_singleton, decide_eq_true rfl, cond_true]
      constructor
      · rw [List.isChain_append]
        refine ⟨chain, List.isChain_singleton _, ?_⟩
        rintro earlier ends later ⟨⟩
        exact (last earlier ends).symm
      · rw [List.getLast?_concat]
        rintro change ⟨⟩
        rfl
    · rw [List.filter_singleton, decide_eq_false same, cond_false, List.append_nil, total_concat, if_neg same, Nat.add_zero]
      exact ⟨chain, last⟩

/-! ### Runs -/

inductive DiagCall where
  | add (counterName : Option (List UInt8)) (amount : UInt32)
  | increment (counterName : Option (List UInt8))
  deriving DecidableEq, Repr

def diagnosticsStep (ctx : DiagnosticsContext) : DiagCall → DiagnosticsContext × DiagResult
  | .add counterName amount => diagnosticsAdd ctx counterName amount
  | .increment counterName => diagnosticsIncrement ctx counterName

/-- The counter a call names, and the amount it adds. -/
def DiagCall.addition : DiagCall → Option (DiagCounter × UInt32)
  | .add counterName amount => (counterName.bind findCounter).map fun counter => (counter, amount)
  | .increment counterName => (counterName.bind findCounter).map fun counter => (counter, 1)

def DiagnosticsContext.readHistory (ctx : DiagnosticsContext) : List DiagEvent :=
  readFrom diagHistorySize ctx.historyHead.toNat ctx.historyCount.toNat ctx.history

/-- The counters are the sums of their amounts, and the ring holds the last changes, linked. -/
structure HistoryExact (ctx : DiagnosticsContext) (additions : List (DiagCounter × UInt32)) : Prop where
  counters : ∀ counter, ctx.snapshot.counters counter = UInt32.ofNat (total counter additions)
  count : ctx.historyCount.toNat = min additions.length diagHistorySize
  history : ctx.readHistory =
    ((changes [] additions).drop (additions.length - min additions.length diagHistorySize)).map DiagChange.event
  linked : LinkedChanges ctx.readHistory

/-- Every field of the snapshot but the counter is as before. -/
structure SystemDiagnostics.SameBut (changed : Option DiagCounter) (before after : SystemDiagnostics) : Prop where
  counters : ∀ counter, changed ≠ some counter → after.counters counter = before.counters counter
  activeFaultCount : after.activeFaultCount = before.activeFaultCount
  currentDegradation : after.currentDegradation = before.currentDegradation

def OtherFieldsKept (ctx : DiagnosticsContext) (call : DiagCall) : Prop :=
  ctx.snapshot.SameBut (call.addition.map Prod.fst) (diagnosticsStep ctx call).1.snapshot

/-- The module after some additions. -/
structure Recorded (ctx : DiagnosticsContext) (additions : List (DiagCounter × UInt32)) : Prop where
  initialized : ctx.initialized = true
  counters : ∀ counter, ctx.snapshot.counters counter = UInt32.ofNat (total counter additions)
  count : ctx.historyCount.toNat = min additions.length diagHistorySize
  head : ctx.historyHead.toNat = (additions.length - min additions.length diagHistorySize) % diagHistorySize
  lap : LastLap diagHistorySize ctx.history (fun _ => DiagChange.event) (changes [] additions)
  untimed : ∀ i, (ctx.history i).timestampMs = 0

variable {ctx : DiagnosticsContext}

theorem recorded_init : Recorded diagnosticsInit.1 [] where
  initialized := rfl
  counters _ := rfl
  count := rfl
  head := rfl
  lap := LastLap.nil _ _
  untimed _ := rfl

theorem Recorded.historyExact (recorded : Recorded ctx additions) : HistoryExact ctx additions := by
  have pushed : min additions.length diagHistorySize ≤ (changes [] additions).length := by
    rw [length_changes]
    exact Nat.min_le_left ..
  have history : ctx.readHistory =
      ((changes [] additions).drop (additions.length - min additions.length diagHistorySize)).map DiagChange.event := by
    have read := recorded.lap.readFrom_eq pushed (Nat.min_le_right ..)
    rw [length_changes, ← recorded.head] at read
    rw [← read, DiagnosticsContext.readHistory, recorded.count]
  refine ⟨recorded.counters, recorded.count, history, fun counter => ?_⟩
  have same : ((fun event : DiagEvent => decide (event.counterIndex = counter.index)) ∘ DiagChange.event) =
      fun change => decide (change.counter = counter) := by
    funext change
    exact decide_eq_decide.mpr DiagCounter.index_inj
  rw [history, List.filter_map, List.isChain_map, same]
  exact (changes_linked counter additions).1.suffix ((List.drop_suffix _ _).filter _)

theorem diagnosticsAdd_unknown {name : List UInt8} (initialized : ctx.initialized = true) (unknown : findCounter name = none)
    (amount : UInt32) : diagnosticsAdd ctx (some name) amount = (ctx, .ok) := by
  simp [diagnosticsAdd, initialized, unknown]

theorem diagnosticsAdd_known {name : List UInt8} (initialized : ctx.initialized = true) (known : findCounter name = some counter)
    (amount : UInt32) :
    diagnosticsAdd ctx (some name) amount =
      ((diagnosticsRecordEvent { ctx with snapshot := ctx.snapshot.write counter (ctx.snapshot.counters counter + amount) }
        counter.index (ctx.snapshot.counters counter) (ctx.snapshot.counters counter + amount)).1, .ok) := by
  have index : findCounterIndex name = counter.index := by
    rw [findCounterIndex_eq, known]
    rfl
  simp [diagnosticsAdd, initialized, known, index, counter.index_ne]

/-- The next event overwrites the slot behind the last one; a full ring loses its oldest event to it. -/
theorem diagnosticsRecordEvent_eq (ctx : DiagnosticsContext) (initialized : ctx.initialized = true) (counterIndex : UInt8) (oldValue newValue : UInt32) :
    (diagnosticsRecordEvent ctx counterIndex oldValue newValue).1 =
      let slot := (ctx.historyHead.toNat + ctx.historyCount.toNat) % diagHistorySize
      let event := { ctx.history slot with counterIndex := counterIndex, oldValue := oldValue, newValue := newValue }
      { ctx with
        history := Function.update ctx.history slot event
        historyHead := if ctx.historyCount < 64 then ctx.historyHead else (ctx.historyHead + 1) % 64
        historyCount := if ctx.historyCount < 64 then ctx.historyCount + 1 else ctx.historyCount } := by
  unfold diagnosticsRecordEvent
  rw [initialized, Bool.not_true, if_neg Bool.false_ne_true]
  split <;> rfl

theorem Recorded.slot (recorded : Recorded ctx additions) :
    (ctx.historyHead.toNat + ctx.historyCount.toNat) % diagHistorySize = (changes [] additions).length % diagHistorySize := by
  rw [recorded.head, recorded.count, Nat.mod_add_mod, length_changes, Nat.sub_add_cancel (Nat.min_le_left ..)]

theorem Recorded.filling (recorded : Recorded ctx additions) : ctx.historyCount < 64 ↔ additions.length < diagHistorySize := by
  rw [UInt16.lt_iff_toNat_lt, recorded.count, diagHistorySize]
  show _ < 64 ↔ _
  omega

theorem Recorded.nextCount (recorded : Recorded ctx additions) :
    (if ctx.historyCount < 64 then ctx.historyCount + 1 else ctx.historyCount).toNat =
      min (additions.length + 1) diagHistorySize := by
  split
  · rename_i room
    have short := recorded.filling.mp room
    rw [UInt16.toNat_add, recorded.count]
    unfold diagHistorySize at short ⊢
    show (_ + 1) % 2 ^ 16 = _
    omega
  · rename_i full
    have long := mt recorded.filling.mpr full
    rw [recorded.count]
    omega

theorem Recorded.nextHead (recorded : Recorded ctx additions) :
    (if ctx.historyCount < 64 then ctx.historyHead else (ctx.historyHead + 1) % 64).toNat =
      (additions.length + 1 - min (additions.length + 1) diagHistorySize) % diagHistorySize := by
  split
  · rename_i room
    have short := recorded.filling.mp room
    rw [recorded.head]
    unfold diagHistorySize at short ⊢
    omega
  · rename_i full
    have long := mt recorded.filling.mpr full
    rw [UInt16.toNat_mod, UInt16.toNat_add, recorded.head]
    unfold diagHistorySize at long ⊢
    show (_ + 1) % 2 ^ 16 % 64 = _
    omega

theorem Recorded.nextCounter (recorded : Recorded ctx additions) (counter : DiagCounter) (amount : UInt32) :
    ctx.snapshot.counters counter + amount = UInt32.ofNat (total counter (additions ++ [(counter, amount)])) := by
  rw [total_concat, if_pos rfl, recorded.counters, UInt32.ofNat_add, UInt32.ofNat_toNat]

theorem Recorded.recordEvent (recorded : Recorded ctx additions) (counter : DiagCounter) (amount : UInt32) :
    Recorded
      (diagnosticsRecordEvent { ctx with snapshot := ctx.snapshot.write counter (ctx.snapshot.counters counter + amount) }
        counter.index (ctx.snapshot.counters counter) (ctx.snapshot.counters counter + amount)).1
      (additions ++ [(counter, amount)]) := by
  have ready : ({ ctx with
      snapshot := ctx.snapshot.write counter (ctx.snapshot.counters counter + amount) } : DiagnosticsContext).initialized = true :=
    recorded.initialized
  have event : ({ ctx.history ((changes [] additions).length % diagHistorySize) with
      counterIndex := counter.index, oldValue := ctx.snapshot.counters counter
      newValue := ctx.snapshot.counters counter + amount } : DiagEvent) =
      DiagChange.event { counter := counter, oldValue := UInt32.ofNat (total counter additions)
                         newValue := UInt32.ofNat (total counter (additions ++ [(counter, amount)])) } := by
    dsimp only [DiagChange.event]
    rw [recorded.untimed, ← recorded.nextCounter, recorded.counters]
  have length : (additions ++ [(counter, amount)]).length = additions.length + 1 := List.length_append
  rw [diagnosticsRecordEvent_eq _ ready]
  dsimp only
  rw [recorded.slot, event]
  refine ⟨recorded.initialized, fun other => ?_, ?_, ?_, ?_, fun i => ?_⟩
  · show Function.update ctx.snapshot.counters counter _ other = _
    by_cases same : counter = other
    · subst same
      rw [Function.update_self, recorded.nextCounter]
    · rw [Function.update_of_ne (Ne.symm same), recorded.counters, total_concat, if_neg same, Nat.add_zero]
  · rw [length]
    exact recorded.nextCount
  · rw [length]
    exact recorded.nextHead
  · rw [changes_concat]
    exact recorded.lap.push _
  · show (Function.update ctx.history _ _ i).timestampMs = 0
    rw [Function.update_apply]
    split
    · rfl
    · exact recorded.untimed i

theorem recordEvent_snapshot (ctx : DiagnosticsContext) (counterIndex : UInt8) (oldValue newValue : UInt32) :
    (diagnosticsRecordEvent ctx counterIndex oldValue newValue).1.snapshot = ctx.snapshot := by
  unfold diagnosticsRecordEvent
  split
  · rfl
  · dsimp only
    split <;> rfl

theorem Recorded.add (recorded : Recorded ctx additions) (counterName : Option (List UInt8)) (amount : UInt32) :
    Recorded (diagnosticsAdd ctx counterName amount).1
        (additions ++ ((counterName.bind findCounter).map fun counter => (counter, amount)).toList) ∧
      ctx.snapshot.SameBut (counterName.bind findCounter) (diagnosticsAdd ctx counterName amount).1.snapshot := by
  cases counterName with
  | none =>
    rw [Option.bind_none, Option.map_none, Option.toList_none, List.append_nil]
    exact ⟨recorded, fun _ _ => rfl, rfl, rfl⟩
  | some name =>
    rw [Option.bind_some]
    cases found : findCounter name with
    | none =>
      rw [diagnosticsAdd_unknown recorded.initialized found, Option.map_none, Option.toList_none, List.append_nil]
      exact ⟨recorded, fun _ _ => rfl, rfl, rfl⟩
    | some changed =>
      rw [diagnosticsAdd_known recorded.initialized found, recordEvent_snapshot]
      refine ⟨recorded.recordEvent changed amount, fun counter other => ?_, rfl, rfl⟩
      exact Function.update_of_ne (fun same => other (congrArg some same.symm)) _ _

/-- One call adds its amount to its counter, and touches no other field of the snapshot. -/
theorem Recorded.step (recorded : Recorded ctx additions) (call : DiagCall) :
    Recorded (diagnosticsStep ctx call).1 (additions ++ call.addition.toList) ∧ OtherFieldsKept ctx call := by
  have first : ∀ (counter : Option DiagCounter) (amount : UInt32),
      (counter.map fun counter => (counter, amount)).map Prod.fst = counter := by
    rintro (_ | counter) amount <;> rfl
  unfold OtherFieldsKept
  cases call with
  | add counterName amount =>
    rw [DiagCall.addition, first]
    exact recorded.add counterName amount
  | increment counterName =>
    rw [DiagCall.addition, first]
    exact recorded.add counterName 1

theorem recorded_run (calls : List DiagCall) :
    Recorded (finalState diagnosticsStep diagnosticsInit.1 calls) (calls.filterMap DiagCall.addition) := by
  induction calls using List.reverseRecOn with
  | nil => exact recorded_init
  | append_singleton calls call ih =>
    rw [finalState_concat, List.filterMap_append]
    have next := (ih.step call).1
    cases addition : call.addition with
    | none =>
      rw [addition] at next
      rwa [List.filterMap_cons_none addition]
    | some added =>
      rw [addition] at next
      rwa [List.filterMap_cons_some addition]

/-- A reader gets the sum of the amounts back under the counter's name. -/
theorem Recorded.getCounter (recorded : Recorded ctx additions) {name : List UInt8} (known : findCounter name = some counter) :
    diagnosticsGetCounter ctx (some name) = .ok (UInt32.ofNat (total counter additions)) := by
  unfold diagnosticsGetCounter
  rw [← recorded.counters counter]
  simp [known]

/-- After an init, whatever is added under whatever names: each counter is the sum of its amounts, no call touches another
field, and the ring read from its head holds the last changes in order, linked. -/
theorem diagnostics_history_exact (calls : List DiagCall) :
    HistoryExact (finalState diagnosticsStep diagnosticsInit.1 calls) (calls.filterMap DiagCall.addition) ∧
      EachStep OtherFieldsKept diagnosticsStep diagnosticsInit.1 calls :=
  ⟨(recorded_run calls).historyExact, eachStep_iff.mpr fun n call _ => ((recorded_run (calls.take n)).step call).2⟩

end IotPlatform
