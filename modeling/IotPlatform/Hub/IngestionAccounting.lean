import Mathlib.Algebra.BigOperators.Group.List.Basic
import IotPlatform.Lib.Run
import IotPlatform.Shared.RuleSelection
import IotPlatform.Hub.ValidationGate

/-!
# The books of the ingestion handler

The counters of `IngestionHandlerStats_t` against what the polls of a run did: the frames taken from the radio, the
entries `gateway_ingest_frame` returned, the calls of `historian_write` and the rules reported to the caller.
-/

namespace IotPlatform

/-! ### What the events of a poll add up to -/

def PollEvent.isHistorianWrite : PollEvent → Bool
  | .historianWrite _ => true
  | _ => false

def PollEvent.rulesTriggered : PollEvent → Nat
  | .evaluateRules _ results => results.length
  | _ => 0

def historianWrites (events : List PollEvent) : Nat := events.countP PollEvent.isHistorianWrite

def rulesEvaluated (events : List PollEvent) : Nat := (events.map PollEvent.rulesTriggered).sum

@[simp] theorem historianWrites_append (events later : List PollEvent) :
    historianWrites (events ++ later) = historianWrites events + historianWrites later := List.countP_append

@[simp] theorem rulesEvaluated_append (events later : List PollEvent) :
    rulesEvaluated (events ++ later) = rulesEvaluated events + rulesEvaluated later := by
  rw [rulesEvaluated, List.map_append, List.sum_append, rulesEvaluated, rulesEvaluated]

@[simp] theorem historianWrites_audits (audits : List AuditEvent) : historianWrites (audits.map PollEvent.audit) = 0 := by
  simp [historianWrites, PollEvent.isHistorianWrite]

@[simp] theorem rulesEvaluated_audits (audits : List AuditEvent) : rulesEvaluated (audits.map PollEvent.audit) = 0 := by
  induction audits with
  | nil => rfl
  | cons audit rest ih => simpa [rulesEvaluated, PollEvent.rulesTriggered] using ih

/-! ### The entry loop -/

/-- The counters after a loop over `entries` entries with these events. -/
structure EntryAccounts (entries : Nat) (events : List PollEvent) (before after : IngestionHandlerStats) : Prop where
  processed : after.entriesProcessed = before.entriesProcessed + UInt32.ofNat entries
  valid : after.entriesValid = before.entriesValid + UInt32.ofNat (historianWrites events)
  balanced : before.entriesProcessed = before.entriesValid + before.entriesRejected →
    after.entriesProcessed = after.entriesValid + after.entriesRejected
  rules : after.rulesTriggered = before.rulesTriggered + UInt32.ofNat (rulesEvaluated events)
  writes_le : historianWrites events ≤ entries
  few_rules : rulesEvaluated events ≤ ruleEngineMaxActions.toNat * entries

/-- Audit records and the counters of polls and frames are not entered here. -/
theorem EntryAccounts.of_audits {before after : IngestionHandlerStats} (audits : List AuditEvent)
    (processed : after.entriesProcessed = before.entriesProcessed) (valid : after.entriesValid = before.entriesValid)
    (rejected : after.entriesRejected = before.entriesRejected) (rules : after.rulesTriggered = before.rulesTriggered) :
    EntryAccounts 0 (audits.map PollEvent.audit) before after where
  processed := processed.trans (UInt32.add_zero _).symm
  valid := by
    rw [historianWrites_audits]
    exact valid.trans (UInt32.add_zero _).symm
  balanced := by
    rw [processed, valid, rejected]
    exact id
  rules := by
    rw [rulesEvaluated_audits]
    exact rules.trans (UInt32.add_zero _).symm
  writes_le := Nat.le_of_eq (historianWrites_audits audits)
  few_rules := Nat.le_of_eq (rulesEvaluated_audits audits)

theorem EntryAccounts.trans {n m : Nat} {events later : List PollEvent} {s₁ s₂ s₃ : IngestionHandlerStats}
    (first : EntryAccounts n events s₁ s₂) (second : EntryAccounts m later s₂ s₃) :
    EntryAccounts (n + m) (events ++ later) s₁ s₃ where
  processed := by rw [second.processed, first.processed, UInt32.add_assoc, UInt32.ofNat_add]
  valid := by rw [second.valid, first.valid, UInt32.add_assoc, historianWrites_append, UInt32.ofNat_add]
  balanced := second.balanced ∘ first.balanced
  rules := by rw [second.rules, first.rules, UInt32.add_assoc, rulesEvaluated_append, UInt32.ofNat_add]
  writes_le := by
    rw [historianWrites_append]
    exact Nat.add_le_add first.writes_le second.writes_le
  few_rules := by
    rw [rulesEvaluated_append, Nat.mul_add]
    exact Nat.add_le_add first.few_rules second.few_rules

theorem length_ruleResults (config : IngestionHandlerConfig) (h : IngestionHandler) (reading : SensorReading Binary32) :
    ((ruleResults config h reading).getD []).length ≤ ruleEngineMaxActions.toNat := by
  unfold ruleResults
  cases config.vtable.getRuleTable with
  | none => exact Nat.zero_le _
  | some rules =>
    dsimp only [Option.map_some, Option.getD_some, ruleEngineEvaluate]
    split_ifs
    · exact Nat.zero_le _
    · exact Nat.zero_le _
    · rw [evaluateRules_eq_take, List.length_map]
      exact List.length_take_le ..

theorem countRejected_accounts (entry : BatchFrameEntry) (reading : SensorReading Binary32) (event : AuditEvent)
    (stats : IngestionHandlerStats) :
    EntryAccounts 1 [.validate entry reading, .audit event] stats stats.countRejected where
  processed := rfl
  valid := (UInt32.add_zero _).symm
  balanced before := by
    dsimp only [IngestionHandlerStats.countRejected]
    rw [before, UInt32.add_assoc]
  rules := (UInt32.add_zero _).symm
  writes_le := Nat.zero_le 1
  few_rules := Nat.zero_le _

theorem countValid_accounts (entry : BatchFrameEntry) (reading : SensorReading Binary32) (record : HistorianRecord)
    (stats : IngestionHandlerStats) {results : Option (List RuleEvaluationResult)}
    (few : (results.getD []).length ≤ ruleEngineMaxActions.toNat) :
    EntryAccounts 1 ([.validate entry reading, .historianWrite record] ++
        (results.map (PollEvent.evaluateRules reading)).toList)
      stats (stats.countValid (UInt8.ofNat (results.getD []).length)) ∧
    rulesEvaluated ([.validate entry reading, .historianWrite record] ++
      (results.map (PollEvent.evaluateRules reading)).toList) = (results.getD []).length := by
  have writes : historianWrites ([.validate entry reading, .historianWrite record] ++
      (results.map (PollEvent.evaluateRules reading)).toList) = 1 := by
    cases results <;> rfl
  have rules : rulesEvaluated ([.validate entry reading, .historianWrite record] ++
      (results.map (PollEvent.evaluateRules reading)).toList) = (results.getD []).length := by
    cases results <;> simp [rulesEvaluated, PollEvent.rulesTriggered]
  refine ⟨?_, rules⟩
  constructor
  · rfl
  · rw [writes]
    rfl
  · intro before
    dsimp only [IngestionHandlerStats.countValid]
    rw [before, UInt32.add_assoc, UInt32.add_comm stats.entriesRejected, ← UInt32.add_assoc]
  · have small : (results.getD []).length < UInt8.size := Nat.lt_of_le_of_lt few (by decide)
    rw [rules]
    dsimp only [IngestionHandlerStats.countValid]
    rw [UInt8.toUInt32_ofNat' small]
  · exact Nat.le_of_eq writes
  · rw [rules, Nat.mul_one]
    exact few

section Loop

variable {config : IngestionHandlerConfig} {currentMs : UInt64} {h : IngestionHandler} {entry : BatchFrameEntry}

theorem processEntry_books (config : IngestionHandlerConfig) (currentMs : UInt64) (h : IngestionHandler)
    (entry : BatchFrameEntry) :
    EntryAccounts 1 (processEntry config currentMs h entry).2.2 h.stats (processEntry config currentMs h entry).1.stats ∧
      (processEntry config currentMs h entry).2.1 =
        UInt8.ofNat (rulesEvaluated (processEntry config currentMs h entry).2.2) := by
  obtain ⟨-, event, result⟩ | ⟨-, histories, -, result⟩ := processEntry_outcome config currentMs h entry
  · rw [result]
    exact ⟨countRejected_accounts .., rfl⟩
  · rw [result]
    obtain ⟨accounts, rules⟩ := countValid_accounts entry (entry.toReading currentMs)
      (historianRecordOf config (entry.toReading currentMs)) h.stats (length_ruleResults config h (entry.toReading currentMs))
    exact ⟨accounts, by rw [rules]⟩

theorem processEntry_rejected
    (counted : (processEntry config currentMs h entry).1.stats.entriesRejected ≠ h.stats.entriesRejected) :
    (processEntry config currentMs h entry).1.histories = h.histories ∧
      ∀ event ∈ (processEntry config currentMs h entry).2.2, event.uses = none := by
  obtain ⟨-, event, result⟩ | ⟨-, histories, -, result⟩ := processEntry_outcome config currentMs h entry
  · rw [result]
    exact ⟨rfl, by simp [PollEvent.uses]⟩
  · rw [result] at counted
    exact absurd rfl counted

theorem processEntries_books (config : IngestionHandlerConfig) (currentMs : UInt64) (h : IngestionHandler)
    (entries : List BatchFrameEntry) :
    EntryAccounts entries.length (processEntries config currentMs h entries).2.2 h.stats
        (processEntries config currentMs h entries).1.stats ∧
      (processEntries config currentMs h entries).2.1 =
        UInt8.ofNat (rulesEvaluated (processEntries config currentMs h entries).2.2) := by
  induction entries generalizing h with
  | nil => exact ⟨.of_audits [] rfl rfl rfl rfl, rfl⟩
  | cons entry rest ih =>
    obtain ⟨now, returned⟩ := processEntry_books config currentMs h entry
    obtain ⟨later, returned_later⟩ := ih (processEntry config currentMs h entry).1
    constructor
    · rw [List.length_cons, Nat.add_comm]
      exact now.trans later
    · dsimp only [processEntries]
      rw [returned, returned_later, rulesEvaluated_append, UInt8.ofNat_add]

theorem processEntries_frames (config : IngestionHandlerConfig) (currentMs : UInt64) (h : IngestionHandler)
    (entries : List BatchFrameEntry) :
    (processEntries config currentMs h entries).1.stats.framesReceived = h.stats.framesReceived ∧
      (processEntries config currentMs h entries).1.stats.framesIngested = h.stats.framesIngested ∧
      (processEntries config currentMs h entries).1.stats.framesRejected = h.stats.framesRejected := by
  induction entries generalizing h with
  | nil => exact ⟨rfl, rfl, rfl⟩
  | cons entry rest ih =>
    obtain ⟨received, ingested, rejected⟩ := ih (processEntry config currentMs h entry).1
    obtain ⟨-, event, result⟩ | ⟨-, histories, -, result⟩ := processEntry_outcome config currentMs h entry
    · rw [result] at received ingested rejected
      rw [processEntries, result]
      exact ⟨received, ingested, rejected⟩
    · rw [result] at received ingested rejected
      rw [processEntries, result]
      exact ⟨received, ingested, rejected⟩

end Loop

/-! ### Runs -/

/-- A poll, or other code at work on what the handler's pointers lead to. -/
inductive IngestionOp where
  | poll (received : Option (List UInt8)) (currentMs : UInt64)
  | outside (gwTracker : GatewayTracker) (edgeTracker : EdgeTrackerArg) (histories : UInt8 → SensorHistory Binary32)
      (sensorValidationReady ruleEngineReady : Bool)

/-- What a poll got from `gateway_ingest_frame`, when it called it, what it returned and the calls it made. -/
structure PollReport where
  ingestion : Option IngestOutcome
  triggered : UInt8
  events : List PollEvent

def ingestionStep (hmac : Hmac) (h : IngestionHandler) : IngestionOp → IngestionHandler × PollReport
  | .poll received currentMs =>
    let o := ingestionHandlerPoll hmac h received currentMs
    (o.handler,
      { ingestion := received.map fun frame =>
          gatewayIngestFrame hmac h.gwTracker h.edgeTracker frame ingestionHandlerMaxEntries
        triggered := o.triggered, events := o.events })
  | .outside gwTracker edgeTracker histories sensorValidationReady ruleEngineReady =>
    ({ h with
        gwTracker := gwTracker, edgeTracker := edgeTracker, histories := histories
        sensorValidationReady := sensorValidationReady, ruleEngineReady := ruleEngineReady },
      { ingestion := none, triggered := 0, events := [] })

namespace PollReport

def isIngested (report : PollReport) : Bool :=
  match report.ingestion with
  | some o => decide (o.result = .ok)
  | none => false

def entryCount (report : PollReport) : Nat := (report.ingestion.map fun o => o.entries.length).getD 0

end PollReport

def framesReceived (history : List PollReport) : Nat := history.countP fun report => report.ingestion.isSome

def framesIngested (history : List PollReport) : Nat := history.countP PollReport.isIngested

def entriesReturned (history : List PollReport) : Nat := (history.map PollReport.entryCount).sum

def writesMade (history : List PollReport) : Nat := (history.map fun report => historianWrites report.events).sum

def rulesReported (history : List PollReport) : Nat := (history.map fun report => report.triggered.toNat).sum

/-- The books of the run so far. -/
structure Books (config : IngestionHandlerConfig) (h : IngestionHandler) (history : List PollReport) : Prop where
  config : h.config = some config
  received : h.stats.framesReceived = UInt32.ofNat (framesReceived history)
  ingested : h.stats.framesIngested = UInt32.ofNat (framesIngested history)
  frames : h.stats.framesReceived = h.stats.framesIngested + h.stats.framesRejected
  processed : h.stats.entriesProcessed = UInt32.ofNat (entriesReturned history)
  valid : h.stats.entriesValid = UInt32.ofNat (writesMade history)
  entries : h.stats.entriesProcessed = h.stats.entriesValid + h.stats.entriesRejected
  rules : h.stats.rulesTriggered = UInt32.ofNat (rulesReported history)
  ingested_le : framesIngested history ≤ framesReceived history
  writes_le : writesMade history ≤ entriesReturned history
  exact_return : ∀ report ∈ history, report.triggered.toNat = rulesEvaluated report.events

section Runs

variable {hmac : Hmac} {config : IngestionHandlerConfig} {h : IngestionHandler} {history : List PollReport}

theorem length_ingested (hmac : Hmac) (tracker : GatewayTracker) (edge : EdgeTrackerArg) (frame : List UInt8)
    (maxEntries : UInt8) : (gatewayIngestFrame hmac tracker edge frame maxEntries).entries.length ≤ maxEntries.toNat := by
  cases accepted : acceptedFrame hmac tracker frame with
  | none =>
    obtain ⟨error, events, -, refused⟩ := gatewayIngestFrame_refused edge maxEntries accepted
    rw [refused]
    exact Nat.zero_le _
  | some content =>
    rw [gatewayIngestFrame_entries accepted]
    exact List.length_take_le ..

/-- What one poll adds to the books. -/
structure PollAccounts (h h' : IngestionHandler) (report : PollReport) : Prop where
  config : h'.config = h.config
  received : h'.stats.framesReceived = h.stats.framesReceived + UInt32.ofNat report.ingestion.isSome.toNat
  ingested : h'.stats.framesIngested = h.stats.framesIngested + UInt32.ofNat report.isIngested.toNat
  frames : h.stats.framesReceived = h.stats.framesIngested + h.stats.framesRejected →
    h'.stats.framesReceived = h'.stats.framesIngested + h'.stats.framesRejected
  entries : EntryAccounts report.entryCount report.events h.stats h'.stats
  returned : report.triggered.toNat = rulesEvaluated report.events

theorem ingestionStep_idle (configured : h.config = some config) (currentMs : UInt64) :
    PollAccounts h (ingestionStep hmac h (.poll none currentMs)).1 (ingestionStep hmac h (.poll none currentMs)).2 := by
  dsimp only [ingestionStep, ingestionHandlerPoll]
  rw [configured]
  refine ⟨configured.symm, ?_, ?_, fun before => before, .of_audits [] rfl rfl rfl rfl, rfl⟩
  · exact (UInt32.add_zero _).symm
  · exact (UInt32.add_zero _).symm

theorem ingestionStep_refused (configured : h.config = some config) {frame : List UInt8} (currentMs : UInt64)
    (refused : (gatewayIngestFrame hmac h.gwTracker h.edgeTracker frame ingestionHandlerMaxEntries).result ≠ .ok) :
    PollAccounts h (ingestionStep hmac h (.poll (some frame) currentMs)).1
      (ingestionStep hmac h (.poll (some frame) currentMs)).2 := by
  have empty := gatewayIngestFrame_failed refused
  dsimp only [ingestionStep, ingestionHandlerPoll, Option.map_some]
  rw [configured]
  dsimp only
  rw [if_pos refused]
  generalize gatewayIngestFrame hmac h.gwTracker h.edgeTracker frame ingestionHandlerMaxEntries = o at refused empty ⊢
  refine ⟨configured.symm, rfl, ?_, fun before => ?_, ?_, ?_⟩
  · simp [PollReport.isIngested, refused]
  · dsimp only
    rw [before, UInt32.add_assoc]
  · dsimp only [PollReport.entryCount, Option.map_some, Option.getD_some]
    rw [empty]
    exact .of_audits o.events rfl rfl rfl rfl
  · exact (rulesEvaluated_audits o.events).symm

theorem ingestionStep_accepted (configured : h.config = some config) {frame : List UInt8} (currentMs : UInt64)
    (accepted : (gatewayIngestFrame hmac h.gwTracker h.edgeTracker frame ingestionHandlerMaxEntries).result = .ok) :
    PollAccounts h (ingestionStep hmac h (.poll (some frame) currentMs)).1
      (ingestionStep hmac h (.poll (some frame) currentMs)).2 := by
  have few := length_ingested hmac h.gwTracker h.edgeTracker frame ingestionHandlerMaxEntries
  obtain ⟨h_config, stats, gwTracker, edgeTracker, histories, validationReady, engineReady⟩ := h
  obtain rfl : h_config = some config := configured
  dsimp only [ingestionStep, ingestionHandlerPoll, Option.map_some] at accepted few ⊢
  rw [if_neg (not_not.mpr accepted)]
  generalize gatewayIngestFrame hmac gwTracker edgeTracker frame ingestionHandlerMaxEntries = o at accepted few ⊢
  generalize entered : IngestionHandler.mk (some config)
    { stats with
      pollCount := stats.pollCount + 1, framesReceived := stats.framesReceived + 1
      framesIngested := stats.framesIngested + 1 } o.tracker edgeTracker histories validationReady engineReady = ingested
  obtain ⟨loop, returned⟩ := processEntries_books config currentMs ingested o.entries
  obtain ⟨same_received, same_ingested, same_rejected⟩ := processEntries_frames config currentMs ingested o.entries
  have unentered : EntryAccounts 0 (o.events.map PollEvent.audit) stats ingested.stats := by
    rw [← entered]
    exact .of_audits o.events rfl rfl rfl rfl
  refine ⟨?_, ?_, ?_, fun before => ?_, ?_, ?_⟩
  · dsimp only
    rw [(processEntries_setup config currentMs ingested o.entries).config, ← entered]
  · rw [same_received, ← entered]
    rfl
  · rw [same_ingested, ← entered]
    simp [PollReport.isIngested, accepted]
  · dsimp only at before ⊢
    rw [same_received, same_ingested, same_rejected, ← entered]
    dsimp only
    rw [before, UInt32.add_assoc, UInt32.add_comm stats.framesRejected, ← UInt32.add_assoc]
  · have accounts := unentered.trans loop
    rw [Nat.zero_add] at accounts
    exact accounts
  · have small : rulesEvaluated (processEntries config currentMs ingested o.entries).2.2 < UInt8.size := by
      have bound := loop.few_rules
      have entries : ingestionHandlerMaxEntries.toNat = 22 := rfl
      have actions : ruleEngineMaxActions.toNat = 8 := rfl
      have size : UInt8.size = 256 := rfl
      rw [actions] at bound
      omega
    dsimp only
    rw [rulesEvaluated_append, rulesEvaluated_audits, Nat.zero_add, returned]
    exact UInt8.toNat_ofNat_of_lt' small

theorem ingestionStep_accounts (hmac : Hmac) (configured : h.config = some config) (op : IngestionOp) :
    PollAccounts h (ingestionStep hmac h op).1 (ingestionStep hmac h op).2 := by
  cases op with
  | poll received currentMs =>
    cases received with
    | none => exact ingestionStep_idle configured currentMs
    | some frame =>
      by_cases accepted :
          (gatewayIngestFrame hmac h.gwTracker h.edgeTracker frame ingestionHandlerMaxEntries).result = .ok
      · exact ingestionStep_accepted configured currentMs accepted
      · exact ingestionStep_refused configured currentMs accepted
  | outside gwTracker edgeTracker histories sensorValidationReady ruleEngineReady =>
    refine ⟨rfl, ?_, ?_, fun before => before, .of_audits [] rfl rfl rfl rfl, rfl⟩
    · exact (UInt32.add_zero _).symm
    · exact (UInt32.add_zero _).symm

theorem isIngested_le (report : PollReport) : report.isIngested.toNat ≤ report.ingestion.isSome.toNat := by
  cases called : report.ingestion with
  | none => simp [PollReport.isIngested, called]
  | some o => simpa using Bool.toNat_le _

theorem countP_concat_toNat {α : Type} (p : α → Bool) (history : List α) (report : α) :
    (history ++ [report]).countP p = history.countP p + (p report).toNat := by
  cases found : p report <;> simp [List.countP_append, found]

theorem sum_concat {α : Type} (f : α → Nat) (history : List α) (report : α) :
    ((history ++ [report]).map f).sum = (history.map f).sum + f report := by
  simp

theorem books_step (books : Books config h history) (op : IngestionOp) :
    Books config (ingestionStep hmac h op).1 (history ++ [(ingestionStep hmac h op).2]) := by
  have step := ingestionStep_accounts hmac books.config op
  generalize (ingestionStep hmac h op).1 = h' at step ⊢
  generalize (ingestionStep hmac h op).2 = report at step ⊢
  constructor
  · exact step.config.trans books.config
  · rw [step.received, books.received, framesReceived, framesReceived, countP_concat_toNat, UInt32.ofNat_add]
  · rw [step.ingested, books.ingested, framesIngested, framesIngested, countP_concat_toNat, UInt32.ofNat_add]
  · exact step.frames books.frames
  · rw [step.entries.processed, books.processed, entriesReturned, entriesReturned, sum_concat, UInt32.ofNat_add]
  · rw [step.entries.valid, books.valid, writesMade, writesMade, sum_concat, UInt32.ofNat_add]
  · exact step.entries.balanced books.entries
  · rw [step.entries.rules, books.rules, rulesReported, rulesReported, sum_concat, UInt32.ofNat_add, step.returned]
  · rw [framesIngested, framesReceived, countP_concat_toNat, countP_concat_toNat]
    exact Nat.add_le_add books.ingested_le (isIngested_le report)
  · rw [writesMade, entriesReturned, sum_concat, sum_concat]
    exact Nat.add_le_add books.writes_le step.entries.writes_le
  · intro other member
    rcases List.mem_append.mp member with earlier | last
    · exact books.exact_return other earlier
    · rw [List.mem_singleton.mp last]
      exact step.returned

theorem books_init {handler : IngestionHandler} (started : ingestionHandlerInit handler config = (h, true)) :
    Books config h [] := by
  unfold ingestionHandlerInit at started
  split at started
  · cases congrArg Prod.snd started
  · obtain rfl := congrArg Prod.fst started
    exact ⟨rfl, rfl, rfl, rfl, rfl, rfl, rfl, rfl, Nat.le_refl 0, Nat.le_refl 0, fun _ member => nomatch member⟩

/-- A counter that is the difference of two others counts the difference. -/
theorem toNat_of_balance {total part rest : UInt32} {n m : Nat} (counted : total = UInt32.ofNat n)
    (part_counted : part = UInt32.ofNat m) (balanced : total = part + rest) (fits : n < 2 ^ 32) (le : m ≤ n) :
    total.toNat = n ∧ part.toNat = m ∧ total.toNat = part.toNat + rest.toNat := by
  have total_eq : total.toNat = n := by rw [counted, UInt32.toNat_ofNat_of_lt' fits]
  have part_eq : part.toNat = m := by rw [part_counted, UInt32.toNat_ofNat_of_lt' (Nat.lt_of_le_of_lt le fits)]
  have sum : total.toNat = (part.toNat + rest.toNat) % 2 ^ 32 := by rw [balanced, UInt32.toNat_add]
  have bound := rest.toNat_lt
  refine ⟨total_eq, part_eq, ?_⟩
  omega

/-- The books of every run from `ingestion_handler_init` while the counters fit their 32 bits, and what a round
does with an entry that it counts as rejected. -/
theorem ingestion_accounting (hmac : Hmac) (handler h : IngestionHandler) (config : IngestionHandlerConfig)
    (started : ingestionHandlerInit handler config = (h, true)) (ops : List IngestionOp)
    (frames_fit : framesReceived (Run.outputs (ingestionStep hmac) h ops) < 2 ^ 32)
    (entries_fit : entriesReturned (Run.outputs (ingestionStep hmac) h ops) < 2 ^ 32)
    (rules_fit : rulesReported (Run.outputs (ingestionStep hmac) h ops) < 2 ^ 32) :
    let stats := (Run.finalState (ingestionStep hmac) h ops).stats
    let history := Run.outputs (ingestionStep hmac) h ops
    stats.framesReceived.toNat = framesReceived history ∧
      stats.framesReceived.toNat = stats.framesIngested.toNat + stats.framesRejected.toNat ∧
      stats.entriesProcessed.toNat = stats.entriesValid.toNat + stats.entriesRejected.toNat ∧
      stats.entriesProcessed.toNat = entriesReturned history ∧
      writesMade history = stats.entriesValid.toNat ∧
      stats.rulesTriggered.toNat = rulesReported history ∧
      (∀ report ∈ history, report.triggered.toNat = rulesEvaluated report.events) ∧
      ∀ h' currentMs entry,
        (processEntry config currentMs h' entry).1.stats.entriesRejected ≠ h'.stats.entriesRejected →
          (processEntry config currentMs h' entry).1.histories = h'.histories ∧
            ∀ event ∈ (processEntry config currentMs h' entry).2.2, event.uses = none := by
  intro stats history
  have books : Books config (Run.finalState (ingestionStep hmac) h ops) history :=
    Run.history_invariant (books_init started) (fun h history op books => books_step books op) ops
  obtain ⟨received, -, frames⟩ := toNat_of_balance books.received books.ingested books.frames frames_fit books.ingested_le
  obtain ⟨processed, valid, entries⟩ :=
    toNat_of_balance books.processed books.valid books.entries entries_fit books.writes_le
  refine ⟨received, frames, entries, processed, valid.symm, ?_, books.exact_return, ?_⟩
  · exact (congrArg UInt32.toNat books.rules).trans (UInt32.toNat_ofNat_of_lt' rules_fit)
  · exact fun h' currentMs entry counted => processEntry_rejected counted

end Runs

/-- The polls of a run with one accepted frame, one silent radio and one frame that is no frame. -/
def threePolls : List IngestionOp := [.poll (some hotFrame) 2000, .poll none 2500, .poll (some []) 3000]

theorem ingestion_accounting_three_polls :
    (framesReceived (Run.outputs (ingestionStep lengthHmac) hvacHandler threePolls) = 2 ∧
        writesMade (Run.outputs (ingestionStep lengthHmac) hvacHandler threePolls) = 1) ∧
      let stats := (Run.finalState (ingestionStep lengthHmac) hvacHandler threePolls).stats
      stats.framesReceived.toNat = stats.framesIngested.toNat + stats.framesRejected.toNat := by
  have received : framesReceived (Run.outputs (ingestionStep lengthHmac) hvacHandler threePolls) = 2 := by
    decide +kernel
  have returned : entriesReturned (Run.outputs (ingestionStep lengthHmac) hvacHandler threePolls) = 1 := by
    decide +kernel
  have reported : rulesReported (Run.outputs (ingestionStep lengthHmac) hvacHandler threePolls) = 2 := by
    decide +kernel
  refine ⟨⟨received, by decide +kernel⟩, ?_⟩
  exact (ingestion_accounting lengthHmac hvacHandler hvacHandler
    (RangeProfile.hvac.config (some RangeProfile.hvac.historyLookup) 2) rfl threePolls
    (by rw [received]; decide) (by rw [returned]; decide) (by rw [reported]; decide)).2.1

end IotPlatform
