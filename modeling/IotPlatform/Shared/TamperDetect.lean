import IotPlatform.Lib.Run
import IotPlatform.Shared.AuditLog

/-!
# Tamper detection

`tamper_detect.c`: the state behind the tamper switch, and what it logs. The switch is read through a callback from a world
`W` that is another one at each call.
-/

namespace IotPlatform
open Run

inductive TamperState where
  | none | detected
  deriving DecidableEq, Repr

structure TamperConfig where
  gpioPin : UInt8
  activeHigh : Bool
  deriving DecidableEq, Repr

/-- `none` is a null callback. -/
structure TamperGpio (W : Type) where
  gpioRead : Option (W → UInt8 → Bool)

structure TamperDetect (W : Type) where
  config : TamperConfig := { gpioPin := 0, activeHigh := false }
  gpio : TamperGpio W := { gpioRead := none }
  state : TamperState := .none
  initialised : Bool := false

def tamperDetectedEvent : AuditEvent :=
  { eventType := .tamperDetected, sessionId := 0, ruleId := 0, detail := "Physical tamper switch triggered" }

section Operations

variable {W : Type} (s : TamperDetect W) (world : W)

def tamperDetectReadGpio : Bool :=
  if !s.initialised then false
  else
    match s.gpio.gpioRead with
    | none => false
    | some gpioRead =>
      let raw := gpioRead world s.config.gpioPin
      if s.config.activeHigh then raw else !raw

/-- What `tamper_detect_init` sets the statics to before it reads the switch. -/
def armedTamperDetect {W : Type} (config : TamperConfig) (gpio : TamperGpio W) : TamperDetect W :=
  { config := config, gpio := gpio, state := .none, initialised := true }

/-- `none` is a null pointer. -/
def tamperDetectInit (config : Option TamperConfig) (gpio : Option (TamperGpio W)) : TamperDetect W × Bool × List AuditEvent :=
  match config, gpio with
  | some config, some gpio =>
    if gpio.gpioRead.isNone then (s, false, [])
    else
      let armed := armedTamperDetect config gpio
      -- A switch that is triggered already is taken over without an event.
      if tamperDetectReadGpio armed world then ({ armed with state := .detected }, true, []) else (armed, true, [])
  | _, _ => (s, false, [])

def tamperDetectGetState : TamperDetect W × TamperState × List AuditEvent :=
  if !s.initialised then (s, .none, [])
  else if tamperDetectReadGpio s world && decide (s.state ≠ .detected) then
    ({ s with state := .detected }, .detected, [tamperDetectedEvent])
  else (s, s.state, [])

def tamperDetectReset : TamperDetect W × Bool × List AuditEvent :=
  if !s.initialised then (s, false, [])
  else if tamperDetectReadGpio s world then (s, false, [])
  else ({ s with state := .none }, true, [])

end Operations

/-! ### Runs -/

inductive TamperCall (W : Type) where
  | init (config : Option TamperConfig) (gpio : Option (TamperGpio W)) (world : W)
  | getState (world : W)
  | reset (world : W)

/-- The call arms the module anew. -/
def TamperCall.arms {W : Type} : TamperCall W → Bool
  | .init config gpio _ => config.isSome && (gpio.bind TamperGpio.gpioRead).isSome
  | _ => false

/-- The module with what has been logged, and how often its state went from NONE to DETECTED. -/
structure TamperLedger (W : Type) where
  module : TamperDetect W := {}
  logged : List AuditEvent := []
  detections : Nat := 0

section Runs

variable {W : Type}

def callTamperDetect (s : TamperDetect W) : TamperCall W → TamperDetect W × List AuditEvent
  | .init config gpio world => ((tamperDetectInit s world config gpio).1, (tamperDetectInit s world config gpio).2.2)
  | .getState world => ((tamperDetectGetState s world).1, (tamperDetectGetState s world).2.2)
  | .reset world => ((tamperDetectReset s world).1, (tamperDetectReset s world).2.2)

/-- The state goes from NONE to DETECTED; a module that is armed anew comes from NONE. -/
def Detects (s : TamperDetect W) (call : TamperCall W) : Prop :=
  (s.state = .none ∨ call.arms = true) ∧ (callTamperDetect s call).1.state = .detected

instance (s : TamperDetect W) (call : TamperCall W) : Decidable (Detects s call) := inferInstanceAs (Decidable (_ ∧ _))

def tamperStep (l : TamperLedger W) (call : TamperCall W) : TamperLedger W × Unit :=
  ({ module := (callTamperDetect l.module call).1
     logged := l.logged ++ (callTamperDetect l.module call).2
     detections := if Detects l.module call then l.detections + 1 else l.detections }, ())

/-- Every detection has its entry, and every entry its detection. -/
def AuditedOnce (l : TamperLedger W) : Prop :=
  l.logged.countP (fun event => decide (event.eventType = .tamperDetected)) = l.detections

/-- DETECTED is left only by a reset that reads the switch inactive. -/
def LeftByReset (l : TamperLedger W) (call : TamperCall W) : Prop :=
  l.module.state = .detected → (tamperStep l call).1.module.state ≠ .detected →
    ∃ world, call = .reset world ∧ tamperDetectReadGpio l.module world = false

/-- An init finds the state NONE, and the switch inactive. -/
def BootsQuiet (l : TamperLedger W) : TamperCall W → Prop
  | .init (some config) (some gpio) world => gpio.gpioRead.isSome = true →
    l.module.state = .none ∧ tamperDetectReadGpio (armedTamperDetect config gpio) world = false
  | _ => True

/-! ### One call -/

variable {s : TamperDetect W} {l : TamperLedger W} {config : TamperConfig} {gpio : TamperGpio W} {world : W}

theorem callTamperDetect_arms (s : TamperDetect W) (config : TamperConfig) (world : W) (readable : gpio.gpioRead.isSome = true) :
    callTamperDetect s (.init (some config) (some gpio) world) =
      (if tamperDetectReadGpio (armedTamperDetect config gpio) world then
        { armedTamperDetect config gpio with state := .detected } else armedTamperDetect config gpio, []) := by
  have present : gpio.gpioRead.isNone = false := by rw [← Option.not_isSome, readable]; rfl
  rw [callTamperDetect, tamperDetectInit]
  simp only [present, Bool.false_eq_true, if_false]
  split <;> rfl

theorem callTamperDetect_unarmed {config : Option TamperConfig} {gpio : Option (TamperGpio W)}
    (missing : (TamperCall.init config gpio world).arms = false) : callTamperDetect s (.init config gpio world) = (s, []) := by
  cases config with
  | none => rfl
  | some config =>
    cases gpio with
    | none => rfl
    | some gpio =>
      have absent : gpio.gpioRead = none := by simpa [TamperCall.arms] using missing
      simp [callTamperDetect, tamperDetectInit, absent]

theorem callTamperDetect_getState (s : TamperDetect W) (world : W) :
    callTamperDetect s (.getState world) = (s, []) ∨
      s.state = .none ∧ callTamperDetect s (.getState world) = ({ s with state := .detected }, [tamperDetectedEvent]) := by
  rw [callTamperDetect, tamperDetectGetState]
  split
  · exact .inl rfl
  · split
    · rename_i triggered
      rw [Bool.and_eq_true, decide_eq_true_eq] at triggered
      refine .inr ⟨?_, rfl⟩
      cases state : s.state with
      | none => rfl
      | detected => exact absurd state triggered.2
    · exact .inl rfl

theorem callTamperDetect_reset (s : TamperDetect W) (world : W) :
    callTamperDetect s (.reset world) = (s, []) ∨
      tamperDetectReadGpio s world = false ∧ callTamperDetect s (.reset world) = ({ s with state := .none }, []) := by
  rw [callTamperDetect, tamperDetectReset]
  split
  · exact .inl rfl
  · split
    · exact .inl rfl
    · exact .inr ⟨eq_false_of_ne_true ‹_›, rfl⟩

/-! ### Runs -/

theorem auditedOnce_unlogged (audited : AuditedOnce l) {call : TamperCall W} (unlogged : (callTamperDetect l.module call).2 = []) :
    AuditedOnce (tamperStep l call).1 ↔ ¬Detects l.module call := by
  rw [AuditedOnce, tamperStep]
  dsimp only
  rw [unlogged, List.append_nil, audited]
  split
  · rename_i detects
    exact iff_of_false (Nat.ne_of_lt (Nat.lt_succ_self _)) (not_not_intro detects)
  · rename_i detects
    exact iff_of_true rfl detects

theorem tamperStep_idle (audited : AuditedOnce l) {call : TamperCall W} (idle : callTamperDetect l.module call = (l.module, []))
    (unarmed : call.arms = false) : AuditedOnce (tamperStep l call).1 ∧ LeftByReset l call := by
  constructor
  · rw [auditedOnce_unlogged audited (congrArg Prod.snd idle), Detects, idle, unarmed]
    rintro ⟨none | armed, detected⟩
    · rw [none] at detected
      cases detected
    · cases armed
  · intro detected left
    rw [tamperStep, idle] at left
    exact absurd detected left

/-- An init that arms the module keeps the count and the state exactly when it finds nothing detected and the switch
inactive. -/
theorem tamperStep_arms_iff (audited : AuditedOnce l) (config : TamperConfig) (world : W)
    (readable : gpio.gpioRead.isSome = true) :
    AuditedOnce (tamperStep l (.init (some config) (some gpio) world)).1 ∧ LeftByReset l (.init (some config) (some gpio) world) ↔
      l.module.state = .none ∧ tamperDetectReadGpio (armedTamperDetect config gpio) world = false := by
  have arms : (TamperCall.init (some config) (some gpio) world).arms = true := by
    rw [TamperCall.arms, Option.bind_some, readable]
    rfl
  have called := callTamperDetect_arms l.module config world readable
  rw [auditedOnce_unlogged audited (congrArg Prod.snd called), Detects, LeftByReset, tamperStep, called]
  cases triggered : tamperDetectReadGpio (armedTamperDetect config gpio) world with
  | true => simp [arms]
  | false =>
    cases state : l.module.state with
    | none => simp [armedTamperDetect]
    | detected => simp [armedTamperDetect]

theorem bootsQuiet_unarmed {config : Option TamperConfig} {gpio : Option (TamperGpio W)}
    (missing : (TamperCall.init config gpio world).arms = false) : BootsQuiet l (.init config gpio world) := by
  cases config with
  | none => trivial
  | some config =>
    cases gpio with
    | none => trivial
    | some gpio =>
      intro readable
      rw [TamperCall.arms, Option.bind_some, readable] at missing
      cases missing

/-- One call keeps the count and leaves DETECTED only by a reset exactly when it is not an init that finds the state
DETECTED or the switch active. -/
theorem tamperStep_iff (audited : AuditedOnce l) (call : TamperCall W) :
    AuditedOnce (tamperStep l call).1 ∧ LeftByReset l call ↔ BootsQuiet l call := by
  cases call with
  | init config gpio world =>
    cases arms : (TamperCall.init config gpio world).arms with
    | false => exact iff_of_true (tamperStep_idle audited (callTamperDetect_unarmed arms) arms) (bootsQuiet_unarmed arms)
    | true =>
      obtain ⟨known, read⟩ := Bool.and_eq_true_iff.mp arms
      obtain ⟨config, rfl⟩ := Option.isSome_iff_exists.mp known
      obtain ⟨gpioRead, bound⟩ := Option.isSome_iff_exists.mp read
      obtain ⟨gpio, rfl, readable⟩ := Option.bind_eq_some_iff.mp bound
      have present : gpio.gpioRead.isSome = true := by
        rw [readable]
        rfl
      rw [tamperStep_arms_iff audited config world present]
      exact (imp_iff_right present).symm
  | getState world =>
    refine iff_of_true ?_ trivial
    rcases callTamperDetect_getState l.module world with idle | ⟨none, called⟩
    · exact tamperStep_idle audited idle rfl
    · refine ⟨?_, fun detected => absurd (none.symm.trans detected) (by decide)⟩
      have detects : Detects l.module (.getState world) := ⟨.inl none, by rw [called]⟩
      rw [AuditedOnce, tamperStep, called]
      dsimp only
      rw [if_pos detects, List.countP_append, audited]
      rfl
  | reset world =>
    refine iff_of_true ?_ trivial
    rcases callTamperDetect_reset l.module world with idle | ⟨inactive, called⟩
    · exact tamperStep_idle audited idle rfl
    · refine ⟨?_, fun _ _ => ⟨world, rfl, inactive⟩⟩
      rw [auditedOnce_unlogged audited (congrArg Prod.snd called), Detects, called]
      rintro ⟨-, detected⟩
      cases detected

/-- In every run each detection is logged once and DETECTED is left by a reset alone, exactly when each init finds the state
NONE and the switch inactive. -/
theorem tamper_audit_exact (calls : List (TamperCall W)) :
    Always AuditedOnce tamperStep {} calls ∧ EachStep LeftByReset tamperStep {} calls ↔
      EachStep BootsQuiet tamperStep {} calls := by
  have start : AuditedOnce ({} : TamperLedger W) := rfl
  have exact : ∀ (l : TamperLedger W) call, AuditedOnce l → (AuditedOnce (tamperStep l call).1 ∧ LeftByReset l call ↔
      BootsQuiet l call) := fun l call audited => tamperStep_iff audited call
  exact always_and_eachStep_iff start (fun _ audited => audited)
    (fun l call audited quiet => ((exact l call audited).mpr quiet).1) exact calls

end Runs

/-- The switch is triggered before the first boot: the state is DETECTED, and no entry says so. A second boot with the switch
at rest forgets it. -/
theorem tamper_before_boot_unlogged :
    let config : TamperConfig := { gpioPin := 4, activeHigh := true }
    let gpio : TamperGpio Bool := { gpioRead := some fun level _ => level }
    let boot : Bool → TamperCall Bool := .init (some config) (some gpio)
    let l := finalState tamperStep {} [boot true]
    l.module.state = .detected ∧ l.detections = 1 ∧ l.logged = [] ∧ ¬AuditedOnce l ∧
      (tamperStep l (boot false)).1.module.state = .none ∧ ¬LeftByReset l (boot false) := by
  intro config gpio boot l
  refine ⟨rfl, rfl, rfl, fun audited => absurd (show 0 = 1 from audited) (by decide), rfl, fun latched => ?_⟩
  obtain ⟨world, reset, -⟩ := latched rfl (by decide)
  cases reset

end IotPlatform
