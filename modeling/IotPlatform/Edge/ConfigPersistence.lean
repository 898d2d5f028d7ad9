import IotPlatform.Lib.Run
import IotPlatform.Edge.EdgeConfig

/-!
# The configuration across reboots

`edge_config_set` takes a configuration over before it saves it. When the save fails, the node runs on a configuration that
the next boot does not know, and the caller has been told of an error.
-/

namespace IotPlatform
open Run

variable {M : Type}

/-- The node and its medium. -/
structure EdgeConfigNode (M : Type) where
  config : EdgeConfig
  medium : M

inductive EdgeConfigCall where
  /-- `none` is a null pointer. -/
  | set (config : Option EdgeNodeConfig)
  | reboot

def EdgeNodeConfig.provisioned (config : EdgeNodeConfig) : EdgeNodeConfig := { config with valid := true }

def edgeConfigBoot (storage : EdgeConfigStorage M) (medium : M) : EdgeConfigNode M :=
  { config := edgeConfigInit (some storage) medium, medium := medium }

def edgeConfigStep (storage : EdgeConfigStorage M) (s : EdgeConfigNode M) :
    EdgeConfigCall → EdgeConfigNode M × EdgeConfigResult
  | .set none => (s, .errParamNull)
  | .set (some config) =>
    let (next, medium, result) := edgeConfigSet (some storage) s.medium s.config config
    ({ config := next, medium := medium }, result)
  | .reboot => (edgeConfigBoot storage s.medium, .ok)

/-- A save that succeeds is what the next load finds, and one that fails leaves what it would have found. -/
structure EdgeConfigStorage.Keeps (storage : EdgeConfigStorage M) (save : M → EdgeNodeConfig → M × Bool)
    (load : M → Option EdgeNodeConfig) : Prop where
  save_eq : storage.save = some save
  load_eq : storage.load = some load
  saved : ∀ medium config, (save medium config).2 = true → load (save medium config).1 = some config
  failed : ∀ medium config, (save medium config).2 = false → load (save medium config).1 = load medium

/-- The active configuration is the one a reboot would load. -/
def SurvivesReboot (storage : EdgeConfigStorage M) (s : EdgeConfigNode M) : Prop :=
  edgeConfigGet s.config = edgeConfigGet (edgeConfigInit (some storage) s.medium)

/-- A set that returns an error leaves the active configuration as it is. -/
def FailsUnchanged (storage : EdgeConfigStorage M) (s : EdgeConfigNode M) : EdgeConfigCall → Prop
  | .set config => (edgeConfigStep storage s (.set config)).2 ≠ .ok →
    edgeConfigGet (edgeConfigStep storage s (.set config)).1.config = edgeConfigGet s.config
  | .reboot => True

/-- The save of a configuration with a registered driver succeeds, or the configuration is the active one. -/
def SavesOrSame (save : M → EdgeNodeConfig → M × Bool) (s : EdgeConfigNode M) : EdgeConfigCall → Prop
  | .set (some config) => (sensorDriverFind config.activeDriver).isSome = true →
    (save s.medium config.provisioned).2 = true ∨ edgeConfigGet s.config = some config.provisioned
  | _ => True

section Runs

variable {storage : EdgeConfigStorage M} {save : M → EdgeNodeConfig → M × Bool} {load : M → Option EdgeNodeConfig}
  {s : EdgeConfigNode M} {config : EdgeNodeConfig}

theorem edgeConfigInit_initialised (storage : Option (EdgeConfigStorage M)) (medium : M) :
    (edgeConfigInit storage medium).initialised = true := by
  unfold edgeConfigInit
  split
  · rfl
  · split
    · rfl
    · split <;> rfl

/-- A boot takes over what it loads, if that is valid. -/
theorem edgeConfigGet_init (keeps : storage.Keeps save load) (medium : M) :
    edgeConfigGet (edgeConfigInit (some storage) medium) = (load medium).filter EdgeNodeConfig.valid := by
  unfold edgeConfigInit
  rw [Option.bind_some, keeps.load_eq]
  dsimp only
  cases load medium with
  | none => rfl
  | some loaded =>
    dsimp only
    cases valid : loaded.valid with
    | true => simp [edgeConfigGet, Option.filter, valid]
    | false => simp [edgeConfigGet, Option.filter, valid, edgeNodeConfigZero]

theorem edgeConfigSet_unknown (storage : EdgeConfigStorage M) (initialised : s.config.initialised = true)
    (unknown : sensorDriverFind config.activeDriver = none) :
    edgeConfigStep storage s (.set (some config)) = (s, .errDriverNotFound) := by
  simp [edgeConfigStep, edgeConfigSet, initialised, unknown]

/-- The configuration is active whether or not the save succeeds. -/
theorem edgeConfigSet_known (keeps : storage.Keeps save load) (initialised : s.config.initialised = true)
    (known : (sensorDriverFind config.activeDriver).isSome = true) :
    edgeConfigStep storage s (.set (some config)) =
      ({ config := { config := config.provisioned, initialised := true }, medium := (save s.medium config.provisioned).1 },
        if (save s.medium config.provisioned).2 then .ok else .errStorage) := by
  have registered : (sensorDriverFind config.activeDriver).isNone = false := by
    rw [← Option.not_isSome, known]
    rfl
  simp only [edgeConfigStep, edgeConfigSet, initialised, registered, Bool.not_true, Bool.false_eq_true, if_false,
    Option.bind_some, keeps.save_eq]
  rfl

theorem edgeConfigBoot_survives (storage : EdgeConfigStorage M) (medium : M) :
    SurvivesReboot storage (edgeConfigBoot storage medium) ∧ (edgeConfigBoot storage medium).config.initialised = true :=
  ⟨rfl, edgeConfigInit_initialised _ _⟩

/-- One call keeps the active configuration and the stored one the same, and a failure out of sight, exactly when it is not
a set whose save fails with a new configuration. -/
theorem edgeConfigStep_iff (keeps : storage.Keeps save load) (survives : SurvivesReboot storage s)
    (initialised : s.config.initialised = true) (call : EdgeConfigCall) :
    SurvivesReboot storage (edgeConfigStep storage s call).1 ∧ FailsUnchanged storage s call ↔ SavesOrSame save s call := by
  cases call with
  | reboot => exact iff_of_true ⟨rfl, trivial⟩ trivial
  | set config =>
    cases config with
    | none => exact iff_of_true ⟨survives, fun _ => rfl⟩ trivial
    | some config =>
      cases known : sensorDriverFind config.activeDriver with
      | none =>
        have refused := edgeConfigSet_unknown storage initialised known
        refine iff_of_true ⟨?_, fun _ => ?_⟩ fun registered => ?_
        · rwa [refused]
        · rw [refused]
        · rw [known] at registered
          cases registered
      | some driver =>
        have registered : (sensorDriverFind config.activeDriver).isSome = true := by
          rw [known]
          rfl
        have active : edgeConfigGet { config := config.provisioned, initialised := true } = some config.provisioned := rfl
        have condition : SavesOrSame save s (.set (some config)) ↔
            (save s.medium config.provisioned).2 = true ∨ edgeConfigGet s.config = some config.provisioned :=
          imp_iff_right registered
        have unchanged : FailsUnchanged storage s (.set (some config)) =
            ((edgeConfigStep storage s (.set (some config))).2 ≠ .ok →
              edgeConfigGet (edgeConfigStep storage s (.set (some config))).1.config = edgeConfigGet s.config) := rfl
        unfold SurvivesReboot at survives ⊢
        rw [edgeConfigGet_init keeps] at survives ⊢
        rw [condition, unchanged, edgeConfigSet_known keeps initialised registered]
        dsimp only
        rw [active]
        cases saves : (save s.medium config.provisioned).2 with
        | true =>
          rw [keeps.saved _ _ saves]
          exact iff_of_true ⟨rfl, fun failed => absurd rfl failed⟩ (.inl rfl)
        | false =>
          rw [keeps.failed _ _ saves, ← survives]
          simp [eq_comm]

theorem edgeConfigStep_initialised (initialised : s.config.initialised = true) (call : EdgeConfigCall) :
    (edgeConfigStep storage s call).1.config.initialised = true := by
  cases call with
  | reboot => exact edgeConfigInit_initialised _ _
  | set config =>
    cases config with
    | none => exact initialised
    | some config =>
      unfold edgeConfigStep edgeConfigSet
      simp only [initialised, Bool.not_true, Bool.false_eq_true, if_false]
      split
      · exact initialised
      · split <;> rfl

/-- In every run of sets and reboots the active configuration is the one a reboot would load, and a set that fails leaves it
as it is, exactly when no save of a new configuration fails. -/
theorem edge_config_atomic_exact (keeps : storage.Keeps save load) (medium : M) (calls : List EdgeConfigCall) :
    Always (SurvivesReboot storage) (edgeConfigStep storage) (edgeConfigBoot storage medium) calls ∧
        EachStep (FailsUnchanged storage) (edgeConfigStep storage) (edgeConfigBoot storage medium) calls ↔
      EachStep (SavesOrSame save) (edgeConfigStep storage) (edgeConfigBoot storage medium) calls := by
  apply always_and_eachStep_iff (J := fun s => SurvivesReboot storage s ∧ s.config.initialised = true)
  · exact edgeConfigBoot_survives storage medium
  · rintro s ⟨survives, -⟩
    exact survives
  · rintro s call ⟨survives, initialised⟩ saves
    exact ⟨((edgeConfigStep_iff keeps survives initialised call).mpr saves).1, edgeConfigStep_initialised initialised call⟩
  · rintro s call ⟨survives, initialised⟩
    exact edgeConfigStep_iff keeps survives initialised call

end Runs

/-! ### A medium that wears out -/

/-- What is stored, and how many saves the medium still takes. -/
abbrev WornMedium := Option EdgeNodeConfig × Nat

def wornSave : WornMedium → EdgeNodeConfig → WornMedium × Bool
  | (stored, 0), _ => ((stored, 0), false)
  | (_, saves + 1), config => ((some config, saves), true)

def wornStorage : EdgeConfigStorage WornMedium := { save := some wornSave, load := some Prod.fst }

theorem wornStorage_keeps : wornStorage.Keeps wornSave Prod.fst where
  save_eq := rfl
  load_eq := rfl
  saved := by
    rintro ⟨stored, saves⟩ config saved
    cases saves with
    | zero => cases saved
    | succ saves => rfl
  failed := by
    rintro ⟨stored, saves⟩ config failed
    cases saves with
    | zero => rfl
    | succ saves => cases failed

def sensorNode (nodeId : UInt8) : EdgeNodeConfig := { edgeNodeConfigZero with nodeId := nodeId }

theorem edge_config_atomic_exact_worn :
    let calls : List EdgeConfigCall := [.set (some (sensorNode 1)), .reboot, .set (some (sensorNode 2))]
    wornStorage.Keeps wornSave Prod.fst ∧
      (Always (SurvivesReboot wornStorage) (edgeConfigStep wornStorage) (edgeConfigBoot wornStorage (none, 1)) calls ∧
          EachStep (FailsUnchanged wornStorage) (edgeConfigStep wornStorage) (edgeConfigBoot wornStorage (none, 1)) calls ↔
        EachStep (SavesOrSame wornSave) (edgeConfigStep wornStorage) (edgeConfigBoot wornStorage (none, 1)) calls) :=
  ⟨wornStorage_keeps, edge_config_atomic_exact wornStorage_keeps (none, 1) _⟩

/-- The medium takes no save: the set returns an error, its configuration is active, and a reboot forgets it. -/
theorem edge_config_unsaved_active :
    let s := edgeConfigBoot wornStorage (none, 0)
    let after := edgeConfigStep wornStorage s (.set (some (sensorNode 1)))
    after.2 = .errStorage ∧ edgeConfigGet s.config = none ∧
      edgeConfigGet after.1.config = some { sensorNode 1 with valid := true } ∧
      edgeConfigGet (edgeConfigInit (some wornStorage) after.1.medium) = none ∧
      ¬SurvivesReboot wornStorage after.1 ∧ ¬FailsUnchanged wornStorage s (.set (some (sensorNode 1))) := by
  intro s after
  have active : edgeConfigGet after.1.config = some { sensorNode 1 with valid := true } := by decide
  have forgotten : edgeConfigGet (edgeConfigInit (some wornStorage) after.1.medium) = none := by decide
  have unset : edgeConfigGet s.config = none := by decide
  refine ⟨by decide, unset, active, forgotten, fun survives => ?_, fun unchanged => ?_⟩
  · cases active.symm.trans (survives.trans forgotten)
  · cases active.symm.trans ((unchanged (by decide)).trans unset)

end IotPlatform
