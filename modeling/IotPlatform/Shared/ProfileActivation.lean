import IotPlatform.Lib.Run
import IotPlatform.Shared.ConfigEngine

/-!
# The active profile

The active profile is kept twice, as an index and as a flag of each profile.
-/

namespace IotPlatform
open Run Registry Table

section Activation

variable {F : Type}

/-- The profile at the index, where there is one, is the only one marked active. -/
def ActiveAlone (ctx : ConfigEngineContext F) : Prop :=
  ctx.activeProfileIndex.toNat < ctx.profiles.length →
    ∀ i reg, ctx.profiles[i]? = some reg → (reg.active = true ↔ i = ctx.activeProfileIndex.toNat)

/-- Activating a profile that is not registered is an error and changes nothing. -/
def RefusesUnknown (ctx : ConfigEngineContext F) : ConfigEngineOp F → Prop
  | .setActiveProfile id =>
    id ∉ ctx.profiles.map ProfileRegistration.id → configSetActiveProfile ctx id = (ctx, .errNotFound)
  | _ => True

/-- The profile to activate is registered, or none is active yet. -/
def KnownOrIdle (ctx : ConfigEngineContext F) : ConfigEngineOp F → Prop
  | .setActiveProfile id =>
    id ∈ ctx.profiles.map ProfileRegistration.id ∨ ctx.profiles.length ≤ ctx.activeProfileIndex.toNat
  | _ => True

/-- The flags say what the index says. -/
structure ConfigEngineContext.Agreeing (ctx : ConfigEngineContext F) : Prop where
  ready : ctx.initialized = true
  few : ctx.profiles.length ≤ configMaxProfiles
  index : ctx.activeProfileIndex = 0xFF ∨ ctx.activeProfileIndex.toNat < ctx.profiles.length
  flags : ∀ i reg, ctx.profiles[i]? = some reg → (reg.active = true ↔ i = ctx.activeProfileIndex.toNat)

variable {ctx : ConfigEngineContext F}

theorem configEngineInit_agreeing : (configEngineInit : ConfigEngineContext F).Agreeing :=
  ⟨rfl, Nat.zero_le _, .inl rfl, fun _ _ found => by cases found⟩

theorem ConfigEngineContext.Agreeing.alone (agreeing : ctx.Agreeing) : ActiveAlone ctx := fun _ => agreeing.flags

/-! ### Registering -/

theorem ConfigEngineContext.Agreeing.refreshed (agreeing : ctx.Agreeing) {profiles : List (ProfileRegistration F)}
    (same : profiles.map ProfileRegistration.active = ctx.profiles.map ProfileRegistration.active) :
    ({ ctx with profiles := profiles } : ConfigEngineContext F).Agreeing := by
  have length := congrArg List.length same
  rw [List.length_map, List.length_map] at length
  refine ⟨agreeing.ready, length ▸ agreeing.few, length ▸ agreeing.index, fun i reg found => ?_⟩
  have flag := congrArg (·[i]?) same
  simp only [List.getElem?_map] at flag
  rw [found, Option.map_some] at flag
  obtain ⟨old, kept, active⟩ := Option.map_eq_some_iff.mp flag.symm
  rw [← active]
  exact agreeing.flags i old kept

theorem ConfigEngineContext.Agreeing.added (agreeing : ctx.Agreeing) (room : ctx.profiles.length < configMaxProfiles)
    {new : ProfileRegistration F} (inactive : new.active = false) :
    ({ ctx with profiles := ctx.profiles ++ [new] } : ConfigEngineContext F).Agreeing := by
  have length : (ctx.profiles ++ [new]).length = ctx.profiles.length + 1 := List.length_append
  refine ⟨agreeing.ready, length ▸ room, agreeing.index.imp_right fun inside => ?_, fun i reg found => ?_⟩
  · show ctx.activeProfileIndex.toNat < (ctx.profiles ++ [new]).length
    rw [length]
    exact Nat.lt_succ_of_lt inside
  · change (ctx.profiles ++ [new])[i]? = some reg at found
    show reg.active = true ↔ i = ctx.activeProfileIndex.toNat
    rcases Nat.lt_trichotomy i ctx.profiles.length with old | last | beyond
    · rw [List.getElem?_append_left old] at found
      exact agreeing.flags i reg found
    · rw [last, List.getElem?_concat_length] at found
      obtain rfl := Option.some.inj found
      refine iff_of_false (by simp [inactive]) ?_
      rcases agreeing.index with none | inside
      · have few : configMaxProfiles = 4 := rfl
        have high : (0xFF : UInt8).toNat = 255 := rfl
        rw [none, high]
        omega
      · omega
    · rw [List.getElem?_eq_none (by omega)] at found
      cases found

theorem configRegisterProfile_agreeing (agreeing : ctx.Agreeing) (id : DomainProfileId) (vtable : DomainProfileVTable F)
    (name : List UInt8) : (configRegisterProfile ctx id vtable name).1.Agreeing := by
  rw [configRegisterProfile_eq agreeing.ready, register]
  split
  · rename_i full
    exact agreeing
  · rename_i profiles called
    split at called
    · cases called
    · rename_i room
      obtain rfl := Option.some.inj called
      rw [insertOrUpdate]
      split
      · exact agreeing.refreshed (map_updateFirst (k := ProfileRegistration.active) (fun _ => rfl))
      · exact agreeing.added (Nat.lt_of_not_le room) rfl

/-! ### Activating -/

theorem getElem?_cleared {i : Nat} {reg : ProfileRegistration F} (found : (ctx.profiles.map (·.setActive false))[i]? = some reg) :
    reg.active = false := by
  rw [List.getElem?_map] at found
  obtain ⟨old, -, rfl⟩ := Option.map_eq_some_iff.mp found
  rfl

theorem findIdx?_cleared (id : DomainProfileId) :
    ((ctx.profiles.map (·.setActive false)).findIdx? (·.id == id)).isSome = true ↔
      id ∈ ctx.profiles.map ProfileRegistration.id := by
  rw [List.findIdx?_isSome, List.any_map, List.any_eq_true, List.mem_map]
  simp only [Function.comp, ProfileRegistration.setActive, beq_iff_eq]

theorem configSetActiveProfile_known (agreeing : ctx.Agreeing) {id : DomainProfileId}
    (known : id ∈ ctx.profiles.map ProfileRegistration.id) : (configSetActiveProfile ctx id).1.Agreeing := by
  obtain ⟨i, first⟩ := Option.isSome_iff_exists.mp ((findIdx?_cleared id).mpr known)
  have inside : i < ctx.profiles.length := by
    obtain ⟨bound, -⟩ := List.findIdx?_eq_some_iff_getElem.mp first
    rwa [List.length_map] at bound
  have few : ctx.profiles.length ≤ 4 := agreeing.few
  have index : (UInt8.ofNat i).toNat = i := UInt8.toNat_ofNat_of_lt (show i < 256 by omega)
  simp only [configSetActiveProfile, agreeing.ready, Bool.not_true, Bool.false_eq_true, if_false, first]
  refine ⟨rfl, ?_, .inr ?_, fun j reg found => ?_⟩
  · rw [List.length_modify, List.length_map]
    exact few
  · rw [List.length_modify, List.length_map, index]
    exact inside
  · rw [index]
    rw [List.getElem?_modify] at found
    obtain ⟨cleared, before, rfl⟩ := Option.map_eq_some_iff.mp found
    have inactive := getElem?_cleared before
    by_cases same : i = j
    · rw [if_pos same]
      exact iff_of_true rfl same.symm
    · rw [if_neg same, inactive]
      exact iff_of_false Bool.false_ne_true fun back => same back.symm

/-- On an unknown id all flags are cleared. -/
theorem configSetActiveProfile_unknown (ready : ctx.initialized = true) {id : DomainProfileId}
    (unknown : id ∉ ctx.profiles.map ProfileRegistration.id) :
    configSetActiveProfile ctx id = ({ ctx with profiles := ctx.profiles.map (·.setActive false) }, .errNotFound) := by
  have absent : (ctx.profiles.map (·.setActive false)).findIdx? (·.id == id) = none := by
    rw [← Option.not_isSome_iff_eq_none, findIdx?_cleared]
    exact unknown
  simp only [configSetActiveProfile, ready, Bool.not_true, Bool.false_eq_true, if_false, absent]

/-- That changes nothing exactly while no profile is active. -/
theorem cleared_iff_idle (agreeing : ctx.Agreeing) :
    ctx.profiles.map (·.setActive false) = ctx.profiles ↔ ctx.profiles.length ≤ ctx.activeProfileIndex.toNat := by
  constructor
  · intro cleared
    apply Nat.le_of_not_lt
    intro inside
    obtain ⟨reg, here⟩ : ∃ reg, ctx.profiles[ctx.activeProfileIndex.toNat]? = some reg :=
      ⟨_, List.getElem?_eq_getElem inside⟩
    have active := (agreeing.flags _ _ here).mpr rfl
    rw [← cleared] at here
    rw [getElem?_cleared here] at active
    cases active
  · intro idle
    apply List.ext_getElem?
    intro i
    rw [List.getElem?_map]
    cases found : ctx.profiles[i]? with
    | none => rfl
    | some reg =>
      have inactive : reg.active = false := by
        rw [← Bool.not_eq_true, agreeing.flags i reg found]
        rintro rfl
        rw [List.getElem?_eq_none idle] at found
        cases found
      rw [Option.map_some, ProfileRegistration.setActive, ← inactive]

theorem refusesUnknown_iff (agreeing : ctx.Agreeing) (op : ConfigEngineOp F) :
    RefusesUnknown ctx op ↔ KnownOrIdle ctx op := by
  cases op with
  | setActiveProfile id =>
    rw [RefusesUnknown, KnownOrIdle, ← cleared_iff_idle agreeing, ← Classical.or_iff_not_imp_left]
    apply or_congr_right'
    intro unknown
    rw [configSetActiveProfile_unknown agreeing.ready unknown, Prod.mk.injEq]
    constructor
    · rintro ⟨same, -⟩
      exact congrArg ConfigEngineContext.profiles same
    · intro same
      exact ⟨by rw [same], rfl⟩
  | _ => exact Iff.rfl

theorem configEngineStep_agreeing (ctx : ConfigEngineContext F) (op : ConfigEngineOp F) (agreeing : ctx.Agreeing)
    (known : KnownOrIdle ctx op) : (configEngineStep ctx op).1.Agreeing := by
  cases op with
  | init => exact configEngineInit_agreeing
  | registerProfile id vtable name => exact configRegisterProfile_agreeing agreeing id vtable name
  | setActiveProfile id =>
    by_cases registered : id ∈ ctx.profiles.map ProfileRegistration.id
    · exact configSetActiveProfile_known agreeing registered
    · have refused := (refusesUnknown_iff agreeing (.setActiveProfile id)).mpr known registered
      rw [configEngineStep, refused]
      exact agreeing
  | setParam key value =>
    obtain ⟨params, frame⟩ := configSetParam_frame ctx key value
    rw [configEngineStep, frame]
    exact ⟨agreeing.ready, agreeing.few, agreeing.index, agreeing.flags⟩

/-- In every run the index and the flags agree in each state and a failed activation changes nothing, exactly when each
activation names a registered profile or comes before any succeeded. -/
theorem profile_activation_exact (ops : List (ConfigEngineOp F)) :
    Always ActiveAlone configEngineStep configEngineInit ops ∧ EachStep RefusesUnknown configEngineStep configEngineInit ops ↔
      EachStep KnownOrIdle configEngineStep configEngineInit ops := by
  apply always_and_eachStep_iff configEngineInit_agreeing (fun _ => ConfigEngineContext.Agreeing.alone)
    configEngineStep_agreeing
  intro ctx op agreeing
  constructor
  · rintro ⟨-, refuses⟩
    exact (refusesUnknown_iff agreeing op).mp refuses
  · intro known
    exact ⟨(configEngineStep_agreeing ctx op agreeing known).alone, (refusesUnknown_iff agreeing op).mpr known⟩

end Activation

/-- A failed switch from the home profile: the index still names it, and its flag is cleared. -/
theorem failed_switch_deactivates :
    let vtable : DomainProfileVTable Unit := { getRuleTable := none, validateSensorReading := fun _ => true }
    let active := finalState configEngineStep configEngineInit [.registerProfile .home vtable [], .setActiveProfile .home]
    (configSetActiveProfile active .hvac).2 = .errNotFound ∧ active.activeProfileIndex = 0 ∧
      active.profiles.map ProfileRegistration.active = [true] ∧
      (configSetActiveProfile active .hvac).1.activeProfileIndex = 0 ∧
      (configSetActiveProfile active .hvac).1.profiles.map ProfileRegistration.active = [false] ∧
      ¬ActiveAlone (configSetActiveProfile active .hvac).1 := by
  intro vtable active
  have cleared : (configSetActiveProfile active .hvac).1.profiles =
      [{ id := .home, vtable := vtable, name := [], active := false }] := rfl
  refine ⟨rfl, rfl, rfl, rfl, rfl, fun alone => ?_⟩
  have flag := (alone (by decide) 0 _ (congrArg (·[0]?) cleared)).mpr rfl
  cases flag

end IotPlatform
