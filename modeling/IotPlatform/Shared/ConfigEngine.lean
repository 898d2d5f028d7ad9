import IotPlatform.Lib.CText
import IotPlatform.Lib.Registry
import IotPlatform.Shared.DeviceIdentity
import IotPlatform.Shared.RuleEngineCore

/-!
# The configuration engine

`config_engine.c`: the registered domain profiles, the active one, and a table of parameters. The strings are given by their
bytes.
-/

namespace IotPlatform
open Table Registry

def configMaxProfiles : Nat := 4

def configMaxParams : Nat := 32

abbrev configKeyMaxLen : Nat := 32

abbrev configValueMaxLen : Nat := 64

inductive ConfigEngineResult where
  | ok | errFull | errNotFound | errReadonly | errParamNull
  deriving DecidableEq, Repr

structure ProfileRegistration (F : Type) where
  id : DomainProfileId
  vtable : DomainProfileVTable F
  name : List UInt8
  active : Bool

structure ConfigParam where
  key : CArray configKeyMaxLen
  value : CArray configValueMaxLen
  editable : Bool
  active : Bool
  deriving DecidableEq

/-- `profiles` and `params` are the used parts of their arrays. -/
structure ConfigEngineContext (F : Type) where
  profiles : List (ProfileRegistration F) := []
  activeProfileIndex : UInt8 := 0xFF
  params : List ConfigParam := []
  initialized : Bool := false

inductive ConfigEngineOp (F : Type) where
  | init
  | registerProfile (id : DomainProfileId) (vtable : DomainProfileVTable F) (name : List UInt8)
  | setActiveProfile (id : DomainProfileId)
  | setParam (key value : List UInt8)

section Calls

variable {F : Type}

def configEngineInit : ConfigEngineContext F := { initialized := true }

def configRegisterProfile (ctx : ConfigEngineContext F) (id : DomainProfileId) (vtable : DomainProfileVTable F)
    (name : List UInt8) : ConfigEngineContext F × ConfigEngineResult :=
  if !ctx.initialized then (ctx, .errParamNull)
  else if ctx.profiles.length ≥ configMaxProfiles then (ctx, .errFull)
  else if (ctx.profiles.find? (·.id == id)).isSome then
    ({ ctx with profiles :=
        updateFirst (·.id == id) (fun reg => { reg with vtable := vtable, name := name }) ctx.profiles }, .ok)
  else ({ ctx with profiles := ctx.profiles ++ [{ id := id, vtable := vtable, name := name, active := false }] }, .ok)

def ProfileRegistration.setActive (active : Bool) (reg : ProfileRegistration F) : ProfileRegistration F :=
  { reg with active := active }

/-- All profiles are deactivated before the search. -/
def configSetActiveProfile (ctx : ConfigEngineContext F) (id : DomainProfileId) :
    ConfigEngineContext F × ConfigEngineResult :=
  if !ctx.initialized then (ctx, .errParamNull)
  else
    let profiles := ctx.profiles.map (·.setActive false)
    match profiles.findIdx? (·.id == id) with
    | some i =>
      ({ ctx with profiles := profiles.modify i (·.setActive true), activeProfileIndex := UInt8.ofNat i }, .ok)
    | none => ({ ctx with profiles := profiles }, .errNotFound)

def ConfigParam.named (key : List UInt8) (p : ConfigParam) : Bool := decide (p.key.text = cString key)

def ConfigParam.assign (value : List UInt8) (p : ConfigParam) : ConfigParam :=
  { p with value := strncpy (configValueMaxLen - 1) value }

def configSetParam (ctx : ConfigEngineContext F) (key value : List UInt8) : ConfigEngineContext F × ConfigEngineResult :=
  if !ctx.initialized then (ctx, .errParamNull)
  else
    match ctx.params.find? (·.named key) with
    | some p =>
      if !p.editable then (ctx, .errReadonly)
      else ({ ctx with params := updateFirst (·.named key) (·.assign value) ctx.params }, .ok)
    | none =>
      if ctx.params.length ≥ configMaxParams then (ctx, .errFull)
      else
        ({ ctx with params := ctx.params ++
            [{ key := strncpy (configKeyMaxLen - 1) key, value := strncpy (configValueMaxLen - 1) value, editable := true
               active := true }] }, .ok)

def configEngineStep (ctx : ConfigEngineContext F) : ConfigEngineOp F → ConfigEngineContext F × ConfigEngineResult
  | .init => (configEngineInit, .ok)
  | .registerProfile id vtable name => configRegisterProfile ctx id vtable name
  | .setActiveProfile id => configSetActiveProfile ctx id
  | .setParam key value => configSetParam ctx key value

/-- The registration with the new vtable and name; its active flag stays. -/
def ProfileRegistration.refresh (vtable : DomainProfileVTable F) (name : List UInt8) (reg : ProfileRegistration F) :
    ProfileRegistration F :=
  { reg with vtable := vtable, name := name }

theorem configRegisterProfile_eq {ctx : ConfigEngineContext F} (ready : ctx.initialized = true) (id : DomainProfileId)
    (vtable : DomainProfileVTable F) (name : List UInt8) :
    configRegisterProfile ctx id vtable name =
      match register configMaxProfiles ProfileRegistration.id (·.refresh vtable name)
        { id := id, vtable := vtable, name := name, active := false } ctx.profiles with
      | none => (ctx, .errFull)
      | some profiles => ({ ctx with profiles := profiles }, .ok) := by
  simp only [configRegisterProfile, register, insertOrUpdate, ready, Bool.not_true, Bool.false_eq_true, if_false]
  split
  · rfl
  · split <;> rfl

theorem configSetActiveProfile_ids (ctx : ConfigEngineContext F) (id : DomainProfileId) :
    (configSetActiveProfile ctx id).1.profiles.map ProfileRegistration.id = ctx.profiles.map ProfileRegistration.id := by
  have cleared : (ctx.profiles.map (·.setActive false)).map ProfileRegistration.id =
      ctx.profiles.map ProfileRegistration.id := by
    rw [List.map_map]
    rfl
  rw [configSetActiveProfile]
  split
  · rfl
  · dsimp only
    split
    · exact (map_modify (f := ProfileRegistration.setActive true) (fun _ => rfl) _).trans cleared
    · exact cleared

theorem configSetActiveProfile_initialized (ctx : ConfigEngineContext F) (id : DomainProfileId) :
    (configSetActiveProfile ctx id).1.initialized = ctx.initialized := by
  rw [configSetActiveProfile]
  split
  · rfl
  · dsimp only
    split <;> rfl

theorem configSetParam_frame (ctx : ConfigEngineContext F) (key value : List UInt8) :
    ∃ params, (configSetParam ctx key value).1 = { ctx with params := params } := by
  rw [configSetParam]
  split
  · exact ⟨ctx.params, rfl⟩
  · split
    · split
      · exact ⟨ctx.params, rfl⟩
      · exact ⟨_, rfl⟩
    · split
      · exact ⟨ctx.params, rfl⟩
      · exact ⟨_, rfl⟩

end Calls

end IotPlatform
