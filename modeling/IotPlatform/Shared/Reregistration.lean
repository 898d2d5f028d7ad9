import IotPlatform.Lib.Run
import IotPlatform.Shared.Attestation
import IotPlatform.Shared.ActuatorFailsafe
import IotPlatform.Shared.ConfigEngine

/-!
# Registering an id again

The attestation keys, the fail-safe entries and the domain profiles are kept in registries that check for room before they
look for the id.
-/

namespace IotPlatform
open Run Registry

/-- A call on one of the modules that keep their table in statics. -/
inductive StaticRegistryOp (α : Type) where
  | init
  | register (record : α)

/-! ### Attestation keys -/

def attestationKeyStep (s : Attestation) : StaticRegistryOp AttestationKeyRecord → Attestation × AttestationResult
  | .init => (attestationInit, .ok)
  | .register record => attestationRegisterKey s record

/-- The key of the node is replaced by the record, and nothing else changes. -/
def KeyReplaced (s : Attestation) (record : AttestationKeyRecord) : Prop :=
  (attestationRegisterKey s record).2 = .ok ∧
    Replaces AttestationKeyRecord.nodeId record.nodeId (fun _ => record) s.keyTable
      (attestationRegisterKey s record).1.keyTable

structure Attestation.Registered (s : Attestation) : Prop where
  ready : s.keyTable ≠ [] → s.initialised = true
  distinct : (s.keyTable.map AttestationKeyRecord.nodeId).Nodup

theorem attestationRegisterKey_eq {s : Attestation} (ready : s.initialised = true) (record : AttestationKeyRecord) :
    attestationRegisterKey s record =
      match register attestationMaxKeys AttestationKeyRecord.nodeId (fun _ => record) record s.keyTable with
      | none => (s, .errParamNull)
      | some keyTable => ({ s with keyTable := keyTable }, .ok) := by
  simp only [attestationRegisterKey, register, insertOrUpdate, ready, Bool.not_true, Bool.false_eq_true, if_false]
  split
  · rfl
  · split
    · rename_i found
      rw [found]
      rfl
    · rename_i absent
      rw [absent]
      rfl

theorem attestationKeyStep_registered (s : Attestation) (op : StaticRegistryOp AttestationKeyRecord)
    (registered : s.Registered) : (attestationKeyStep s op).1.Registered := by
  cases op with
  | init => exact ⟨fun _ => rfl, List.nodup_nil⟩
  | register record =>
    rw [attestationKeyStep]
    cases ready : s.initialised with
    | false =>
      rw [attestationRegisterKey, ready]
      exact registered
    | true =>
      rw [attestationRegisterKey_eq ready]
      split
      · exact registered
      · rename_i keyTable called
        exact ⟨fun _ => ready, register_distinct (fun _ _ => rfl) registered.distinct called⟩

theorem keyReplaced_iff {s : Attestation} (registered : s.Registered) {record : AttestationKeyRecord}
    (present : record.nodeId ∈ s.keyTable.map AttestationKeyRecord.nodeId) :
    KeyReplaced s record ↔ s.keyTable.length < attestationMaxKeys := by
  have used : s.keyTable ≠ [] := by
    rintro empty
    rw [empty] at present
    cases present
  rw [← register_replaces_iff (f := fun _ => record) registered.distinct present, KeyReplaced,
    attestationRegisterKey_eq (registered.ready used)]
  cases register attestationMaxKeys AttestationKeyRecord.nodeId (fun _ => record) record s.keyTable <;> simp

/-! ### Fail-safe entries -/

def actuatorFailsafeStep (s : ActuatorFailsafe) : StaticRegistryOp ActuatorFailSafeEntry → ActuatorFailsafe × Bool
  | .init => (actuatorFailsafeInit, true)
  | .register entry => actuatorFailsafeRegister s entry

/-- The entry of the actuator is replaced, and nothing else changes. -/
def EntryReplaced (s : ActuatorFailsafe) (entry : ActuatorFailSafeEntry) : Prop :=
  (actuatorFailsafeRegister s entry).2 = true ∧
    Replaces ActuatorFailSafeEntry.actuatorId entry.actuatorId (fun _ => entry) s.table
      (actuatorFailsafeRegister s entry).1.table

structure ActuatorFailsafe.Registered (s : ActuatorFailsafe) : Prop where
  ready : s.table ≠ [] → s.initialised = true
  distinct : (s.table.map ActuatorFailSafeEntry.actuatorId).Nodup

theorem actuatorFailsafeStep_registered (s : ActuatorFailsafe) (op : StaticRegistryOp ActuatorFailSafeEntry)
    (registered : s.Registered) : (actuatorFailsafeStep s op).1.Registered := by
  cases op with
  | init => exact ⟨fun _ => rfl, List.nodup_nil⟩
  | register entry =>
    rw [actuatorFailsafeStep]
    cases ready : s.initialised with
    | false =>
      rw [actuatorFailsafeRegister, ready]
      exact registered
    | true =>
      rw [actuatorFailsafeRegister_eq ready]
      split
      · exact registered
      · rename_i table called
        exact ⟨fun _ => ready, register_distinct (fun _ _ => rfl) registered.distinct called⟩

theorem entryReplaced_iff {s : ActuatorFailsafe} (registered : s.Registered) {entry : ActuatorFailSafeEntry}
    (present : entry.actuatorId ∈ s.table.map ActuatorFailSafeEntry.actuatorId) :
    EntryReplaced s entry ↔ s.table.length < actuatorFailsafeMaxEntries := by
  have used : s.table ≠ [] := by
    rintro empty
    rw [empty] at present
    cases present
  rw [← register_replaces_iff (f := fun _ => entry) registered.distinct present, EntryReplaced,
    actuatorFailsafeRegister_eq (registered.ready used)]
  cases register actuatorFailsafeMaxEntries ActuatorFailSafeEntry.actuatorId (fun _ => entry) entry s.table <;> simp

/-! ### Domain profiles -/

section Profiles

variable {F : Type}

/-- The profile of that id gets the vtable and the name, and nothing else changes. -/
def ProfileReplaced (ctx : ConfigEngineContext F) (id : DomainProfileId) (vtable : DomainProfileVTable F)
    (name : List UInt8) : Prop :=
  (configRegisterProfile ctx id vtable name).2 = .ok ∧
    Replaces ProfileRegistration.id id (·.refresh vtable name) ctx.profiles
      (configRegisterProfile ctx id vtable name).1.profiles

structure ConfigEngineContext.Registered (ctx : ConfigEngineContext F) : Prop where
  ready : ctx.initialized = true
  distinct : (ctx.profiles.map ProfileRegistration.id).Nodup

theorem configEngineStep_registered (ctx : ConfigEngineContext F) (op : ConfigEngineOp F) (registered : ctx.Registered) :
    (configEngineStep ctx op).1.Registered := by
  cases op with
  | init => exact ⟨rfl, List.nodup_nil⟩
  | registerProfile id vtable name =>
    rw [configEngineStep, configRegisterProfile_eq registered.ready]
    split
    · exact registered
    · rename_i profiles called
      have distinct := register_distinct (f := (·.refresh vtable name)) (fun _ same => same) registered.distinct called
      exact ⟨registered.ready, distinct⟩
  | setActiveProfile id =>
    refine ⟨(configSetActiveProfile_initialized ctx id).trans registered.ready, ?_⟩
    rw [configEngineStep, configSetActiveProfile_ids]
    exact registered.distinct
  | setParam key value =>
    obtain ⟨params, frame⟩ := configSetParam_frame ctx key value
    rw [configEngineStep, frame]
    exact ⟨registered.ready, registered.distinct⟩

theorem profileReplaced_iff {ctx : ConfigEngineContext F} (registered : ctx.Registered) {id : DomainProfileId}
    (present : id ∈ ctx.profiles.map ProfileRegistration.id) (vtable : DomainProfileVTable F) (name : List UInt8) :
    ProfileReplaced ctx id vtable name ↔ ctx.profiles.length < configMaxProfiles := by
  rw [← register_replaces_iff (x := (⟨id, vtable, name, false⟩ : ProfileRegistration F)) (f := (·.refresh vtable name))
    registered.distinct present, ProfileReplaced, configRegisterProfile_eq registered.ready]
  cases register configMaxProfiles ProfileRegistration.id (·.refresh vtable name)
    (⟨id, vtable, name, false⟩ : ProfileRegistration F) ctx.profiles <;> simp

end Profiles

/-- In every reachable state of the three registries the ids are distinct, and an id that is there is registered again, its
record alone replaced, exactly while the table is not full. -/
theorem reregistration_exact (F : Type) :
    (∀ ops, let s := finalState attestationKeyStep {} ops
      (s.keyTable.map AttestationKeyRecord.nodeId).Nodup ∧
        ∀ record, record.nodeId ∈ s.keyTable.map AttestationKeyRecord.nodeId →
          (KeyReplaced s record ↔ s.keyTable.length < attestationMaxKeys)) ∧
    (∀ ops, let s := finalState actuatorFailsafeStep {} ops
      (s.table.map ActuatorFailSafeEntry.actuatorId).Nodup ∧
        ∀ entry, entry.actuatorId ∈ s.table.map ActuatorFailSafeEntry.actuatorId →
          (EntryReplaced s entry ↔ s.table.length < actuatorFailsafeMaxEntries)) ∧
    ∀ ops : List (ConfigEngineOp F), let ctx := finalState configEngineStep configEngineInit ops
      (ctx.profiles.map ProfileRegistration.id).Nodup ∧
        ∀ id vtable name, id ∈ ctx.profiles.map ProfileRegistration.id →
          (ProfileReplaced ctx id vtable name ↔ ctx.profiles.length < configMaxProfiles) := by
  refine ⟨fun ops => ?_, fun ops => ?_, fun ops => ?_⟩
  · have start : Attestation.Registered {} := ⟨fun used => absurd rfl used, List.nodup_nil⟩
    have registered := finalState_invariant start attestationKeyStep_registered ops
    exact ⟨registered.distinct, fun record present => keyReplaced_iff registered present⟩
  · have start : ActuatorFailsafe.Registered {} := ⟨fun used => absurd rfl used, List.nodup_nil⟩
    have registered := finalState_invariant start actuatorFailsafeStep_registered ops
    exact ⟨registered.distinct, fun entry present => entryReplaced_iff registered present⟩
  · have start : ConfigEngineContext.Registered (configEngineInit : ConfigEngineContext F) := ⟨rfl, List.nodup_nil⟩
    have registered := finalState_invariant start configEngineStep_registered ops
    exact ⟨registered.distinct, fun id vtable name present => profileReplaced_iff registered present vtable name⟩

def keyOfNode (nodeId : UInt8) (active : Bool) : AttestationKeyRecord :=
  { nodeId := nodeId, key := Vector.replicate 32 nodeId, active := active }

/-- With 32 nodes provisioned, the key of node 0 can no longer be deactivated. -/
theorem full_table_keeps_key :
    let s := finalState attestationKeyStep {} (.init :: (List.range 32).map fun n => .register (keyOfNode n.toUInt8 true))
    (keyOfNode 0 false).nodeId ∈ s.keyTable.map AttestationKeyRecord.nodeId ∧ ¬KeyReplaced s (keyOfNode 0 false) := by
  refine ⟨by decide +kernel, fun replaced => ?_⟩
  have result := replaced.1
  revert result
  decide +kernel

end IotPlatform
