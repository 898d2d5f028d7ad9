import Mathlib.Init

/-!
# Device identity

`device_identity.c`: the factory-provisioned identity, the confirmed firmware version in it and the pending version
beside it, with the storage backend both are persisted through.
-/

namespace IotPlatform

/-- `none` is the value 0, which a zeroed identity holds. -/
inductive DomainProfileId where
  | none | home | agriculture | hvac | waterTreatment
  deriving DecidableEq, Repr

structure DeviceIdentity where
  deviceUuid : Vector UInt8 16
  domainProfileId : DomainProfileId
  hwVariantId : UInt8
  fwVersion : UInt32
  deriving DecidableEq, Repr

inductive DeviceIdentityResult where
  | ok | errAlreadyProvisioned | errNotProvisioned | errParamNull
  deriving DecidableEq, Repr

def deviceIdNoVersion : UInt32 := 0

/-- What `load` hands back: the identity, whether it was provisioned, and the pending version. -/
structure PersistedIdentity where
  identity : DeviceIdentity
  provisioned : Bool
  fwVersionPending : UInt32
  deriving DecidableEq, Repr

/-- The callbacks of a backend with state `σ`; `none` is a null function pointer. -/
structure DeviceIdentityStorage (σ : Type) where
  save : Option ((store : σ) → PersistedIdentity → σ × Bool)
  load : Option ((store : σ) → Option PersistedIdentity)

/-- The statics of the module, and the state of the backend. -/
structure DeviceIdentityModule (σ : Type) where
  identity : DeviceIdentity
  provisioned : Bool
  initialised : Bool
  fwVersionPending : UInt32
  store : σ

def zeroIdentity : DeviceIdentity :=
  { deviceUuid := Vector.replicate 16 0, domainProfileId := .none, hwVariantId := 0, fwVersion := 0 }

section Operations

variable {σ : Type} (storage : Option (DeviceIdentityStorage σ)) (s : DeviceIdentityModule σ)

def DeviceIdentityModule.persisted : PersistedIdentity :=
  { identity := s.identity, provisioned := s.provisioned, fwVersionPending := s.fwVersionPending }

def identityPersist : DeviceIdentityModule σ :=
  match storage.bind DeviceIdentityStorage.save with
  | none => s
  | some save => { s with store := (save s.store s.persisted).1 }

def deviceIdentityInit : DeviceIdentityModule σ :=
  let cleared : DeviceIdentityModule σ :=
    { s with identity := zeroIdentity, provisioned := false, fwVersionPending := deviceIdNoVersion, initialised := true }
  match storage.bind DeviceIdentityStorage.load with
  | none => cleared
  | some load =>
    match load s.store with
    | none => cleared
    | some persisted =>
      let loaded := { cleared with identity := persisted.identity, provisioned := persisted.provisioned }
      -- A pending version that no boot confirmed is dropped, in the store as well.
      if persisted.fwVersionPending ≠ deviceIdNoVersion then identityPersist storage loaded else loaded

def deviceIdentitySet (identity : DeviceIdentity) : DeviceIdentityModule σ × DeviceIdentityResult :=
  if !s.initialised then (s, .errNotProvisioned)
  else if s.provisioned then (s, .errAlreadyProvisioned)
  else (identityPersist storage { s with identity := identity, provisioned := true }, .ok)

def deviceIdentityGet : Except DeviceIdentityResult DeviceIdentity :=
  if !s.initialised then .error .errNotProvisioned
  else if !s.provisioned then .error .errNotProvisioned
  else .ok s.identity

def deviceIdentityGetFwVersion : UInt32 := if !s.initialised || !s.provisioned then 0 else s.identity.fwVersion

def deviceIdentitySetPendingVersion (newVersion : UInt32) : DeviceIdentityModule σ × DeviceIdentityResult :=
  if !s.initialised then (s, .errNotProvisioned)
  else if !s.provisioned then (s, .errNotProvisioned)
  else (identityPersist storage { s with fwVersionPending := newVersion }, .ok)

def deviceIdentityConfirmBoot : DeviceIdentityModule σ × DeviceIdentityResult :=
  if !s.initialised then (s, .errNotProvisioned)
  else if !s.provisioned then (s, .errNotProvisioned)
  else if s.fwVersionPending = deviceIdNoVersion then (s, .ok)
  else
    (identityPersist storage
      { s with identity := { s.identity with fwVersion := s.fwVersionPending }, fwVersionPending := deviceIdNoVersion },
      .ok)

def deviceIdentityGetPendingVersion : UInt32 :=
  if !s.initialised || !s.provisioned then deviceIdNoVersion else s.fwVersionPending

def deviceIdentityHasPendingVersion : Bool :=
  s.initialised && s.provisioned && decide (s.fwVersionPending ≠ deviceIdNoVersion)

end Operations

/-! ### Persistence -/

section Persistence

variable {σ : Type} {storage : Option (DeviceIdentityStorage σ)} {s : DeviceIdentityModule σ}

@[simp] theorem identityPersist_identity : (identityPersist storage s).identity = s.identity := by
  unfold identityPersist; split <;> rfl

@[simp] theorem identityPersist_provisioned : (identityPersist storage s).provisioned = s.provisioned := by
  unfold identityPersist; split <;> rfl

@[simp] theorem identityPersist_initialised : (identityPersist storage s).initialised = s.initialised := by
  unfold identityPersist; split <;> rfl

@[simp] theorem identityPersist_fwVersionPending :
    (identityPersist storage s).fwVersionPending = s.fwVersionPending := by
  unfold identityPersist; split <;> rfl

/-- What was saved last is what `load` returns. -/
def DeviceIdentityStorage.Faithful (storage : DeviceIdentityStorage σ) : Prop :=
  ∃ save load, storage.save = some save ∧ storage.load = some load ∧
    ∀ store persisted, load (save store persisted).1 = some persisted

/-- An initialised, provisioned device whose store holds what its memory holds. -/
structure DeviceIdentityModule.Provisioned (storage : DeviceIdentityStorage σ) (s : DeviceIdentityModule σ) : Prop where
  initialised : s.initialised = true
  provisioned : s.provisioned = true
  saved : storage.load.bind (· s.store) = some s.persisted

variable {backend : DeviceIdentityStorage σ}

theorem identityPersist_provisioned_of (faithful : backend.Faithful) (initialised : s.initialised = true)
    (provisioned : s.provisioned = true) : (identityPersist (some backend) s).Provisioned backend := by
  obtain ⟨save, load, save_eq, load_eq, load_save⟩ := faithful
  refine ⟨by simp [initialised], by simp [provisioned], ?_⟩
  simp [identityPersist, save_eq, load_eq, load_save, DeviceIdentityModule.persisted]

theorem deviceIdentityInit_spec (faithful : backend.Faithful) (ready : s.Provisioned backend) :
    (deviceIdentityInit (some backend) s).Provisioned backend ∧
      (deviceIdentityInit (some backend) s).identity = s.identity ∧
      (deviceIdentityInit (some backend) s).fwVersionPending = deviceIdNoVersion := by
  obtain ⟨save, load, -, load_eq, -⟩ := id faithful
  obtain ⟨-, provisioned, saved⟩ := ready
  have found : load s.store = some s.persisted := by simpa [load_eq] using saved
  unfold deviceIdentityInit
  simp only [Option.bind_some, load_eq, found]
  split
  · refine ⟨identityPersist_provisioned_of faithful rfl provisioned, ?_, ?_⟩ <;> simp [DeviceIdentityModule.persisted]
  · rename_i none
    refine ⟨⟨rfl, provisioned, ?_⟩, rfl, rfl⟩
    have absent : s.fwVersionPending = deviceIdNoVersion := Decidable.not_not.mp none
    simp [load_eq, found, DeviceIdentityModule.persisted, absent]

theorem deviceIdentitySetPendingVersion_spec (faithful : backend.Faithful) (ready : s.Provisioned backend)
    (newVersion : UInt32) :
    (deviceIdentitySetPendingVersion (some backend) s newVersion).1.Provisioned backend ∧
      (deviceIdentitySetPendingVersion (some backend) s newVersion).1.identity = s.identity ∧
      (deviceIdentitySetPendingVersion (some backend) s newVersion).1.fwVersionPending = newVersion := by
  unfold deviceIdentitySetPendingVersion
  simp only [ready.initialised, ready.provisioned, Bool.not_true, Bool.false_eq_true, if_false]
  exact ⟨identityPersist_provisioned_of faithful rfl rfl, by simp, by simp⟩

theorem deviceIdentityConfirmBoot_spec (faithful : backend.Faithful) (ready : s.Provisioned backend)
    (pending : s.fwVersionPending ≠ deviceIdNoVersion) :
    (deviceIdentityConfirmBoot (some backend) s).1.Provisioned backend ∧
      (deviceIdentityConfirmBoot (some backend) s).1.identity = { s.identity with fwVersion := s.fwVersionPending } ∧
      (deviceIdentityConfirmBoot (some backend) s).1.fwVersionPending = deviceIdNoVersion := by
  unfold deviceIdentityConfirmBoot
  simp only [ready.initialised, ready.provisioned, Bool.not_true, Bool.false_eq_true, if_false, pending]
  exact ⟨identityPersist_provisioned_of faithful rfl rfl, by simp, by simp⟩

theorem deviceIdentityHasPendingVersion_iff (ready : s.Provisioned backend) :
    deviceIdentityHasPendingVersion s = true ↔ s.fwVersionPending ≠ deviceIdNoVersion := by
  simp [deviceIdentityHasPendingVersion, ready.initialised, ready.provisioned]

end Persistence

def ramIdentityStorage : DeviceIdentityStorage (Option PersistedIdentity) where
  save := some fun _ persisted => (some persisted, true)
  load := some fun store => store

theorem ramIdentityStorage_faithful : ramIdentityStorage.Faithful :=
  ⟨_, _, rfl, rfl, fun _ _ => rfl⟩

end IotPlatform
