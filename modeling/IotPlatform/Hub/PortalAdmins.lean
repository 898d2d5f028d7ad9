import IotPlatform.Lib.Run
import IotPlatform.Gateway.Delivery
import IotPlatform.Hub.ConfigPortal

/-!
# Administrators of the portal

The last administrator can be neither removed nor demoted. What the safeguards cannot give is the first one: the first
account of an empty table is made without a session, and with any role.
-/

namespace IotPlatform
open Run

inductive PortalOp where
  | addUser (session : Option ConfigSession) (username credential : Option (List UInt8)) (role : UserRole)
      (currentMs : UInt64)
  | removeUser (session : Option ConfigSession) (username : Option (List UInt8)) (currentMs : UInt64)
  | changeRole (session : Option ConfigSession) (username : Option (List UInt8)) (newRole : UserRole) (currentMs : UInt64)
  | authenticate (username credential : Option (List UInt8)) (currentMs : UInt64)
  | logout (session : Option ConfigSession)

section Runs

variable {σ : Type}

/-- One call; the output is its result, and `CONFIG_OK` for a logout, which returns nothing. -/
def portalStep (storage : Option (ConfigPortalStorage σ)) (hmac : Hmac) (p : ConfigPortal σ) :
    PortalOp → ConfigPortal σ × ConfigPortalResult
  | .addUser session username credential role currentMs =>
    let o := configPortalAddUser storage p hmac session username credential role currentMs
    (o.portal, o.result)
  | .removeUser session username currentMs =>
    let o := configPortalRemoveUser storage p session username currentMs
    (o.portal, o.result)
  | .changeRole session username newRole currentMs =>
    let o := configPortalChangeRole storage p session username newRole currentMs
    (o.portal, o.result)
  | .authenticate username credential currentMs =>
    let o := (configPortalAuthenticate p hmac username credential currentMs).1
    (o.portal, o.result)
  | .logout _ => (p, .ok)

/-- Where there are accounts, one of them is an active administrator. -/
def HasAdmin (p : ConfigPortal σ) : Prop := p.users ≠ [] → ∃ user ∈ p.users, user.active = true ∧ user.role = .admin

/-- The first account of an empty table is an administrator's. -/
def BootstrapsAdmin (p : ConfigPortal σ) (op : PortalOp) : Prop :=
  p.users = [] → ∀ session name secret role currentMs,
    op = .addUser session (some name) (some secret) role currentMs → WellSized name secret → role = .admin

/-! ### The number of administrators -/

theorem countActiveAdmins_pos {users : List UserAccount} :
    0 < countActiveAdmins users ↔ ∃ user ∈ users, user.active = true ∧ user.role = .admin := by
  rw [countActiveAdmins, List.countP_pos_iff]
  simp [UserAccount.isActiveAdmin]

theorem countActiveAdmins_set {users : List UserAccount} {idx : Nat} {old : UserAccount} (at_idx : users[idx]? = some old)
    (user : UserAccount) :
    countActiveAdmins (users.set idx user) + old.isActiveAdmin.toNat =
      countActiveAdmins users + user.isActiveAdmin.toNat := by
  obtain ⟨inside, same⟩ := List.getElem?_eq_some_iff.mp at_idx
  have present : users.countP UserAccount.isActiveAdmin ≥ old.isActiveAdmin.toNat := by
    cases admin : old.isActiveAdmin with
    | false => exact Nat.zero_le _
    | true => exact List.countP_pos_iff.mpr ⟨old, List.mem_of_getElem? at_idx, admin⟩
  rw [countActiveAdmins, countActiveAdmins, List.countP_set inside, same]
  have as_nat : ∀ b : Bool, (if b = true then 1 else 0) = b.toNat := by decide
  rw [as_nat, as_nat]
  omega

/-- An account that is overwritten takes no administrator away if it was none, becomes one or was not the only one. -/
theorem countActiveAdmins_set_pos {users : List UserAccount} {idx : Nat} {old user : UserAccount}
    (at_idx : users[idx]? = some old) (before : 0 < countActiveAdmins users)
    (kept : old.isActiveAdmin = true → user.isActiveAdmin = true ∨ 1 < countActiveAdmins users) :
    0 < countActiveAdmins (users.set idx user) := by
  have count := countActiveAdmins_set at_idx user
  cases admin : old.isActiveAdmin with
  | false =>
    rw [admin, Bool.toNat_false] at count
    omega
  | true =>
    rw [admin, Bool.toNat_true] at count
    rcases kept admin with still | others
    · rw [still, Bool.toNat_true] at count
      omega
    · omega

variable {storage : Option (ConfigPortalStorage σ)} {hmac : Hmac} {p : ConfigPortal σ}

/-- The invariant of a run: an initialised portal with no accounts, or with an administrator among them. -/
structure Administered (p : ConfigPortal σ) : Prop where
  ready : p.initialised = true
  admins : p.users = [] ∨ 0 < countActiveAdmins p.users

theorem Administered.hasAdmin (administered : Administered p) : HasAdmin p := by
  intro accounts
  exact countActiveAdmins_pos.mp (administered.admins.resolve_left accounts)

theorem Administered.admins_of_account (administered : Administered p) {idx : Nat} {user : UserAccount}
    (at_idx : p.users[idx]? = some user) : 0 < countActiveAdmins p.users :=
  administered.admins.resolve_left (List.ne_nil_of_mem (List.mem_of_getElem? at_idx))

theorem addUser_administered (administered : Administered p) {session : Option ConfigSession}
    {username credential : Option (List UInt8)} {role : UserRole} {currentMs : UInt64}
    (bootstraps : BootstrapsAdmin p (.addUser session username credential role currentMs)) :
    Administered (configPortalAddUser storage p hmac session username credential role currentMs).portal := by
  obtain ⟨-, same⟩ | ⟨-, ready, name, secret, rfl, rfl, sized, -, -, users, placed, portal⟩ :=
    configPortalAddUser_cases storage p hmac session username credential role currentMs
  · rw [same]
    exact administered
  · rw [portal]
    refine ⟨persistUsers_initialised.trans ready, .inr ?_⟩
    rw [persistUsers_users]
    rcases placeUser_cases placed with ⟨slot, other, at_slot, inactive, set⟩ | appended
    · rw [set]
      refine countActiveAdmins_set_pos at_slot (administered.admins_of_account at_slot) fun admin => ?_
      simp [UserAccount.isActiveAdmin, inactive] at admin
    · rw [appended, countActiveAdmins, List.countP_append]
      rcases administered.admins with empty | before
      · have admin := bootstraps empty session name secret role currentMs rfl sized
        have counted : [newAccount hmac name secret role].countP UserAccount.isActiveAdmin = 1 := by
          simp [UserAccount.isActiveAdmin, newAccount, admin]
        omega
      · rw [countActiveAdmins] at before
        omega

theorem removeUser_administered (administered : Administered p) (session : Option ConfigSession)
    (username : Option (List UInt8)) (currentMs : UInt64) :
    Administered (configPortalRemoveUser storage p session username currentMs).portal := by
  obtain ⟨-, same⟩ | ⟨-, _, _, idx, user, -, -, -, found, safe, portal⟩ :=
    configPortalRemoveUser_cases storage p session username currentMs
  · rw [same]
    exact administered
  · obtain ⟨at_idx, active⟩ := lookupUser_some found
    rw [portal]
    refine ⟨persistUsers_initialised.trans administered.ready, .inr ?_⟩
    rw [persistUsers_users]
    refine countActiveAdmins_set_pos at_idx (administered.admins_of_account at_idx) fun admin => .inr ?_
    -- The safeguard leaves a second administrator behind.
    have role : user.role = .admin := by simpa [UserAccount.isActiveAdmin, active] using admin
    exact Nat.lt_of_not_le fun few => safe ⟨role, few⟩

theorem changeRole_administered (administered : Administered p) (session : Option ConfigSession)
    (username : Option (List UInt8)) (newRole : UserRole) (currentMs : UInt64) :
    Administered (configPortalChangeRole storage p session username newRole currentMs).portal := by
  obtain ⟨-, same⟩ | ⟨-, _, _, idx, user, -, -, -, found, safe, portal⟩ :=
    configPortalChangeRole_cases storage p session username newRole currentMs
  · rw [same]
    exact administered
  · obtain ⟨at_idx, active⟩ := lookupUser_some found
    rw [portal]
    refine ⟨persistUsers_initialised.trans administered.ready, .inr ?_⟩
    rw [persistUsers_users]
    refine countActiveAdmins_set_pos at_idx (administered.admins_of_account at_idx) fun admin => ?_
    have role : user.role = .admin := by simpa [UserAccount.isActiveAdmin, active] using admin
    cases newRole with
    | admin => exact .inl (by simp [UserAccount.isActiveAdmin, active])
    | technician => exact .inr (Nat.lt_of_not_le fun few => safe ⟨role, UserRole.noConfusion, few⟩)

theorem portalStep_administered (administered : Administered p) {op : PortalOp} (bootstraps : BootstrapsAdmin p op) :
    Administered (portalStep storage hmac p op).1 := by
  cases op with
  | addUser session username credential role currentMs => exact addUser_administered administered bootstraps
  | removeUser session username currentMs => exact removeUser_administered administered session username currentMs
  | changeRole session username newRole currentMs =>
    exact changeRole_administered administered session username newRole currentMs
  | authenticate username credential currentMs =>
    obtain ⟨users, ready⟩ := configPortalAuthenticate_users p hmac username credential currentMs
    refine ⟨ready.trans administered.ready, ?_⟩
    dsimp only [portalStep]
    rw [users]
    exact administered.admins
  | logout session => exact administered

theorem bootstrapsAdmin_of_hasAdmin (administered : Administered p) {op : PortalOp}
    (kept : HasAdmin (portalStep storage hmac p op).1) : BootstrapsAdmin p op := by
  rintro empty session name secret role currentMs rfl sized
  obtain ⟨user, rfl, users⟩ :=
    configPortalAddUser_bootstrap storage hmac session sized role currentMs administered.ready empty
  unfold HasAdmin at kept
  dsimp only [portalStep] at kept
  rw [users] at kept
  obtain ⟨found, member, -, admin⟩ := kept (List.cons_ne_nil _ _)
  rw [← List.mem_singleton.mp member]
  exact admin

/-- From an empty store the portal has an administrator in every state of a run exactly when the first account it makes
is one. -/
theorem administrator_exact (storage : Option (ConfigPortalStorage σ)) (hmac : Hmac) (p : ConfigPortal σ)
    (empty : ∀ load, storage.bind ConfigPortalStorage.load = some load → load p.store = []) (ops : List PortalOp) :
    Always HasAdmin (portalStep storage hmac) (configPortalInit storage p) ops ↔
      EachStep BootstrapsAdmin (portalStep storage hmac) (configPortalInit storage p) ops := by
  have start : Administered (configPortalInit storage p) := by
    refine ⟨rfl, .inl ?_⟩
    dsimp only [configPortalInit]
    split
    · rfl
    · rename_i load registered
      exact empty load registered
  exact always_iff_eachStep start (fun p administered => administered.hasAdmin)
    (fun p op administered bootstraps => portalStep_administered administered bootstraps)
    (fun p op administered kept => bootstrapsAdmin_of_hasAdmin administered kept) ops

end Runs

def ramPortalStorage : ConfigPortalStorage (List UserAccount) where
  save := some fun _ users => (users, true)
  load := some fun store => store

def freshPortal : ConfigPortal (List UserAccount) :=
  { users := [], initialised := false, sessions := [], nextSessionId := 0, store := [] }

/-- The first account of a new hub, with a role to choose. -/
def firstAccount (role : UserRole) : PortalOp := .addUser none (some [0x61]) (some [0x31]) role 0

theorem administrator_exact_first_admin :
    Always HasAdmin (portalStep (some ramPortalStorage) lengthHmac) (configPortalInit (some ramPortalStorage) freshPortal)
      [firstAccount .admin] := by
  refine (administrator_exact (some ramPortalStorage) lengthHmac freshPortal ?_ [firstAccount .admin]).mpr ⟨?_, trivial⟩
  · intro load registered
    rw [← Option.some.inj registered]
    rfl
  · rintro - session name secret role currentMs same -
    injection same with _ _ _ same_role
    exact same_role.symm

/-- A technician as first user leaves accounts and nobody to manage them. -/
theorem first_technician_locks_out :
    ¬∀ ops, Always HasAdmin (portalStep (some ramPortalStorage) lengthHmac)
      (configPortalInit (some ramPortalStorage) freshPortal) ops := by
  intro kept
  obtain ⟨user, member, -, admin⟩ := kept [firstAccount .technician] 1 (by decide)
  have only : (finalState (portalStep (some ramPortalStorage) lengthHmac)
      (configPortalInit (some ramPortalStorage) freshPortal) [firstAccount .technician]).users.all
        (fun user => decide (user.role = .technician)) = true := by decide
  have technician := List.all_eq_true.mp only user member
  rw [admin] at technician
  cases technician

end IotPlatform
