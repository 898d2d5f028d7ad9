import IotPlatform.Hub.PortalLedger

/-!
# Who is let in

Account changes and configuration writes are decided on the session the caller presents: its role, its active flag and its
age. Nothing is compared with the tables of the portal. So a call is authorized as long as callers present what they were
given and the account behind it is left alone, and not beyond that.
-/

namespace IotPlatform
open Run

/-- The session a guarded call presents, when, and whether the call is an administrator's. -/
structure Presented where
  session : Option ConfigSession
  currentMs : UInt64
  needsAdmin : Bool

/-- The first account of an empty table is made without a session. -/
def ConsoleOp.presented {F : Type} (bootstrap : Bool) : ConsoleOp F → Option Presented
  | .account (.addUser session _ _ _ currentMs) =>
    if bootstrap then none else some { session := session, currentMs := currentMs, needsAdmin := true }
  | .account (.removeUser session _ currentMs) => some { session := session, currentMs := currentMs, needsAdmin := true }
  | .account (.changeRole session _ _ currentMs) => some { session := session, currentMs := currentMs, needsAdmin := true }
  | .account (.authenticate ..) => none
  | .account (.logout _) => none
  | .write session _ currentMs => some { session := session, currentMs := currentMs, needsAdmin := false }

section Authorization

variable {σ F : Type}

/-- What the code reads off the session itself. -/
def Presented.Passes (call : Presented) (p : ConfigPortal σ) (session : ConfigSession) : Prop :=
  (call.needsAdmin = true → session.role = .admin) ∧ configPortalValidateSession p session call.currentMs = .ok

/-- The session was handed out, is not logged out, was active within the idle timeout, and its user has an active account
at this moment, an administrator's where one is needed. -/
def PortalLedger.Authorized (l : PortalLedger σ) (call : Presented) (session : ConfigSession) : Prop :=
  (∃ g ∈ l.grants, g.session = session) ∧ session.sessionId ∉ l.loggedOut ∧
    call.currentMs - session.lastActiveMs ≤ configPortalIdleTimeoutMs ∧
    ∃ user ∈ l.portal.users, user.active = true ∧ user.sessionName = session.username ∧
      (call.needsAdmin = true → user.role = .admin)

/-- A guarded call that is accepted presents an authorized session. -/
def AuthorizedStep (storage : Option (ConfigPortalStorage σ)) (hmac : Hmac) (l : PortalLedger σ) (op : ConsoleOp F) : Prop :=
  ∀ call ∈ op.presented l.portal.users.isEmpty, (ledgerStep storage hmac l op).2 = .ok →
    ∃ session ∈ call.session, l.Authorized call session

/-- The calls accepted since have left the account of this grant in place, as an administrator's where one is needed. -/
def Grant.standsFor (needsAdmin : Bool) (g : Grant) : Bool :=
  if needsAdmin then decide (g.standing = some .admin) else g.standing.isSome

/-- A session that the code would let in is one that was handed out, that nobody logged out, and whose account no
accepted call has removed or demoted since. -/
def SessionKept (l : PortalLedger σ) (op : ConsoleOp F) : Prop :=
  ∀ call ∈ op.presented l.portal.users.isEmpty, ∀ session ∈ call.session, call.Passes l.portal session →
    session.sessionId ∉ l.loggedOut ∧ ∃ g ∈ l.grants, g.session = session ∧ g.standsFor call.needsAdmin = true

/-! ### The standing of a session and the table of accounts -/

/-- The account in the slot of the grant is the one its standing speaks of. -/
def Grant.Tracks (users : List UserAccount) (g : Grant) : Prop :=
  ∀ role, g.standing = some role → ∃ user, users[g.slot]? = some user ∧ user.active = true ∧ user.role = role ∧
    user.sessionName = g.session.username

variable {users placed : List UserAccount} {g : Grant}

theorem Grant.Tracks.placeUser (tracks : g.Tracks users) {user : UserAccount}
    (found : IotPlatform.placeUser users user = some placed) : g.Tracks placed := by
  intro role stands
  obtain ⟨account, at_slot, active, same_role, name⟩ := tracks role stands
  refine ⟨account, ?_, active, same_role, name⟩
  obtain ⟨slot, other, at_other, inactive, rfl⟩ | rfl := placeUser_cases found
  · have apart : slot ≠ g.slot := by
      rintro rfl
      rw [at_slot] at at_other
      rw [Option.some.inj at_other, inactive] at active
      cases active
    rw [List.getElem?_set_ne apart]
    exact at_slot
  · obtain ⟨inside, -⟩ := List.getElem?_eq_some_iff.mp at_slot
    rw [List.getElem?_append_left inside]
    exact at_slot

theorem Grant.settle_of_ne {idx : Nat} (apart : idx ≠ g.slot) (change : Option UserRole → Option UserRole) :
    g.settle (some idx) change = g := if_neg fun same => apart (Option.some.inj same)

theorem Grant.settle_self (g : Grant) (change : Option UserRole → Option UserRole) :
    g.settle (some g.slot) change = { g with standing := change g.standing } := if_pos rfl

/-- An account in another slot may be overwritten. -/
theorem Grant.Tracks.set_ne (tracks : g.Tracks users) {idx : Nat} (apart : idx ≠ g.slot) (user : UserAccount) :
    g.Tracks (users.set idx user) := by
  intro role stands
  rw [List.getElem?_set_ne apart]
  exact tracks role stands

theorem Grant.Tracks.removeUser (tracks : g.Tracks users) (idx : Nat) (removed : UserAccount) :
    (g.settle (some idx) fun _ => none).Tracks (users.set idx removed) := by
  by_cases apart : idx ≠ g.slot
  · rw [Grant.settle_of_ne apart]
    exact tracks.set_ne apart removed
  · obtain rfl := Classical.not_not.mp apart
    rw [Grant.settle_self]
    intro role stands
    cases stands

theorem Grant.Tracks.changeRole (tracks : g.Tracks users) {idx : Nat} {user : UserAccount}
    (at_idx : users[idx]? = some user) (newRole : UserRole) :
    (g.settle (some idx) (Option.map fun _ => newRole)).Tracks (users.set idx { user with role := newRole }) := by
  by_cases apart : idx ≠ g.slot
  · rw [Grant.settle_of_ne apart]
    exact tracks.set_ne apart _
  · obtain rfl := Classical.not_not.mp apart
    rw [Grant.settle_self]
    intro role stands
    obtain ⟨before, stood, rfl⟩ := Option.map_eq_some_iff.mp stands
    obtain ⟨account, at_slot, active, -, name⟩ := tracks before stood
    obtain rfl := Option.some.inj (at_idx.symm.trans at_slot)
    obtain ⟨inside, -⟩ := List.getElem?_eq_some_iff.mp at_idx
    exact ⟨_, List.getElem?_set_self inside, active, rfl, name⟩

/-- The invariant of a run. -/
def PortalLedger.Tracked (l : PortalLedger σ) : Prop := ∀ g ∈ l.grants, g.Tracks l.portal.users

variable {storage : Option (ConfigPortalStorage σ)} {hmac : Hmac} {l : PortalLedger σ}

/-- Each grant, changed or not, agrees with the accounts after the step. -/
theorem tracked_map {l' : PortalLedger σ} (tracked : l.Tracked) {f : Grant → Grant} (grants : l'.grants = l.grants.map f)
    (keeps : ∀ g, g.Tracks l.portal.users → (f g).Tracks l'.portal.users) : l'.Tracked := by
  intro g member
  rw [grants] at member
  obtain ⟨before, known, rfl⟩ := List.mem_map.mp member
  exact keeps before (tracked before known)

theorem acceptedCall_tracked (tracked : l.Tracked) {op : PortalOp} {l' : PortalLedger σ}
    (call : AcceptedCall storage hmac l.portal l'.portal op) (grants : l'.grants = l.record hmac op) : l'.Tracked := by
  cases call with
  | addUser gate placed after =>
    intro g member
    rw [grants] at member
    rw [after, persistUsers_users]
    exact (tracked g member).placeUser placed
  | removeUser gate found after =>
    refine tracked_map tracked grants fun g tracks => ?_
    rw [after, persistUsers_users, Option.bind_some, findUser_of_lookup found]
    exact tracks.removeUser _ _
  | changeRole gate found after =>
    refine tracked_map tracked grants fun g tracks => ?_
    rw [after, persistUsers_users, Option.bind_some, findUser_of_lookup found]
    exact tracks.changeRole (lookupUser_some found).1 _
  | authenticate found free active role named handed after =>
    intro g member
    dsimp only [PortalLedger.record] at grants
    rw [handed, Option.bind_some, findUser_of_lookup found] at grants
    rw [grants] at member
    rw [after]
    rcases List.mem_append.mp member with old | new
    · exact tracked g old
    · obtain rfl := List.mem_singleton.mp new
      intro standing stands
      obtain ⟨at_idx, in_use⟩ := lookupUser_some found
      exact ⟨_, at_idx, in_use, role.symm.trans (Option.some.inj stands), named.symm⟩
  | logout after =>
    intro g member
    rw [grants] at member
    rw [after]
    exact tracked g member

theorem ledgerStep_tracked (tracked : l.Tracked) (op : ConsoleOp F) : (ledgerStep storage hmac l op).1.Tracked := by
  cases op with
  | write session request currentMs => exact tracked
  | account op =>
    obtain ⟨-, portal, grants⟩ | ⟨-, call, grants⟩ := ledgerStep_cases (F := F) storage hmac l op
    · intro g member
      rw [grants] at member
      rw [portal]
      exact tracked g member
    · exact acceptedCall_tracked tracked call grants

/-! ### What an accepted call has looked at -/

theorem adminGate_passes {p : ConfigPortal σ} {session : ConfigSession} {denied : String} {currentMs : UInt64}
    (gate : adminGate p session denied currentMs = none) :
    session.role = .admin ∧ configPortalValidateSession p session currentMs = .ok := by
  unfold adminGate at gate
  split at gate
  · cases gate
  · rename_i admin
    split at gate
    · rename_i valid
      exact ⟨Classical.not_not.mp admin, valid⟩
    · cases gate

theorem configPortalWrite_ok {p : ConfigPortal σ} {session : Option ConfigSession}
    {request : Option (ConfigWriteRequest F)} {currentMs : UInt64}
    (accepted : (configPortalWrite p session request currentMs).1 = .ok) :
    ∃ holder, session = some holder ∧ configPortalValidateSession p holder currentMs = .ok := by
  unfold configPortalWrite at accepted
  split at accepted
  · split at accepted
    · cases accepted
    · split at accepted
      · rename_i valid
        exact ⟨_, rfl, valid⟩
      · rename_i failed
        exact (failed accepted).elim
  · cases accepted

/-- The session of an accepted call has the role and the age the code asks for. -/
theorem ledgerStep_passes {op : ConsoleOp F} {call : Presented}
    (presented : call ∈ op.presented l.portal.users.isEmpty) (accepted : (ledgerStep storage hmac l op).2 = .ok) :
    ∃ session ∈ call.session, call.Passes l.portal session := by
  cases op with
  | write session request currentMs =>
    obtain rfl := Option.some.inj presented
    obtain ⟨holder, rfl, valid⟩ := configPortalWrite_ok accepted
    exact ⟨holder, rfl, And.intro (fun admin => Bool.noConfusion admin) valid⟩
  | account op =>
    obtain ⟨refused, -⟩ | ⟨-, checked, -⟩ := ledgerStep_cases (F := F) storage hmac l op
    · exact (refused accepted).elim
    cases checked with
    | addUser gate placed after =>
      dsimp only [ConsoleOp.presented] at presented
      split at presented
      · cases presented
      · rename_i users
        obtain rfl := Option.some.inj presented
        unfold addUserGate at gate
        rw [if_pos (List.length_pos_iff.mpr fun empty => users (List.isEmpty_iff.mpr empty))] at gate
        split at gate
        · cases gate
        · obtain ⟨admin, valid⟩ := adminGate_passes gate
          exact ⟨_, rfl, And.intro (fun _ => admin) valid⟩
    | removeUser gate found after =>
      obtain rfl := Option.some.inj presented
      obtain ⟨admin, valid⟩ := adminGate_passes gate
      exact ⟨_, rfl, And.intro (fun _ => admin) valid⟩
    | changeRole gate found after =>
      obtain rfl := Option.some.inj presented
      obtain ⟨admin, valid⟩ := adminGate_passes gate
      exact ⟨_, rfl, And.intro (fun _ => admin) valid⟩
    | authenticate => cases presented
    | logout => cases presented

theorem active_within_of_valid {p : ConfigPortal σ} {session : ConfigSession} {currentMs : UInt64}
    (valid : configPortalValidateSession p session currentMs = .ok) :
    currentMs - session.lastActiveMs ≤ configPortalIdleTimeoutMs := by
  unfold configPortalValidateSession at valid
  split at valid
  · cases valid
  · split at valid
    · cases valid
    · split at valid
      · cases valid
      · rename_i recent
        exact UInt64.not_lt.mp recent

theorem Grant.Tracks.account (tracks : g.Tracks users) {needsAdmin : Bool} (stands : g.standsFor needsAdmin = true) :
    ∃ user ∈ users, user.active = true ∧ user.sessionName = g.session.username ∧
      (needsAdmin = true → user.role = .admin) := by
  have standing : ∃ role, g.standing = some role ∧ (needsAdmin = true → role = .admin) := by
    cases needsAdmin with
    | true => exact ⟨.admin, of_decide_eq_true stands, fun _ => rfl⟩
    | false =>
      obtain ⟨role, known⟩ := Option.isSome_iff_exists.mp stands
      exact ⟨role, known, fun admin => Bool.noConfusion admin⟩
  obtain ⟨role, known, admin⟩ := standing
  obtain ⟨user, at_slot, active, rfl, name⟩ := tracks role known
  exact ⟨user, List.mem_of_getElem? at_slot, active, name, admin⟩

theorem authorizedStep_of_kept (tracked : l.Tracked) {op : ConsoleOp F} (kept : SessionKept l op) :
    AuthorizedStep storage hmac l op := by
  intro call presented accepted
  obtain ⟨session, shown, passes⟩ := ledgerStep_passes presented accepted
  obtain ⟨open_still, g, known, rfl, stands⟩ := kept call presented session shown passes
  refine ⟨g.session, shown, ⟨g, known, rfl⟩, open_still, active_within_of_valid passes.2, ?_⟩
  exact (tracked g known).account stands

/-- In every run whose callers present only sessions they were given, have not logged out, and whose account was neither
removed nor demoted since, every guarded call that is accepted is authorized. -/
theorem authorized_of_sessions_kept (storage : Option (ConfigPortalStorage σ)) (hmac : Hmac) (p : ConfigPortal σ)
    (ops : List (ConsoleOp F))
    (kept : EachStep SessionKept (ledgerStep storage hmac) (startLedger storage p) ops) :
    EachStep (AuthorizedStep storage hmac) (ledgerStep storage hmac) (startLedger storage p) ops := by
  have start : (startLedger storage p).Tracked := by
    intro g member
    cases member
  exact eachStep_mono start (fun l op tracked _ => ledgerStep_tracked tracked op)
    (fun l op tracked kept => authorizedStep_of_kept tracked kept) kept

end Authorization

def firstSession : ConfigSession :=
  { sessionToken := sessionToken 1 0, sessionId := 1, lastActiveMs := 0, active := true, userIndex := 0, role := .admin
    username := usernameArray [0x61] }

def firstLogin : PortalOp := .authenticate (some [0x61]) (some [0x31]) 0

def secondAccount : PortalOp := .addUser (some firstSession) (some [0x62]) (some [0x32]) .technician 1000

theorem authorized_of_sessions_kept_second_account :
    EachStep (AuthorizedStep (F := Unit) (some ramPortalStorage) lengthHmac)
      (ledgerStep (some ramPortalStorage) lengthHmac) (startLedger (some ramPortalStorage) freshPortal)
      [.account (firstAccount .admin), .account firstLogin, .account secondAccount] := by
  refine authorized_of_sessions_kept (some ramPortalStorage) lengthHmac freshPortal _ ⟨?_, ?_, ?_, trivial⟩
  · intro call presented
    cases presented
  · intro call presented
    cases presented
  · rintro call presented session shown -
    obtain rfl := Option.some.inj presented
    obtain rfl := Option.some.inj shown
    exact ⟨by decide, by decide⟩

/-- A copy kept after the logout opens the portal as before. -/
theorem logged_out_session_accepted :
    ¬∀ ops : List (ConsoleOp Unit), EachStep (AuthorizedStep (some ramPortalStorage) lengthHmac)
      (ledgerStep (some ramPortalStorage) lengthHmac) (startLedger (some ramPortalStorage) freshPortal) ops := by
  intro authorized
  obtain ⟨-, -, -, last, -⟩ := authorized
    [.account (firstAccount .admin), .account firstLogin, .account (.logout (some firstSession)), .account secondAccount]
  obtain ⟨session, shown, -, open_still, -⟩ := last { session := some firstSession, currentMs := 1000, needsAdmin := true }
    rfl (by decide)
  obtain rfl := Option.some.inj shown
  exact open_still (by decide)

end IotPlatform
