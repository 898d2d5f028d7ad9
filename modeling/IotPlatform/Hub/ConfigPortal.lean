import IotPlatform.Shared.AuditLog

/-!
# The configuration portal

`config_portal.c`: the user accounts of a hub, the sessions their users get, and the operations that manage accounts.
-/

namespace IotPlatform

def configPortalSessionTokenSize : Nat := 32

def configPortalCredentialMaxLen : Nat := 16

def configPortalMaxSessions : Nat := 4

def configPortalMaxUsers : Nat := 8

def configPortalUsernameMaxLen : Nat := 16

def configPortalIdleTimeoutMs : UInt64 := 15 * 60 * 1000

inductive UserRole where
  | technician | admin
  deriving DecidableEq, Repr

inductive ConfigPortalResult where
  | ok | errAuthFailed | errNoSession | errSessionExpired | errSafetyLocked | errNotAuthorized | errUserNotFound
  | errUserExists | errUsersFull | errLastAdmin | errParamNull | errNotInit | errInternal
  deriving DecidableEq, Repr

/-- `username` is the whole array, terminator and padding included. -/
structure UserAccount where
  username : List UInt8
  credentialHash : Digest
  role : UserRole
  active : Bool
  deriving DecidableEq, Repr

structure ConfigWriteRequest (F : Type) where
  ruleId : UInt16
  newThreshold : F
  newActionType : UInt8
  newActuatorId : UInt8

structure ConfigSession where
  sessionToken : List UInt8
  sessionId : UInt8
  lastActiveMs : UInt64
  active : Bool
  userIndex : UInt8
  role : UserRole
  username : List UInt8
  deriving DecidableEq, Repr

/-- The callbacks of a backend with state `σ`; `load` gives the accounts it writes to the table. -/
structure ConfigPortalStorage (σ : Type) where
  save : Option ((store : σ) → List UserAccount → σ × Bool)
  load : Option ((store : σ) → List UserAccount)

/-- The statics of the module and the state of the backend. `users` are the first `g_user_count` slots of the table: the
others are never read. -/
structure ConfigPortal (σ : Type) where
  users : List UserAccount
  initialised : Bool
  sessions : List ConfigSession
  nextSessionId : UInt8
  store : σ

structure PortalOutcome (σ : Type) where
  portal : ConfigPortal σ
  result : ConfigPortalResult
  events : List AuditEvent

/-! ### Helpers of the module -/

/-- A byte string in a zeroed array of `CONFIG_PORTAL_USERNAME_MAX_LEN` bytes. -/
def usernameArray (username : List UInt8) : List UInt8 :=
  username ++ List.replicate (configPortalUsernameMaxLen - username.length) 0

def portalSalt : List UInt8 := "config_portal_credential_salt_v2".toUTF8.toList

def hashCredential (hmac : Hmac) (credential : List UInt8) : Digest := hmac portalSalt credential

def UserAccount.isNamed (username : List UInt8) (user : UserAccount) : Bool :=
  user.active && decide ((cString user.username).length = username.length) &&
    decide (user.username.take username.length = username)

def findUser (users : List UserAccount) (username : List UInt8) : Option Nat :=
  users.findIdx? (UserAccount.isNamed username)

def lookupUser (users : List UserAccount) (username : List UInt8) : Option (Nat × UserAccount) :=
  (findUser users username).bind fun idx => users[idx]?.map (idx, ·)

def UserAccount.isActiveAdmin (user : UserAccount) : Bool := user.active && decide (user.role = .admin)

def countActiveAdmins (users : List UserAccount) : Nat := users.countP UserAccount.isActiveAdmin

section Operations

variable {σ : Type} (storage : Option (ConfigPortalStorage σ)) (p : ConfigPortal σ)

def persistUsers : ConfigPortal σ :=
  match storage.bind ConfigPortalStorage.save with
  | none => p
  | some save => { p with store := (save p.store p.users).1 }

def zeroSession : ConfigSession :=
  { sessionToken := List.replicate configPortalSessionTokenSize 0, sessionId := 0, lastActiveMs := 0, active := false
    userIndex := 0, role := .technician, username := usernameArray [] }

def configPortalInit : ConfigPortal σ :=
  { users :=
      match storage.bind ConfigPortalStorage.load with
      | none => []
      | some load => load p.store
    initialised := true, sessions := List.replicate configPortalMaxSessions zeroSession, nextSessionId := 1
    store := p.store }

def configPortalValidateSession (session : ConfigSession) (currentMs : UInt64) : ConfigPortalResult :=
  if !p.initialised then .errNotInit
  else if !session.active then .errNoSession
  else if currentMs - session.lastActiveMs > configPortalIdleTimeoutMs then .errSessionExpired
  else .ok

/-- The role test and the session test before a change of accounts; `none` lets the caller go on. -/
def adminGate (session : ConfigSession) (denied : String) (currentMs : UInt64) :
    Option (ConfigPortalResult × List AuditEvent) :=
  if session.role ≠ .admin then
    some (.errNotAuthorized,
      [{ eventType := .safetyLockedRejected, sessionId := session.sessionId, ruleId := 0, detail := denied }])
  else
    match configPortalValidateSession p session currentMs with
    | .ok => none
    | failed => some (failed, [])

/-- Nobody is asked for a session while the table has no slot in use. -/
def addUserGate (session : Option ConfigSession) (currentMs : UInt64) : Option (ConfigPortalResult × List AuditEvent) :=
  if p.users.length > 0 then
    match session with
    | none =>
      some (.errNotAuthorized,
        [{ eventType := .authFailure, sessionId := 0, ruleId := 0
           detail := "Add user denied: no session (post-bootstrap)" }])
    | some session => adminGate p session "Add user denied: not admin" currentMs
  else none

/-- The table with a user in its first inactive slot, or in a new one. -/
def placeUser (users : List UserAccount) (user : UserAccount) : Option (List UserAccount) :=
  match users.findIdx? fun other => !other.active with
  | some slot => some (users.set slot user)
  | none => if users.length ≥ configPortalMaxUsers then none else some (users ++ [user])

def configPortalAddUser (hmac : Hmac) (session : Option ConfigSession) (username credential : Option (List UInt8))
    (role : UserRole) (currentMs : UInt64) : PortalOutcome σ :=
  match username, credential with
  | some username, some credential =>
    if !p.initialised then { portal := p, result := .errNotInit, events := [] }
    else if username.length = 0 ∨ username.length ≥ configPortalUsernameMaxLen then
      { portal := p, result := .errParamNull, events := [] }
    else if credential.length = 0 ∨ credential.length > configPortalCredentialMaxLen then
      { portal := p, result := .errParamNull, events := [] }
    else
      match addUserGate p session currentMs with
      | some (result, events) => { portal := p, result := result, events := events }
      | none =>
        if (findUser p.users username).isSome then { portal := p, result := .errUserExists, events := [] }
        else
          let user : UserAccount :=
            { username := usernameArray username, credentialHash := hashCredential hmac credential, role := role
              active := true }
          match placeUser p.users user with
          | none => { portal := p, result := .errUsersFull, events := [] }
          | some users =>
            { portal := persistUsers storage { p with users := users }, result := .ok
              events := [{ eventType := .configWrite, sessionId := 0, ruleId := 0, detail := "User account added" }] }
  | _, _ => { portal := p, result := .errParamNull, events := [] }

def configPortalRemoveUser (session : Option ConfigSession) (username : Option (List UInt8)) (currentMs : UInt64) :
    PortalOutcome σ :=
  match session, username with
  | some session, some username =>
    if !p.initialised then { portal := p, result := .errNotInit, events := [] }
    else
      match adminGate p session "Remove user denied: not admin" currentMs with
      | some (result, events) => { portal := p, result := result, events := events }
      | none =>
        match lookupUser p.users username with
        | none => { portal := p, result := .errUserNotFound, events := [] }
        | some (idx, user) =>
          if user.role = .admin ∧ countActiveAdmins p.users ≤ 1 then
            { portal := p, result := .errLastAdmin
              events := [{ eventType := .safetyLockedRejected, sessionId := session.sessionId, ruleId := 0
                           detail := "Remove user denied: last admin" }] }
          else
            let removed := { user with active := false, credentialHash := Vector.replicate 32 0 }
            { portal := persistUsers storage { p with users := p.users.set idx removed }, result := .ok
              events := [{ eventType := .configWrite, sessionId := session.sessionId, ruleId := 0
                           detail := "User account removed" }] }
  | _, _ => { portal := p, result := .errParamNull, events := [] }

def configPortalChangeRole (session : Option ConfigSession) (username : Option (List UInt8)) (newRole : UserRole)
    (currentMs : UInt64) : PortalOutcome σ :=
  match session, username with
  | some session, some username =>
    if !p.initialised then { portal := p, result := .errNotInit, events := [] }
    else
      match adminGate p session "Role change denied: not admin" currentMs with
      | some (result, events) => { portal := p, result := result, events := events }
      | none =>
        match lookupUser p.users username with
        | none => { portal := p, result := .errUserNotFound, events := [] }
        | some (idx, user) =>
          if user.role = .admin ∧ newRole ≠ .admin ∧ countActiveAdmins p.users ≤ 1 then
            { portal := p, result := .errLastAdmin
              events := [{ eventType := .safetyLockedRejected, sessionId := session.sessionId, ruleId := 0
                           detail := "Role change denied: last admin cannot be demoted" }] }
          else
            { portal := persistUsers storage { p with users := p.users.set idx { user with role := newRole } }
              result := .ok
              events := [{ eventType := .configWrite, sessionId := session.sessionId, ruleId := 0
                           detail := "User role changed" }] }
  | _, _ => { portal := p, result := .errParamNull, events := [] }

def sessionToken (sessionId : UInt8) (currentMs : UInt64) : List UInt8 :=
  (List.range configPortalSessionTokenSize).map fun i => UInt8.ofNat (sessionId.toNat * 31 + i * 17 + currentMs.toNat)

def authFailureEvent (detail : String) : AuditEvent :=
  { eventType := .authFailure, sessionId := 0, ruleId := 0, detail := detail }

def cText (bytes : List UInt8) : String := String.ofList ((cString bytes).map fun byte => Char.ofNat byte.toNat)

/-- The session is handed out as a copy; the slot it was made in stays in the table. -/
def configPortalAuthenticate (hmac : Hmac) (username credential : Option (List UInt8)) (currentMs : UInt64) :
    PortalOutcome σ × Option ConfigSession :=
  match username, credential with
  | some username, some credential =>
    if !p.initialised then ({ portal := p, result := .errNotInit, events := [] }, none)
    else
      match lookupUser p.users username with
      | none => ({ portal := p, result := .errAuthFailed, events := [authFailureEvent "Username not found"] }, none)
      | some (idx, user) =>
        if hashCredential hmac credential ≠ user.credentialHash then
          ({ portal := p, result := .errAuthFailed, events := [authFailureEvent "Credential authentication failed"] },
            none)
        else
          match p.sessions.findIdx? fun session => !session.active with
          | none => ({ portal := p, result := .errInternal, events := [authFailureEvent "No free session slots"] }, none)
          | some slot =>
            let session : ConfigSession :=
              { sessionToken := sessionToken p.nextSessionId currentMs, sessionId := p.nextSessionId
                lastActiveMs := currentMs, active := true, userIndex := UInt8.ofNat idx, role := user.role
                username := usernameArray ((cString user.username).take (configPortalUsernameMaxLen - 1)) }
            ({ portal := { p with sessions := p.sessions.set slot session, nextSessionId := p.nextSessionId + 1 }
               result := .ok
               events :=
                [{ eventType := .sessionCreated, sessionId := session.sessionId, ruleId := 0
                   detail := "Session created" },
                  { eventType := .authSuccess, sessionId := session.sessionId, ruleId := 0, detail := cText username }] },
              some session)
  | _, _ => ({ portal := p, result := .errParamNull, events := [] }, none)

/-- The request is looked at for its rule id alone, and that goes to the log. -/
def configPortalWrite {F : Type} (session : Option ConfigSession) (request : Option (ConfigWriteRequest F))
    (currentMs : UInt64) : ConfigPortalResult × List AuditEvent :=
  match session, request with
  | some session, some request =>
    if !p.initialised then (.errNotInit, [])
    else
      match configPortalValidateSession p session currentMs with
      | .ok =>
        (.ok, [{ eventType := .configWrite, sessionId := session.sessionId, ruleId := request.ruleId
                 detail := "Config write accepted" }])
      | failed => (failed, [])
  | _, _ => (.errParamNull, [])

def configPortalRejectSafetyLocked (session : Option ConfigSession) (ruleId : UInt16) (currentMs : UInt64) :
    ConfigPortalResult × List AuditEvent :=
  match session with
  | none => (.errParamNull, [])
  | some session =>
    if !p.initialised then (.errNotInit, [])
    else
      match configPortalValidateSession p session currentMs with
      | .ok =>
        (.errSafetyLocked, [{ eventType := .safetyLockedRejected, sessionId := session.sessionId, ruleId := ruleId
                              detail := "Write rejected: SAFETY_LOCKED rule is immutable from field" }])
      | failed => (failed, [])

end Operations

/-- Logging out works on the caller's session; the table of the module is not looked at. -/
def configPortalLogout (session : Option ConfigSession) : Option ConfigSession × List AuditEvent :=
  match session with
  | none => (none, [])
  | some session =>
    if session.active then
      (some { session with active := false, sessionToken := List.replicate configPortalSessionTokenSize 0 },
        [{ eventType := .sessionExpired, sessionId := session.sessionId, ruleId := 0, detail := "Session logged out" }])
    else (some session, [])

/-! ### What the operations do to the accounts -/

section Users

variable {σ : Type} {storage : Option (ConfigPortalStorage σ)} {p : ConfigPortal σ}

@[simp] theorem persistUsers_users : (persistUsers storage p).users = p.users := by
  unfold persistUsers; split <;> rfl

@[simp] theorem persistUsers_initialised : (persistUsers storage p).initialised = p.initialised := by
  unfold persistUsers; split <;> rfl

@[simp] theorem persistUsers_sessions : (persistUsers storage p).sessions = p.sessions := by
  unfold persistUsers; split <;> rfl

/-- The arguments that `config_portal_add_user` looks at further. -/
def WellSized (username credential : List UInt8) : Prop :=
  0 < username.length ∧ username.length < configPortalUsernameMaxLen ∧ 0 < credential.length ∧
    credential.length ≤ configPortalCredentialMaxLen

theorem placeUser_cases {users placed : List UserAccount} {user : UserAccount}
    (found : placeUser users user = some placed) :
    (∃ slot other, users[slot]? = some other ∧ other.active = false ∧ placed = users.set slot user) ∨
      placed = users ++ [user] := by
  unfold placeUser at found
  split at found
  · rename_i slot free
    obtain ⟨inside, inactive, -⟩ := List.findIdx?_eq_some_iff_getElem.mp free
    refine .inl ⟨slot, users[slot], List.getElem?_eq_getElem inside, by simpa using inactive, ?_⟩
    exact (Option.some.inj found).symm
  · split_ifs at found
    exact .inr (Option.some.inj found).symm

theorem lookupUser_some {users : List UserAccount} {username : List UInt8} {idx : Nat} {user : UserAccount}
    (found : lookupUser users username = some (idx, user)) : users[idx]? = some user ∧ user.active = true := by
  unfold lookupUser at found
  obtain ⟨slot, named, at_slot⟩ := Option.bind_eq_some_iff.mp found
  obtain ⟨account, account_at, same⟩ := Option.map_eq_some_iff.mp at_slot
  obtain ⟨rfl, rfl⟩ := Prod.mk.inj same
  refine ⟨account_at, ?_⟩
  obtain ⟨inside, isNamed, -⟩ := List.findIdx?_eq_some_iff_getElem.mp named
  rw [List.getElem?_eq_getElem inside] at account_at
  rw [← Option.some.inj account_at]
  unfold UserAccount.isNamed at isNamed
  simp only [Bool.and_eq_true] at isNamed
  exact isNamed.1.1

theorem adminGate_refuses {session : ConfigSession} {denied : String} {currentMs : UInt64} {result : ConfigPortalResult}
    {events : List AuditEvent} (refused : adminGate p session denied currentMs = some (result, events)) :
    result ≠ .ok := by
  unfold adminGate at refused
  split at refused
  · cases refused
    exact ConfigPortalResult.noConfusion
  · split at refused
    · cases refused
    · rename_i failed
      obtain ⟨rfl, -⟩ := Prod.mk.inj (Option.some.inj refused)
      exact failed

theorem addUserGate_refuses {session : Option ConfigSession} {currentMs : UInt64} {result : ConfigPortalResult}
    {events : List AuditEvent} (refused : addUserGate p session currentMs = some (result, events)) : result ≠ .ok := by
  unfold addUserGate at refused
  split at refused
  · split at refused
    · cases refused
      exact ConfigPortalResult.noConfusion
    · exact adminGate_refuses refused
  · cases refused

/-- A call that changed nothing, or one that was accepted. -/
def PortalOutcome.Refused (o : PortalOutcome σ) (p : ConfigPortal σ) : Prop := o.result ≠ .ok ∧ o.portal = p

def newAccount (hmac : Hmac) (name secret : List UInt8) (role : UserRole) : UserAccount :=
  { username := usernameArray name, credentialHash := hashCredential hmac secret, role := role, active := true }

/-- A call that got past its arguments and the gate. -/
theorem configPortalAddUser_of_gate (storage : Option (ConfigPortalStorage σ)) (hmac : Hmac)
    {session : Option ConfigSession} {name secret : List UInt8} (role : UserRole) {currentMs : UInt64}
    (ready : p.initialised = true) (sized : WellSized name secret) (gate : addUserGate p session currentMs = none) :
    let o := configPortalAddUser storage p hmac session (some name) (some secret) role currentMs
    if (findUser p.users name).isSome then o.Refused p ∧ o.result = .errUserExists
    else
      match placeUser p.users (newAccount hmac name secret role) with
      | none => o.Refused p
      | some users => o.result = .ok ∧ o.portal = persistUsers storage { p with users := users } := by
  obtain ⟨some_name, short_name, some_secret, short_secret⟩ := sized
  have fits : ¬(name.length = 0 ∨ name.length ≥ configPortalUsernameMaxLen) := by omega
  have fits' : ¬(secret.length = 0 ∨ secret.length > configPortalCredentialMaxLen) := by omega
  unfold configPortalAddUser newAccount
  dsimp only
  rw [ready, Bool.not_true, if_neg Bool.false_ne_true, if_neg fits, if_neg fits', gate]
  dsimp only
  by_cases present : (findUser p.users name).isSome = true
  · rw [if_pos present, if_pos present]
    exact ⟨⟨ConfigPortalResult.noConfusion, rfl⟩, rfl⟩
  · rw [if_neg present, if_neg present]
    cases placeUser p.users { username := usernameArray name, credentialHash := hashCredential hmac secret, role := role
                              active := true } with
    | none => exact ⟨ConfigPortalResult.noConfusion, rfl⟩
    | some users => exact ⟨rfl, rfl⟩

theorem configPortalAddUser_reaches (storage : Option (ConfigPortalStorage σ)) (p : ConfigPortal σ) (hmac : Hmac)
    (session : Option ConfigSession) (username credential : Option (List UInt8)) (role : UserRole) (currentMs : UInt64) :
    (configPortalAddUser storage p hmac session username credential role currentMs).Refused p ∨
    (p.initialised = true ∧ ∃ name secret, username = some name ∧ credential = some secret ∧ WellSized name secret ∧
      addUserGate p session currentMs = none) := by
  have refused : ∀ {result : ConfigPortalResult} {events : List AuditEvent}, result ≠ .ok →
      ({ portal := p, result := result, events := events } : PortalOutcome σ).Refused p := fun failed => ⟨failed, rfl⟩
  unfold configPortalAddUser
  split
  · rename_i name secret
    by_cases fresh : (!p.initialised) = true
    · rw [if_pos fresh]
      exact .inl (refused ConfigPortalResult.noConfusion)
    rw [if_neg fresh]
    by_cases name_size : name.length = 0 ∨ name.length ≥ configPortalUsernameMaxLen
    · rw [if_pos name_size]
      exact .inl (refused ConfigPortalResult.noConfusion)
    rw [if_neg name_size]
    by_cases secret_size : secret.length = 0 ∨ secret.length > configPortalCredentialMaxLen
    · rw [if_pos secret_size]
      exact .inl (refused ConfigPortalResult.noConfusion)
    rw [if_neg secret_size]
    have sized : WellSized name secret := by
      unfold WellSized
      omega
    split
    · rename_i gate
      exact .inl (refused (addUserGate_refuses gate))
    · rename_i gate
      exact .inr ⟨by simpa using fresh, name, secret, rfl, rfl, sized, gate⟩
  · exact .inl (refused ConfigPortalResult.noConfusion)

theorem configPortalAddUser_cases (storage : Option (ConfigPortalStorage σ)) (p : ConfigPortal σ) (hmac : Hmac)
    (session : Option ConfigSession) (username credential : Option (List UInt8)) (role : UserRole) (currentMs : UInt64) :
    let o := configPortalAddUser storage p hmac session username credential role currentMs
    o.Refused p ∨
    (o.result = .ok ∧ p.initialised = true ∧
      ∃ name secret, username = some name ∧ credential = some secret ∧ WellSized name secret ∧
      addUserGate p session currentMs = none ∧ findUser p.users name = none ∧
      ∃ users, placeUser p.users (newAccount hmac name secret role) = some users ∧
      o.portal = persistUsers storage { p with users := users }) := by
  obtain refused | ⟨ready, name, secret, rfl, rfl, sized, gate⟩ :=
    configPortalAddUser_reaches storage p hmac session username credential role currentMs
  · exact .inl refused
  have past := configPortalAddUser_of_gate storage hmac role ready sized gate
  dsimp only at past
  split at past
  · exact .inl past.1
  · rename_i missing
    split at past
    · exact .inl past
    · rename_i users placed
      exact .inr ⟨past.1, ready, name, secret, rfl, rfl, sized, gate, by simpa using missing, users, placed, past.2⟩

/-- The first user of an empty table needs no session and goes to the first slot. -/
theorem configPortalAddUser_bootstrap (storage : Option (ConfigPortalStorage σ)) {p : ConfigPortal σ} (hmac : Hmac)
    (session : Option ConfigSession) {name secret : List UInt8} (sized : WellSized name secret) (role : UserRole)
    (currentMs : UInt64) (ready : p.initialised = true) (empty : p.users = []) :
    ∃ user, user.role = role ∧
      (configPortalAddUser storage p hmac session (some name) (some secret) role currentMs).portal.users = [user] := by
  have gate : addUserGate p session currentMs = none := by
    unfold addUserGate
    rw [empty, if_neg (by simp)]
  have past := configPortalAddUser_of_gate storage hmac role ready sized gate
  rw [empty] at past
  refine ⟨newAccount hmac name secret role, rfl, ?_⟩
  rw [past.2]
  exact persistUsers_users

theorem configPortalRemoveUser_cases (storage : Option (ConfigPortalStorage σ)) (p : ConfigPortal σ)
    (session : Option ConfigSession) (username : Option (List UInt8)) (currentMs : UInt64) :
    let o := configPortalRemoveUser storage p session username currentMs
    o.Refused p ∨
    (o.result = .ok ∧ ∃ holder name idx user, session = some holder ∧ username = some name ∧
      adminGate p holder "Remove user denied: not admin" currentMs = none ∧ lookupUser p.users name = some (idx, user) ∧
      ¬(user.role = .admin ∧ countActiveAdmins p.users ≤ 1) ∧
      o.portal = persistUsers storage
        { p with users := p.users.set idx { user with active := false, credentialHash := Vector.replicate 32 0 } }) := by
  unfold configPortalRemoveUser
  split
  · split
    · exact .inl ⟨ConfigPortalResult.noConfusion, rfl⟩
    · split
      · rename_i refused
        exact .inl ⟨adminGate_refuses refused, rfl⟩
      · rename_i gate
        split
        · exact .inl ⟨ConfigPortalResult.noConfusion, rfl⟩
        · rename_i found
          split
          · exact .inl ⟨ConfigPortalResult.noConfusion, rfl⟩
          · rename_i last
            exact .inr ⟨rfl, _, _, _, _, rfl, rfl, gate, found, last, rfl⟩
  · exact .inl ⟨ConfigPortalResult.noConfusion, rfl⟩

theorem configPortalChangeRole_cases (storage : Option (ConfigPortalStorage σ)) (p : ConfigPortal σ)
    (session : Option ConfigSession) (username : Option (List UInt8)) (newRole : UserRole) (currentMs : UInt64) :
    let o := configPortalChangeRole storage p session username newRole currentMs
    o.Refused p ∨
    (o.result = .ok ∧ ∃ holder name idx user, session = some holder ∧ username = some name ∧
      adminGate p holder "Role change denied: not admin" currentMs = none ∧ lookupUser p.users name = some (idx, user) ∧
      ¬(user.role = .admin ∧ newRole ≠ .admin ∧ countActiveAdmins p.users ≤ 1) ∧
      o.portal = persistUsers storage { p with users := p.users.set idx { user with role := newRole } }) := by
  unfold configPortalChangeRole
  split
  · split
    · exact .inl ⟨ConfigPortalResult.noConfusion, rfl⟩
    · split
      · rename_i refused
        exact .inl ⟨adminGate_refuses refused, rfl⟩
      · rename_i gate
        split
        · exact .inl ⟨ConfigPortalResult.noConfusion, rfl⟩
        · rename_i found
          split
          · exact .inl ⟨ConfigPortalResult.noConfusion, rfl⟩
          · rename_i last
            exact .inr ⟨rfl, _, _, _, _, rfl, rfl, gate, found, last, rfl⟩
  · exact .inl ⟨ConfigPortalResult.noConfusion, rfl⟩

/-- The name a session of this user carries. -/
def UserAccount.sessionName (user : UserAccount) : List UInt8 :=
  usernameArray ((cString user.username).take (configPortalUsernameMaxLen - 1))

/-- The accounts that let a user in with this name and credential. -/
def ValidCredential (p : ConfigPortal σ) (hmac : Hmac) (username credential : List UInt8) (idx : Nat)
    (user : UserAccount) : Prop :=
  lookupUser p.users username = some (idx, user) ∧ hashCredential hmac credential = user.credentialHash

/-- Everything `config_portal_authenticate` can do to the portal, and the session it hands out. -/
theorem configPortalAuthenticate_cases (p : ConfigPortal σ) (hmac : Hmac) (username credential : Option (List UInt8))
    (currentMs : UInt64) :
    let o := configPortalAuthenticate p hmac username credential currentMs
    (o.1.Refused p ∧ o.2 = none) ∨
    (o.1.result = .ok ∧ ∃ name secret idx user slot session, username = some name ∧ credential = some secret ∧
      ValidCredential p hmac name secret idx user ∧
      (p.sessions.findIdx? fun session => !session.active) = some slot ∧
      session.sessionId = p.nextSessionId ∧ session.lastActiveMs = currentMs ∧ session.active = true ∧
      session.role = user.role ∧ session.username = user.sessionName ∧ o.2 = some session ∧
      o.1.portal = { p with sessions := p.sessions.set slot session, nextSessionId := p.nextSessionId + 1 }) := by
  unfold configPortalAuthenticate
  split
  · split
    · exact .inl ⟨⟨ConfigPortalResult.noConfusion, rfl⟩, rfl⟩
    · split
      · exact .inl ⟨⟨ConfigPortalResult.noConfusion, rfl⟩, rfl⟩
      · rename_i found
        split
        · exact .inl ⟨⟨ConfigPortalResult.noConfusion, rfl⟩, rfl⟩
        · rename_i same
          split
          · exact .inl ⟨⟨ConfigPortalResult.noConfusion, rfl⟩, rfl⟩
          · rename_i free
            exact .inr ⟨rfl, _, _, _, _, _, _, rfl, rfl, ⟨found, Classical.not_not.mp same⟩, free, rfl, rfl, rfl, rfl, rfl,
              rfl, rfl⟩
  · exact .inl ⟨⟨ConfigPortalResult.noConfusion, rfl⟩, rfl⟩

/-- A session is made without a change of the accounts. -/
theorem configPortalAuthenticate_users (p : ConfigPortal σ) (hmac : Hmac) (username credential : Option (List UInt8))
    (currentMs : UInt64) :
    let o := (configPortalAuthenticate p hmac username credential currentMs).1
    o.portal.users = p.users ∧ o.portal.initialised = p.initialised := by
  obtain ⟨⟨-, same⟩, -⟩ | ⟨-, _, _, _, _, _, _, -, -, -, -, -, -, -, -, -, -, portal⟩ :=
    configPortalAuthenticate_cases p hmac username credential currentMs
  · exact ⟨congrArg _ same, congrArg _ same⟩
  · dsimp only
    rw [portal]
    exact ⟨rfl, rfl⟩

end Users

end IotPlatform
