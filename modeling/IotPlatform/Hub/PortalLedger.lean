import IotPlatform.Hub.PortalAdmins

/-!
# What the portal has handed out

The portal keeps accounts and session slots, and callers keep copies of the sessions they were given. The ledger beside a
run records every session handed out, the ids that were logged out, and what the accepted calls since have left of the
account a session was made for.
-/

namespace IotPlatform
open Run

/-- A session handed out for the account in `slot`. `standing` is that account's role by the calls accepted since, and
`none` once it has been removed. -/
structure Grant where
  session : ConfigSession
  slot : Nat
  standing : Option UserRole

structure PortalLedger (σ : Type) where
  portal : ConfigPortal σ
  grants : List Grant
  loggedOut : List UInt8

inductive ConsoleOp (F : Type) where
  | account (op : PortalOp)
  | write (session : Option ConfigSession) (request : Option (ConfigWriteRequest F)) (currentMs : UInt64)

def Grant.settle (slot : Option Nat) (change : Option UserRole → Option UserRole) (g : Grant) : Grant :=
  if slot = some g.slot then { g with standing := change g.standing } else g

section Ledger

variable {σ F : Type}

def PortalLedger.record (l : PortalLedger σ) (hmac : Hmac) : PortalOp → List Grant
  | .addUser .. => l.grants
  | .removeUser _ username _ =>
    l.grants.map (Grant.settle (username.bind (findUser l.portal.users)) fun _ => none)
  | .changeRole _ username newRole _ =>
    l.grants.map (Grant.settle (username.bind (findUser l.portal.users)) (Option.map fun _ => newRole))
  | .authenticate username credential currentMs =>
    match (configPortalAuthenticate l.portal hmac username credential currentMs).2,
      username.bind (findUser l.portal.users) with
    | some session, some slot => l.grants ++ [{ session := session, slot := slot, standing := some session.role }]
    | _, _ => l.grants
  | .logout _ => l.grants

def PortalLedger.recordLogout (l : PortalLedger σ) : PortalOp → List UInt8
  | .logout (some session) => if session.active then session.sessionId :: l.loggedOut else l.loggedOut
  | _ => l.loggedOut

def ledgerStep (storage : Option (ConfigPortalStorage σ)) (hmac : Hmac) (l : PortalLedger σ) :
    ConsoleOp F → PortalLedger σ × ConfigPortalResult
  | .account op =>
    let (portal, result) := portalStep storage hmac l.portal op
    ({ portal := portal, grants := if result = .ok then l.record hmac op else l.grants
       loggedOut := l.recordLogout op }, result)
  | .write session request currentMs => (l, (configPortalWrite l.portal session request currentMs).1)

def startLedger (storage : Option (ConfigPortalStorage σ)) (p : ConfigPortal σ) : PortalLedger σ :=
  { portal := configPortalInit storage p, grants := [], loggedOut := [] }

/-- What an accepted call has checked, and how it leaves the portal. -/
inductive AcceptedCall (storage : Option (ConfigPortalStorage σ)) (hmac : Hmac) (p p' : ConfigPortal σ) : PortalOp → Prop
  | addUser {session : Option ConfigSession} {username credential : Option (List UInt8)} {role : UserRole}
      {currentMs : UInt64} {user : UserAccount} {users : List UserAccount}
      (gate : addUserGate p session currentMs = none) (placed : placeUser p.users user = some users)
      (after : p' = persistUsers storage { p with users := users }) :
      AcceptedCall storage hmac p p' (.addUser session username credential role currentMs)
  | removeUser {holder : ConfigSession} {name : List UInt8} {currentMs : UInt64} {idx : Nat} {user removed : UserAccount}
      (gate : adminGate p holder "Remove user denied: not admin" currentMs = none)
      (found : lookupUser p.users name = some (idx, user))
      (after : p' = persistUsers storage { p with users := p.users.set idx removed }) :
      AcceptedCall storage hmac p p' (.removeUser (some holder) (some name) currentMs)
  | changeRole {holder : ConfigSession} {name : List UInt8} {newRole : UserRole} {currentMs : UInt64} {idx : Nat}
      {user : UserAccount} (gate : adminGate p holder "Role change denied: not admin" currentMs = none)
      (found : lookupUser p.users name = some (idx, user))
      (after : p' = persistUsers storage { p with users := p.users.set idx { user with role := newRole } }) :
      AcceptedCall storage hmac p p' (.changeRole (some holder) (some name) newRole currentMs)
  | authenticate {name secret : List UInt8} {currentMs : UInt64} {idx : Nat} {user : UserAccount} {slot : Nat}
      {session : ConfigSession} (found : lookupUser p.users name = some (idx, user))
      (free : (p.sessions.findIdx? fun session => !session.active) = some slot) (active : session.active = true)
      (role : session.role = user.role) (named : session.username = user.sessionName)
      (handed : (configPortalAuthenticate p hmac (some name) (some secret) currentMs).2 = some session)
      (after : p' = { p with sessions := p.sessions.set slot session, nextSessionId := p.nextSessionId + 1 }) :
      AcceptedCall storage hmac p p' (.authenticate (some name) (some secret) currentMs)
  | logout {session : Option ConfigSession} (after : p' = p) : AcceptedCall storage hmac p p' (.logout session)

theorem portalStep_cases (storage : Option (ConfigPortalStorage σ)) (hmac : Hmac) (p : ConfigPortal σ) (op : PortalOp) :
    ((portalStep storage hmac p op).2 ≠ .ok ∧ (portalStep storage hmac p op).1 = p) ∨
    ((portalStep storage hmac p op).2 = .ok ∧ AcceptedCall storage hmac p (portalStep storage hmac p op).1 op) := by
  cases op with
  | addUser session username credential role currentMs =>
    exact (configPortalAddUser_cases storage p hmac session username credential role currentMs).imp_right
      fun ⟨accepted, _, _, _, _, _, _, gate, _, _, placed, after⟩ => ⟨accepted, .addUser gate placed after⟩
  | removeUser session username currentMs =>
    refine (configPortalRemoveUser_cases storage p session username currentMs).imp_right ?_
    rintro ⟨accepted, holder, name, idx, user, rfl, rfl, gate, found, -, after⟩
    exact ⟨accepted, .removeUser gate found after⟩
  | changeRole session username newRole currentMs =>
    refine (configPortalChangeRole_cases storage p session username newRole currentMs).imp_right ?_
    rintro ⟨accepted, holder, name, idx, user, rfl, rfl, gate, found, -, after⟩
    exact ⟨accepted, .changeRole gate found after⟩
  | authenticate username credential currentMs =>
    refine (configPortalAuthenticate_cases p hmac username credential currentMs).imp And.left ?_
    rintro ⟨accepted, name, secret, idx, user, slot, session, rfl, rfl, ⟨found, -⟩, free, -, -, active, role, named, handed,
      after⟩
    exact ⟨accepted, .authenticate found free active role named handed after⟩
  | logout session => exact .inr ⟨rfl, .logout rfl⟩

theorem ledgerStep_cases (storage : Option (ConfigPortalStorage σ)) (hmac : Hmac) (l : PortalLedger σ) (op : PortalOp) :
    let l' := (ledgerStep (F := F) storage hmac l (.account op)).1
    ((ledgerStep (F := F) storage hmac l (.account op)).2 ≠ .ok ∧ l'.portal = l.portal ∧ l'.grants = l.grants) ∨
    ((ledgerStep (F := F) storage hmac l (.account op)).2 = .ok ∧
      AcceptedCall storage hmac l.portal l'.portal op ∧ l'.grants = l.record hmac op) := by
  obtain ⟨refused, same⟩ | ⟨accepted, call⟩ := portalStep_cases storage hmac l.portal op
  · exact .inl ⟨refused, same, if_neg refused⟩
  · exact .inr ⟨accepted, call, if_pos accepted⟩

theorem findUser_of_lookup {users : List UserAccount} {username : List UInt8} {idx : Nat} {user : UserAccount}
    (found : lookupUser users username = some (idx, user)) : findUser users username = some idx := by
  unfold lookupUser at found
  obtain ⟨slot, named, at_slot⟩ := Option.bind_eq_some_iff.mp found
  obtain ⟨account, -, same⟩ := Option.map_eq_some_iff.mp at_slot
  rw [named, (Prod.mk.inj same).1]

end Ledger

end IotPlatform
