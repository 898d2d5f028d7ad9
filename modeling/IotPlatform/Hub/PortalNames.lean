import IotPlatform.Hub.PortalSlots

/-!
# Names of the portal's users

A name comes as bytes with a length and is kept as a C string, so the module knows its users by what stands before the first
zero byte. An account is found under the bytes it was made with exactly when there is no zero byte among them.
-/

namespace IotPlatform
open Run

/-- A call that makes or removes an account. Only the session of the first user may be a null pointer. -/
inductive AccountCall where
  | add (session : Option ConfigSession) (name secret : List UInt8) (role : UserRole) (currentMs : UInt64)
  | remove (session : ConfigSession) (name : List UInt8) (currentMs : UInt64)

def AccountCall.op : AccountCall → PortalOp
  | .add session name secret role currentMs => .addUser session (some name) (some secret) role currentMs
  | .remove session name currentMs => .removeUser (some session) (some name) currentMs

/-- Removing needs no such condition: an account is removed under the name it is found by. -/
def AccountCall.ZeroFree : AccountCall → Prop
  | .add _ name _ _ _ => ∀ byte ∈ name, byte ≠ 0
  | .remove .. => True

/-- An account that a call made and none has removed, with the bytes that call was given. -/
structure Enrolment where
  slot : Nat
  name : List UInt8
  secret : List UInt8

structure NameBook (σ : Type) where
  portal : ConfigPortal σ
  enrolments : List Enrolment

/-- The slot that the next account goes to. -/
def freeSlot (users : List UserAccount) : Nat := (users.findIdx? fun other => !other.active).getD users.length

/-- The stored names of the active accounts are pairwise distinct. -/
def NamesApart (users : List UserAccount) : Prop :=
  ∀ (i j : Nat) (user other : UserAccount), users[i]? = some user → users[j]? = some other → user.active = true →
    other.active = true → cString user.username = cString other.username → i = j

section Book

variable {σ : Type}

def NameBook.record (b : NameBook σ) : AccountCall → List Enrolment
  | .add _ name secret _ _ => { slot := freeSlot b.portal.users, name := name, secret := secret } :: b.enrolments
  | .remove _ name _ => b.enrolments.filter fun e => findUser b.portal.users name ≠ some e.slot

def enrolStep (storage : Option (ConfigPortalStorage σ)) (hmac : Hmac) (b : NameBook σ) (call : AccountCall) :
    NameBook σ × ConfigPortalResult :=
  let (portal, result) := portalStep storage hmac b.portal call.op
  ({ portal := portal, enrolments := if result = .ok then b.record call else b.enrolments }, result)

def startBook (storage : Option (ConfigPortalStorage σ)) (p : ConfigPortal σ) : NameBook σ :=
  { portal := configPortalInit storage p, enrolments := [] }

structure UsersIdentified (storage : Option (ConfigPortalStorage σ)) (hmac : Hmac) (b : NameBook σ) : Prop where
  distinct : NamesApart b.portal.users
  /-- A second account of that name is refused to whoever may add one. -/
  taken : ∀ e ∈ b.enrolments, ∀ session secret role currentMs, WellSized e.name secret →
    addUserGate b.portal session currentMs = none →
    (configPortalAddUser storage b.portal hmac session (some e.name) (some secret) role currentMs).result = .errUserExists
  letIn : ∀ e ∈ b.enrolments, ∀ currentMs,
    (configPortalAuthenticate b.portal hmac (some e.name) (some e.secret) currentMs).1.result = .ok

/-! ### Finding an account -/

section Names

variable {users users' : List UserAccount} {user : UserAccount} {username : List UInt8} {slot : Nat}

theorem cString_usernameArray (short : username.length < configPortalUsernameMaxLen)
    (printable : ∀ byte ∈ username, byte ≠ 0) : cString (usernameArray username) = username := by
  obtain ⟨k, room⟩ := Nat.exists_eq_add_of_lt short
  rw [usernameArray, show configPortalUsernameMaxLen - username.length = k + 1 by omega, List.replicate_succ]
  exact cString_of_forall _ printable

theorem isNamed_iff : user.isNamed username = true ↔ user.active = true ∧ cString user.username = username := by
  have text : cString user.username = user.username.take (cString user.username).length :=
    List.prefix_iff_eq_take.mp (List.takeWhile_prefix _)
  simp only [UserAccount.isNamed, Bool.and_eq_true, decide_eq_true_eq, and_assoc, and_congr_right_iff]
  intro _
  constructor
  · rintro ⟨length, bytes⟩
    rw [text, length, bytes]
  · intro same
    exact ⟨congrArg _ same, by rw [← same, ← text]⟩

theorem findUser_of_apart (apart : NamesApart users) (at_slot : users[slot]? = some user) (active : user.active = true) :
    findUser users (cString user.username) = some slot := by
  have named : user.isNamed (cString user.username) = true := isNamed_iff.mpr ⟨active, rfl⟩
  obtain ⟨inside, at_slot'⟩ := List.getElem?_eq_some_iff.mp at_slot
  refine List.findIdx?_eq_some_iff_getElem.mpr ⟨inside, at_slot' ▸ named, ?_⟩
  intro earlier before also
  obtain ⟨active', same⟩ := isNamed_iff.mp also
  have equal := apart earlier slot _ user (List.getElem?_eq_getElem (by omega)) at_slot active' active same
  omega

theorem ne_of_findUser_none (missing : findUser users username = none) (at_slot : users[slot]? = some user)
    (active : user.active = true) : cString user.username ≠ username := by
  intro same
  have unnamed := List.findIdx?_eq_none_iff.mp missing user (List.mem_of_getElem? at_slot)
  rw [isNamed_iff.mpr ⟨active, same⟩] at unnamed
  cases unnamed

/-- An account of the table is found under the text of its name, which has no zero byte. -/
theorem zeroFree_of_lookup (found : lookupUser users username = some (slot, user)) : ∀ byte ∈ username, byte ≠ 0 := by
  obtain ⟨inside, named, -⟩ := List.findIdx?_eq_some_iff_getElem.mp (findUser_of_lookup found)
  obtain ⟨-, text⟩ := isNamed_iff.mp named
  intro byte member
  rw [← text] at member
  exact ne_zero_of_mem_cString member

theorem placeUser_getElem? (placed : placeUser users user = some users') (k : Nat) :
    users'[k]? = if k = freeSlot users then some user else users[k]? := by
  unfold placeUser at placed
  unfold freeSlot
  cases free : users.findIdx? fun other => !other.active with
  | some slot =>
    rw [free] at placed
    obtain ⟨inside, -, -⟩ := List.findIdx?_eq_some_iff_getElem.mp free
    rw [← Option.some.inj placed, List.getElem?_set, if_pos inside, Option.getD_some]
    simp only [eq_comm]
  | none =>
    rw [free] at placed
    dsimp only at placed
    split at placed
    · cases placed
    · rw [← Option.some.inj placed, Option.getD_none]
      by_cases last : k = users.length
      · rw [if_pos last, last, List.getElem?_concat_length]
      · rw [if_neg last, List.getElem?_append]
        split
        · rfl
        · rw [List.getElem?_eq_none (by simp; omega), List.getElem?_eq_none (by omega)]

theorem freeSlot_inactive (at_slot : users[freeSlot users]? = some user) : user.active = false := by
  unfold freeSlot at at_slot
  cases free : users.findIdx? fun other => !other.active with
  | some slot =>
    obtain ⟨inside, inactive, -⟩ := List.findIdx?_eq_some_iff_getElem.mp free
    rw [free, Option.getD_some, List.getElem?_eq_getElem inside] at at_slot
    rw [← Option.some.inj at_slot]
    simpa using inactive
  | none =>
    rw [free, Option.getD_none, List.getElem?_eq_none (Nat.le_refl _)] at at_slot
    cases at_slot

/-- One account is written, under a name that no other active account has. -/
theorem NamesApart.write (apart : NamesApart users) (written : ∀ k, users'[k]? = if k = slot then some user else users[k]?)
    (fresh : user.active = true → ∀ (k : Nat) (other : UserAccount), users[k]? = some other →
      other.active = true → cString other.username ≠ cString user.username) : NamesApart users' := by
  intro i j first second at_i at_j active_i active_j same
  rw [written] at at_i at_j
  by_cases own_i : i = slot
  · by_cases own_j : j = slot
    · rw [own_i, own_j]
    · rw [if_pos own_i] at at_i
      rw [if_neg own_j] at at_j
      obtain rfl := Option.some.inj at_i
      exact absurd same.symm (fresh active_i j second at_j active_j)
  · rw [if_neg own_i] at at_i
    by_cases own_j : j = slot
    · rw [if_pos own_j] at at_j
      obtain rfl := Option.some.inj at_j
      exact absurd same (fresh active_j i first at_i active_i)
    · rw [if_neg own_j] at at_j
      exact apart i j first second at_i at_j active_i active_j same

end Names

variable {storage : Option (ConfigPortalStorage σ)} {hmac : Hmac} {p : ConfigPortal σ}

/-! ### What the calls do to the names -/

/-- The account of an enrolment is in its slot, under the name it was asked for. -/
def Enrolment.Holds (hmac : Hmac) (users : List UserAccount) (e : Enrolment) : Prop :=
  ∃ user, users[e.slot]? = some user ∧ user.active = true ∧ cString user.username = e.name ∧
    user.credentialHash = hashCredential hmac e.secret

structure NameBook.Kept (hmac : Hmac) (b : NameBook σ) : Prop where
  ready : b.portal.initialised = true
  room : (b.portal.sessions.findIdx? fun session => !session.active).isSome = true
  apart : NamesApart b.portal.users
  held : ∀ e ∈ b.enrolments, e.Holds hmac b.portal.users

variable {b : NameBook σ}

theorem NameBook.Kept.identified (kept : b.Kept hmac) (storage : Option (ConfigPortalStorage σ)) :
    UsersIdentified storage hmac b where
  distinct := kept.apart
  taken e member session secret role currentMs sized gate := by
    obtain ⟨user, at_slot, active, text, -⟩ := kept.held e member
    have found := findUser_of_apart kept.apart at_slot active
    rw [text] at found
    have past := configPortalAddUser_of_gate storage hmac role kept.ready sized gate
    rw [found] at past
    exact past.2
  letIn e member currentMs := by
    obtain ⟨user, at_slot, active, text, hash⟩ := kept.held e member
    have found := findUser_of_apart kept.apart at_slot active
    rw [text] at found
    have valid : ValidCredential b.portal hmac e.name e.secret e.slot user :=
      ⟨by rw [lookupUser, found, Option.bind_some, at_slot, Option.map_some], hash.symm⟩
    exact (configPortalAuthenticate_valid kept.ready valid currentMs).mpr kept.room

/-- Writing one slot leaves the accounts in the others as they are. -/
theorem Enrolment.Holds.write {users users' : List UserAccount} {e : Enrolment} (holds : e.Holds hmac users) {slot : Nat}
    {user : UserAccount} (written : ∀ k, users'[k]? = if k = slot then some user else users[k]?) (apart : e.slot ≠ slot) :
    e.Holds hmac users' := by
  obtain ⟨account, at_slot, rest⟩ := holds
  exact ⟨account, by rw [written, if_neg apart, at_slot], rest⟩

theorem NameBook.Kept.persist (kept : b.Kept hmac) {b' : NameBook σ} {users : List UserAccount}
    (portal : b'.portal = persistUsers storage { b.portal with users := users }) (apart : NamesApart users)
    (held : ∀ e ∈ b'.enrolments, e.Holds hmac users) : b'.Kept hmac := by
  refine ⟨?_, ?_, ?_, ?_⟩
  · rw [portal, persistUsers_initialised]
    exact kept.ready
  · rw [portal, persistUsers_sessions]
    exact kept.room
  · rw [portal, persistUsers_users]
    exact apart
  · rw [portal, persistUsers_users]
    exact held

theorem NameBook.Kept.add (kept : b.Kept hmac) {session : Option ConfigSession} {name secret : List UInt8} {role : UserRole}
    {currentMs : UInt64} (zeroFree : ∀ byte ∈ name, byte ≠ 0) {b' : NameBook σ} {users : List UserAccount}
    (sized : WellSized name secret) (missing : findUser b.portal.users name = none)
    (placed : placeUser b.portal.users (newAccount hmac name secret role) = some users)
    (portal : b'.portal = persistUsers storage { b.portal with users := users })
    (enrolments : b'.enrolments = b.record (.add session name secret role currentMs)) : b'.Kept hmac := by
  have written := placeUser_getElem? placed
  have text : cString (newAccount hmac name secret role).username = name := cString_usernameArray sized.2.1 zeroFree
  refine kept.persist portal (kept.apart.write written fun _ k other at_k active => ?_) fun e member => ?_
  · rw [text]
    exact ne_of_findUser_none missing at_k active
  · rw [enrolments] at member
    obtain rfl | member := List.mem_cons.mp member
    · exact ⟨_, by rw [written, if_pos rfl], rfl, text, rfl⟩
    · have holds := kept.held e member
      refine holds.write written fun same => ?_
      obtain ⟨user, at_slot, active, -⟩ := holds
      rw [same] at at_slot
      rw [freeSlot_inactive at_slot] at active
      cases active

theorem NameBook.Kept.remove (kept : b.Kept hmac) {session : ConfigSession} {name : List UInt8} {currentMs : UInt64}
    {b' : NameBook σ} {idx : Nat} {user : UserAccount} {hash : Digest}
    (found : lookupUser b.portal.users name = some (idx, user))
    (portal : b'.portal = persistUsers storage
      { b.portal with users := b.portal.users.set idx { user with active := false, credentialHash := hash } })
    (enrolments : b'.enrolments = b.record (.remove session name currentMs)) : b'.Kept hmac := by
  obtain ⟨inside, -⟩ := List.getElem?_eq_some_iff.mp (lookupUser_some found).1
  have written : ∀ k, (b.portal.users.set idx { user with active := false, credentialHash := hash })[k]? =
      if k = idx then some { user with active := false, credentialHash := hash } else b.portal.users[k]? := by
    intro k
    rw [List.getElem?_set, if_pos inside]
    simp only [eq_comm]
  refine kept.persist portal (kept.apart.write written fun active => nomatch active) fun e member => ?_
  rw [enrolments] at member
  obtain ⟨member, other⟩ := List.mem_filter.mp member
  rw [findUser_of_lookup found] at other
  exact (kept.held e member).write written fun same => by simp [same] at other

theorem enrolStep_kept (kept : b.Kept hmac) (call : AccountCall)
    (zeroFree : (enrolStep storage hmac b call).2 = .ok → call.ZeroFree) : (enrolStep storage hmac b call).1.Kept hmac := by
  obtain ⟨refused, same⟩ | ⟨accepted, -⟩ := portalStep_cases storage hmac b.portal call.op
  · have unchanged : (enrolStep storage hmac b call).1 = b := by
      unfold enrolStep
      dsimp only
      rw [if_neg refused, same]
    rw [unchanged]
    exact kept
  have recorded : (enrolStep storage hmac b call).1.enrolments = b.record call := if_pos accepted
  cases call with
  | add session name secret role currentMs =>
    obtain ⟨refused, -⟩ | ⟨-, -, _, _, same, same', sized, -, missing, users, placed, portal⟩ :=
      configPortalAddUser_cases storage b.portal hmac session (some name) (some secret) role currentMs
    · exact absurd accepted refused
    obtain rfl := Option.some.inj same
    obtain rfl := Option.some.inj same'
    exact kept.add (zeroFree accepted) sized missing placed portal recorded
  | remove session name currentMs =>
    obtain ⟨refused, -⟩ | ⟨-, _, _, idx, user, -, same, -, found, -, portal⟩ :=
      configPortalRemoveUser_cases storage b.portal (some session) (some name) currentMs
    · exact absurd accepted refused
    · obtain rfl := Option.some.inj same
      exact kept.remove found portal recorded

/-- A new user that can log in was given a name without a zero byte. -/
theorem zeroFree_of_identified {call : AccountCall}
    (identified : UsersIdentified storage hmac (enrolStep storage hmac b call).1)
    (accepted : (enrolStep storage hmac b call).2 = .ok) : call.ZeroFree := by
  cases call with
  | add session name secret role currentMs =>
    have new : { slot := freeSlot b.portal.users, name := name, secret := secret } ∈
        (enrolStep storage hmac b (.add session name secret role currentMs)).1.enrolments := by
      rw [show (enrolStep storage hmac b (.add session name secret role currentMs)).1.enrolments = _ from if_pos accepted]
      exact List.mem_cons_self
    have letIn := identified.letIn _ new 0
    obtain ⟨⟨refused, -⟩, -⟩ | ⟨-, _, _, idx, user, _, _, same, -, ⟨found, -⟩, -⟩ :=
      configPortalAuthenticate_cases (enrolStep storage hmac b (.add session name secret role currentMs)).1.portal hmac
        (some name) (some secret) 0
    · exact absurd letIn refused
    · obtain rfl := Option.some.inj same
      exact zeroFree_of_lookup found
  | remove => trivial

theorem usersIdentified_iff_eachStep {b : NameBook σ} (kept : b.Kept hmac) (calls : List AccountCall) :
    Always (UsersIdentified storage hmac) (enrolStep storage hmac) b calls ↔
      EachStep (fun b call => (enrolStep storage hmac b call).2 = .ok → call.ZeroFree) (enrolStep storage hmac) b calls :=
  always_iff_eachStep kept (fun _ kept => kept.identified storage)
    (fun _ call kept zeroFree => enrolStep_kept kept call zeroFree)
    (fun _ _ _ identified accepted => zeroFree_of_identified identified accepted) calls

/-- Through a sequence of accepted calls names identify users exactly when no account is made under a name with a zero byte. -/
theorem usernames_identify_iff (storage : Option (ConfigPortalStorage σ)) (hmac : Hmac) (p : ConfigPortal σ)
    (calls : List AccountCall) (loaded : NamesApart (configPortalInit storage p).users)
    (accepted : ∀ result ∈ outputs (enrolStep storage hmac) (startBook storage p) calls, result = .ok) :
    Always (UsersIdentified storage hmac) (enrolStep storage hmac) (startBook storage p) calls ↔
      ∀ call ∈ calls, call.ZeroFree := by
  have start : (startBook storage p).Kept hmac := ⟨rfl, rfl, loaded, fun e member => nomatch member⟩
  rw [usersIdentified_iff_eachStep start, eachStep_iff]
  constructor
  · intro each call member
    obtain ⟨n, at_n⟩ := List.mem_iff_getElem?.mp member
    apply each n call at_n
    apply accepted
    refine List.mem_of_getElem? (i := n) ?_
    rw [getElem?_outputs, at_n, Option.map_some]
  · intro zeroFree n call at_n _
    exact zeroFree call (List.mem_of_getElem? at_n)

end Book

/-- Two accounts, the second removed again. -/
def aliceAndBob : List AccountCall :=
  [.add none [0x61] [0x31] .admin 0, .add (some firstSession) [0x62] [0x32] .technician 0, .remove firstSession [0x62] 0]

theorem usernames_identify_alice_and_bob :
    Always (UsersIdentified (some ramPortalStorage) lengthHmac) (enrolStep (some ramPortalStorage) lengthHmac)
      (startBook (some ramPortalStorage) freshPortal) aliceAndBob := by
  refine (usernames_identify_iff (some ramPortalStorage) lengthHmac freshPortal aliceAndBob ?_ (by decide)).mpr ?_
  · intro i j user other at_i
    cases at_i
  · simp [aliceAndBob, AccountCall.ZeroFree]

/-- The name of the account is the one byte before the zero, and nobody is found under all three. -/
theorem name_with_zero_not_found :
    ¬∀ calls : List AccountCall,
      (∀ result ∈ outputs (enrolStep (some ramPortalStorage) lengthHmac) (startBook (some ramPortalStorage) freshPortal) calls,
        result = .ok) →
      Always (UsersIdentified (some ramPortalStorage) lengthHmac) (enrolStep (some ramPortalStorage) lengthHmac)
        (startBook (some ramPortalStorage) freshPortal) calls := by
  intro identified
  have made := identified [.add none [0x61, 0x00, 0x62] [0x31] .admin 0] (by decide) 1
  have letIn := made.letIn { slot := 0, name := [0x61, 0x00, 0x62], secret := [0x31] } List.mem_cons_self 0
  revert letIn
  decide

end IotPlatform
