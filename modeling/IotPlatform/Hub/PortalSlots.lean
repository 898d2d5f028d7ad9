import IotPlatform.Hub.PortalAuthorization

/-!
# Session slots

Every login takes a slot and nothing gives one back: a logout changes the caller's copy, and a session that has been idle
too long is refused but stays in its slot. After as many logins as there are slots the portal is closed until it is started
again.
-/

namespace IotPlatform
open Run

section Slots

variable {σ F : Type}

/-- Handed out, not logged out, and idle no longer than the timeout. -/
def PortalLedger.isLive (l : PortalLedger σ) (currentMs : UInt64) (g : Grant) : Bool :=
  decide (g.session.sessionId ∉ l.loggedOut) && decide (currentMs - g.session.lastActiveMs ≤ configPortalIdleTimeoutMs)

def PortalLedger.liveSessions (l : PortalLedger σ) (currentMs : UInt64) : Nat := l.grants.countP (l.isLive currentMs)

/-- A login with the name and the credential of an account. -/
def ValidLogin (hmac : Hmac) (l : PortalLedger σ) (op : ConsoleOp F) (currentMs : UInt64) : Prop :=
  ∃ username credential idx user, op = .account (.authenticate (some username) (some credential) currentMs) ∧
    ValidCredential l.portal hmac username credential idx user

/-- A valid login succeeds while fewer sessions are live than there are slots. -/
def SlotsReleased (storage : Option (ConfigPortalStorage σ)) (hmac : Hmac) (l : PortalLedger σ) (op : ConsoleOp F) : Prop :=
  ∀ currentMs, ValidLogin hmac l op currentMs → l.liveSessions currentMs < configPortalMaxSessions →
    (ledgerStep storage hmac l op).2 = .ok

/-- A valid login comes while fewer sessions were handed out than there are slots, or while all of those are live. -/
def SlotsUntouched (hmac : Hmac) (l : PortalLedger σ) (op : ConsoleOp F) : Prop :=
  ∀ currentMs, ValidLogin hmac l op currentMs →
    l.grants.length < configPortalMaxSessions ∨ configPortalMaxSessions ≤ l.liveSessions currentMs

/-! ### The table of slots -/

/-- The slots hold the sessions handed out, in order, and the rest is free. -/
structure PortalLedger.SlotsFilled (l : PortalLedger σ) : Prop where
  ready : l.portal.initialised = true
  fits : l.grants.length ≤ configPortalMaxSessions
  active : ∀ g ∈ l.grants, g.session.active = true
  slots : l.portal.sessions =
    l.grants.map Grant.session ++ List.replicate (configPortalMaxSessions - l.grants.length) zeroSession

variable {storage : Option (ConfigPortalStorage σ)} {hmac : Hmac} {l : PortalLedger σ}

theorem startLedger_slotsFilled (p : ConfigPortal σ) : (startLedger storage p).SlotsFilled where
  ready := rfl
  fits := Nat.zero_le _
  active := by
    intro g member
    cases member
  slots := rfl

theorem PortalLedger.SlotsFilled.none_free (filled : l.SlotsFilled) :
    ((l.grants.map Grant.session).findIdx? fun session => !session.active) = none := by
  rw [List.findIdx?_eq_none_iff]
  intro session member
  obtain ⟨g, known, rfl⟩ := List.mem_map.mp member
  rw [filled.active g known]
  rfl

theorem PortalLedger.SlotsFilled.findIdx? (filled : l.SlotsFilled) :
    (l.portal.sessions.findIdx? fun session => !session.active) =
      if l.grants.length < configPortalMaxSessions then some l.grants.length else none := by
  rw [filled.slots, List.findIdx?_append, filled.none_free, Option.none_or]
  by_cases room : l.grants.length < configPortalMaxSessions
  · obtain ⟨k, free⟩ := Nat.exists_eq_add_of_lt room
    rw [if_pos room, show configPortalMaxSessions - l.grants.length = k + 1 by omega, List.replicate_succ,
      List.findIdx?_cons]
    simp [zeroSession]
  · rw [if_neg room, show configPortalMaxSessions - l.grants.length = 0 by omega]
    rfl

theorem set_first_free {α : Type} (xs : List α) (free x : α) (k : Nat) :
    (xs ++ List.replicate (k + 1) free).set xs.length x = xs ++ [x] ++ List.replicate k free := by
  rw [List.set_append_right _ _ (Nat.le_refl _), Nat.sub_self, List.replicate_succ, List.set_cons_zero, List.append_assoc]
  rfl

theorem PortalLedger.SlotsFilled.of_same {l' : PortalLedger σ} (filled : l.SlotsFilled)
    (ready : l'.portal.initialised = l.portal.initialised) (sessions : l'.portal.sessions = l.portal.sessions)
    (grants : l'.grants.map Grant.session = l.grants.map Grant.session) : l'.SlotsFilled := by
  have length : l'.grants.length = l.grants.length := by
    have same := congrArg List.length grants
    rwa [List.length_map, List.length_map] at same
  refine ⟨ready.trans filled.ready, length ▸ filled.fits, fun g member => ?_, ?_⟩
  · have known : g.session ∈ l.grants.map Grant.session := grants ▸ List.mem_map_of_mem member
    obtain ⟨before, at_before, same⟩ := List.mem_map.mp known
    rw [← same]
    exact filled.active before at_before
  · rw [sessions, filled.slots, grants, length]

theorem map_session_settle (grants : List Grant) (slot : Option Nat) (change : Option UserRole → Option UserRole) :
    (grants.map (Grant.settle slot change)).map Grant.session = grants.map Grant.session := by
  rw [List.map_map]
  apply List.map_congr_left
  intro g _
  dsimp only [Function.comp, Grant.settle]
  split <;> rfl

theorem PortalLedger.SlotsFilled.handOut {l' : PortalLedger σ} (filled : l.SlotsFilled) {g : Grant} {slot : Nat}
    {nextSessionId : UInt8} (free : (l.portal.sessions.findIdx? fun session => !session.active) = some slot)
    (active : g.session.active = true) (grants : l'.grants = l.grants ++ [g])
    (portal : l'.portal =
      { l.portal with sessions := l.portal.sessions.set slot g.session, nextSessionId := nextSessionId }) :
    l'.SlotsFilled := by
  rw [filled.findIdx?] at free
  by_cases room : l.grants.length < configPortalMaxSessions
  · rw [if_pos room] at free
    obtain rfl := Option.some.inj free
    have left : configPortalMaxSessions - l.grants.length = configPortalMaxSessions - (l.grants.length + 1) + 1 := by omega
    refine ⟨?_, ?_, fun other member => ?_, ?_⟩
    · rw [portal]
      exact filled.ready
    · rw [grants, List.length_append]
      exact room
    · rw [grants] at member
      rcases List.mem_append.mp member with old | new
      · exact filled.active other old
      · rw [List.mem_singleton.mp new]
        exact active
    · rw [portal, grants, filled.slots, left, List.map_append, List.length_append, ← List.length_map Grant.session]
      exact set_first_free _ _ _ _
  · rw [if_neg room] at free
    cases free

theorem acceptedCall_slotsFilled (filled : l.SlotsFilled) {op : PortalOp} {l' : PortalLedger σ}
    (call : AcceptedCall storage hmac l.portal l'.portal op) (grants : l'.grants = l.record hmac op) : l'.SlotsFilled := by
  have persisted : ∀ {users : List UserAccount}, l'.portal = persistUsers storage { l.portal with users := users } →
      l'.grants.map Grant.session = l.grants.map Grant.session → l'.SlotsFilled := by
    intro users after sessions
    refine filled.of_same ?_ ?_ sessions
    · rw [after, persistUsers_initialised]
    · rw [after, persistUsers_sessions]
  cases call with
  | addUser gate placed after => exact persisted after (congrArg _ grants)
  | removeUser gate found after => exact persisted after (grants ▸ map_session_settle ..)
  | changeRole gate found after => exact persisted after (grants ▸ map_session_settle ..)
  | authenticate found free active role named handed after =>
    dsimp only [PortalLedger.record] at grants
    rw [handed, Option.bind_some, findUser_of_lookup found] at grants
    exact filled.handOut free active grants after
  | logout after => exact filled.of_same (congrArg _ after) (congrArg _ after) (congrArg _ grants)

theorem ledgerStep_slotsFilled (filled : l.SlotsFilled) (op : ConsoleOp F) :
    (ledgerStep storage hmac l op).1.SlotsFilled := by
  cases op with
  | write session request currentMs => exact filled
  | account op =>
    obtain ⟨-, portal, grants⟩ | ⟨-, call, grants⟩ := ledgerStep_cases (F := F) storage hmac l op
    · exact filled.of_same (congrArg _ portal) (congrArg _ portal) (congrArg _ grants)
    · exact acceptedCall_slotsFilled filled call grants

/-! ### A login and the slots -/

theorem configPortalAuthenticate_valid {p : ConfigPortal σ} (ready : p.initialised = true) {username credential : List UInt8}
    {idx : Nat} {user : UserAccount} (valid : ValidCredential p hmac username credential idx user) (currentMs : UInt64) :
    (configPortalAuthenticate p hmac (some username) (some credential) currentMs).1.result = .ok ↔
      (p.sessions.findIdx? fun session => !session.active).isSome = true := by
  obtain ⟨found, same⟩ := valid
  unfold configPortalAuthenticate
  dsimp only
  rw [ready, Bool.not_true, if_neg Bool.false_ne_true, found]
  dsimp only
  rw [if_neg (not_not_intro same)]
  cases free : p.sessions.findIdx? fun session => !session.active with
  | none => simp
  | some slot => simp

theorem validLogin_ok_iff (filled : l.SlotsFilled) {op : ConsoleOp F} {currentMs : UInt64}
    (valid : ValidLogin hmac l op currentMs) :
    (ledgerStep storage hmac l op).2 = .ok ↔ l.grants.length < configPortalMaxSessions := by
  obtain ⟨username, credential, idx, user, rfl, credentials⟩ := valid
  refine (configPortalAuthenticate_valid filled.ready credentials currentMs).trans ?_
  rw [filled.findIdx?]
  by_cases room : l.grants.length < configPortalMaxSessions
  · simp [room]
  · simp [room]

/-- In a run every valid login gets a slot while fewer sessions are live than there are slots, exactly when each comes while
fewer were handed out, or all of those are live. -/
theorem session_slots_exact (storage : Option (ConfigPortalStorage σ)) (hmac : Hmac) (p : ConfigPortal σ)
    (ops : List (ConsoleOp F)) :
    EachStep (SlotsReleased storage hmac) (ledgerStep storage hmac) (startLedger storage p) ops ↔
      EachStep (SlotsUntouched hmac) (ledgerStep storage hmac) (startLedger storage p) ops := by
  apply eachStep_iff_of_invariant (startLedger_slotsFilled p) fun l op filled => ledgerStep_slotsFilled filled op
  intro l op filled
  constructor
  · intro released currentMs valid
    rcases Nat.lt_or_ge (l.liveSessions currentMs) configPortalMaxSessions with free | busy
    · exact .inl ((validLogin_ok_iff filled valid).mp (released currentMs valid free))
    · exact .inr busy
  · intro untouched currentMs valid free
    rcases untouched currentMs valid with room | busy
    · exact (validLogin_ok_iff filled valid).mpr room
    · exact absurd free (Nat.not_lt.mpr busy)

end Slots

def loginAndOut (id : UInt8) : List (ConsoleOp Unit) :=
  [.account firstLogin,
    .account (.logout (some { firstSession with sessionId := id, sessionToken := sessionToken id 0 }))]

def fourLogins : List (ConsoleOp Unit) :=
  .account (firstAccount .admin) :: (loginAndOut 1 ++ loginAndOut 2 ++ loginAndOut 3 ++ loginAndOut 4)

/-- After four logins, each logged out again, nobody is logged in and nobody can log in. -/
theorem fifth_login_refused :
    ¬∀ ops : List (ConsoleOp Unit), EachStep (SlotsReleased (some ramPortalStorage) lengthHmac)
      (ledgerStep (some ramPortalStorage) lengthHmac) (startLedger (some ramPortalStorage) freshPortal) ops := by
  intro released
  have last := eachStep_iff.mp (released (fourLogins ++ [.account firstLogin])) 9 (.account firstLogin) rfl
  have accepted := last 0 ⟨[0x61], [0x31], 0, _, rfl, rfl, rfl⟩ (by decide)
  revert accepted
  decide

end IotPlatform
