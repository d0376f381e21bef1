import SportsBetting.Async.Joint
import SportsBetting.Data.Text
import SportsBetting.Shared.Crypto
import SportsBetting.Staff.Scope

/-!
# Staff authentication

Refresh tokens and passwords are stored as hashes. The server reads its clock
where a call is carried out. For every session that is created the model notes
how it came about, and for every refresh which session it revoked.
-/

namespace SportsBetting

open Async Text

namespace StaffSessions

/-- A new session; fails on a taken token hash. -/
def create? (sessions : StaffSessions) (staffUserId refreshTokenHash : String) (expiresAt : Time) :
    Option StaffSessions :=
  match inserted : sessions.table.insert?
      ⟨sessions.next, staffUserId, refreshTokenHash, expiresAt, none⟩ with
  | none => none
  | some table => some
      { table
        next := sessions.next + 1
        numbered := by
          intro session stored
          rcases ((Table.insert?_spec inserted).2 session).mp stored with old | rfl
          · exact Nat.lt_succ_of_lt (sessions.numbered session old)
          · exact Nat.lt_succ_self _ }

/-- Set when the chosen sessions were revoked. -/
def revoke (sessions : StaffSessions) (chosen : StaffSession → Bool) (now : Time) :
    StaffSessions where
  table := sessions.table.updateWhere chosen fun session => { session with revokedAt := some now }
  next := sessions.next
  numbered := by
    intro session stored
    rcases Table.updateWhere_cases stored with ⟨old, present, _, rfl⟩ | ⟨present, _⟩
    · exact sessions.numbered old present
    · exact sessions.numbered session present

def deleteWhere (sessions : StaffSessions) (doomed : StaffSession → Bool) : StaffSessions where
  table := sessions.table.deleteWhere doomed
  next := sessions.next
  numbered session stored := sessions.numbered session (Table.mem_deleteWhere.mp stored).1

variable {sessions after : StaffSessions} {session : StaffSession}

theorem mem_create? {staffUserId refreshTokenHash : String} {expiresAt : Time}
    (created : sessions.create? staffUserId refreshTokenHash expiresAt = some after) :
    after.next = sessions.next + 1 ∧ ∀ session, session ∈ after.table ↔
      session ∈ sessions.table ∨
        session = ⟨sessions.next, staffUserId, refreshTokenHash, expiresAt, none⟩ := by
  unfold create? at created
  split at created
  · cases created
  · next inserted =>
      rw [← Option.some.inj created]
      exact ⟨rfl, (Table.insert?_spec inserted).2⟩

/-- Revocation changes nothing else. -/
theorem mem_revoke {chosen : StaffSession → Bool} {now : Time}
    (stored : session ∈ (sessions.revoke chosen now).table) :
    (∃ old ∈ sessions.table, chosen old = true ∧ session = { old with revokedAt := some now }) ∨
      session ∈ sessions.table ∧ chosen session = false := by
  dsimp only [revoke] at stored
  exact Table.updateWhere_cases stored

@[simp] theorem mem_deleteWhere {doomed : StaffSession → Bool} :
    session ∈ (sessions.deleteWhere doomed).table ↔
      session ∈ sessions.table ∧ doomed session = false :=
  Table.mem_deleteWhere

end StaffSessions

namespace StaffAuth

section Queries

variable (db : Database)

def findUserByEmail (email : String) : Option StaffUser :=
  db.staff.users.rows.find? fun user => user.email = email

/-- The session of a token, with its user. -/
def findSession (refreshTokenHash : String) : Option (StaffSession × StaffUser) := do
  let session ← db.staff.sessions.table.get? refreshTokenHash
  let user ← db.staff.users.get? session.staffUserId
  return (session, user)

/-- A session refers to a stored user. -/
def createSession (staffUserId refreshTokenHash : String) (expiresAt : Time) :
    Except Failure Database :=
  if (db.staff.users.get? staffUserId).isNone then .error .database
  else
    match db.staff.sessions.create? staffUserId refreshTokenHash expiresAt with
    | none => .error .uniqueViolation
    | some sessions => .ok { db with staff.sessions := sessions }

/-- Update a session that is there, whether it is revoked or not. -/
def revokeSession (id : ℕ) (now : Time) : Except Failure Database :=
  if db.staff.sessions.table.rows.any fun session => session.id = id then
    .ok { db with staff.sessions := db.staff.sessions.revoke (fun session => session.id = id) now }
  else .error .database

def revokeUnrevoked (refreshTokenHash : String) (now : Time) : Database :=
  { db with
    staff.sessions := db.staff.sessions.revoke (fun session =>
      session.refreshTokenHash = refreshTokenHash && session.revokedAt.isNone) now }

/-- One transaction: the user is updated, and with a new password loses all sessions. -/
def updateUser (staffUserId : String) (email passwordHash : Option String) :
    Except Failure Database :=
  match db.staff.users.get? staffUserId with
  | none => .error .database
  | some user =>
      let taken := db.staff.users.rows.any fun other =>
        some other.email = email && other.id ≠ staffUserId
      if taken then .error (.conflict "Email already in use")
      else
        let updated := { user with
          email := email.getD user.email, passwordHash := passwordHash.getD user.passwordHash }
        let sessions :=
          if passwordHash.isSome then
            db.staff.sessions.deleteWhere fun session => session.staffUserId = staffUserId
          else db.staff.sessions
        .ok { db with staff.users := db.staff.users.put updated, staff.sessions := sessions }

end Queries

/-- How a session came about: with the password that a stored hash verified, or for
another session. -/
inductive Origin
  | login (passwordHash password : String)
  | refresh (session : StaffSession)
  deriving DecidableEq

structure State where
  db : Database
  clock : Time
  /-- The sessions created so far, by number. -/
  origins : List (ℕ × Origin)
  /-- The sessions that refreshes have revoked, each with the token handed out for it. -/
  redeemed : List (ℕ × String)

inductive StaffCall : Type → Type
  | findUserByEmail (email : String) : StaffCall (Option StaffUser)
  | findUser (staffUserId : String) : StaffCall (Option StaffUser)
  /-- With the time of the reply. -/
  | findSession (refreshTokenHash : String) : StaffCall (Option (StaffSession × StaffUser) × Time)
  | createSession (staffUserId refreshTokenHash : String) (ttl : ℕ) (origin : Origin) :
      StaffCall Unit
  | revokeSession (id : ℕ) (newToken : String) : StaffCall Unit
  | revokeUnrevoked (refreshTokenHash : String) : StaffCall Unit
  | updateUser (staffUserId : String) (email passwordHash : Option String) : StaffCall Unit

/-- A write that may be rejected, and then changes nothing. -/
def State.attempt (state : State) (result : Except Failure Database) (noted : State → State) :
    Except Failure Unit × State :=
  match result with
  | .ok db => (.ok (), noted { state with db })
  | .error failure => (.error failure, state)

/-- A call that meets no fault. -/
def StaffCall.run {Reply : Type} (call : StaffCall Reply) (state : State) :
    Except Failure Reply × State :=
  match call with
  | .findUserByEmail email => (.ok (StaffAuth.findUserByEmail state.db email), state)
  | .findUser staffUserId => (.ok (state.db.staff.users.get? staffUserId), state)
  | .findSession hash => (.ok (StaffAuth.findSession state.db hash, state.clock), state)
  | .createSession staffUserId hash ttl origin =>
      state.attempt (StaffAuth.createSession state.db staffUserId hash (state.clock + ttl))
        fun after =>
          { after with origins := after.origins ++ [(state.db.staff.sessions.next, origin)] }
  | .revokeSession id newToken =>
      state.attempt (StaffAuth.revokeSession state.db id state.clock) fun after =>
        { after with redeemed := after.redeemed ++ [(id, newToken)] }
  | .revokeUnrevoked hash =>
      (.ok (), { state with db := StaffAuth.revokeUnrevoked state.db hash state.clock })
  | .updateUser staffUserId email passwordHash =>
      state.attempt (StaffAuth.updateUser state.db staffUserId email passwordHash) id

/-- The token hash of the session that the call creates. -/
def StaffCall.creates {Reply : Type} : StaffCall Reply → Option String
  | .createSession _ hash _ _ => some hash
  | _ => none

/-- The user of the session that the call creates, and how it comes about. -/
def StaffCall.created {Reply : Type} : StaffCall Reply → Option (String × Origin)
  | .createSession staffUserId _ _ origin => some (staffUserId, origin)
  | _ => none

/-- The user whose password the call replaces. -/
def StaffCall.rekeys {Reply : Type} : StaffCall Reply → Option String
  | .updateUser staffUserId _ passwordHash => passwordHash.map fun _ => staffUserId
  | _ => none

/-- The number of the session that the call revokes for a refresh. -/
def StaffCall.revokes {Reply : Type} : StaffCall Reply → Option ℕ
  | .revokeSession id _ => some id
  | _ => none

/-- Events are the passing of milliseconds. -/
@[reducible] def callMachine : Machine StaffCall Failure where
  State := State
  Choice := Fault
  Event := ℕ
  perform fault call state :=
    match fault with
    | .none => call.run state
    | .refused => (.error .database, state)
    | .unacknowledged => (.error .database, (call.run state).2)
  occur passed state := { state with clock := state.clock + passed }

def keeping : Keeping callMachine Database where
  store := State.db
  update state db := { state with db }
  fault fault := fault

/-- Open to the queries of the other services. -/
abbrev staffMachine : Machine (Joint StaffCall (Query Database Failure)) Failure :=
  callMachine.withQueries keeping .database

abbrev StaffService := Program (Joint StaffCall (Query Database Failure)) Failure

def issue {α : Type} (call : StaffCall α) : StaffService α := Program.call (.own call)

/-- A check that awaits nothing. -/
def checked {α : Type} (result : Except Failure α) : StaffService α := .done result

def queries {α : Type} (service : Service α) : StaffService α := service.mapCalls .other

section Service

variable (runtime : Runtime) (crypto : Crypto) (refreshTtl : String)

def multipliers : Char → Option ℕ
  | 's' => some 1000
  | 'm' => some 60000
  | 'h' => some 3600000
  | 'd' => some 86400000
  | _ => none

/-- Digits and a unit. -/
@[irreducible] def parseDurationMs (ttl : String) : Except Failure ℕ :=
  let digits := (trim ttl).toList.takeWhile Char.isDigit
  let unit := (trim ttl).toList.dropWhile Char.isDigit
  match digits, unit with
  | _ :: _, [unit] =>
      match multipliers unit with
      | some multiplier => .ok (Numeral.digitsValue digits * multiplier)
      | none => .error (.forbidden "Invalid STAFF_REFRESH_TTL configuration")
  | _, _ => .error (.forbidden "Invalid STAFF_REFRESH_TTL configuration")

structure StaffLoginResult where
  refreshToken : String
  refreshExpiresIn : String
  id : String
  email : String
  casinoGroupId : Option String
  roles : List StaffRole

def loginResult (refreshToken : String) (user : StaffUser) : StaffLoginResult :=
  ⟨refreshToken, refreshTtl, user.id, user.email, user.casinoGroupId, user.roles⟩

/-- The refresh token is a random one. -/
def login (email password refreshToken : String) : StaffService StaffLoginResult := do
  let user ← issue (.findUserByEmail (trim (runtime.toLowerCase email)))
  match user with
  | none => throw (.unauthorized "Invalid credentials")
  | some user =>
      if !user.active then throw (.unauthorized "Invalid credentials")
      else if !crypto.verify user.passwordHash password then
        throw (.unauthorized "Invalid credentials")
      else do
        let ttl ← checked (parseDurationMs refreshTtl)
        issue (.createSession user.id (crypto.sha256 refreshToken) ttl
          (.login user.passwordHash password))
        pure (loginResult refreshTtl refreshToken user)

def logout (refreshToken : String) : StaffService Unit :=
  issue (.revokeUnrevoked (crypto.sha256 refreshToken))

/-- The session can be refreshed at the time. -/
def redeemable (found : Option (StaffSession × StaffUser)) (now : Time) :
    Option (StaffSession × StaffUser) :=
  found.filter fun (session, user) =>
    session.revokedAt.isNone && decide (now ≤ session.expiresAt) && user.active

def refresh (refreshToken newRefresh : String) : StaffService StaffLoginResult := do
  let (found, now) ← issue (.findSession (crypto.sha256 refreshToken))
  match redeemable found now with
  | none => throw (.unauthorized "Invalid refresh token")
  | some (session, user) => do
      issue (.revokeSession session.id newRefresh)
      let ttl ← checked (parseDurationMs refreshTtl)
      issue (.createSession user.id (crypto.sha256 newRefresh) ttl (.refresh session))
      pure (loginResult refreshTtl newRefresh user)

def changePassword (staffUserId currentPassword newPassword salt : String) :
    StaffService Unit := do
  let user ← issue (.findUser staffUserId)
  match user with
  | none => throw (.unauthorized "Invalid credentials")
  | some user =>
      if !user.active then throw (.unauthorized "Invalid credentials")
      else if !crypto.verify user.passwordHash currentPassword then
        throw (.unauthorized "Current password is incorrect")
      else
        issue (.updateUser staffUserId none (some (crypto.hashPassword salt newPassword)))

end Service

section Admin

variable (runtime : Runtime) (crypto : Crypto)

/-- Cross-tenant platform operators only. -/
def assertPlatformStaff (staff : StaffContext) : Except Failure Unit :=
  if (nonEmpty staff.casinoGroupId).isSome then
    .error (.forbidden "Only platform operators can perform this action")
  else if !isPlatformScopeRole staff.roles then
    .error (.forbidden "Requires SUPER_ADMIN or PLATFORM_ADMIN platform role")
  else .ok ()

structure UpdateOperatorStaffDto where
  email : Option String
  password : Option String

def operatorEntry (actor : StaffContext) (casinoGroupId : String) (existing : StaffUser)
    (email : Option String) (passwordChanged : Bool) : AuditEntry where
  actorType := "staff"
  actorId := actor.staffUserId
  casinoGroupId := casinoGroupId
  action := "staff.operator_updated"
  entityType := "StaffUser"
  entityId := existing.id
  before := [("email", existing.email)]
  after := [("email", email.getD existing.email), ("passwordChanged", toString passwordChanged)]
  reason := some "Platform staff updated merchant operator credentials"

def updateOperatorAdmin (actor : StaffContext) (staffUserId casinoGroupId : String)
    (dto : UpdateOperatorStaffDto) (salt : String) : StaffService StaffUser := do
  checked (assertPlatformStaff actor)
  queries (StaffScopeService.assertCasinoGroupAccess actor casinoGroupId)
  let email := dto.email.map fun email => runtime.toLowerCase (trim email)
  let password := nonEmpty (dto.password.map trim)
  if (nonEmpty email).isNone && password.isNone then
    throw (.badRequest "Provide at least one of email or password to update")
  else do
    let existing ← issue (.findUser staffUserId)
    match existing with
    | none => throw (.notFound "Staff user not found")
    | some existing =>
        if existing.casinoGroupId ≠ some casinoGroupId ||
            !hasStaffRole existing.roles .operatorAdmin then
          throw (.notFound "Operator admin not found for this tenant")
        else do
          issue (.updateUser staffUserId (nonEmpty email)
            (password.map (crypto.hashPassword salt)))
          queries (recordAudit (operatorEntry actor casinoGroupId existing email password.isSome))
          let updated ← issue (.findUser staffUserId)
          match updated with
          | none => throw .database
          | some updated => pure updated

end Admin

inductive StaffAction
  | login (email password refreshToken : String)
  | logout (refreshToken : String)
  | refresh (refreshToken newRefresh : String)
  | changePassword (staffUserId currentPassword newPassword salt : String)
  | updateOperatorAdmin (actor : StaffContext) (staffUserId casinoGroupId : String)
      (dto : UpdateOperatorStaffDto) (salt : String)

section Actions

variable (runtime : Runtime) (crypto : Crypto) (refreshTtl : String)

def StaffAction.program : StaffAction → StaffService Unit
  | .login email password refreshToken =>
      (StaffAuth.login runtime crypto refreshTtl email password refreshToken).void
  | .logout refreshToken => StaffAuth.logout crypto refreshToken
  | .refresh refreshToken newRefresh =>
      (StaffAuth.refresh crypto refreshTtl refreshToken newRefresh).void
  | .changePassword staffUserId currentPassword newPassword salt =>
      StaffAuth.changePassword crypto staffUserId currentPassword newPassword salt
  | .updateOperatorAdmin actor staffUserId casinoGroupId dto salt =>
      (StaffAuth.updateOperatorAdmin runtime crypto actor staffUserId casinoGroupId dto salt).void

/-- The refresh tokens that the action draws. -/
def StaffAction.drawn : StaffAction → Option String
  | .login _ _ refreshToken => some refreshToken
  | .refresh _ newRefresh => some newRefresh
  | _ => none

/-- Any number of actions that interleave, on a database at some time. -/
def staffActions (actions : List StaffAction) (db : Database) (clock : Time) :
    Config staffMachine :=
  ⟨⟨db, clock, [], []⟩, actions.map (StaffAction.program runtime crypto refreshTtl)⟩

end Actions

section Calls

variable {Reply : Type} {state : State}

/-- A call that is carried out, whether acknowledged or not, or leaves everything as it is. -/
theorem perform_cases (fault : Fault) (request : Joint StaffCall (Query Database Failure) Reply)
    (state : State) :
    (staffMachine.perform fault request state).2 = state ∨
      (∃ call, request = .own call ∧ fault ≠ .refused ∧
        (staffMachine.perform fault request state).2 = (call.run state).2) ∨
      ∃ query, request = .other query ∧ fault ≠ .refused ∧
        (staffMachine.perform fault request state).2 = { state with db := (query state.db).2 } := by
  cases request with
  | own call =>
      cases fault with
      | refused => exact .inl rfl
      | none => exact .inr (.inl ⟨call, rfl, by simp, rfl⟩)
      | unacknowledged => exact .inr (.inl ⟨call, rfl, by simp, rfl⟩)
  | other query =>
      cases fault with
      | refused => exact .inl rfl
      | none => exact .inr (.inr ⟨query, rfl, by simp, rfl⟩)
      | unacknowledged => exact .inr (.inr ⟨query, rfl, by simp, rfl⟩)

/-- The reply to a call that returned. -/
theorem perform_ok {fault : Fault} {call : StaffCall Reply} {value : Reply}
    (returned : (staffMachine.perform fault (.own call) state).1 = .ok value) :
    fault = .none ∧ (call.run state).1 = .ok value := by
  cases fault with
  | none => exact ⟨rfl, returned⟩
  | refused => cases returned
  | unacknowledged => cases returned

theorem attempt_cases (result : Except Failure Database) (noted : State → State) :
    (∃ db, result = .ok db ∧ state.attempt result noted = (.ok (), noted { state with db })) ∨
      ∃ failure, result = .error failure ∧ state.attempt result noted = (.error failure, state) := by
  cases result with
  | ok db => exact .inl ⟨db, rfl, rfl⟩
  | error failure => exact .inr ⟨failure, rfl, rfl⟩

theorem createSession_ok {db after : Database} {staffUserId hash : String} {expiresAt : Time}
    (done : createSession db staffUserId hash expiresAt = .ok after) :
    ∃ sessions, db.staff.sessions.create? staffUserId hash expiresAt = some sessions ∧
      after = { db with staff.sessions := sessions } := by
  unfold createSession at done
  split at done
  · cases done
  · split at done
    · cases done
    · next sessions created => exact ⟨sessions, created, (Except.ok.inj done).symm⟩

theorem revokeSession_ok {db after : Database} {id : ℕ} {now : Time}
    (done : revokeSession db id now = .ok after) :
    after = { db with
      staff.sessions := db.staff.sessions.revoke (fun session => session.id = id) now } := by
  unfold revokeSession at done
  split at done
  · exact (Except.ok.inj done).symm
  · cases done

theorem updateUser_ok {db after : Database} {staffUserId : String}
    {email passwordHash : Option String}
    (done : updateUser db staffUserId email passwordHash = .ok after) :
    ∃ user, db.staff.users.get? staffUserId = some user ∧
      after = { db with
        staff.users := db.staff.users.put { user with
          email := email.getD user.email, passwordHash := passwordHash.getD user.passwordHash }
        staff.sessions := if passwordHash.isSome then
            db.staff.sessions.deleteWhere fun session => session.staffUserId = staffUserId
          else db.staff.sessions } := by
  unfold updateUser at done
  split at done
  · cases done
  · next user found =>
      dsimp only at done
      split at done
      · cases done
      · exact ⟨user, found, (Except.ok.inj done).symm⟩

theorem findSession_eq_some {db : Database} {hash : String} {session : StaffSession}
    {user : StaffUser} (found : findSession db hash = some (session, user)) :
    session ∈ db.staff.sessions.table ∧ session.refreshTokenHash = hash ∧
      user ∈ db.staff.users ∧ user.id = session.staffUserId := by
  unfold findSession at found
  obtain ⟨stored, first, found⟩ := Option.bind_eq_some_iff.mp found
  obtain ⟨member, second, found⟩ := Option.bind_eq_some_iff.mp found
  obtain ⟨rfl, rfl⟩ := Prod.mk.inj (Option.some.inj found)
  obtain ⟨present, same⟩ := Table.get?_eq_some_iff.mp first
  obtain ⟨kept, owner⟩ := Table.get?_eq_some_iff.mp second
  exact ⟨present, same, kept, owner⟩

end Calls

section Issued

/-- The query leaves the staff tables alone. -/
def SparesStaff {Reply : Type} (query : Query Database Failure Reply) : Prop :=
  ∀ db, (query db).2.staff = db.staff

/-- The user whose password the action sets, and the new password. -/
def StaffAction.changes : StaffAction → Option (String × String)
  | .changePassword staffUserId _ newPassword _ => some (staffUserId, newPassword)
  | .updateOperatorAdmin _ staffUserId _ dto _ =>
      (nonEmpty (dto.password.map trim)).map fun password => (staffUserId, password)
  | _ => none

/-- A session that comes from a login has had its password verified. -/
def Origin.Verified (crypto : Crypto) : Origin → Prop
  | .login passwordHash password => crypto.verify passwordHash password = true
  | .refresh _ => True

/-- An action creates sessions of the token that it draws, and updates the password of
the user whose password it sets. -/
def StaffCall.IssuedBy (crypto : Crypto) (action : StaffAction) {Reply : Type} :
    StaffCall Reply → Prop
  | .createSession _ hash _ origin =>
      (∃ token, action.drawn = some token ∧ hash = crypto.sha256 token) ∧ origin.Verified crypto
  | .updateUser staffUserId _ passwordHash =>
      passwordHash.isSome = true → ∃ password, action.changes = some (staffUserId, password)
  | _ => True

def IssuedBy (crypto : Crypto) (action : StaffAction) {Reply : Type} :
    Joint StaffCall (Query Database Failure) Reply → Prop
  | .own call => call.IssuedBy crypto action
  | .other query => SparesStaff query

variable {runtime : Runtime} {crypto : Crypto} {refreshTtl : String} {action : StaffAction}

theorem issue_issued {α : Type} {call : StaffCall α} (issued : call.IssuedBy crypto action) :
    (issue call).CallsOnly (IssuedBy crypto action) :=
  (Program.callsOnly_call _).mpr issued

theorem checked_issued {α : Type} (result : Except Failure α) :
    (checked result).CallsOnly (IssuedBy crypto action) := Program.callsOnly_done _

theorem queries_issued {α : Type} {service : Service α} (spares : service.CallsOnly SparesStaff) :
    (queries service).CallsOnly (IssuedBy crypto action) := by
  unfold queries
  have wider : ∀ {Reply : Type} (query : Query Database Failure Reply), SparesStaff query →
      IssuedBy crypto action (.other query : Joint StaffCall (Query Database Failure) Reply) :=
    fun _ spared => spared
  exact spares.mapCalls wider

theorem assertCasinoGroupAccess_spares (staff : StaffContext) (casinoGroupId : String) :
    (StaffScopeService.assertCasinoGroupAccess staff casinoGroupId).CallsOnly SparesStaff := by
  have reads : ∀ {α : Type} (view : Database → α), (read view).CallsOnly SparesStaff :=
    fun view => (Program.callsOnly_call _).mpr fun _ => rfl
  refine (reads _).bind fun group => ?_
  cases group with
  | none => trivial
  | some group =>
      dsimp only
      split
      · split <;> trivial
      · split
        · trivial
        · split
          · trivial
          · split
            · refine (reads _).bind fun grant => ?_
              cases grant <;> trivial
            · trivial

theorem recordAudit_spares (entry : AuditEntry) : (recordAudit entry).CallsOnly SparesStaff :=
  Program.CallsOnly.handle ((Program.callsOnly_call _).mpr fun _ => rfl) fun _ => trivial

theorem login_issued (email password refreshToken : String) :
    (login runtime crypto refreshTtl email password refreshToken).CallsOnly
      (IssuedBy crypto (.login email password refreshToken)) := by
  refine Program.CallsOnly.bind (issue_issued (by trivial)) fun user => ?_
  cases user with
  | none => trivial
  | some user =>
      dsimp only
      split
      · trivial
      split
      · trivial
      next verified =>
      refine Program.CallsOnly.bind (checked_issued _) fun ttl => ?_
      refine Program.CallsOnly.bind (issue_issued ?_) fun _ => trivial
      exact ⟨⟨refreshToken, rfl, rfl⟩, by simpa [Origin.Verified] using verified⟩

theorem refresh_issued (refreshToken newRefresh : String) :
    (refresh crypto refreshTtl refreshToken newRefresh).CallsOnly
      (IssuedBy crypto (.refresh refreshToken newRefresh)) := by
  refine Program.CallsOnly.bind (issue_issued (by trivial)) fun reply => ?_
  dsimp only
  split
  · trivial
  · refine Program.CallsOnly.bind (issue_issued (by trivial)) fun _ => ?_
    refine Program.CallsOnly.bind (checked_issued _) fun ttl => ?_
    refine Program.CallsOnly.bind (issue_issued ?_) fun _ => trivial
    exact ⟨⟨newRefresh, rfl, rfl⟩, trivial⟩

theorem changePassword_issued (staffUserId currentPassword newPassword salt : String) :
    (changePassword crypto staffUserId currentPassword newPassword salt).CallsOnly
      (IssuedBy crypto (.changePassword staffUserId currentPassword newPassword salt)) := by
  refine Program.CallsOnly.bind (issue_issued (by trivial)) fun user => ?_
  cases user with
  | none => trivial
  | some user =>
      dsimp only
      split
      · trivial
      split
      · trivial
      · exact issue_issued fun _ => ⟨newPassword, rfl⟩

theorem updateOperatorAdmin_issued (actor : StaffContext) (staffUserId casinoGroupId : String)
    (dto : UpdateOperatorStaffDto) (salt : String) :
    (updateOperatorAdmin runtime crypto actor staffUserId casinoGroupId dto salt).CallsOnly
      (IssuedBy crypto (.updateOperatorAdmin actor staffUserId casinoGroupId dto salt)) := by
  refine Program.CallsOnly.bind (checked_issued _) fun _ => ?_
  refine Program.CallsOnly.bind
    (queries_issued (assertCasinoGroupAccess_spares actor casinoGroupId)) fun _ => ?_
  dsimp only
  split
  · trivial
  refine Program.CallsOnly.bind (issue_issued (by trivial)) fun existing => ?_
  cases existing with
  | none => trivial
  | some existing =>
      dsimp only
      split
      · trivial
      refine Program.CallsOnly.bind (issue_issued fun set => ?_) fun _ => ?_
      · cases password : nonEmpty (dto.password.map trim) with
        | none =>
            rw [password] at set
            cases set
        | some given => exact ⟨given, by simp [StaffAction.changes, password]⟩
      · refine Program.CallsOnly.bind (queries_issued (recordAudit_spares _)) fun _ => ?_
        refine Program.CallsOnly.bind (issue_issued (by trivial)) fun updated => ?_
        cases updated <;> trivial

theorem program_issued (action : StaffAction) :
    (action.program runtime crypto refreshTtl).CallsOnly (IssuedBy crypto action) := by
  cases action with
  | login email password refreshToken => exact (login_issued email password refreshToken).void
  | logout refreshToken => exact issue_issued (by trivial)
  | refresh refreshToken newRefresh => exact (refresh_issued refreshToken newRefresh).void
  | changePassword staffUserId currentPassword newPassword salt =>
      exact changePassword_issued staffUserId currentPassword newPassword salt
  | updateOperatorAdmin actor staffUserId casinoGroupId dto salt =>
      exact (updateOperatorAdmin_issued actor staffUserId casinoGroupId dto salt).void

end Issued

end StaffAuth

end SportsBetting
