import SportsBetting.Staff.Redeemed

/-!
# Sessions after a change of password

A change deletes the sessions that are there. A login or a refresh that has made
its checks before may create one afterwards, and refreshes carry it on.
-/

namespace SportsBetting.StaffAuth

open Async Text

/-- The session comes from a login with the password, directly or by a chain of refreshes. -/
inductive FromLogin (origins : List (ℕ × Origin)) (password : String) : ℕ → Prop
  | login {id : ℕ} {passwordHash : String} :
      (id, .login passwordHash password) ∈ origins → FromLogin origins password id
  | refresh {id : ℕ} {session : StaffSession} : (id, .refresh session) ∈ origins →
      FromLogin origins password session.id → FromLogin origins password id

theorem FromLogin.mono {origins more : List (ℕ × Origin)} {password : String} {id : ℕ}
    (sub : origins ⊆ more) (source : FromLogin origins password id) :
    FromLogin more password id := by
  induction source with
  | login noted => exact .login (sub noted)
  | refresh noted _ ih => exact .refresh (sub noted) ih

/-- What was checked for the session still holds: the password hash is the stored one, or
the session that was redeemed is stored. -/
def Origin.StillValid (db : Database) (staffUserId : String) : Origin → Prop
  | .login passwordHash _ =>
      (db.staff.users.get? staffUserId).map StaffUser.passwordHash = some passwordHash
  | .refresh session =>
      ∃ stored ∈ db.staff.sessions.table.rows,
        stored.id = session.id ∧ stored.staffUserId = staffUserId

instance (db : Database) (staffUserId : String) (origin : Origin) :
    Decidable (origin.StillValid db staffUserId) :=
  match origin with
  | .login _ _ => inferInstanceAs (Decidable (_ = _))
  | .refresh _ => inferInstanceAs (Decidable (∃ stored ∈ _, _ ∧ _))

def createdFor {Reply : Type} :
    Joint StaffCall (Query Database Failure) Reply → Option (String × Origin)
  | .own call => call.created
  | .other _ => none

/-- What was checked for a session still holds when the session is created. -/
def ValidWhenCreated : Guard staffMachine := fun config fault request =>
  fault = Fault.refused ∨
    ∀ created ∈ createdFor request, created.2.StillValid config.state.db created.1

instance (config : Config staffMachine) (fault : Fault) {Reply : Type}
    (request : Joint StaffCall (Query Database Failure) Reply) :
    Decidable (ValidWhenCreated config fault request) :=
  inferInstanceAs (Decidable (fault = Fault.refused ∨
    ∀ created ∈ createdFor request, created.2.StillValid config.state.db created.1))

/-- The password of the user is the given one, and so is that of all sessions. -/
def Renewed (crypto : Crypto) (staffUserId password : String) (state : State) : Prop :=
  (∃ salt, ∀ user ∈ state.db.staff.users, user.id = staffUserId →
    user.passwordHash = crypto.hashPassword salt password) ∧
  ∀ session ∈ state.db.staff.sessions.table, session.staffUserId = staffUserId →
    FromLogin state.origins password session.id

/-- The call replaces no password of the user, and has verified what it creates. -/
def Leaves (crypto : Crypto) (staffUserId : String) {Reply : Type} :
    Joint StaffCall (Query Database Failure) Reply → Prop
  | .own call => call.rekeys ≠ some staffUserId ∧
      ∀ created ∈ call.created, created.2.Verified crypto
  | .other query => SparesStaff query

section Steps

variable {crypto : Crypto} {staffUserId password : String} {state : State}

theorem Renewed.of_staff {after : State} (renewed : Renewed crypto staffUserId password state)
    (users : after.db.staff.users = state.db.staff.users)
    (sessions : ∀ session ∈ after.db.staff.sessions.table,
      ∃ old ∈ state.db.staff.sessions.table, old.id = session.id ∧
        old.staffUserId = session.staffUserId)
    (origins : state.origins ⊆ after.origins) : Renewed crypto staffUserId password after := by
  refine ⟨by rw [users]; exact renewed.1, fun session stored own => ?_⟩
  obtain ⟨old, present, number, owner⟩ := sessions session stored
  rw [← number]
  exact (renewed.2 old present (owner.trans own)).mono origins

theorem mem_revoke_same {sessions : StaffSessions} {chosen : StaffSession → Bool} {now : Time}
    {session : StaffSession} (stored : session ∈ (sessions.revoke chosen now).table) :
    ∃ old ∈ sessions.table, old.id = session.id ∧ old.staffUserId = session.staffUserId := by
  rcases StaffSessions.mem_revoke stored with ⟨old, present, _, rfl⟩ | ⟨present, _⟩
  · exact ⟨old, present, rfl, rfl⟩
  · exact ⟨session, present, rfl, rfl⟩

/-- A session that is created while what was checked for it holds. -/
theorem Renewed.create {db : Database} {owner hash : String} {expiresAt : Time} {origin : Origin}
    (renewed : Renewed crypto staffUserId password state)
    (verified : origin.Verified crypto) (valid : origin.StillValid state.db owner)
    (done : createSession state.db owner hash expiresAt = .ok db) :
    Renewed crypto staffUserId password { state with
      db, origins := state.origins ++ [(state.db.staff.sessions.next, origin)] } := by
  obtain ⟨sessions, inserted, rfl⟩ := createSession_ok done
  have more := List.subset_append_left state.origins [(state.db.staff.sessions.next, origin)]
  refine ⟨renewed.1, fun session stored own => ?_⟩
  rcases ((StaffSessions.mem_create? inserted).2 session).mp stored with old | new
  · exact (renewed.2 session old own).mono more
  · rw [new] at own ⊢
    dsimp only at own ⊢
    subst own
    cases origin with
    | login passwordHash given =>
        obtain ⟨salt, hashes⟩ := renewed.1
        obtain ⟨user, found, same⟩ := Option.map_eq_some_iff.mp valid
        obtain ⟨member, named⟩ := Table.get?_eq_some_iff.mp found
        rw [Origin.Verified, ← same, hashes user member named, crypto.verify_hash] at verified
        subst given
        have noted : (state.db.staff.sessions.next, Origin.login passwordHash password) ∈
            state.origins ++
              [(state.db.staff.sessions.next, Origin.login passwordHash password)] := by simp
        exact .login noted
    | refresh redeemed =>
        obtain ⟨kept, member, number, owned⟩ := valid
        have source := (renewed.2 kept member owned).mono more
        rw [number] at source
        have noted : (state.db.staff.sessions.next, Origin.refresh redeemed) ∈
            state.origins ++ [(state.db.staff.sessions.next, Origin.refresh redeemed)] := by simp
        exact .refresh noted source

/-- The user is updated, without a new password or another user with one. -/
theorem Renewed.update {db : Database} {updated : String} {email passwordHash : Option String}
    (renewed : Renewed crypto staffUserId password state)
    (spares : passwordHash.map (fun _ => updated) ≠ some staffUserId)
    (done : updateUser state.db updated email passwordHash = .ok db) :
    Renewed crypto staffUserId password { state with db } := by
  obtain ⟨user, found, rfl⟩ := updateUser_ok done
  obtain ⟨member, same⟩ := Table.get?_eq_some_iff.mp found
  obtain ⟨salt, hashes⟩ := renewed.1
  refine ⟨⟨salt, fun other stored own => ?_⟩, fun session stored own => ?_⟩
  · rcases Table.mem_put.mp stored with rfl | ⟨old, _⟩
    · cases passwordHash with
      | none => exact hashes user member own
      | some hash => exact absurd (congrArg some (same.symm.trans own)) spares
    · exact hashes other old own
  · refine renewed.2 session ?_ own
    dsimp only at stored
    split at stored
    · exact (StaffSessions.mem_deleteWhere.mp stored).1
    · exact stored

/-- The transaction of a change deletes all sessions of the user. -/
theorem renewed_of_update {db : Database} {salt : String} {email : Option String}
    (done : updateUser state.db staffUserId email (some (crypto.hashPassword salt password)) =
      .ok db) : Renewed crypto staffUserId password { state with db } := by
  obtain ⟨user, found, rfl⟩ := updateUser_ok done
  obtain ⟨member, same⟩ := Table.get?_eq_some_iff.mp found
  refine ⟨⟨salt, fun other stored own => ?_⟩, fun session stored own => ?_⟩
  · rcases Table.mem_put.mp stored with rfl | ⟨_, differs⟩
    · rfl
    · exact absurd (own.trans same.symm) differs
  · have kept := (StaffSessions.mem_deleteWhere.mp stored).2
    rw [own] at kept
    simp at kept

/-- No other call disturbs the sessions of the new password. -/
theorem Renewed.perform {Reply : Type} {request : Joint StaffCall (Query Database Failure) Reply}
    (renewed : Renewed crypto staffUserId password state)
    (leaves : Leaves crypto staffUserId request) (fault : Fault)
    (valid : fault = .refused ∨
      ∀ created ∈ createdFor request, created.2.StillValid state.db created.1) :
    Renewed crypto staffUserId password (staffMachine.perform fault request state).2 := by
  rcases perform_cases fault request state with same | ⟨call, rfl, ran, same⟩ | ⟨query, rfl, _, same⟩
  · rwa [same]
  · have valid := valid.resolve_left ran
    rw [same]
    cases call with
    | findUserByEmail email => exact renewed
    | findUser found => exact renewed
    | findSession hash => exact renewed
    | revokeUnrevoked hash =>
        exact renewed.of_staff rfl (fun _ stored => mem_revoke_same stored) (List.Subset.refl _)
    | createSession owner created ttl origin =>
        rw [StaffCall.run]
        rcases attempt_cases (createSession state.db owner created (state.clock + ttl)) _ with
          ⟨db, done, result⟩ | ⟨failure, _, result⟩
        · rw [result]
          exact renewed.create (leaves.2 _ rfl) (valid _ rfl) done
        · rwa [result]
    | revokeSession id newToken =>
        rw [StaffCall.run]
        rcases attempt_cases (revokeSession state.db id state.clock) _ with
          ⟨db, done, result⟩ | ⟨failure, _, result⟩
        · rw [result, revokeSession_ok done]
          exact renewed.of_staff rfl (fun _ stored => mem_revoke_same stored) (List.Subset.refl _)
        · rwa [result]
    | updateUser updated email passwordHash =>
        rw [StaffCall.run]
        rcases attempt_cases (updateUser state.db updated email passwordHash) _ with
          ⟨db, done, result⟩ | ⟨failure, _, result⟩
        · rw [result]
          exact renewed.update leaves.1 done
        · rwa [result]
  · rw [same]
    have staff := leaves state.db
    exact renewed.of_staff (congrArg StaffTables.users staff)
      (fun session stored => ⟨session, staff ▸ stored, rfl, rfl⟩) (List.Subset.refl _)

end Steps

section Change

/-- A change of password waits while the others leave the new password in place. -/
def changing (crypto : Crypto) (staffUserId password : String) : Contract staffMachine where
  invariant _ := True
  rely _ before after :=
    Renewed crypto staffUserId password before → Renewed crypto staffUserId password after
  proper _ _ := True
  admits _ _ _ := True

theorem changing_stable (crypto : Crypto) (staffUserId password : String) :
    (changing crypto staffUserId password).Stable where
  refl _ _ := id
  trans _ _ _ _ first second := second ∘ first
  keeps _ _ _ _ _ _ := trivial
  sound _ _ _ := trivial
  event _ _ _ _ := id

variable {crypto : Crypto} {staffUserId password : String} {state : State}

/-- The call creates nothing and replaces no password. -/
def Harmless {Reply : Type} : Joint StaffCall (Query Database Failure) Reply → Prop
  | .own call => call.rekeys = none ∧ call.created = none
  | .other query => SparesStaff query

/-- What follows the transaction leaves the new password in place. -/
theorem harmless_safe {α : Type} {program : StaffService α} (only : program.CallsOnly Harmless)
    (renewed : Renewed crypto staffUserId password state) :
    (changing crypto staffUserId password).Safe
      (fun _ after => Renewed crypto staffUserId password after) program state := by
  refine Contract.Safe.of_callsOnly (fun _ _ _ waited => waited) (fun _ _ _ => trivial) ?_ only
    renewed
  intro Reply request fault before harmless held
  cases request with
  | own call =>
      have leaves : Leaves crypto staffUserId
          (.own call : Joint StaffCall (Query Database Failure) Reply) :=
        ⟨by simp [harmless.1], by simp [harmless.2]⟩
      exact held.perform leaves fault (.inr (by simp [createdFor, harmless.2]))
  | other query =>
      have leaves : Leaves crypto staffUserId
          (.other query : Joint StaffCall (Query Database Failure) Reply) := harmless
      exact held.perform leaves fault (.inr fun _ never => nomatch never)

theorem anything_safe {α : Type} (program : StaffService α) (state : State) :
    (changing crypto staffUserId password).Runs program state := by
  induction program generalizing state with
  | done outcome => trivial
  | await request next ih => exact fun later _ _ => ⟨trivial, fun _ _ => ih _ _⟩

/-- The transaction, where it returns. -/
theorem update_safe {email : Option String} {salt : String} (state : State) :
    (changing crypto staffUserId password).Safe
      (fun outcome after => outcome = .ok () → Renewed crypto staffUserId password after)
      (issue (.updateUser staffUserId email (some (crypto.hashPassword salt password)))) state := by
  refine Contract.Safe.call fun later _ _ => ⟨trivial, fun fault _ returned => ?_⟩
  obtain ⟨rfl, done⟩ := perform_ok returned
  have performed : (staffMachine.perform .none (.own (.updateUser staffUserId email
      (some (crypto.hashPassword salt password)))) later).2 = ((StaffCall.updateUser staffUserId
        email (some (crypto.hashPassword salt password))).run later).2 := rfl
  rw [performed]
  rw [StaffCall.run] at done ⊢
  rcases attempt_cases (updateUser later.db staffUserId email
      (some (crypto.hashPassword salt password))) id with
    ⟨db, updated, result⟩ | ⟨failure, _, result⟩
  · rw [result]
    exact renewed_of_update updated
  · rw [result] at done
    cases done

/-- Of what comes before the transaction nothing is asked. -/
theorem change_bind {α β : Type} {program : StaffService α} {next : α → StaffService β}
    (rest : ∀ value state, (changing crypto staffUserId password).Safe
      (fun outcome after => ∀ value, outcome = .ok value →
        Renewed crypto staffUserId password after) (next value) state) (state : State) :
    (changing crypto staffUserId password).Safe
      (fun outcome after => ∀ value, outcome = .ok value →
        Renewed crypto staffUserId password after) (program >>= next) state :=
  Contract.Safe.bind (anything_safe program state) (fun value after _ => rest value after)
    fun _ _ _ _ never => nomatch never

/-- A program that fails asks for nothing. -/
theorem change_failed {α : Type} (failure : Failure) (state : State) :
    (changing crypto staffUserId password).Safe
      (fun outcome after => ∀ value, outcome = .ok value →
        Renewed crypto staffUserId password after) (throw failure : StaffService α) state :=
  fun _ never => nomatch never

theorem changePassword_safe (currentPassword salt : String) (state : State) :
    (changing crypto staffUserId password).Safe
      (fun outcome after => ∀ value, outcome = .ok value →
        Renewed crypto staffUserId password after)
      (changePassword crypto staffUserId currentPassword password salt) state := by
  refine change_bind (fun user after => ?_) state
  cases user with
  | none => exact change_failed _ _
  | some user =>
      dsimp only
      split
      · exact change_failed _ _
      split
      · exact change_failed _ _
      · exact (update_safe after).mono fun outcome last held value returned =>
          held (by rw [returned])

theorem updateOperatorAdmin_safe (runtime : Runtime) (actor : StaffContext)
    (casinoGroupId : String) (dto : UpdateOperatorStaffDto) (salt : String)
    (given : nonEmpty (dto.password.map trim) = some password) (state : State) :
    (changing crypto staffUserId password).Safe
      (fun outcome after => ∀ value, outcome = .ok value →
        Renewed crypto staffUserId password after)
      (updateOperatorAdmin runtime crypto actor staffUserId casinoGroupId dto salt) state := by
  refine change_bind (fun _ after => ?_) state
  refine change_bind (fun _ after => ?_) after
  dsimp only
  rw [given]
  split
  · exact change_failed _ _
  refine change_bind (fun existing after => ?_) after
  cases existing with
  | none => exact change_failed _ _
  | some existing =>
      dsimp only
      split
      · exact change_failed _ _
      refine Contract.Safe.bind (update_safe after) (fun _ later updated => ?_)
        fun _ _ _ _ never => nomatch never
      refine (harmless_safe ?_ (updated rfl)).mono fun _ last renewed _ _ => renewed
      refine Program.CallsOnly.bind ?_ fun _ => ?_
      · have wider : ∀ {Reply : Type} (query : Query Database Failure Reply), SparesStaff query →
            Harmless (.other query : Joint StaffCall (Query Database Failure) Reply) :=
          fun _ spared => spared
        exact (recordAudit_spares _).mapCalls wider
      · refine Program.CallsOnly.bind ((Program.callsOnly_call _).mpr ⟨rfl, rfl⟩) fun updated => ?_
        cases updated <;> trivial

/-- A change that has completed has renewed the password. -/
theorem change_safe (runtime : Runtime) (refreshTtl : String) {action : StaffAction}
    (changes : action.changes = some (staffUserId, password)) (state : State) :
    (changing crypto staffUserId password).Safe
      (fun outcome after => outcome = .ok () → Renewed crypto staffUserId password after)
      (action.program runtime crypto refreshTtl) state := by
  cases action with
  | login email given refreshToken => cases changes
  | logout refreshToken => cases changes
  | refresh refreshToken newRefresh => cases changes
  | changePassword owner currentPassword newPassword salt =>
      obtain ⟨rfl, rfl⟩ := Prod.mk.inj (Option.some.inj changes)
      exact (changePassword_safe currentPassword salt state).mono fun outcome after held => held ()
  | updateOperatorAdmin actor owner casinoGroupId dto salt =>
      obtain ⟨given, trimmed, same⟩ := Option.map_eq_some_iff.mp changes
      obtain ⟨rfl, rfl⟩ := Prod.mk.inj same
      refine Contract.Safe.bind
        (updateOperatorAdmin_safe runtime actor casinoGroupId dto salt trimmed state) ?_ ?_
      · exact fun value after held _ => held value rfl
      · exact fun failure after _ never => nomatch never

end Change

section Numbers

/-- A number is noted for one session only, and numbers to come are not. -/
def Numbered (state : State) : Prop :=
  (state.origins.map Prod.fst).Nodup ∧
    ∀ noted ∈ state.origins, noted.1 < state.db.staff.sessions.next

variable {state : State}

theorem Numbered.of_same {after : State} (numbered : Numbered state)
    (origins : after.origins = state.origins)
    (next : after.db.staff.sessions.next = state.db.staff.sessions.next) : Numbered after := by
  unfold Numbered
  rwa [origins, next]

theorem Numbered.perform {Reply : Type} {request : Joint StaffCall (Query Database Failure) Reply}
    {crypto : Crypto} {action : StaffAction} (numbered : Numbered state)
    (issued : IssuedBy crypto action request) (fault : Fault) :
    Numbered (staffMachine.perform fault request state).2 := by
  rcases perform_cases fault request state with same | ⟨call, rfl, _, same⟩ | ⟨query, rfl, _, same⟩
  · rwa [same]
  · rw [same]
    cases call with
    | createSession owner hash ttl origin =>
        rw [StaffCall.run]
        rcases attempt_cases (createSession state.db owner hash (state.clock + ttl)) _ with
          ⟨db, done, result⟩ | ⟨failure, _, result⟩
        · rw [result]
          obtain ⟨sessions, inserted, rfl⟩ := createSession_ok done
          have next := (StaffSessions.mem_create? inserted).1
          refine ⟨?_, fun noted member => ?_⟩
          · rw [List.map_append, List.nodup_append]
            refine ⟨numbered.1, by simp, fun known old other new same => ?_⟩
            obtain ⟨noted, member, rfl⟩ := List.mem_map.mp old
            obtain rfl : other = state.db.staff.sessions.next := by simpa using new
            exact absurd same (Nat.ne_of_lt (numbered.2 noted member))
          · dsimp only
            rw [next]
            rcases List.mem_append.mp member with old | new
            · exact Nat.lt_succ_of_lt (numbered.2 noted old)
            · rw [List.mem_singleton.mp new]
              exact Nat.lt_succ_self _
        · rwa [result]
    | revokeSession id newToken =>
        rw [StaffCall.run]
        rcases attempt_cases (revokeSession state.db id state.clock) _ with
          ⟨db, done, result⟩ | ⟨failure, _, result⟩
        · rw [result, revokeSession_ok done]
          exact numbered.of_same rfl rfl
        · rwa [result]
    | updateUser updated email passwordHash =>
        rw [StaffCall.run]
        rcases attempt_cases (updateUser state.db updated email passwordHash) _ with
          ⟨db, done, result⟩ | ⟨failure, _, result⟩
        · rw [result]
          obtain ⟨user, _, rfl⟩ := updateUser_ok done
          refine numbered.of_same rfl ?_
          dsimp only [id]
          split <;> rfl
        · rwa [result]
    | _ => exact numbered.of_same rfl rfl
  · rw [same]
    exact numbered.of_same rfl (congrArg (fun staff => staff.sessions.next) (issued state.db))

/-- A session comes from one password. -/
theorem FromLogin.unique {origins : List (ℕ × Origin)} {password other : String} {id : ℕ}
    (distinct : (origins.map Prod.fst).Nodup) (source : FromLogin origins password id)
    (second : FromLogin origins other id) : password = other := by
  induction source with
  | login noted =>
      cases second with
      | login again => cases List.inj_on_of_nodup_map distinct noted again rfl; rfl
      | refresh again _ => cases List.inj_on_of_nodup_map distinct noted again rfl
  | refresh noted _ ih =>
      cases second with
      | login again => cases List.inj_on_of_nodup_map distinct noted again rfl
      | refresh again earlier =>
          cases List.inj_on_of_nodup_map distinct noted again rfl
          exact ih earlier

end Numbers

section Spared

variable {crypto : Crypto} {action : StaffAction} {staffUserId : String}

theorem leaves_of_issued (spares : ∀ password, action.changes ≠ some (staffUserId, password))
    {Reply : Type} {request : Joint StaffCall (Query Database Failure) Reply}
    (issued : IssuedBy crypto action request) : Leaves crypto staffUserId request := by
  cases request with
  | other query => exact issued
  | own call =>
      cases call with
      | createSession owner hash ttl origin =>
          refine ⟨(nomatch ·), fun created same => ?_⟩
          rw [← Option.some.inj same]
          exact issued.2
      | updateUser updated email passwordHash =>
          refine ⟨fun same => ?_, fun _ never => nomatch never⟩
          obtain ⟨hash, set, rfl⟩ := Option.map_eq_some_iff.mp same
          obtain ⟨password, changes⟩ := issued (by simp [set])
          exact spares password changes
      | _ => exact ⟨(nomatch ·), fun _ never => nomatch never⟩

theorem changing_spared (crypto : Crypto) (staffUserId password : String) :
    (changing crypto staffUserId password).Spared (Leaves crypto staffUserId) ValidWhenCreated
      fun outcome after => outcome = .ok () → Renewed crypto staffUserId password after where
  admits _ _ _ _ _ := trivial
  call _ fault _ _ leaves valid _ :=
    ⟨trivial, fun _ renewed => renewed.perform leaves fault valid⟩
  lasts _ fault _ _ _ leaves valid _ held ok := (held ok).perform leaves fault valid
  event _ _ _ _ held := held

end Spared

section Runs

variable (runtime : Runtime) (crypto : Crypto) (refreshTtl : String) (db : Database) (clock : Time)

/-- After a change of password that has completed, all sessions of the user come from a
login with the new password and none from another, as long as what was checked for a
session still holds when it is created. -/
theorem sessions_after_change {actions : List StaffAction} {index : ℕ} {action : StaffAction}
    {staffUserId password : String} (listed : actions[index]? = some action)
    (changes : action.changes = some (staffUserId, password))
    (others : ∀ index' other, index' ≠ index → actions[index']? = some other →
      ∀ password', other.changes ≠ some (staffUserId, password'))
    {moves : List (Move staffMachine)}
    (followed : (staffActions runtime crypto refreshTtl actions db clock).Follows
      ValidWhenCreated moves)
    (completed : Succeeds ((staffActions runtime crypto refreshTtl actions db clock).run moves)
      index) :
    let state := ((staffActions runtime crypto refreshTtl actions db clock).run moves).state
    ∀ session ∈ state.db.staff.sessions.table.rows, session.staffUserId = staffUserId →
      FromLogin state.origins password session.id ∧
        ∀ old, old ≠ password → ¬ FromLogin state.origins old session.id := by
  have pursued : (changing crypto staffUserId password).Pursues (Leaves crypto staffUserId)
      (fun outcome after => outcome = .ok () → Renewed crypto staffUserId password after) index
      (staffActions runtime crypto refreshTtl actions db clock) := by
    refine ⟨trivial, fun program found => ?_, fun index' program apart found => ?_⟩
    · rw [pool_eq_some runtime crypto refreshTtl db clock listed found]
      exact change_safe runtime refreshTtl changes _
    · obtain ⟨other, there, rfl⟩ := List.getElem?_map ▸ found |> Option.map_eq_some_iff.mp
      exact (program_issued other).mono fun request issued =>
        leaves_of_issued (others index' other apart there) issued
  have renewed := (pursued.run (changing_stable crypto staffUserId password)
    (changing_spared crypto staffUserId password) followed).safe _ completed rfl
  have numbered : Numbered
      ((staffActions runtime crypto refreshTtl actions db clock).run moves).state := by
    have pool : ∀ program ∈ (staffActions runtime crypto refreshTtl actions db clock).pool,
        program.CallsOnly fun request => ∃ action, IssuedBy crypto action request := by
      intro program member
      obtain ⟨action, _, rfl⟩ := List.mem_map.mp member
      exact (program_issued action).mono fun request issued => ⟨action, issued⟩
    refine Config.state_invariant ValidWhenCreated Numbered ?_ (fun _ _ numbered => numbered) pool
      ⟨List.nodup_nil, fun _ never => nomatch never⟩ followed
    intro config fault Reply request issued _ numbered
    obtain ⟨action, issued⟩ := issued
    exact numbered.perform issued fault
  intro state session stored own
  have source := renewed.2 session (Table.mem_rows.mp stored) own
  exact ⟨source, fun old differs again => differs (again.unique numbered.1 source)⟩

end Runs

section Sample

def rekeyed : Config staffMachine :=
  staffActions asciiRuntime plainCrypto "7d"
    [.login "ops@acme" "old" "first", .refresh "token" "second",
      .changePassword "operator" "old" "new" "salt", .login "ops@acme" "new" "third"] signedIn 0

/-- The login has verified the password and the refresh has revoked its session before the
change, and both create their sessions after it. -/
def createdLate : List (Move staffMachine) :=
  [.run 0 .none, .run 1 .none, .run 1 .none, .run 2 .none, .run 2 .none, .run 0 .none, .run 1 .none]

theorem stale_sessions_survive :
    Succeeds (rekeyed.run createdLate) 2 ∧
    (∀ number ∈ [1, 2], ∃ session ∈ (rekeyed.run createdLate).state.db.staff.sessions.table.rows,
      session.staffUserId = "operator" ∧ session.revokedAt = none ∧ session.id = number) ∧
    ∀ number ∈ [1, 2], ¬ FromLogin (rekeyed.run createdLate).state.origins "new" number := by
  have origins : (rekeyed.run createdLate).state.origins = [(1, .login "old" "old"),
      (2, .refresh ⟨0, "operator", "token", 1000, none⟩)] := by decide +kernel
  refine ⟨by decide +kernel, by decide +kernel, ?_⟩
  rw [origins]
  have root : ¬ FromLogin [(1, .login "old" "old"),
      (2, .refresh ⟨0, "operator", "token", 1000, none⟩)] "new" 0 := by
    intro source
    cases source with
    | login noted => simp at noted
    | refresh noted _ => simp at noted
  intro number member source
  cases source with
  | login noted => simp at noted
  | refresh noted earlier =>
      obtain ⟨_, rfl⟩ : number = 2 ∧ _ := by simpa using noted
      exact root earlier

/-- A login with the new password once the change is made. -/
def loggedInAfter : List (Move staffMachine) :=
  [.run 2 .none, .run 2 .none, .run 3 .none, .run 3 .none]

theorem session_after_change :
    (rekeyed.run loggedInAfter).state.db.staff.sessions.table.rows.map StaffSession.id = [1] ∧
    ∀ session ∈ (rekeyed.run loggedInAfter).state.db.staff.sessions.table.rows,
      session.staffUserId = "operator" →
        FromLogin (rekeyed.run loggedInAfter).state.origins "new" session.id := by
  have others : ∀ index other, index ≠ 2 → [StaffAction.login "ops@acme" "old" "first",
      .refresh "token" "second", .changePassword "operator" "old" "new" "salt",
      .login "ops@acme" "new" "third"][index]? = some other →
        ∀ password, other.changes ≠ some ("operator", password) := by
    intro index other apart found password
    match index with
    | 0 => cases found; exact nofun
    | 1 => cases found; exact nofun
    | 2 => exact absurd rfl apart
    | 3 => cases found; exact nofun
    | _ + 4 => cases found
  have followed : rekeyed.Follows ValidWhenCreated loggedInAfter := by decide +kernel
  have completed : Succeeds (rekeyed.run loggedInAfter) 2 := by decide +kernel
  exact ⟨by decide +kernel, fun session stored own =>
    (sessions_after_change asciiRuntime plainCrypto "7d" signedIn 0 rfl rfl others followed
      completed session stored own).1⟩

end Sample

end SportsBetting.StaffAuth
