import SportsBetting.Staff.Auth

/-!
# What becomes of a refresh token

A refresh reads the session, revokes it by its number and creates a new one. Two
that have both read it unrevoked both succeed. After a logout none succeeds.
-/

namespace SportsBetting.StaffAuth

open Async

section Calls

variable {hash : String} {Reply : Type}

/-- No session of the token is created, and the queries of other services leave the
sessions alone. -/
def Fresh (hash : String) {Reply : Type} :
    Joint StaffCall (Query Database Failure) Reply → Prop
  | .own call => call.creates ≠ some hash
  | .other query => SparesStaff query

/-- No session of the token can be refreshed. -/
def Revoked (hash : String) (db : Database) : Prop :=
  ∀ session ∈ db.staff.sessions.table, session.refreshTokenHash = hash →
    session.revokedAt.isSome = true

/-- A fresh call brings no session of the token, and takes no revocation back. -/
theorem Fresh.sessions {request : Joint StaffCall (Query Database Failure) Reply}
    (fresh : Fresh hash request) (fault : Fault) (state : State) {session : StaffSession}
    (stored : session ∈ (staffMachine.perform fault request state).2.db.staff.sessions.table)
    (own : session.refreshTokenHash = hash) :
    ∃ old ∈ state.db.staff.sessions.table, old.refreshTokenHash = hash ∧ old.id = session.id ∧
      (old.revokedAt.isSome = true → session.revokedAt.isSome = true) := by
  have kept : ∀ {old}, old ∈ state.db.staff.sessions.table → old = session →
      ∃ old ∈ state.db.staff.sessions.table, old.refreshTokenHash = hash ∧ old.id = session.id ∧
        (old.revokedAt.isSome = true → session.revokedAt.isSome = true) := by
    intro old present same
    exact ⟨old, present, same ▸ own, same ▸ rfl, fun revoked => same ▸ revoked⟩
  have revoked : ∀ {chosen now}, session ∈ (state.db.staff.sessions.revoke chosen now).table →
      ∃ old ∈ state.db.staff.sessions.table, old.refreshTokenHash = hash ∧ old.id = session.id ∧
        (old.revokedAt.isSome = true → session.revokedAt.isSome = true) := by
    intro chosen now present
    rcases StaffSessions.mem_revoke present with ⟨old, before, _, rfl⟩ | ⟨before, _⟩
    · exact ⟨old, before, own, rfl, fun _ => rfl⟩
    · exact kept before rfl
  rcases perform_cases fault request state with same | ⟨call, rfl, _, same⟩ | ⟨query, rfl, _, same⟩
  · rw [same] at stored
    exact kept stored rfl
  · rw [same] at stored
    cases call with
    | findUserByEmail email => exact kept stored rfl
    | findUser staffUserId => exact kept stored rfl
    | findSession found => exact kept stored rfl
    | revokeUnrevoked revokes => exact revoked stored
    | createSession staffUserId created ttl origin =>
        rw [StaffCall.run] at stored
        rcases attempt_cases (createSession state.db staffUserId created (state.clock + ttl)) _ with
          ⟨db, done, result⟩ | ⟨failure, _, result⟩
        · rw [result] at stored
          obtain ⟨sessions, inserted, rfl⟩ := createSession_ok done
          rcases ((StaffSessions.mem_create? inserted).2 session).mp stored with old | new
          · exact kept old rfl
          · rw [new] at own
            exact absurd (congrArg some own) fresh
        · rw [result] at stored
          exact kept stored rfl
    | revokeSession id newToken =>
        rw [StaffCall.run] at stored
        rcases attempt_cases (revokeSession state.db id state.clock) _ with
          ⟨db, done, result⟩ | ⟨failure, _, result⟩
        · rw [result, revokeSession_ok done] at stored
          exact revoked stored
        · rw [result] at stored
          exact kept stored rfl
    | updateUser staffUserId email passwordHash =>
        rw [StaffCall.run] at stored
        rcases attempt_cases (updateUser state.db staffUserId email passwordHash) _ with
          ⟨db, done, result⟩ | ⟨failure, _, result⟩
        · rw [result] at stored
          obtain ⟨user, _, rfl⟩ := updateUser_ok done
          dsimp only [id] at stored
          split at stored
          · exact kept (StaffSessions.mem_deleteWhere.mp stored).1 rfl
          · exact kept stored rfl
        · rw [result] at stored
          exact kept stored rfl
  · rw [same] at stored
    dsimp only at stored
    rw [fresh] at stored
    exact kept stored rfl

theorem Fresh.revoked {request : Joint StaffCall (Query Database Failure) Reply}
    (fresh : Fresh hash request) (fault : Fault) {state : State} (revoked : Revoked hash state.db) :
    Revoked hash (staffMachine.perform fault request state).2.db := by
  intro session stored own
  obtain ⟨old, present, same, _, stays⟩ := fresh.sessions fault state stored own
  exact stays (revoked old present same)

/-- An action that does not draw the token again issues fresh calls only. -/
theorem fresh_of_issued {crypto : Crypto} {action : StaffAction}
    (draws : ∀ drawn, action.drawn = some drawn → crypto.sha256 drawn ≠ hash)
    {request : Joint StaffCall (Query Database Failure) Reply}
    (issued : IssuedBy crypto action request) : Fresh hash request := by
  cases request with
  | other query => exact issued
  | own call =>
      cases call with
      | createSession staffUserId created ttl origin =>
          obtain ⟨⟨token, drawn, rfl⟩, _⟩ := issued
          exact fun same => draws token drawn (Option.some.inj same)
      | _ => exact fun never => nomatch never

end Calls

section Logout

/-- A logout waits while others revoke, or create sessions of other tokens. -/
def loggingOut (hash : String) : Contract staffMachine where
  invariant _ := True
  rely _ before after := Revoked hash before.db → Revoked hash after.db
  proper request _ := Fresh hash request
  admits _ _ _ := True

theorem loggingOut_stable (hash : String) : (loggingOut hash).Stable where
  refl _ _ := id
  trans _ _ _ _ first second := second ∘ first
  keeps _ _ _ _ _ _ := trivial
  sound _ _ _ := trivial
  event _ _ _ _ := id

/-- After a logout no session of the token can be refreshed. -/
theorem logout_safe (crypto : Crypto) (token : String) (state : State) :
    (loggingOut (crypto.sha256 token)).Safe
      (fun outcome after => outcome = .ok () → Revoked (crypto.sha256 token) after.db)
      (logout crypto token) state := by
  refine Contract.Safe.call fun later _ _ => ⟨(nomatch ·), fun fault _ returned => ?_⟩
  obtain ⟨rfl, _⟩ := perform_ok returned
  intro session stored own
  rcases StaffSessions.mem_revoke stored with ⟨old, _, _, rfl⟩ | ⟨_, missed⟩
  · rfl
  · rw [own] at missed
    simpa [Option.isSome_iff_ne_none] using missed

/-- While no session of the token can be refreshed, a refresh fails. -/
def refusing (hash : String) : Contract staffMachine where
  invariant state := Revoked hash state.db
  rely _ _ _ := True
  proper request _ := Fresh hash request
  admits _ _ _ := True

theorem refusing_stable (hash : String) : (refusing hash).Stable where
  refl _ _ := trivial
  trans _ _ _ _ _ _ := trivial
  keeps _ fault _ revoked fresh _ := fresh.revoked fault revoked
  sound _ _ revoked := revoked
  event _ _ _ _ := trivial

theorem refresh_refused (crypto : Crypto) (refreshTtl token newRefresh : String) (state : State) :
    (refusing (crypto.sha256 token)).Safe (fun outcome _ => outcome ≠ .ok ())
      (refresh crypto refreshTtl token newRefresh).void state := by
  have looked : (refusing (crypto.sha256 token)).Safe
      (fun outcome _ => ∀ found now, outcome = .ok (found, now) → redeemable found now = none)
      (issue (.findSession (crypto.sha256 token))) state := by
    refine Contract.Safe.call fun later _ revoked => ⟨(nomatch ·), ?_⟩
    intro fault _ found now returned
    obtain ⟨_, read⟩ := perform_ok returned
    obtain ⟨stored, rfl⟩ := Prod.mk.inj (Except.ok.inj read)
    cases found with
    | none => rfl
    | some found =>
        obtain ⟨present, own, _⟩ := findSession_eq_some stored
        have gone := revoked found.1 present own
        simp [redeemable, Option.isSome_iff_ne_none.mp gone]
  have failed : (refusing (crypto.sha256 token)).Safe (fun outcome _ => ∀ value, outcome ≠ .ok value)
      (refresh crypto refreshTtl token newRefresh) state := by
    refine Contract.Safe.bind looked ?_ fun failure after _ value never => nomatch never
    intro reply after held
    obtain ⟨found, now⟩ := reply
    dsimp only
    rw [held found now rfl]
    exact fun _ never => nomatch never
  exact Contract.Safe.bind failed (fun value after held => absurd rfl (held value))
    fun failure after _ never => nomatch never

end Logout

section Refresh

def revokedId {Reply : Type} : Joint StaffCall (Query Database Failure) Reply → Option ℕ
  | .own call => call.revokes
  | .other _ => none

/-- A refresh that revokes a session is the first that does. -/
def RedeemsOnce : Guard staffMachine := fun config fault request =>
  fault = Fault.refused ∨ ∀ id ∈ revokedId request, id ∉ config.state.redeemed.map Prod.fst

instance (config : Config staffMachine) (fault : Fault) {Reply : Type}
    (request : Joint StaffCall (Query Database Failure) Reply) :
    Decidable (RedeemsOnce config fault request) :=
  inferInstanceAs (Decidable (fault = Fault.refused ∨
    ∀ id ∈ revokedId request, id ∉ config.state.redeemed.map Prod.fst))

/-- All sessions of the token have one number, and no session is revoked twice for a
refresh. -/
def redeeming (hash : String) (id : ℕ) : Contract staffMachine where
  invariant state :=
    (∀ session ∈ state.db.staff.sessions.table, session.refreshTokenHash = hash →
      session.id = id) ∧ (state.redeemed.map Prod.fst).Nodup
  rely _ before after := before.redeemed ⊆ after.redeemed
  proper request _ := Fresh hash request
  admits state fault request :=
    fault = Fault.refused ∨ ∀ id ∈ revokedId request, id ∉ state.redeemed.map Prod.fst

theorem redeemed_perform {Reply : Type} (fault : Fault)
    (request : Joint StaffCall (Query Database Failure) Reply) (state : State) :
    (staffMachine.perform fault request state).2.redeemed = state.redeemed ∨
      ∃ id newToken, revokedId request = some id ∧ fault ≠ .refused ∧
        (staffMachine.perform fault request state).2.redeemed =
          state.redeemed ++ [(id, newToken)] := by
  rcases perform_cases fault request state with same | ⟨call, rfl, ran, same⟩ | ⟨query, rfl, _, same⟩
  · exact .inl (by rw [same])
  · rw [same]
    cases call with
    | createSession staffUserId created ttl origin =>
        rw [StaffCall.run]
        rcases attempt_cases (createSession state.db staffUserId created (state.clock + ttl)) _ with
          ⟨db, _, result⟩ | ⟨failure, _, result⟩
        · exact .inl (by rw [result])
        · exact .inl (by rw [result])
    | revokeSession id newToken =>
        rw [StaffCall.run]
        rcases attempt_cases (revokeSession state.db id state.clock) _ with
          ⟨db, _, result⟩ | ⟨failure, _, result⟩
        · exact .inr ⟨id, newToken, rfl, ran, by rw [result]⟩
        · exact .inl (by rw [result])
    | updateUser staffUserId email passwordHash =>
        rw [StaffCall.run]
        rcases attempt_cases (updateUser state.db staffUserId email passwordHash) _ with
          ⟨db, _, result⟩ | ⟨failure, _, result⟩
        · exact .inl (by rw [result]; rfl)
        · exact .inl (by rw [result])
    | _ => exact .inl rfl
  · exact .inl (by rw [same])

theorem redeemed_subset {Reply : Type} (fault : Fault)
    (request : Joint StaffCall (Query Database Failure) Reply) (state : State) :
    state.redeemed ⊆ (staffMachine.perform fault request state).2.redeemed := by
  rcases redeemed_perform fault request state with same | ⟨id, newToken, _, _, same⟩
  · rw [same]
    exact List.Subset.refl _
  · rw [same]
    exact List.subset_append_left _ _

theorem redeeming_stable (hash : String) (id : ℕ) : (redeeming hash id).Stable where
  refl _ _ := List.Subset.refl _
  trans _ _ _ _ first second := List.Subset.trans first second
  keeps request fault state sound fresh admitted := by
    refine ⟨fun session stored own => ?_, ?_⟩
    · obtain ⟨old, present, same, number, _⟩ := fresh.sessions fault state stored own
      rw [← number]
      exact sound.1 old present same
    · rcases redeemed_perform fault request state with same | ⟨revoked, newToken, redeems, ran, same⟩
      · rw [same]
        exact sound.2
      · have first := admitted.resolve_left ran revoked redeems
        rw [same, List.map_append, List.nodup_append]
        refine ⟨sound.2, by simp, fun known member other new differs => ?_⟩
        obtain rfl : other = revoked := by simpa using new
        exact first (differs ▸ member)
  sound _ _ sound := sound
  event _ _ _ _ := List.Subset.refl _

/-- The session that is looked up by the digest is the one of the token. -/
theorem findSession_redeeming (digest : String) (id : ℕ) (state : State) :
    (redeeming digest id).Safe
      (fun outcome _ => ∀ session user now, outcome = .ok (some (session, user), now) →
        session.id = id) (issue (.findSession digest)) state := by
  refine Contract.Safe.call fun later _ sound => ⟨(nomatch ·), ?_⟩
  intro fault _ session user now returned
  obtain ⟨_, read⟩ := perform_ok returned
  obtain ⟨stored, rfl⟩ := Prod.mk.inj (Except.ok.inj read)
  obtain ⟨present, own, _⟩ := findSession_eq_some stored
  exact sound.1 session present own

/-- A revocation that succeeds is noted. -/
theorem revokeSession_redeeming (digest newRefresh : String) (id : ℕ) (state : State) :
    (redeeming digest id).Safe
      (fun outcome after => outcome = .ok () → (id, newRefresh) ∈ after.redeemed)
      (issue (.revokeSession id newRefresh)) state := by
  refine Contract.Safe.call fun later _ _ => ⟨(nomatch ·), fun fault _ returned => ?_⟩
  obtain ⟨rfl, done⟩ := perform_ok returned
  have performed : (staffMachine.perform .none (.own (.revokeSession id newRefresh))
    later).2 = ((StaffCall.revokeSession id newRefresh).run later).2 := rfl
  rw [performed]
  rw [StaffCall.run] at done ⊢
  rcases attempt_cases (revokeSession later.db id later.clock) _ with
    ⟨db, _, result⟩ | ⟨failure, _, result⟩
  · rw [result]
    simp
  · rw [result] at done
    cases done

/-- The new session has another digest, and leaves the notes as they are. -/
theorem createSession_redeeming {digest newDigest newRefresh : String} {id : ℕ} {state : State}
    (fresh : newDigest ≠ digest) (noted : (id, newRefresh) ∈ state.redeemed)
    (staffUserId : String) (ttl : ℕ) (origin : Origin) :
    (redeeming digest id).Safe (fun _ after => (id, newRefresh) ∈ after.redeemed)
      (issue (.createSession staffUserId newDigest ttl origin)) state :=
  Contract.Safe.call fun later waited _ => ⟨fun same => fresh (Option.some.inj same),
    fun fault _ => redeemed_subset fault _ later (waited noted)⟩

/-- A refresh that succeeds has noted its revocation of the session. -/
theorem refresh_redeems (crypto : Crypto) (refreshTtl token newRefresh : String) (id : ℕ)
    (fresh : crypto.sha256 newRefresh ≠ crypto.sha256 token) (state : State) :
    (redeeming (crypto.sha256 token) id).Safe
      (fun outcome after => outcome = .ok () → (id, newRefresh) ∈ after.redeemed)
      (refresh crypto refreshTtl token newRefresh).void state := by
  have noted : (redeeming (crypto.sha256 token) id).Safe
      (fun outcome after => ∀ value, outcome = .ok value → (id, newRefresh) ∈ after.redeemed)
      (refresh crypto refreshTtl token newRefresh) state := by
    refine Contract.Safe.bind (findSession_redeeming _ id state) ?_
      fun failure after _ value never => nomatch never
    intro reply after held
    obtain ⟨found, now⟩ := reply
    dsimp only
    cases redeems : redeemable found now with
    | none => exact fun value never => nomatch never
    | some both =>
        obtain ⟨session, user⟩ := both
        have same := (Option.filter_eq_some_iff.mp redeems).1
        dsimp only
        rw [held session user now (by rw [same])]
        refine Contract.Safe.bind (revokeSession_redeeming _ newRefresh id after) ?_
          fun failure after _ value never => nomatch never
        intro _ after noted
        cases parsed : parseDurationMs refreshTtl with
        | error failure =>
            rw [checked, Program.bind_error]
            exact fun value never => nomatch never
        | ok ttl =>
            rw [checked, Program.bind_ok]
            refine Contract.Safe.bind (createSession_redeeming fresh (noted rfl) user.id ttl
              (.refresh session)) ?_ ?_
            · exact fun _ after noted _ _ => noted
            · exact fun failure after _ value never => nomatch never
  exact Contract.Safe.bind noted (fun value after held _ => held value rfl)
    fun failure after _ never => nomatch never

end Refresh

section Runs

variable (runtime : Text.Runtime) (crypto : Crypto) (refreshTtl : String) {actions : List StaffAction}
  (db : Database) (clock : Time) {token : String}

/-- The action has ended without a failure. -/
def Succeeds (config : Config staffMachine) (index : ℕ) : Prop :=
  config.pool[index]? = some (.done (.ok ()))

instance (config : Config staffMachine) (index : ℕ) : Decidable (Succeeds config index) :=
  decidable_of_iff (config.pool[index]?.bind Program.outcome = some (.ok ())) <| by
    unfold Succeeds
    cases config.pool[index]? with
    | none => simp
    | some program =>
        cases program with
        | done outcome => simp [Program.outcome]
        | await request next => simp [Program.outcome]

/-- Two actions do not draw the same token. -/
def DrawsApart (first second : StaffAction) : Prop :=
  ∀ token ∈ first.drawn, second.drawn ≠ some token

instance : DecidableRel DrawsApart := fun first second =>
  inferInstanceAs (Decidable (∀ token ∈ first.drawn, second.drawn ≠ some token))

theorem actions_fresh {hash : String} (fresh : ∀ action ∈ actions, ∀ drawn,
      action.drawn = some drawn → crypto.sha256 drawn ≠ hash) :
    ∀ program ∈ (staffActions runtime crypto refreshTtl actions db clock).pool,
      program.CallsOnly (Fresh hash) := by
  intro program member
  obtain ⟨action, listed, rfl⟩ := List.mem_map.mp member
  exact (program_issued action).mono fun request issued => fresh_of_issued (fresh action listed) issued

theorem pool_eq_some {index : ℕ} {action : StaffAction} (listed : actions[index]? = some action)
    {program : StaffService Unit}
    (found : (staffActions runtime crypto refreshTtl actions db clock).pool[index]? =
      some program) : program = action.program runtime crypto refreshTtl := by
  simpa [staffActions, listed] using found.symm

/-- After a logout that has completed, no refresh of the token that starts succeeds. -/
theorem refused_after_logout (fresh : ∀ action ∈ actions, ∀ drawn,
      action.drawn = some drawn → crypto.sha256 drawn ≠ crypto.sha256 token)
    {logs refreshes : ℕ} {newRefresh : String} (earlier later : List (Move staffMachine))
    (listed : actions[logs]? = some (.logout token))
    (completed : Succeeds
      ((staffActions runtime crypto refreshTtl actions db clock).run earlier) logs)
    (unstarted : ((staffActions runtime crypto refreshTtl actions db clock).run
      earlier).pool[refreshes]? =
        some ((StaffAction.refresh token newRefresh).program runtime crypto refreshTtl)) :
    ¬ Succeeds ((staffActions runtime crypto refreshTtl actions db clock).run (earlier ++ later))
      refreshes := by
  have pool := actions_fresh runtime crypto refreshTtl db clock fresh
  -- the logout, to its end
  have logged : (loggingOut (crypto.sha256 token)).Pursues (Fresh (crypto.sha256 token))
      (fun outcome after => outcome = .ok () → Revoked (crypto.sha256 token) after.db) logs
      (staffActions runtime crypto refreshTtl actions db clock) := by
    refine ⟨trivial, fun program found => ?_, fun _ program _ found =>
      pool program (List.mem_of_getElem? found)⟩
    rw [pool_eq_some runtime crypto refreshTtl db clock listed found]
    exact logout_safe crypto token _
  have spared : (loggingOut (crypto.sha256 token)).Spared (Fresh (crypto.sha256 token))
      Config.unguarded
      fun outcome after => outcome = .ok () → Revoked (crypto.sha256 token) after.db :=
    { admits := fun _ _ _ _ _ => trivial
      call := fun _ fault _ _ issued _ _ => ⟨trivial, fun _ => issued.revoked fault⟩
      lasts := fun _ fault _ _ _ issued _ _ held ok => issued.revoked fault (held ok)
      event := fun _ _ _ _ held => held }
  have revoked := (logged.run (loggingOut_stable _) spared
    (Config.follows_unguarded _ earlier)).safe _ completed rfl
  -- the refresh, from its start
  have refused : (refusing (crypto.sha256 token)).Pursues (Fresh (crypto.sha256 token))
      (fun outcome _ => outcome ≠ .ok ()) refreshes
      ((staffActions runtime crypto refreshTtl actions db clock).run earlier) := by
    refine ⟨revoked, fun program found => ?_, fun _ program _ found =>
      Config.callsOnly_run pool earlier program (List.mem_of_getElem? found)⟩
    rw [unstarted] at found
    rw [← Option.some.inj found]
    exact refresh_refused crypto refreshTtl token newRefresh _
  have spares : (refusing (crypto.sha256 token)).Spared (Fresh (crypto.sha256 token))
      Config.unguarded fun outcome _ => outcome ≠ .ok () :=
    { admits := fun _ _ _ _ _ => trivial
      call := fun _ fault _ _ issued _ sound => ⟨issued.revoked fault sound, fun _ => trivial⟩
      lasts := fun _ _ _ _ _ _ _ _ held => held
      event := fun _ _ _ _ held => held }
  rw [Config.run_append]
  intro succeeded
  exact (refused.run (refusing_stable _) spares (Config.follows_unguarded _ later)).safe _ succeeded
    rfl

/-- Where no refresh revokes a session that another has revoked, one refresh succeeds
at most. -/
theorem one_refresh_succeeds (fresh : ∀ action ∈ actions, ∀ drawn,
      action.drawn = some drawn → crypto.sha256 drawn ≠ crypto.sha256 token)
    (distinct : actions.Pairwise DrawsApart) {moves : List (Move staffMachine)}
    (followed : (staffActions runtime crypto refreshTtl actions db clock).Follows RedeemsOnce moves)
    {first second : ℕ} (apart : first < second) {one other : String}
    (here : actions[first]? = some (.refresh token one))
    (there : actions[second]? = some (.refresh token other)) :
    ¬ (Succeeds ((staffActions runtime crypto refreshTtl actions db clock).run moves) first ∧
      Succeeds ((staffActions runtime crypto refreshTtl actions db clock).run moves) second) := by
  have pool := actions_fresh runtime crypto refreshTtl db clock fresh
  obtain ⟨id, numbered⟩ : ∃ id, ∀ session ∈ db.staff.sessions.table,
      session.refreshTokenHash = crypto.sha256 token → session.id = id := by
    cases found : db.staff.sessions.table.get? (crypto.sha256 token) with
    | none => exact ⟨0, fun session stored own =>
        absurd own (Table.get?_eq_none_iff.mp found session stored)⟩
    | some known =>
        obtain ⟨member, same⟩ := Table.get?_eq_some_iff.mp found
        exact ⟨known.id, fun session stored own =>
          congrArg StaffSession.id (Table.eq_of_key stored member (own.trans same.symm))⟩
  have redeemed : ∀ index newRefresh, actions[index]? = some (.refresh token newRefresh) →
      (redeeming (crypto.sha256 token) id).Pursues (Fresh (crypto.sha256 token))
        (fun outcome after => outcome = .ok () → (id, newRefresh) ∈ after.redeemed) index
        ((staffActions runtime crypto refreshTtl actions db clock).run moves) := by
    intro index newRefresh listed
    have drawn := fresh _ (List.mem_of_getElem? listed) newRefresh rfl
    have spared : (redeeming (crypto.sha256 token) id).Spared (Fresh (crypto.sha256 token))
        RedeemsOnce fun outcome after => outcome = .ok () → (id, newRefresh) ∈ after.redeemed :=
      { admits := fun _ _ _ _ guarded => guarded
        call := fun config fault _ request issued guarded sound =>
          ⟨(redeeming_stable _ id).keeps request fault config.state sound issued guarded,
            fun _ => redeemed_subset fault request config.state⟩
        lasts := fun config fault _ request _ _ _ _ held ok =>
          redeemed_subset fault request config.state (held ok)
        event := fun _ _ _ _ held => held }
    refine Contract.Pursues.run (redeeming_stable _ id) spared ?_ followed
    refine ⟨⟨numbered, List.nodup_nil⟩, fun program found => ?_, fun _ program _ found =>
      pool program (List.mem_of_getElem? found)⟩
    rw [pool_eq_some runtime crypto refreshTtl db clock listed found]
    exact refresh_redeems crypto refreshTtl token newRefresh id drawn _
  intro both
  have once := (redeemed first one here).sound.2
  have left := (redeemed first one here).safe _ both.1 rfl
  have right := (redeemed second other there).safe _ both.2 rfl
  obtain rfl : one = other := congrArg Prod.snd (List.inj_on_of_nodup_map once left right rfl)
  obtain ⟨bound, atFirst⟩ := List.getElem?_eq_some_iff.mp here
  obtain ⟨bounds, atSecond⟩ := List.getElem?_eq_some_iff.mp there
  have differs := List.pairwise_iff_getElem.mp distinct first second bound bounds apart
  rw [atFirst, atSecond] at differs
  exact differs one rfl rfl

variable (actions token) in
/-- Of the refreshes of one token at most one succeeds, as long as none revokes a session
that another has revoked; and none that starts after a logout of the token has completed. -/
theorem token_redeemed_at_most_once (fresh : ∀ action ∈ actions, ∀ drawn,
      action.drawn = some drawn → crypto.sha256 drawn ≠ crypto.sha256 token)
    (distinct : actions.Pairwise DrawsApart) :
    let config := staffActions runtime crypto refreshTtl actions db clock
    (∀ moves, config.Follows RedeemsOnce moves → ∀ first second one other, first ≠ second →
      actions[first]? = some (.refresh token one) →
      actions[second]? = some (.refresh token other) →
        ¬ (Succeeds (config.run moves) first ∧ Succeeds (config.run moves) second)) ∧
    ∀ earlier later logs refreshes newRefresh, actions[logs]? = some (.logout token) →
      Succeeds (config.run earlier) logs → (config.run earlier).pool[refreshes]? =
        some ((StaffAction.refresh token newRefresh).program runtime crypto refreshTtl) →
      ¬ Succeeds (config.run (earlier ++ later)) refreshes := by
  refine ⟨fun moves followed first second one other differs here there => ?_,
    fun earlier later logs refreshes newRefresh listed completed unstarted =>
      refused_after_logout runtime crypto refreshTtl db clock fresh earlier later listed completed
        unstarted⟩
  rcases Nat.lt_or_gt_of_ne differs with before | after
  · exact one_refresh_succeeds runtime crypto refreshTtl db clock fresh distinct followed before
      here there
  · exact fun both => one_refresh_succeeds runtime crypto refreshTtl db clock fresh distinct followed
      after there here ⟨both.2, both.1⟩

end Runs

section Sample

def operator : StaffUser := ⟨"operator", "ops@acme", "old", some "acme", [.operatorAdmin], true⟩

/-- An operator with one session. -/
def signedIn : Database where
  catalog := StaffScopeService.grantedDatabase.catalog
  ledger := .empty
  audit := []
  staff :=
    { users := ⟨[operator], by decide⟩
      sessions := ⟨⟨[⟨0, "operator", "token", 1000, none⟩], by decide⟩, 1, by
        intro session stored
        rw [← Table.mem_rows, List.mem_singleton] at stored
        rw [stored]
        decide⟩
      access := .empty }

def refreshes : Config staffMachine :=
  staffActions Text.asciiRuntime plainCrypto "7d"
    [.refresh "token" "first", .refresh "token" "second", .logout "token"] signedIn 0

/-- Both read the session before either revokes it. -/
def readTogether : List (Move staffMachine) :=
  [.run 0 .none, .run 1 .none, .run 0 .none, .run 0 .none, .run 1 .none, .run 1 .none]

theorem token_redeemed_twice :
    Succeeds (refreshes.run readTogether) 0 ∧ Succeeds (refreshes.run readTogether) 1 ∧
    ¬ ∀ (crypto : Crypto) refreshTtl actions db clock token moves first second one other,
      first ≠ second → actions[first]? = some (.refresh token one) →
      actions[second]? = some (.refresh token other) →
        ¬ (Succeeds ((staffActions Text.asciiRuntime crypto refreshTtl actions db clock).run
            moves) first ∧
          Succeeds ((staffActions Text.asciiRuntime crypto refreshTtl actions db clock).run
            moves) second) := by
  have both : Succeeds (refreshes.run readTogether) 0 ∧
      Succeeds (refreshes.run readTogether) 1 := by decide +kernel
  exact ⟨both.1, both.2, fun never => never plainCrypto "7d" _ signedIn 0 "token" readTogether 0 1
    "first" "second" (by decide) rfl rfl both⟩

/-- The second refresh reads the session after the first has revoked it. -/
def oneAfterTheOther : List (Move staffMachine) :=
  List.replicate 3 (.run 0 .none) ++ List.replicate 3 (.run 1 .none)

theorem token_redeemed_once :
    Succeeds (refreshes.run oneAfterTheOther) 0 ∧ ¬ Succeeds (refreshes.run oneAfterTheOther) 1 ∧
    ¬ Succeeds (refreshes.run (.run 2 .none :: oneAfterTheOther)) 0 := by
  obtain ⟨once, refused⟩ := token_redeemed_at_most_once Text.asciiRuntime plainCrypto "7d"
    [.refresh "token" "first", .refresh "token" "second", .logout "token"] signedIn 0 "token"
    (by decide) (by decide)
  have succeeded : Succeeds (refreshes.run oneAfterTheOther) 0 := by decide +kernel
  have followed : refreshes.Follows RedeemsOnce oneAfterTheOther := by decide +kernel
  refine ⟨succeeded, fun second => ?_, ?_⟩
  · exact once oneAfterTheOther followed 0 1 "first" "second" (by decide) rfl rfl ⟨succeeded, second⟩
  · exact refused [.run 2 .none] oneAfterTheOther 2 0 "first" rfl (by decide +kernel) rfl

end Sample

end SportsBetting.StaffAuth
