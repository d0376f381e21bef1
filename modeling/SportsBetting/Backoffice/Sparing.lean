import SportsBetting.Backoffice.Holdings
import SportsBetting.Backoffice.Readiness
import SportsBetting.Backoffice.StaffBets
import SportsBetting.Bets.Compliance

/-!
# Betting services that spare a tenant

Voiding, retrying, settling and delivering for one tenant changes nothing of another one,
whatever the other programs do meanwhile. Settling ends with a flush of the outbox, which
delivers the rows of all tenants.
-/

namespace SportsBetting

open Async Program WalletHttpClient WalletOutboxService SettlementService

/-- Calls that are no transaction. -/
def BettingCall.Silent {Reply : Type} : BettingCall Reply → Prop
  | .write _ => False
  | _ => True

section Silent

variable {α : Type}

theorem view_silent (look : Database → α) : (view look).CallsOnly BettingCall.Silent :=
  (callsOnly_call _).mpr trivial

theorem silent_of_reading {program : Betting α} (reads : program.CallsOnly Premises.Reading) :
    program.CallsOnly BettingCall.Silent := by
  refine reads.mono fun request reading => ?_
  cases request with
  | write => exact reading.elim
  | read | randomUUID | getBalance | postTransaction | postBatch => trivial

theorem requireWalletConfig_silent (casinoGroupId : String) :
    (requireWalletConfig casinoGroupId).CallsOnly BettingCall.Silent := by
  apply CallsOnly.bind (view_silent _)
  intro config
  cases config <;> trivial

theorem postTransactionBatch_silent (casinoGroupId : String) (batchId : ℕ)
    (entries : List WalletOutbox) :
    (postTransactionBatch casinoGroupId batchId entries).CallsOnly BettingCall.Silent := by
  apply CallsOnly.bind (requireWalletConfig_silent _)
  intro _
  apply CallsOnly.bind (callsOnly_done _)
  intro transactions
  exact CallsOnly.bind ((callsOnly_call _).mpr trivial) fun _ => trivial

theorem batchIdOf_silent (anchor : WalletOutbox) :
    (batchIdOf anchor).CallsOnly BettingCall.Silent := by
  unfold batchIdOf
  split
  · trivial
  · exact (callsOnly_call _).mpr trivial

theorem loadUnsettledEventRow_silent (casinoGroupId eventId : String) :
    (StaffSettlementService.loadUnsettledEventRow casinoGroupId eventId).CallsOnly
      BettingCall.Silent := by
  apply CallsOnly.bind (view_silent _)
  intro openBetCount
  split
  · trivial
  · apply CallsOnly.bind (view_silent _)
    intro event
    cases event with
    | none => trivial
    | some event =>
        apply CallsOnly.bind (view_silent _)
        intro marketIds
        exact CallsOnly.bind ((callsOnly_call _).mpr trivial) fun _ => trivial

end Silent

namespace Portal

section Rules

variable (detail : Detail) (tenant : String)

/-- The others may do anything with bets but hand them to another tenant. -/
@[reducible] def sparingBets : Contract bettingMachine where
  invariant _ := True
  rely _ before after := before.db.ledger.Owned after.db.ledger
  proper request world := ∀ choice, tenantRows detail tenant (world.answer choice request).2.db =
    tenantRows detail tenant world.db
  admits _ _ _ := True

variable {detail tenant} {world : World} {α : Type}

/-- Whose bets and rows are whose outlasts everything. -/
theorem lasting_of_owned {fact : Ledger → Prop}
    (kept : ∀ {before after : Ledger}, before.Owned after → fact before → fact after) :
    (sparingBets detail tenant).Lasting fun world => fact world.db.ledger where
  waits _ _ _ waited held := kept waited held
  calls request choice world _ held := kept (World.answer_owned request choice world) held

theorem Spared.owned {before after : Ledger} {key : String × OutboxType}
    (owned : before.Owned after) (spared : Spared detail tenant before key) :
    Spared detail tenant after key := by
  rcases spared with core | ⟨owner, own, apart⟩
  · exact .inl core
  · exact .inr ⟨owner, owned.row key owner own, apart⟩

theorem Write.Spares.owned {write : Write α} {before after : Ledger}
    (owned : before.Owned after) (spares : Write.Spares detail tenant before write) :
    Write.Spares detail tenant after write := by
  cases write with
  | settleBet graded batchId => exact ⟨spares.1, owned.bet _ _ spares.2⟩
  | voidBet bet casinoGroupId reason => exact ⟨spares.1, owned.bet _ _ spares.2⟩
  | scheduleRetry => exact Spared.owned owned spares
  | assignBatch => exact fun key member => Spared.owned owned (spares key member)
  | completeBatch => exact fun key member => Spared.owned owned (spares key member)
  | clearRetries => exact spares
  | recordAudit => exact spares
  | createBet | acceptBet | rejectBet | setTransactionCode | completeRow => exact spares.elim

theorem runs_silent {program : Betting α} (silent : program.CallsOnly BettingCall.Silent) :
    (sparingBets detail tenant).Runs program world := by
  refine Contract.Safe.of_callsOnly (fun _ _ _ _ held => held) ?_ (fun _ _ _ _ held => held) silent
    trivial
  intro _ request world silent choice
  cases request with
  | write => exact silent.elim
  | read look =>
      unfold World.answer
      split <;> rfl
  | randomUUID | getBalance | postTransaction | postBatch => rfl

/-- A transaction for other tenants. -/
theorem runs_transact {write : Write α}
    (spares : Write.Spares detail tenant world.db.ledger write) :
    (sparingBets detail tenant).Runs (transact write) world := by
  refine Contract.Safe.call fun later waited _ => ⟨fun choice => ?_, fun _ _ => trivial⟩
  have spares := Write.Spares.owned waited spares
  simp only [World.answer]
  rcases later.commit_cases choice.fault fun db => write.run choice.freshId later.clock db with
    ⟨failure, unchanged, _⟩ | ⟨reply, db, ran, done | done⟩
  · rw [unchanged]
  · rw [done]
    exact rows_of_spares spares ran
  · rw [done]
    exact rows_of_spares spares ran

/-- A read, with what it sees of a ledger in which everything has its tenant. -/
theorem runs_read {β : Type} {look : Database → Moment → α} {next : α → Betting β}
    (rest : ∀ moment (later : World), world.db.ledger.Owned later.db.ledger →
      (sparingBets detail tenant).Runs (next (look later.db moment)) later) :
    (sparingBets detail tenant).Runs (Program.call (.read look) >>= next) world := by
  have waits : ∀ later : World, (sparingBets detail tenant).rely (.read look) world later →
      world.db.ledger.Owned later.db.ledger := fun _ waited => waited
  refine safe_betting_read (fun later choice => ?_) waits
    (fun moment _ later _ _ held => rest moment later held) fun _ _ => trivial
  unfold World.answer
  split <;> rfl

end Rules

section Delivery

variable {detail : Detail} {tenant casinoGroupId : String} {world : World}

theorem lasting_spared (entries : List WalletOutbox) :
    (sparingBets detail tenant).Lasting fun world =>
      ∀ entry ∈ entries, Spared detail tenant world.db.ledger entry.key :=
  Contract.Lasting.all fun _ => lasting_of_owned fun owned => Spared.owned owned

theorem spared_keys {ledger : Ledger} {entries : List WalletOutbox}
    (spared : ∀ entry ∈ entries, Spared detail tenant ledger entry.key) :
    ∀ key ∈ entries.map WalletOutbox.key, Spared detail tenant ledger key := by
  intro key listed
  obtain ⟨entry, member, rfl⟩ := List.mem_map.mp listed
  exact spared entry member

theorem runs_retryAll {entries : List WalletOutbox} (failure : Failure)
    (spared : ∀ entry ∈ entries, Spared detail tenant world.db.ledger entry.key) :
    (sparingBets detail tenant).Runs (retryAll entries failure) world := by
  apply Contract.Safe.foldlM (fun rest _ (world : World) =>
    ∀ entry ∈ rest, Spared detail tenant world.db.ledger entry.key)
  · intro entry rest _ state held
    have others : ∀ entry ∈ rest, Spared detail tenant state.db.ledger entry.key :=
      fun entry member => held entry (List.mem_cons_of_mem _ member)
    have retried : (sparingBets detail tenant).Runs
        (WalletOutboxService.scheduleRetry entry failure) state :=
      runs_transact (held entry List.mem_cons_self)
    refine Contract.Safe.mono (fun outcome after kept => ?_)
      (Contract.Safe.lasting (lasting_spared rest) others retried)
    cases outcome with
    | ok _ => exact kept.2
    | error _ => trivial
  · exact fun _ _ _ => trivial
  · exact spared

theorem runs_deliverBatch {entries : List WalletOutbox} (batchId : ℕ)
    (spared : ∀ entry ∈ entries, Spared detail tenant world.db.ledger entry.key) :
    (sparingBets detail tenant).Runs (deliverBatch casinoGroupId batchId entries) world := by
  refine Contract.Safe.handle (fun _ (world : World) => True ∧
    ∀ entry ∈ entries, Spared detail tenant world.db.ledger entry.key) ?_ (fun _ _ _ => trivial) ?_
  · refine Contract.Safe.lasting (lasting_spared entries) spared ?_
    apply Contract.Runs.carry (lasting_spared entries) spared
      (runs_silent (postTransactionBatch_silent _ _ _))
    intro _ state held
    exact Contract.Runs.seq (runs_transact (spared_keys held)) fun _ _ => trivial
  · intro failure state held
    exact Contract.Runs.seq (runs_retryAll failure held.2) fun _ _ => trivial

/-- The rows of a batch are all of one group. -/
theorem runs_flushSettlementBatchForGroup (apart : detail = .core ∨ casinoGroupId ≠ tenant) :
    (sparingBets detail tenant).Runs (flushSettlementBatchForGroup casinoGroupId) world := by
  apply runs_read
  intro first _ _
  dsimp only
  split
  · trivial
  · next anchor _ =>
      apply Contract.Runs.seq (runs_silent (batchIdOf_silent anchor))
      intro batchId _
      apply runs_read
      intro moment state _
      split
      · trivial
      · have spared : ∀ entry ∈ (dueRows state.db moment first.now .walletSettle).filter (fun row =>
            row.casinoGroupId = casinoGroupId && row.batchId = anchor.batchId),
            Spared detail tenant state.db.ledger entry.key := by
          intro entry listed
          rcases apart with core | apart
          · exact .inl core
          · obtain ⟨due, own⟩ := List.mem_filter.mp listed
            simp only [Bool.and_eq_true, decide_eq_true_eq] at own
            have stored : (state.db.ledger.entry entry.betId).row entry.type = some entry :=
              Ledger.entry_row.mpr ⟨(mem_dueRows.mp due).1, rfl, rfl⟩
            refine .inr ⟨casinoGroupId, ?_, apart⟩
            rw [Ledger.rowOwner, WalletOutbox.key, stored, Option.map_some, own.1]
        apply Contract.Runs.carry (lasting_spared _) spared
        · unfold assignBatchId
          split
          · exact runs_transact (spared_keys spared)
          · trivial
        · intro _ state held
          exact runs_deliverBatch batchId held

theorem runs_flushUpTo (apart : detail = .core ∨ casinoGroupId ≠ tenant) (fuel : ℕ) :
    (sparingBets detail tenant).Runs (flushUpTo casinoGroupId fuel) world := by
  induction fuel generalizing world with
  | zero => trivial
  | succ fuel ih =>
      apply Contract.Runs.seq (runs_flushSettlementBatchForGroup apart)
      intro sent state
      split
      · exact Contract.Runs.seq ih fun _ _ => trivial
      · trivial

/-- All rows that are due are delivered, whose ever they are. -/
theorem runs_flushSettlementBatches :
    (sparingBets .core tenant).Runs flushSettlementBatches world := by
  apply runs_read
  intro moment state _
  apply Contract.Runs.foldlM
  intro batches casinoGroupId state
  exact Contract.Runs.seq (runs_flushSettlementBatchForGroup (.inl rfl)) fun _ _ => trivial

end Delivery

section Staff

variable {detail : Detail} {tenant casinoGroupId : String} {world : World}

theorem runs_record {entry : AuditEntry} (other : entry.casinoGroupId ≠ some tenant) :
    (sparingBets detail tenant).Runs (StaffBetsService.record entry) world :=
  Contract.Runs.handle (runs_transact other) fun _ _ => trivial

theorem some_ne (apart : casinoGroupId ≠ tenant) : some casinoGroupId ≠ some tenant :=
  fun same => apart (Option.some.inj same)

theorem runs_voidBet (apart : casinoGroupId ≠ tenant) (betId reason staffUserId : String) :
    (sparingBets detail tenant).Runs
      (StaffBetsService.voidBet casinoGroupId betId reason staffUserId) world := by
  apply runs_read
  intro moment state _
  dsimp only
  cases found : (state.db.ledger.bets.get? betId).filter
      fun bet => bet.casinoGroupId = casinoGroupId with
  | none => trivial
  | some bet =>
      dsimp only
      split
      · trivial
      · split
        · trivial
        · obtain ⟨stored, own⟩ := Option.filter_eq_some_iff.mp found
          obtain ⟨member, rfl⟩ := Table.get?_eq_some_iff.mp stored
          have owned : state.db.ledger.betOwner bet.id = some casinoGroupId := by
            rw [Ledger.betOwner, Ledger.entry_bet.mpr ⟨member, rfl⟩]
            simpa using own
          have spares : Write.Spares detail tenant state.db.ledger
              (.voidBet bet casinoGroupId reason) := ⟨apart, owned⟩
          apply Contract.Runs.seq (runs_transact spares)
          intro updated _
          exact Contract.Runs.seq (runs_record (some_ne apart)) fun _ _ => trivial

theorem runs_retryWalletSettlementTransmission (apart : casinoGroupId ≠ tenant)
    (staffUserId : String) :
    (sparingBets detail tenant).Runs
      (StaffSettlementService.retryWalletSettlementTransmission casinoGroupId staffUserId)
      world := by
  apply Contract.Runs.seq (runs_silent (view_silent _))
  intro pendingBefore state
  split
  · trivial
  · have spares : Write.Spares detail tenant state.db.ledger (.clearRetries casinoGroupId) :=
      .inr apart
    apply Contract.Runs.seq (runs_transact spares)
    intro _ _
    apply Contract.Runs.seq (runs_flushUpTo (.inr apart) 100)
    intro batchesSent _
    apply Contract.Runs.seq (runs_silent (view_silent _))
    intro pendingAfter _
    exact Contract.Runs.seq (runs_record (some_ne apart)) fun _ _ => trivial

end Staff

section Settlement

variable {runtime : Text.Runtime} {tenant casinoGroupId : String} {world : World}

theorem lasting_betOwner {detail : Detail} (betId : String) :
    (sparingBets detail tenant).Lasting fun world =>
      world.db.ledger.betOwner betId = some casinoGroupId :=
  lasting_of_owned fun owned own => owned.bet betId casinoGroupId own

/-- The bet that is graded is the one that was asked for, and its tenant's. -/
theorem safe_gradeBet_owned {betId : String}
    (owned : world.db.ledger.betOwner betId = some casinoGroupId) :
    (sparingBets .core tenant).Safe (fun outcome after => ∀ graded, outcome = .ok (some graded) →
      graded.bet.casinoGroupId = casinoGroupId ∧
        after.db.ledger.betOwner graded.bet.id = some casinoGroupId)
      (gradeBet runtime betId) world := by
  have waits : ∀ later : World, world.db.ledger.Owned later.db.ledger →
      later.db.ledger.betOwner betId = some casinoGroupId :=
    fun _ waited => waited.bet betId casinoGroupId owned
  refine safe_betting_read (fun later choice => ?_) waits ?_ fun _ _ => by simp
  · unfold World.answer
    split <;> rfl
  · intro _ _ state _ _ held
    dsimp only
    cases accepted? : findAccepted state.db betId with
    | none =>
        intro graded returned
        cases Except.ok.inj returned
    | some bet =>
        unfold findAccepted at accepted?
        obtain ⟨stored, accepted, rfl⟩ := Option.map_eq_some_iff.mp accepted?
        obtain ⟨member, rfl⟩ := Table.get?_eq_some_iff.mp (Option.filter_eq_some_iff.mp accepted).1
        have own : stored.casinoGroupId = casinoGroupId := by
          rw [Ledger.betOwner, Ledger.entry_bet.mpr ⟨member, rfl⟩] at held
          exact Option.some.inj held
        apply Contract.Safe.bind (Contract.Safe.lasting (lasting_betOwner stored.id) held
          (runs_silent (silent_of_reading (Premises.reads_loadLegContexts (sortLegs stored.legs)))))
        · intro contexts after kept graded returned
          rw [(Premises.gradeContexts_some (Except.ok.inj returned)).1]
          exact ⟨own, kept.2⟩
        · exact fun _ _ _ => by simp

theorem runs_applySettlements (apart : casinoGroupId ≠ tenant) {graded : GradedBet}
    (own : graded.bet.casinoGroupId = casinoGroupId)
    (owned : world.db.ledger.betOwner graded.bet.id = some casinoGroupId) :
    (sparingBets .core tenant).Runs (applySettlements [graded]) world := by
  apply Contract.Runs.seq
  · apply Contract.Runs.seq
    · apply Contract.Runs.carry (lasting_betOwner graded.bet.id) owned
        (runs_silent (silent_of_reading (Premises.reads_batchIdFor _ _)))
      intro batch state held
      obtain ⟨batchId, _⟩ := batch
      refine Contract.Runs.seq (runs_transact ⟨?_, ?_⟩) fun _ _ => trivial
      · rw [own]
        exact apart
      · rw [own]
        exact held
    · exact fun _ _ => trivial
  · intro _ _
    exact Contract.Runs.seq runs_flushSettlementBatches fun _ _ => trivial

theorem runs_trySettleBet (apart : casinoGroupId ≠ tenant) {betId : String}
    (owned : world.db.ledger.betOwner betId = some casinoGroupId) :
    (sparingBets .core tenant).Runs (trySettleBet runtime betId) world := by
  apply Contract.Runs.bind (safe_gradeBet_owned owned)
  intro graded state held
  cases graded with
  | none => trivial
  | some graded =>
      obtain ⟨own, owned⟩ := held graded rfl
      exact Contract.Runs.seq (runs_applySettlements apart own owned) fun _ _ => trivial

theorem runs_settleBetsForEvent (apart : casinoGroupId ≠ tenant) (eventId : String) :
    (sparingBets .core tenant).Runs (settleBetsForEvent runtime eventId casinoGroupId) world := by
  apply runs_read
  intro moment state _
  apply Contract.Runs.seq
  · apply Contract.Safe.foldlM (fun rest _ (world : World) =>
      ∀ betId ∈ rest, world.db.ledger.betOwner betId = some casinoGroupId)
    · intro betId rest settled state held
      have others : ∀ betId ∈ rest, state.db.ledger.betOwner betId = some casinoGroupId :=
        fun betId member => held betId (List.mem_cons_of_mem _ member)
      have tried : (sparingBets .core tenant).Runs (do
          let done ← trySettleBet runtime betId
          return if done then settled + 1 else settled : Betting ℕ) state :=
        Contract.Runs.seq (runs_trySettleBet apart (held betId List.mem_cons_self))
          fun _ _ => trivial
      refine Contract.Safe.mono (fun outcome after kept => ?_)
        (Contract.Safe.lasting (Contract.Lasting.all lasting_betOwner) others tried)
      cases outcome with
      | ok _ => exact kept.2
      | error _ => trivial
    · exact fun _ _ _ => trivial
    · intro betId listed
      obtain ⟨bet, accepted, rfl⟩ := List.mem_map.mp listed
      unfold acceptedBets at accepted
      obtain ⟨stored, chosen⟩ := List.mem_filter.mp ((List.mem_insertionSort _).mp accepted)
      simp only [Bool.and_eq_true, decide_eq_true_eq] at chosen
      rw [Ledger.betOwner, Ledger.entry_bet.mpr ⟨Table.mem_rows.mp stored, rfl⟩, Option.map_some,
        chosen.2.1]
  · exact fun _ _ => trivial

end Settlement

end Portal

end SportsBetting
