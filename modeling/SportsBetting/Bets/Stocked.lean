import SportsBetting.Bets.Numbering
import SportsBetting.Bets.Totals

/-!
# What a delivery needs

A debit is rebuilt from the legs of its bet, a refund must be no debit, and a row that
was delayed has its turn again within fifteen minutes. Services keep to all this
wherever they stop.
-/

namespace SportsBetting

open Async Ledger Wallet BetValidation BetsService Numeral

section Entries

/-- The longest wait between two attempts, in milliseconds. -/
def longestDelay : ℤ := 900 * 1000

structure Ledger.Entry.Stocked (entry : Entry) (now : Time) : Prop where
  legs : ∀ bet, entry.bet = some bet → bet.legs ≠ []
  refund : ∀ row, entry.row .walletStaffVoid = some row → ∀ request,
    row.payload = some request → 0 ≤ amountOf request
  delay : ∀ type row, entry.row type = some row → ∀ time, row.nextRetryAt = some time →
    time ≤ now + longestDelay

variable {entry : Entry} {bet : Bet} {row : WalletOutbox} {now next : Time}

theorem Ledger.Entry.Stocked.later (stocked : entry.Stocked now) (passed : now ≤ next) :
    entry.Stocked next where
  legs := stocked.legs
  refund := stocked.refund
  delay type row stored time delayed :=
    (stocked.delay type row stored time delayed).trans (by gcongr)

theorem Ledger.Entry.Stocked.set (stocked : entry.Stocked now) (legs : bet.legs ≠ [])
    (refund : row.type = .walletStaffVoid → ∀ request, row.payload = some request →
      0 ≤ amountOf request)
    (delay : ∀ time, row.nextRetryAt = some time → time ≤ now + longestDelay) :
    ((entry.setBet bet).setRow row).Stocked now := by
  constructor
  · intro found stored
    rw [Entry.setRow_bet, Entry.setBet_bet] at stored
    rwa [← Option.some.inj stored]
  · intro found stored
    rw [Entry.setRow_row, Entry.setBet_row] at stored
    split at stored
    · next own =>
        rw [← Option.some.inj stored]
        exact refund own
    · exact stocked.refund found stored
  · intro type found stored
    rw [Entry.setRow_row, Entry.setBet_row] at stored
    split at stored
    · rw [← Option.some.inj stored]
      exact delay
    · exact stocked.delay type found stored

theorem Ledger.Entry.Stocked.map {onRow : WalletOutbox → WalletOutbox} (stocked : entry.Stocked now)
    (payload : ∀ row, (onRow row).payload = row.payload)
    (delay : ∀ row time, (onRow row).nextRetryAt = some time →
      row.nextRetryAt = some time ∨ time ≤ now + longestDelay) :
    (entry.map (fun bet => bet) onRow).Stocked now := by
  constructor
  · intro bet stored
    exact stocked.legs bet (by simpa [Entry.map] using stored)
  · intro found stored request
    rw [Entry.map_row] at stored
    obtain ⟨before, there, rfl⟩ := Option.map_eq_some_iff.mp stored
    rw [payload]
    exact stocked.refund before there request
  · intro type found stored time delayed
    rw [Entry.map_row] at stored
    obtain ⟨before, there, rfl⟩ := Option.map_eq_some_iff.mp stored
    rcases delay before time delayed with earlier | bounded
    · exact stocked.delay type before there time earlier
    · exact bounded

/-- No retry is scheduled later than the longest delay. -/
theorem nextRetryAt_onRow {Reply : Type} (write : Write Reply) (row : WalletOutbox) (time : Time)
    (delayed : (write.onRow now row).nextRetryAt = some time) :
    row.nextRetryAt = some time ∨ time ≤ now + longestDelay := by
  cases write with
  | scheduleRetry key attempts message =>
      simp only [Write.onRow] at delayed
      split at delayed
      · right
        simp only [SportsBetting.delayed, Option.some.injEq] at delayed
        rw [← delayed, longestDelay]
        have bound : ((min (60 * (attempts + 1)) 900 : ℕ) : ℤ) ≤ 900 := by
          exact_mod_cast min_le_right _ _
        gcongr
      · exact .inl delayed
  | clearRetries casinoGroupId =>
      simp only [Write.onRow] at delayed
      split at delayed
      · cases delayed
      · exact .inl delayed
  | setTransactionCode | completeRow | assignBatch | completeBatch =>
      simp only [Write.onRow] at delayed
      split at delayed <;> exact .inl delayed
  | createBet | acceptBet | rejectBet | settleBet | voidBet | recordAudit => exact .inl delayed

theorem payload_onRow {Reply : Type} (write : Write Reply) (row : WalletOutbox) :
    (write.onRow now row).payload = row.payload := by
  cases write with
  | setTransactionCode | scheduleRetry | completeRow | assignBatch | completeBatch
    | clearRetries =>
      simp only [Write.onRow]
      split <;> rfl
  | createBet | acceptBet | rejectBet | settleBet | voidBet | recordAudit => rfl

end Entries

section Answer

/-- A new bet has legs. -/
def BettingCall.Furnishes {Reply : Type} : BettingCall Reply → Prop
  | .write (.createBet data _) => data.legs ≠ []
  | _ => True

/-- The legs of a new bet are all that is promised, and nothing is relied on. -/
@[reducible] def furnished : Contract bettingMachine where
  invariant _ := True
  rely _ _ _ := True
  proper request _ := request.Furnishes
  admits _ _ _ := True

theorem furnished_stable : furnished.Stable where
  refl _ _ := trivial
  trans _ _ _ _ _ _ := trivial
  keeps _ _ _ _ _ _ := trivial
  sound _ _ _ := trivial
  event _ _ _ _ := trivial

def Stocked (world : World) : Prop :=
  ∀ betId, (world.db.ledger.entry betId).Stocked world.clock

variable {world : World} {id : String} {after : Database} {Reply : Type}

theorem Stocked.update {now : Time} {before after : Ledger} {betId : String} {entry : Entry}
    (stocked : ∀ betId, (before.entry betId).Stocked now)
    (entries : after.entry = Function.update before.entry betId entry)
    (own : entry.Stocked now) (other : String) : (after.entry other).Stocked now := by
  rw [entries]
  by_cases here : other = betId
  · rw [here, Function.update_self]
    exact own
  · rw [Function.update_of_ne here]
    exact stocked other

/-- A credit changes no leg but its outcome. -/
theorem legs_update {credit : Credit} {now : Time} {bet : Bet} (legs : bet.legs ≠ []) :
    (credit.update now bet).legs ≠ [] := by
  simpa [Credit.update, setLegOutcomes] using legs

theorem stocked_write {write : Write Reply} {reply : Reply}
    (proper : Premises.serial.ProperWrite world write)
    (furnishes : (BettingCall.write write).Furnishes)
    (tidy : ∀ betId, (world.db.ledger.entry betId).Tidy)
    (ran : write.run id world.clock world.db = .ok (reply, after)) (stocked : Stocked world) :
    Stocked { world with db := after } := by
  cases write with
  | createBet data code =>
      obtain ⟨rfl, _, _, entries⟩ := createBet_ok ran
      refine Stocked.update stocked entries ((stocked id).set furnishes ?_ ?_)
      · simp [reserveRow]
      · simp [reserveRow]
  | acceptBet betId reservation =>
      obtain ⟨old, row, stored, reserved, _, entries⟩ := acceptBet_ok ran
      refine Stocked.update stocked entries ((stocked betId).set ?_ ?_ ?_)
      · exact (stocked betId).legs old stored
      · intro type
        exact absurd ((entry_row.mp reserved).2.2.symm.trans type) (by simp)
      · exact (stocked betId).delay _ row reserved
  | rejectBet betId reason =>
      obtain ⟨old, row, stored, reserved, _, entries⟩ := rejectBet_ok ran
      refine Stocked.update stocked entries ((stocked betId).set ?_ ?_ ?_)
      · exact (stocked betId).legs old stored
      · intro type
        exact absurd ((entry_row.mp reserved).2.2.symm.trans type) (by simp)
      · exact (stocked betId).delay _ row reserved
  | settleBet graded batchId =>
      obtain ⟨credit, built, committed⟩ := Except.bind_eq_ok.mp ran
      obtain ⟨_, _, _, _, _, row⟩ := settlementCredit_ok built
      obtain ⟨old, stored, _, _, entries⟩ := Credit.commit_ok (settlementCredit_own built) committed
      refine Stocked.update stocked entries ((stocked _).set ?_ ?_ ?_)
      · exact legs_update ((stocked _).legs old stored)
      · simp [row, creditRow]
      · simp [row, creditRow]
  | voidBet bet casinoGroupId reason =>
      obtain ⟨credit, built, committed⟩ := Except.bind_eq_ok.mp ran
      obtain ⟨_, made, own, _, _, row⟩ := staffVoidCredit_ok built
      obtain ⟨old, stored, _, _, entries⟩ := Credit.commit_ok (staffVoidCredit_own built) committed
      obtain ⟨⟨same, there, terms, _⟩, _⟩ := proper
      rw [own] at stored
      obtain rfl := Option.some.inj (stored.symm.trans there)
      simp only [Bet.terms, Prod.mk.injEq] at terms
      obtain ⟨_, _, _, _, amount⟩ := buildSettlementTransaction_ok made
      refine Stocked.update stocked entries ((stocked _).set ?_ ?_ ?_)
      · exact legs_update ((stocked _).legs old stored)
      · -- What is refunded is the stake of the stored bet.
        intro _ request paid
        obtain rfl : _ = request := Option.some.inj ((congrArg _ row).symm.trans paid)
        have staked := (tidy _).staked old stored
        rw [terms.2.2.1] at staked
        rw [amountOf, amount, if_neg (by simp), Numeric.parse_text, Option.getD_some]
        exact div_nonneg (by exact_mod_cast staked) (by positivity)
      · simp [row, creditRow]
  | setTransactionCode | scheduleRetry | completeRow | assignBatch | completeBatch | clearRetries
    | recordAudit =>
      intro betId
      dsimp only
      rw [Write.entry_of_rowsOnly ran trivial]
      exact (stocked betId).map (payload_onRow _) (nextRetryAt_onRow _)

theorem stocked_answer {request : BettingCall Reply} (choice : Choice)
    (proper : Premises.serial.Proper request world) (furnishes : request.Furnishes)
    (tidy : ∀ betId, (world.db.ledger.entry betId).Tidy) (stocked : Stocked world) :
    Stocked (world.answer choice request).2 := by
  cases request with
  | write write =>
      rcases world.commit_cases choice.fault
        (fun db => write.run choice.freshId world.clock db) with
        ⟨_, same, _⟩ | ⟨_, _, ran, same | same⟩
      · simpa only [World.answer, same] using stocked
      · simp only [World.answer, same]
        exact stocked_write proper.2 furnishes tidy ran stocked
      · simp only [World.answer, same]
        exact stocked_write proper.2 furnishes tidy ran stocked
  | read look =>
      unfold World.answer
      split <;> exact stocked
  | randomUUID | getBalance | postTransaction | postBatch => exact stocked

theorem stocked_happen (happening : Happening) (stocked : Stocked world) :
    Stocked (world.happen happening) := by
  cases happening with
  | clock elapsed =>
      intro betId
      exact (stocked betId).later (by simp [World.happen])
  | balance | catalog => exact stocked

theorem stocked_deployed (catalog : Catalog) (clock : Time) (balances : String → String → ℚ) :
    Stocked (World.deployed catalog clock balances) := by
  intro betId
  constructor
  · rintro bet ⟨⟩
  · rintro row ⟨⟩
  · intro type row stored
    rw [← outboxOf_eq_row] at stored
    cases stored

end Answer

section Actors

variable {α : Type} {world : World}

/-- A request of the player names a selection, as its validation has it. -/
def Actor.Named : Actor → Prop
  | .placeBet _ _ selectionIds _ => selectionIds ≠ []
  | _ => True

instance (actor : Actor) : Decidable actor.Named := by
  unfold Actor.Named
  cases actor <;> infer_instance

theorem furnished_of_callsOnly {allowed : {Reply : Type} → BettingCall Reply → Prop}
    (creates : ∀ {Reply : Type} (request : BettingCall Reply), allowed request → request.Furnishes)
    {program : Betting α} (only : program.CallsOnly allowed) : furnished.Runs program world :=
  have start : (fun _ : World => True) world := trivial
  Contract.Safe.of_callsOnly (fun _ _ _ _ _ => trivial)
    (fun request _ allows => creates request allows) (fun _ _ _ _ _ => trivial) only start

theorem BettingCall.Debiting.furnishes {Reply : Type} {request : BettingCall Reply}
    (debiting : request.Debiting) : request.Furnishes := by
  cases request with
  | write transaction => cases transaction <;> first | exact debiting.elim | trivial
  | read | randomUUID | getBalance | postTransaction | postBatch => trivial

theorem BettingCall.Crediting.furnishes {Reply : Type} {request : BettingCall Reply}
    (crediting : request.Crediting) : request.Furnishes := by
  cases request with
  | write transaction => cases transaction <;> first | exact crediting.elim | trivial
  | read | randomUUID | getBalance | postTransaction | postBatch => trivial

theorem furnished_debiting {program : Betting α}
    (debiting : program.CallsOnly BettingCall.Debiting) : furnished.Runs program world :=
  furnished_of_callsOnly (fun _ => BettingCall.Debiting.furnishes) debiting

/-- Every selection that was asked for has its leg. -/
theorem furnished_validatePlacement {config : EnvConfig} {casinoGroupId stake : String}
    {selectionIds : List String} (named : selectionIds ≠ []) :
    furnished.Safe (fun outcome _ => ∀ quote, outcome = .ok quote → quote.legs ≠ [])
      (BetsService.validatePlacement config casinoGroupId selectionIds stake) world := by
  unfold BetsService.validatePlacement
  cases checkRequest config selectionIds stake with
  | error failure => exact fun quote same => by cases same
  | ok amount =>
      rw [Program.bind_ok]
      apply Contract.Safe.bind
      · exact furnished_debiting (debiting_of_posting (read_posting _))
      · intro rows _ _ quote accepted
        obtain ⟨found, legs⟩ := validateRows_ok accepted
        have size : quote.legs.length = selectionIds.length :=
          (Except.length_of_mapM_eq_ok legs).trans found
        exact fun none_ => named (List.length_eq_zero_iff.mp (by rw [← size, none_]; rfl))
      · exact fun failure _ _ quote same => by cases same

theorem furnished_placeNewBet {config : EnvConfig} {user : UserContext}
    {idempotencyKey stake : String} {selectionIds : List String} (named : selectionIds ≠ []) :
    furnished.Runs (placeNewBet config user idempotencyKey selectionIds stake) world := by
  apply Contract.Runs.bind (furnished_validatePlacement named)
  intro quote _ legs
  apply Contract.Runs.seq (furnished_debiting (debiting_of_posting (checkBalance_posting _ _)))
  intro _ _
  apply Contract.Runs.seq (furnished_debiting (debiting_of_posting randomUUID_posting))
  intro number after
  cases built : betData user idempotencyKey quote with
  | error failure => trivial
  | ok data =>
      obtain ⟨_, _, stored, _⟩ := betData_ok built
      have size : data.legs.length = quote.legs.length := by
        simpa using Except.length_of_mapM_eq_ok stored
      rw [Program.bind_ok]
      apply Contract.Runs.seq
      · intro _ _ _
        refine ⟨fun none_ => legs quote rfl ?_, fun _ _ => trivial⟩
        exact List.length_eq_zero_iff.mp (by rw [← size, none_]; rfl)
      · exact fun bet _ => furnished_debiting (attemptWalletDebit_debiting bet.id)

theorem furnished_actor (config : EnvConfig) (runtime : Text.Runtime) {actor : Actor}
    (named : actor.Named) (world : World) :
    furnished.Runs (actor.program config runtime) world := by
  have credit : actor.credits → furnished.Runs (actor.program config runtime) world :=
    fun credits => furnished_of_callsOnly (fun _ => BettingCall.Crediting.furnishes)
      (crediting_of_credits runtime credits)
  cases actor with
  | placeBet user idempotencyKey selectionIds stake =>
      apply Contract.Runs.void
      apply Contract.Runs.seq (furnished_debiting (debiting_of_posting (view_posting _)))
      intro existing _
      cases existing with
      | none => exact furnished_placeNewBet named
      | some bet =>
          dsimp only
          split
          · exact furnished_debiting (attemptWalletDebit_debiting bet.id)
          · trivial
  | pollOutbox =>
      exact Contract.Runs.handle (furnished_debiting processPending_debiting).void
        fun _ _ => trivial
  | pollSettlement | settleBatch | trySettleBet | settleBetsForEvent | voidBet =>
      exact credit trivial
  | retryWalletSettlementTransmission casinoGroupId staffUserId =>
      exact (furnished_debiting (debiting_of_delivering
        (retryWalletSettlementTransmission_delivering casinoGroupId staffUserId))).void

end Actors

section Sessions

variable {config : EnvConfig} (runtime : Text.Runtime) {world : World}

/-- One service, run alone up to any of its calls. -/
theorem stocked_session (nonneg : Premises.StakesNonneg config)
    (work : Actor × List (Move bettingMachine)) (named : work.1.Named)
    (own : ∀ move ∈ work.2, OwnReply move) (balanced : Balanced world) (stocked : Stocked world) :
    Stocked ((Actor.session config runtime work).result world) := by
  let contract := Premises.serial.books.both furnished
  let holds : World → Prop := fun world => Booked world ∧ Stocked world
  have call : ∀ {Reply : Type} (request : BettingCall Reply) choice (world : World),
      contract.invariant world → contract.proper request world →
      contract.admits world choice request → holds world →
        holds (world.answer choice request).2 := by
    rintro _ request choice world _ ⟨⟨proper, accounted⟩, furnishes⟩ _ ⟨booked, stocked⟩
    exact ⟨booked_answer choice proper accounted booked,
      stocked_answer choice proper furnishes booked.tidy stocked⟩
  have event : ∀ happening (world : World), holds world → holds (world.happen happening) := by
    rintro happening world ⟨booked, stocked⟩
    refine ⟨?_, stocked_happen happening stocked⟩
    cases happening <;> exact ⟨booked.tidy, booked.codes, booked.voids⟩
  have followed : Config.Follows contract.guard
      ⟨world, [(Actor.session config runtime work).program]⟩ work.2 := by
    apply Config.follows_of_prefixes
    rintro earlier move later same
    cases move with
    | occur happening => trivial
    | run index choice =>
        have here : choice.exchange.Own := own (.run index choice) (by rw [same]; simp)
        simp only [Config.Permits]
        split
        · exact ⟨⟨trivial, here⟩, trivial⟩
        · trivial
  obtain ⟨_, _, _, held, _⟩ := Contract.Safe.alone
    ((Premises.books_stable Premises.serial).both furnished_stable) holds call event
    (fun _ _ _ _ _ => trivial)
    ⟨⟨balanced.orderly, balanced.orderly, balanced.taken⟩, trivial⟩
    ⟨balanced.booked, stocked⟩
    ((Premises.books_actor Premises.serial nonneg runtime work.1 world).both
      (furnished_actor config runtime named world)) followed
  exact held.2

/-- Services that run one after the other keep the accounts and what deliveries need. -/
theorem stocked_sessions (nonneg : Premises.StakesNonneg config)
    (sessions : List (Actor × List (Move bettingMachine)))
    (named : ∀ work ∈ sessions, work.1.Named)
    (own : ∀ work ∈ sessions, ∀ move ∈ work.2, OwnReply move) (balanced : Balanced world)
    (stocked : Stocked world) :
    Balanced (Session.runAll (sessions.map (Actor.session config runtime)) world) ∧
      Stocked (Session.runAll (sessions.map (Actor.session config runtime)) world) := by
  induction sessions generalizing world with
  | nil => exact ⟨balanced, stocked⟩
  | cons work rest ih =>
      have here := own work List.mem_cons_self
      apply ih (fun other member => named other (List.mem_cons_of_mem _ member))
        (fun other member => own other (List.mem_cons_of_mem _ member))
      · exact balanced_session runtime nonneg work here balanced
      · exact stocked_session runtime nonneg work (named work List.mem_cons_self) here balanced
          stocked

end Sessions

end SportsBetting
