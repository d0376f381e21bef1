import SportsBetting.Bets.Books
import SportsBetting.Wallet.Refusals

/-!
# The account of a bet at the wallet

As long as services run one after the other, the transactions that the wallet has
applied for a bet add up to what its status says, and those of a tenant to the
accounts of its bets.
-/

namespace SportsBetting

open Async Ledger Wallet WalletOutboxService Numeral

section Rejected

/-- No rejected bet has an applied debit. -/
def RejectedFree (world : World) : Prop :=
  ∀ betId bet, (world.db.ledger.entry betId).bet = some bet → bet.status = .rejected →
    appliedDebits world.wallet betId = []

variable {world : World}

/-- All debits of a bet go out under the code of its row. -/
theorem undebited_of_code (orderly : Orderly world) {betId : String}
    (undebited : DebitIs false world betId) : appliedDebits world.wallet betId = [] := by
  obtain ⟨bet, row, stored, reserved, unapplied⟩ := undebited
  rw [List.eq_nil_iff_forall_not_mem]
  intro done member
  obtain ⟨applied, round, unfinished⟩ := mem_appliedDebits.mp member
  obtain ⟨other, row', debit⟩ := orderly.debitOf applied unfinished
  have own := debit.stored
  have same := debit.reserved
  rw [round] at own same
  obtain rfl := Option.some.inj (stored.symm.trans own)
  obtain rfl := Option.some.inj (reserved.symm.trans same)
  have known := hasApplied_iff.mpr ⟨done, applied, debit.group, debit.code⟩
  rw [unapplied] at known
  cases known

theorem rejectedFree_write {id : String} {now : Time} {after : Database} {Reply : Type}
    {write : Write Reply} {reply : Reply} (orderly : Orderly world)
    (accounted : Premises.serial.AccountedWrite world write)
    (ran : write.run id now world.db = .ok (reply, after)) (free : RejectedFree world) :
    RejectedFree { world with db := after } := by
  intro betId bet stored rejected
  dsimp only at stored
  have kept : (world.db.ledger.entry betId).bet = some bet →
      appliedDebits world.wallet betId = [] := fun before => free betId bet before rejected
  cases write with
  | createBet data code =>
      obtain ⟨rfl, _, _, entries⟩ := createBet_ok ran
      rcases bet_of_update entries stored with ⟨_, rfl⟩ | ⟨_, before⟩
      · cases rejected
      · exact kept before
  | acceptBet id reservation =>
      obtain ⟨_, _, _, _, _, entries⟩ := acceptBet_ok ran
      rcases bet_of_update entries stored with ⟨_, rfl⟩ | ⟨_, before⟩
      · cases rejected
      · exact kept before
  | rejectBet id reason =>
      obtain ⟨_, _, _, _, _, entries⟩ := rejectBet_ok ran
      rcases bet_of_update entries stored with ⟨rfl, _⟩ | ⟨_, before⟩
      · exact undebited_of_code orderly (accounted trivial)
      · exact kept before
  | settleBet graded batchId =>
      obtain ⟨credit, built, committed⟩ := Except.bind_eq_ok.mp ran
      obtain ⟨_, _, _, status, _, _⟩ := settlementCredit_ok built
      obtain ⟨_, _, _, _, entries⟩ := Credit.commit_ok (settlementCredit_own built) committed
      rcases bet_of_update entries stored with ⟨_, rfl⟩ | ⟨_, before⟩
      · cases outcome : graded.betResult <;> simp [Credit.update, status, outcome,
          WalletSettlementOutcome.status] at rejected
      · exact kept before
  | voidBet voided casinoGroupId reason =>
      obtain ⟨credit, built, committed⟩ := Except.bind_eq_ok.mp ran
      obtain ⟨_, _, _, status, _, _⟩ := staffVoidCredit_ok built
      obtain ⟨_, _, _, _, entries⟩ := Credit.commit_ok (staffVoidCredit_own built) committed
      rcases bet_of_update entries stored with ⟨_, rfl⟩ | ⟨_, before⟩
      · simp [Credit.update, status] at rejected
      · exact kept before
  | setTransactionCode | scheduleRetry | completeRow | assignBatch | completeBatch | clearRetries |
      recordAudit =>
      rw [Write.entry_of_rowsOnly ran trivial] at stored
      exact kept (by simpa [Entry.map] using stored)

/-- A service that runs alone posts no debit of a bet that it has read as decided. -/
theorem rejectedFree_answer {Reply : Type} {request : BettingCall Reply} (choice : Choice)
    (orderly : Orderly world) (proper : Premises.serial.Proper request world)
    (accounted : Premises.serial.Accounted request world) (free : RejectedFree world) :
    RejectedFree (world.answer choice request).2 := by
  have finished : ∀ done, IsCredit world.db.ledger done → done.isFinished = true := by
    intro done credit
    obtain ⟨_, _, _, _, _, carries⟩ := credit.carries orderly.sound
    exact carries.finished
  cases request with
  | write write =>
      rcases world.commit_cases choice.fault
        (fun db => write.run choice.freshId world.clock db) with
        ⟨_, same, _⟩ | ⟨_, _, ran, same | same⟩
      · simpa only [World.answer, same] using free
      · simp only [World.answer, same]
        exact rejectedFree_write orderly accounted.2 ran free
      · simp only [World.answer, same]
        exact rejectedFree_write orderly accounted.2 ran free
  | read look =>
      unfold World.answer
      split <;> exact free
  | randomUUID | getBalance => exact free
  | postTransaction request =>
      intro betId bet stored rejected
      have before := free betId bet stored rejected
      rcases post_cases world.wallet choice.exchange request with same | ⟨_, applied⟩
      · simpa only [World.answer, same] using before
      · simp only [World.answer, applied]
        refine (appliedDebits_apply ?_).trans before
        by_cases open_ : request.isFinished = true
        · exact .inl open_
        · refine .inr fun round => ?_
          have isOpen := accounted trivial (by simpa using open_)
          have stored : (world.db.ledger.entry betId).bet = some bet := stored
          rw [round, debitOpen, stored] at isOpen
          cases reserved : (world.db.ledger.entry betId).reserve with
          | none => simp [reserved] at isOpen
          | some row => simp [reserved, isDecided, rejected] at isOpen
  | postBatch casinoGroupId batchId transactions =>
      intro betId bet stored rejected
      have before := free betId bet stored rejected
      rcases postBatch_cases world.wallet choice.exchange casinoGroupId batchId transactions with
        same | ⟨_, applied⟩
      · simpa only [World.answer, same] using before
      · simp only [World.answer, applied]
        exact (appliedDebits_applyAll fun request member =>
          finished request (proper request member)).trans before

end Rejected

section Sessions

/-- What holds wherever services that run one after the other stop. -/
structure Balanced (world : World) : Prop where
  orderly : Orderly world
  taken : TakenDebited world
  booked : Booked world
  consistent : world.db.ledger.Consistent
  rejected : RejectedFree world

theorem balanced_deployed (catalog : Catalog) (clock : Time) (balances : String → String → ℚ) :
    Balanced (World.deployed catalog clock balances) :=
  have empty : ∀ betId, ((World.deployed catalog clock balances).db.ledger.entry betId).bet = none :=
    fun _ => rfl
  { orderly := orderly_deployed catalog clock balances
    taken := fun betId bet stored => by simp [empty] at stored
    booked := booked_deployed catalog clock balances
    consistent := consistent_deployed catalog clock balances
    rejected := fun betId bet stored => by simp [empty] at stored }

variable {config : BetValidation.EnvConfig} (runtime : Text.Runtime)

/-- One service, run alone up to any of its calls. -/
theorem balanced_session (nonneg : Premises.StakesNonneg config)
    (work : Actor × List (Move bettingMachine)) (own : ∀ move ∈ work.2, OwnReply move)
    {world : World} (balanced : Balanced world) :
    Balanced ((Actor.session config runtime work).result world) := by
  let holds : World → Prop := fun world =>
    Booked world ∧ world.db.ledger.Consistent ∧ RejectedFree world
  have call : ∀ {Reply : Type} (request : BettingCall Reply) choice (world : World),
      Premises.serial.books.invariant world → Premises.serial.books.proper request world →
      Premises.serial.books.admits world choice request → holds world →
        holds (world.answer choice request).2 := by
    rintro _ request choice world ⟨orderly, _⟩ ⟨proper, accounted⟩ _ ⟨booked, consistent, free⟩
    refine ⟨booked_answer choice proper accounted booked, ?_,
      rejectedFree_answer choice orderly proper accounted free⟩
    refine World.answer_ledger world Ledger.Consistent choice request ?_ consistent
    rintro write rfl _ reply db ran
    exact consistent_write proper.1 proper.2 ran consistent
  have event : ∀ happening (world : World), holds world → holds (world.happen happening) := by
    rintro happening world ⟨booked, consistent, free⟩
    cases happening <;> exact ⟨⟨booked.tidy, booked.codes, booked.voids⟩, consistent, free⟩
  have followed : Config.Follows Premises.serial.books.guard
      ⟨world, [(Actor.session config runtime work).program]⟩ work.2 := by
    apply Config.follows_of_prefixes
    rintro earlier move later same
    cases move with
    | occur happening => trivial
    | run index choice =>
        have here : choice.exchange.Own := own (.run index choice) (by rw [same]; simp)
        simp only [Config.Permits]
        split
        · exact ⟨trivial, here⟩
        · trivial
  obtain ⟨_, _, sound, held, _⟩ := Contract.Safe.alone (Premises.books_stable Premises.serial)
    holds call event (fun _ _ _ _ _ => trivial)
    ⟨balanced.orderly, balanced.orderly, balanced.taken⟩
    ⟨balanced.booked, balanced.consistent, balanced.rejected⟩
    (Premises.books_actor Premises.serial nonneg runtime work.1 world) followed
  exact ⟨sound.1, sound.2.2, held.1, held.2.1, held.2.2⟩

theorem balanced_sessions (nonneg : Premises.StakesNonneg config)
    (sessions : List (Actor × List (Move bettingMachine)))
    (own : ∀ work ∈ sessions, ∀ move ∈ work.2, OwnReply move) {world : World}
    (balanced : Balanced world) :
    Balanced (Session.runAll (sessions.map (Actor.session config runtime)) world) := by
  induction sessions generalizing world with
  | nil => exact balanced
  | cons work rest ih =>
      apply ih fun other member => own other (List.mem_cons_of_mem _ member)
      exact balanced_session runtime nonneg work (own work List.mem_cons_self) balanced

end Sessions

section Account

/-- The credits that the wallet has applied for a bet. -/
def appliedCredits (wallet : Merchant) (betId : String) : List WalletTransactionRequest :=
  wallet.applied.filter fun done => done.roundId = betId && done.isFinished

/-- What the wallet has moved for a bet, seen from the player. -/
def Wallet.Merchant.net (wallet : Merchant) (betId : String) : ℚ :=
  ((wallet.applied.filter fun done => done.roundId = betId).map amountOf).sum

theorem Wallet.Merchant.net_eq (wallet : Merchant) (betId : String) :
    wallet.net betId = ((appliedDebits wallet betId).map amountOf).sum +
      ((appliedCredits wallet betId).map amountOf).sum := by
  unfold net appliedDebits appliedCredits
  induction wallet.applied with
  | nil => simp
  | cons done rest ih =>
      by_cases own : done.roundId = betId
      · cases finished : done.isFinished with
        | true =>
            simp only [List.filter_cons, own, finished, ih, decide_true, Bool.not_true, Bool.and_true,
              Bool.and_false, Bool.false_eq_true, if_true, if_false, List.map_cons, List.sum_cons]
            ring
        | false =>
            simp only [List.filter_cons, own, finished, ih, decide_true, Bool.not_false, Bool.and_true,
              Bool.and_false, Bool.false_eq_true, if_true, if_false, List.map_cons, List.sum_cons]
            ring
      · simpa [List.filter_cons, own] using ih

/-- What the status of a bet says of its account. -/
def Bet.Accounts (bet : Bet) (net : ℚ) : Prop :=
  match bet.status with
  | .pending => net = 0 ∨ net = -bet.stake.value
  | .rejected => net = 0
  | .accepted => net = -bet.stake.value
  | .won => net = -bet.stake.value ∨ net = bet.potentialPayout.value - bet.stake.value
  | .lost => net = -bet.stake.value
  | .void => net = -bet.stake.value ∨ net = 0

variable {world : World} {betId : String} {bet : Bet}

theorem mem_appliedCredits {wallet : Merchant} {done : WalletTransactionRequest} :
    done ∈ appliedCredits wallet betId ↔
      done ∈ wallet.applied ∧ done.roundId = betId ∧ done.isFinished = true := by
  simp [appliedCredits]

/-- An applied credit is stored with a row of its bet. -/
theorem Orderly.creditOf (orderly : Orderly world) {done : WalletTransactionRequest}
    (member : done ∈ appliedCredits world.wallet betId) :
    ∃ type row, (world.db.ledger.entry betId).row type = some row ∧ type ≠ .walletReserve ∧
      row.payload = some done := by
  obtain ⟨applied, rfl, finished⟩ := mem_appliedCredits.mp member
  rcases orderly.traced done applied with ⟨_, _, debit⟩ | credit
  · rw [debit.unfinished] at finished
    cases finished
  · obtain ⟨type, row, stored, credited, payload, _⟩ := credit.carries orderly.sound
    exact ⟨type, row, stored, credited, payload⟩

theorem credits_of_uncredited (orderly : Orderly world)
    (uncredited : (world.db.ledger.entry betId).Uncredited) :
    appliedCredits world.wallet betId = [] := by
  rw [List.eq_nil_iff_forall_not_mem]
  intro done member
  obtain ⟨type, row, stored, credit, _⟩ := orderly.creditOf member
  cases type with
  | walletReserve => exact credit rfl
  | walletSettle =>
      rw [uncredited.1] at stored
      cases stored
  | walletStaffVoid =>
      rw [uncredited.2] at stored
      cases stored

/-- A credited bet has one credit, which was applied once or not yet. -/
theorem credits_of_credited (orderly : Orderly world) {payout : Numeric 14 2}
    (credited : (world.db.ledger.entry betId).Credited bet payout) :
    appliedCredits world.wallet betId = [] ∨
      ∃ done, appliedCredits world.wallet betId = [done] ∧ amountOf done = payout.value := by
  obtain ⟨_, row, request, one, payload, amount⟩ := credited
  have all : ∀ done ∈ appliedCredits world.wallet betId, done = request := by
    intro done member
    obtain ⟨type, other, stored, credit, own⟩ := orderly.creditOf member
    have same : other = row := by
      cases type with
      | walletReserve => exact absurd rfl credit
      | walletSettle =>
          rcases one with ⟨settle, _⟩ | ⟨settle, _⟩
          · exact Option.some.inj (stored.symm.trans settle)
          · rw [settle] at stored
            cases stored
      | walletStaffVoid =>
          rcases one with ⟨_, staffVoid⟩ | ⟨_, staffVoid⟩
          · rw [staffVoid] at stored
            cases stored
          · exact Option.some.inj (stored.symm.trans staffVoid)
    subst same
    exact Option.some.inj (own.symm.trans payload)
  have distinct : (appliedCredits world.wallet betId).Nodup :=
    (List.Nodup.of_map _ orderly.once).filter _
  cases credits : appliedCredits world.wallet betId with
  | nil => exact .inl rfl
  | cons first rest =>
      rw [credits] at all distinct
      obtain rfl := all first List.mem_cons_self
      cases rest with
      | nil => exact .inr ⟨first, rfl, amount⟩
      | cons second rest =>
          obtain rfl := all second (by simp)
          simp at distinct

/-- A pending bet was debited once or not yet. -/
theorem debits_of_stored (orderly : Orderly world) (booked : Booked world)
    (stored : (world.db.ledger.entry betId).bet = some bet) :
    appliedDebits world.wallet betId = [] ∨
      ∃ debit, appliedDebits world.wallet betId = [debit] ∧ amountOf debit = -bet.stake.value := by
  have atMost := appliedDebits_length orderly betId
  cases debits : appliedDebits world.wallet betId with
  | nil => exact .inl rfl
  | cons first rest =>
      rw [debits] at atMost
      have alone : rest = [] := by
        cases rest with
        | nil => rfl
        | cons second rest => simp at atMost
      subst alone
      have member : first ∈ appliedDebits world.wallet betId := by simp [debits]
      obtain ⟨applied, round, unfinished⟩ := mem_appliedDebits.mp member
      obtain ⟨other, row, debit⟩ := orderly.debitOf applied unfinished
      have own := debit.stored
      rw [round] at own
      obtain rfl := Option.some.inj (stored.symm.trans own)
      exact .inr ⟨first, rfl, debit.amountOf ((booked.tidy betId).staked bet stored)⟩

/-- The account of a bet is what its status says. -/
theorem Balanced.accounts (balanced : Balanced world)
    (stored : (world.db.ledger.entry betId).bet = some bet) :
    bet.Accounts (world.wallet.net betId) := by
  have orderly := balanced.orderly
  have agrees := (balanced.consistent betId).agrees stored
  have debited : bet.Taken → ((appliedDebits world.wallet betId).map amountOf).sum =
      -bet.stake.value := by
    intro counts
    obtain ⟨debit, debits, _, amount⟩ := debits_of_debited orderly balanced.booked
      (balanced.taken betId bet stored counts) stored
    simp [debits, amount]
  have credited : ∀ payout, (world.db.ledger.entry betId).Credited bet payout →
      ((appliedCredits world.wallet betId).map amountOf).sum = 0 ∨
        ((appliedCredits world.wallet betId).map amountOf).sum = payout.value := by
    intro payout credited
    rcases credits_of_credited orderly credited with none | ⟨done, credits, amount⟩
    · exact .inl (by simp [none])
    · exact .inr (by simp [credits, amount])
  have uncredited : (world.db.ledger.entry betId).Uncredited →
      ((appliedCredits world.wallet betId).map amountOf).sum = 0 := by
    intro uncredited
    simp [credits_of_uncredited orderly uncredited]
  unfold Entry.Agrees at agrees
  unfold Bet.Accounts
  rw [Merchant.net_eq]
  cases status : bet.status with
  | pending =>
      rw [status] at agrees
      rw [uncredited agrees.2, add_zero]
      rcases debits_of_stored orderly balanced.booked stored with none | ⟨debit, debits, amount⟩
      · exact .inl (by simp [none])
      · exact .inr (by simp [debits, amount])
  | rejected =>
      rw [status] at agrees
      rw [uncredited agrees.2, balanced.rejected betId bet stored status]
      simp
  | accepted =>
      rw [status] at agrees
      rw [uncredited agrees.2, debited (by simp [Bet.Taken, status]), add_zero]
  | won =>
      rw [status] at agrees
      rw [debited (by simp [Bet.Taken, status])]
      rcases credited _ agrees.2 with none | paid
      · exact .inl (by rw [none, add_zero])
      · exact .inr (by rw [paid]; ring)
  | lost =>
      rw [status] at agrees
      rw [debited (by simp [Bet.Taken, status])]
      rcases credited _ agrees.2 with none | paid
      · rw [none, add_zero]
      · rw [paid]
        simp
  | void =>
      rw [status] at agrees
      rw [debited (by simp [Bet.Taken, status])]
      rcases credited _ agrees.2 with none | paid
      · exact .inl (by rw [none, add_zero])
      · right
        rw [paid]
        simp [Numeric.value, stakeAmount]

/-- A voided bet whose staff refund is completed has cost nothing. -/
theorem Balanced.refunded (balanced : Balanced world)
    (stored : (world.db.ledger.entry betId).bet = some bet) (void : bet.status = .void)
    {row : WalletOutbox} (refund : (world.db.ledger.entry betId).row .walletStaffVoid = some row)
    (completed : row.status = .completed) : world.wallet.net betId = 0 := by
  have orderly := balanced.orderly
  have sound := orderly.sound betId _ row refund
  unfold WalletOutbox.Sound at sound
  rw [(entry_row.mp refund).2.2] at sound
  obtain ⟨_, request, payload, carries⟩ := sound
  have applied := orderly.applied_of_credit refund (by simp) payload
    (balanced.booked.voids betId row refund completed request payload)
  have round : request.roundId = betId := carries.round.trans (entry_row.mp refund).2.1
  have listed : request ∈ appliedCredits world.wallet betId :=
    mem_appliedCredits.mpr ⟨applied, round, carries.finished⟩
  have agrees := (balanced.consistent betId).agrees stored
  unfold Entry.Agrees at agrees
  rw [void] at agrees
  obtain ⟨debit, debits, _, debited⟩ := debits_of_debited orderly balanced.booked
    (balanced.taken betId bet stored (by simp [Bet.Taken, void])) stored
  rcases credits_of_credited orderly agrees.2 with none | ⟨done, credits, amount⟩
  · rw [none] at listed
    cases listed
  · rw [Merchant.net_eq, debits, credits]
    simp [debited, amount, Numeric.value, stakeAmount]

/-- What is applied for a tenant is applied for its bets. -/
theorem Balanced.total (balanced : Balanced world) (casinoGroupId : String) :
    ((world.wallet.applied.filter fun done => done.casinoGroupId = casinoGroupId).map amountOf).sum =
      ((world.db.ledger.bets.rows.filter fun bet => bet.casinoGroupId = casinoGroupId).map
        fun bet => world.wallet.net bet.id).sum := by
  have orderly := balanced.orderly
  have home : ∀ done ∈ world.wallet.applied, ∃ bet ∈ world.db.ledger.bets.rows,
      bet.id = done.roundId ∧ bet.casinoGroupId = done.casinoGroupId := by
    intro done member
    rcases orderly.traced done member with ⟨bet, row, debit⟩ | credit
    · obtain ⟨there, round⟩ := entry_bet.mp debit.stored
      exact ⟨bet, Table.mem_rows.mpr there, round, debit.group.symm⟩
    · obtain ⟨type, row, stored, _, _, carries⟩ := credit.carries orderly.sound
      obtain ⟨bet, found, group⟩ := (balanced.booked.tidy done.roundId).rows type row stored
      obtain ⟨there, round⟩ := entry_bet.mp found
      exact ⟨bet, Table.mem_rows.mpr there, round, (carries.group.trans group).symm⟩
  let own := world.db.ledger.bets.rows.filter fun bet => bet.casinoGroupId = casinoGroupId
  let done := world.wallet.applied.filter fun done => done.casinoGroupId = casinoGroupId
  have distinct : (own.map Bet.id).Nodup :=
    (List.Sublist.map _ List.filter_sublist).nodup world.db.ledger.bets.unique
  let grouping := Grouping.listing WalletTransactionRequest.roundId
  have complete : ∀ item ∈ done, ∀ wanted, grouping.key item = some wanted →
      wanted ∈ own.map Bet.id := by
    rintro request member _ ⟨⟩
    obtain ⟨applied, group⟩ := List.mem_filter.mp member
    obtain ⟨bet, stored, round, same⟩ := home request applied
    exact List.mem_map.mpr ⟨bet, List.mem_filter.mpr ⟨stored, by
      simpa [same] using group⟩, round⟩
  have parted := Grouping.sum_members amountOf distinct complete
  have all : (done.filter fun item => (grouping.key item).isSome) = done :=
    List.filter_eq_self.mpr fun _ _ => rfl
  rw [all, List.map_map] at parted
  rw [← parted]
  refine congrArg List.sum (List.map_congr_left fun bet member => ?_)
  -- The round of a bet has transactions of its tenant only.
  obtain ⟨stored, group⟩ := List.mem_filter.mp member
  simp only [Function.comp, Grouping.members, grouping, Grouping.listing, Option.some.injEq, done,
    List.filter_filter, Merchant.net]
  congr 2
  refine List.filter_congr fun request applied => ?_
  by_cases round : request.roundId = bet.id
  · obtain ⟨other, found, same, tenant⟩ := home request applied
    obtain rfl := Table.eq_of_key (Table.mem_rows.mp stored) (Table.mem_rows.mp found)
      (round.symm.trans same.symm)
    simpa [round, ← tenant] using group
  · simp [round]

variable {config : BetValidation.EnvConfig} (runtime : Text.Runtime) (catalog : Catalog)
  (clock : Time) (balances : String → String → ℚ)

/-- Wherever services that run one after the other stop, the account of every bet at the
wallet is what its status says, a completed staff void has cost nothing, and what was
applied for a tenant is what was applied for its bets. -/
theorem accounts_after_sessions (nonneg : Premises.StakesNonneg config)
    (sessions : List (Actor × List (Move bettingMachine)))
    (own : ∀ work ∈ sessions, ∀ move ∈ work.2, OwnReply move) :
    let world := Session.runAll (sessions.map (Actor.session config runtime))
      (World.deployed catalog clock balances)
    (∀ bet ∈ world.db.ledger.bets.rows, bet.Accounts (world.wallet.net bet.id)) ∧
    (∀ bet ∈ world.db.ledger.bets.rows, bet.status = .void →
      ∀ row ∈ world.db.ledger.walletOutbox.rows, row.key = (bet.id, .walletStaffVoid) →
        row.status = .completed → world.wallet.net bet.id = 0) ∧
    ∀ casinoGroupId, ((world.wallet.applied.filter fun done =>
      done.casinoGroupId = casinoGroupId).map amountOf).sum =
        ((world.db.ledger.bets.rows.filter fun bet => bet.casinoGroupId = casinoGroupId).map
          fun bet => world.wallet.net bet.id).sum := by
  intro world
  have balanced : Balanced world :=
    balanced_sessions runtime nonneg sessions own (balanced_deployed catalog clock balances)
  refine ⟨fun bet member => ?_, fun bet member void row listed key completed => ?_,
    balanced.total⟩
  · exact balanced.accounts (entry_of_bet (Table.mem_rows.mp member))
  · obtain ⟨round, type⟩ := Prod.mk.inj key
    have refund := entry_row.mpr ⟨Table.mem_rows.mp listed, round, type⟩
    exact balanced.refunded (entry_of_bet (Table.mem_rows.mp member)) void refund completed

end Account

section Sample

open Sample

/-- A bet is placed and voided by staff, and the worker refunds it; then another is won. -/
def workday : List (Actor × List (Move bettingMachine)) :=
  [(placeBet "key", calls 0 12 "bet"), (staffVoid, calls 0 3 ""), (.pollOutbox, calls 0 20 ""),
    (placeBet "other", calls 0 12 "other"), (.settleBatch, matchEnds :: calls 0 30 "")]

theorem workday_accounts :
    let world := Session.runAll (workday.map (Actor.session ⟨"1", "100", "1000"⟩ Text.asciiRuntime))
      (.deployed (catalog .live .open) 0 fun _ _ => 100)
    world.db.ledger.bets.rows.map Bet.status = [.void, .won] ∧
      ∀ bet ∈ world.db.ledger.bets.rows, bet.Accounts (world.wallet.net bet.id) :=
  ⟨by decide +kernel, (accounts_after_sessions Text.asciiRuntime (catalog .live .open) 0
    (fun _ _ => 100) least_stake_nonneg workday (by decide +kernel)).1⟩

end Sample

end SportsBetting
