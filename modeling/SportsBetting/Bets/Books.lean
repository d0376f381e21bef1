import SportsBetting.Bets.Accounts
import SportsBetting.Bets.Consistency
import SportsBetting.Data.Grouping

/-!
# The books of a bet

What the wallet has moved for a bet is told by the status of the bet. As long as
services run one after the other, no bet costs its player anything but its stake,
and none pays but what it says.
-/

namespace SportsBetting

open Async Ledger Wallet WalletOutboxService Numeral

section Entries

/-- A stake is no debt, and each row is of a stored bet, in its group. -/
structure Ledger.Entry.Tidy (entry : Entry) : Prop where
  staked : ∀ bet, entry.bet = some bet → 0 ≤ bet.stake.units
  rows : ∀ type row, entry.row type = some row →
    ∃ bet, entry.bet = some bet ∧ row.casinoGroupId = bet.casinoGroupId

theorem Ledger.Entry.Tidy.set {entry : Entry} {old bet : Bet} {row : WalletOutbox}
    (tidy : entry.Tidy) (stored : entry.bet = some old) (terms : bet.terms = old.terms)
    (group : row.casinoGroupId = old.casinoGroupId) : ((entry.setBet bet).setRow row).Tidy := by
  simp only [Bet.terms, Bet.placement, Prod.mk.injEq] at terms
  refine ⟨fun found there => ?_, fun type found there => ?_⟩
  · rw [Entry.setRow_bet, Entry.setBet_bet] at there
    rw [← Option.some.inj there, terms.2.2.1]
    exact tidy.staked old stored
  · refine ⟨bet, by simp, ?_⟩
    rw [Entry.setRow_row, Entry.setBet_row] at there
    rw [terms.2.1.1]
    split at there
    · rw [← Option.some.inj there]
      exact group
    · obtain ⟨other, same, own⟩ := tidy.rows type found there
      rwa [Option.some.inj (stored.symm.trans same)]

theorem Ledger.Entry.Tidy.create {entry : Entry} {bet : Bet} {code : TransactionCode}
    (tidy : entry.Tidy) (fresh : entry.bet = none) (staked : 0 ≤ bet.stake.units) :
    ((entry.setBet bet).setRow (reserveRow bet code)).Tidy := by
  refine ⟨fun found there => ?_, fun type found there => ⟨bet, by simp, ?_⟩⟩
  · rw [Entry.setRow_bet, Entry.setBet_bet] at there
    rwa [← Option.some.inj there]
  · rw [Entry.setRow_row, Entry.setBet_row] at there
    split at there
    · rw [← Option.some.inj there]
      rfl
    · obtain ⟨other, same, _⟩ := tidy.rows type found there
      rw [fresh] at same
      cases same

theorem Ledger.Entry.Tidy.map {entry : Entry} {onRow : WalletOutbox → WalletOutbox}
    (tidy : entry.Tidy) (terms : ∀ row, (onRow row).terms = row.terms) :
    (entry.map (fun bet => bet) onRow).Tidy := by
  have same : (entry.map (fun bet => bet) onRow).bet = entry.bet := by simp [Entry.map]
  refine ⟨fun bet stored => tidy.staked bet (same ▸ stored), fun type row stored => ?_⟩
  rw [Entry.map_row] at stored
  obtain ⟨before, there, rfl⟩ := Option.map_eq_some_iff.mp stored
  obtain ⟨bet, own, group⟩ := tidy.rows type before there
  have kept := terms before
  simp only [WalletOutbox.terms, Prod.mk.injEq] at kept
  exact ⟨bet, same ▸ own, kept.2.1.trans group⟩

/-- No two bets are debited under one code. -/
def Ledger.CodesApart (ledger : Ledger) : Prop :=
  ∀ first second row other, (ledger.entry first).row .walletReserve = some row →
    (ledger.entry second).row .walletReserve = some other →
      row.transactionCode = other.transactionCode → first = second

/-- Debit rows that were there before keep their codes. -/
theorem Ledger.CodesApart.of_rows {before after : Ledger} (apart : before.CodesApart)
    (rows : ∀ betId row, (after.entry betId).row .walletReserve = some row →
      ∃ old, (before.entry betId).row .walletReserve = some old ∧
        old.transactionCode = row.transactionCode) : after.CodesApart := by
  intro first second row other stored stored' same
  obtain ⟨old, there, code⟩ := rows first row stored
  obtain ⟨old', there', code'⟩ := rows second other stored'
  exact apart first second old old' there there' (code.trans (same.trans code'.symm))

theorem Ledger.createBet_code {ledger after : Ledger} {bet : Bet} {row other : WalletOutbox}
    (created : ledger.createBet bet row = some after) (stored : other ∈ ledger.walletOutbox) :
    other.transactionCode ≠ row.transactionCode := by
  unfold createBet at created
  split at created
  · split at created
    · cases created
    · next free =>
        intro same
        exact free (List.any_eq_true.mpr ⟨other, Table.mem_rows.mpr stored, by simp [same]⟩)
  · cases created

/-- A new bet is debited under a new code. -/
theorem createBet_code {data : BetData} {code : TransactionCode} {id : String} {now : Time}
    {db after : Database} {bet : Bet} (created : createBet data code id now db = .ok (bet, after))
    {betId : String} {type : OutboxType} {row : WalletOutbox}
    (stored : (db.ledger.entry betId).row type = some row) : row.transactionCode ≠ code := by
  unfold createBet at created
  dsimp only at created
  split at created
  · cases created
  · split at created
    · cases created
    · next ledger inserted => exact Ledger.createBet_code inserted (entry_row.mp stored).1

end Entries

section Invariant

/-- The refund of every completed staff void was applied. -/
def VoidsPaid (world : World) : Prop :=
  ∀ betId row, (world.db.ledger.entry betId).row .walletStaffVoid = some row →
    row.status = .completed → ∀ request, row.payload = some request →
      world.wallet.hasApplied request.casinoGroupId request.transactionCode = true

structure Booked (world : World) : Prop where
  tidy : ∀ betId, (world.db.ledger.entry betId).Tidy
  codes : world.db.ledger.CodesApart
  voids : VoidsPaid world

theorem booked_deployed (catalog : Catalog) (clock : Time) (balances : String → String → ℚ) :
    Booked (World.deployed catalog clock balances) := by
  have none : ∀ betId type, ((World.deployed catalog clock balances).db.ledger.entry betId).row
      type = none := by
    intro betId type
    cases type <;> rfl
  constructor
  · intro betId
    refine ⟨fun bet stored => ?_, fun type row stored => ?_⟩
    · rw [show ((World.deployed catalog clock balances).db.ledger.entry betId).bet = .none from rfl]
        at stored
      cases stored
    · rw [none] at stored
      cases stored
  · intro first second row other stored
    rw [none] at stored
    cases stored
  · intro betId row stored
    rw [none] at stored
    cases stored

section Write

variable {id : String} {now : Time} {world : World} {after : Database} {Reply : Type}

/-- A bet is written together with a row of its own. -/
theorem booked_set {betId : String} {old bet : Bet} {row : WalletOutbox}
    (entries : after.ledger.entry = Function.update world.db.ledger.entry betId
      (((world.db.ledger.entry betId).setBet bet).setRow row))
    (stored : (world.db.ledger.entry betId).bet = some old) (terms : bet.terms = old.terms)
    (group : row.casinoGroupId = old.casinoGroupId)
    (debit : row.type = .walletReserve → ∃ reserved,
      (world.db.ledger.entry betId).row .walletReserve = some reserved ∧
        reserved.transactionCode = row.transactionCode)
    (pending : row.type = .walletStaffVoid → row.status ≠ .completed) (booked : Booked world) :
    Booked { world with db := after } := by
  constructor
  · dsimp only
    rw [entries, Function.forall_update_iff _ fun _ (entry : Entry) => entry.Tidy]
    exact ⟨(booked.tidy betId).set stored terms group, fun other _ => booked.tidy other⟩
  · apply booked.codes.of_rows
    intro other found there
    rcases row_of_update entries there with ⟨rfl, type, rfl⟩ | earlier
    · exact debit type
    · exact ⟨found, earlier, rfl⟩
  · intro other found there completed
    rcases row_of_update entries there with ⟨_, type, rfl⟩ | earlier
    · exact absurd completed (pending type)
    · exact booked.voids other found earlier completed

theorem booked_create {data : BetData} {code : TransactionCode} {bet : Bet}
    (staked : 0 ≤ data.stake.units)
    (created : createBet data code id now world.db = .ok (bet, after)) (booked : Booked world) :
    Booked { world with db := after } := by
  have unused : ∀ {betId type row}, (world.db.ledger.entry betId).row type = some row →
      row.transactionCode ≠ code := createBet_code created
  obtain ⟨rfl, fresh, _, entries⟩ := createBet_ok created
  constructor
  · dsimp only
    rw [entries, Function.forall_update_iff _ fun _ (entry : Entry) => entry.Tidy]
    exact ⟨(booked.tidy id).create fresh staked, fun other _ => booked.tidy other⟩
  · intro first second row other stored stored' same
    rcases row_of_update entries stored with ⟨rfl, _, rfl⟩ | earlier
    · rcases row_of_update entries stored' with ⟨rfl, _, rfl⟩ | earlier'
      · rfl
      · exact absurd same.symm (unused earlier')
    · rcases row_of_update entries stored' with ⟨rfl, _, rfl⟩ | earlier'
      · exact absurd same (unused earlier)
      · exact booked.codes first second row other earlier earlier' same
  · intro other found there completed
    rcases row_of_update entries there with ⟨_, type, rfl⟩ | earlier
    · simp [reserveRow] at type
    · exact booked.voids other found earlier completed

variable {premises : Premises}

/-- A row that a transaction completes is a settlement, or its refund was applied. -/
theorem onRow_voids {write : Write Reply} (proper : premises.ProperWrite world write)
    (accounted : premises.AccountedWrite world write) {row : WalletOutbox} {betId : String}
    (stored : (world.db.ledger.entry betId).row .walletStaffVoid = some row)
    (completed : (write.onRow now row).status = .completed) :
    row.status = .completed ∨ ∀ request, row.payload = some request →
      world.wallet.hasApplied request.casinoGroupId request.transactionCode = true := by
  obtain ⟨_, own, type⟩ := entry_row.mp stored
  cases write with
  | completeRow key =>
      by_cases here : row.key = key
      · right
        intro request payload
        obtain ⟨credit, rfl, ⟨kept, there, terms⟩, applied⟩ := accounted
        have same := Prod.mk.inj here
        rw [← same.1, ← same.2, own, type, stored] at there
        obtain rfl := Option.some.inj there
        simp only [WalletOutbox.terms, Prod.mk.injEq] at terms
        exact applied request (terms.2.2.2.symm.trans payload)
      · exact .inl (by simpa [Write.onRow, here] using completed)
  | completeBatch keys batchId =>
      have apart : row.key ∉ keys := by
        intro member
        have settle := (proper row.key member).1
        simp [WalletOutbox.key, type] at settle
      exact .inl (by simpa [Write.onRow, apart] using completed)
  | setTransactionCode | scheduleRetry | assignBatch | clearRetries =>
      simp only [Write.onRow] at completed
      split at completed <;> exact .inl completed
  | createBet | acceptBet | rejectBet | settleBet | voidBet | recordAudit => exact .inl completed

theorem booked_write {write : Write Reply} {reply : Reply} (respects : write.Respects)
    (proper : premises.ProperWrite world write) (accounted : premises.AccountedWrite world write)
    (ran : write.run id now world.db = .ok (reply, after)) (booked : Booked world) :
    Booked { world with db := after } := by
  cases write with
  | createBet data code => exact booked_create accounted ran booked
  | acceptBet betId reservation | rejectBet betId reason =>
      obtain ⟨old, row, stored, reserved, _, entries⟩ := by
        first | exact acceptBet_ok ran | exact rejectBet_ok ran
      obtain ⟨bet, same, group⟩ := (booked.tidy betId).rows _ row reserved
      obtain rfl := Option.some.inj (stored.symm.trans same)
      refine booked_set entries stored rfl group (fun _ => ⟨row, reserved, rfl⟩) ?_ booked
      intro staffVoid
      exact absurd ((entry_row.mp reserved).2.2.symm.trans staffVoid) (by simp)
  | settleBet graded batchId =>
      obtain ⟨credit, built, committed⟩ := Except.bind_eq_ok.mp ran
      obtain ⟨_, _, own, _, _, row⟩ := settlementCredit_ok built
      obtain ⟨old, stored, _, _, entries⟩ := Credit.commit_ok (settlementCredit_own built) committed
      obtain ⟨same, there, terms, _⟩ := proper.stored
      rw [own] at stored
      obtain rfl := Option.some.inj (stored.symm.trans there)
      simp only [Bet.terms, Bet.placement, Prod.mk.injEq] at terms
      rw [← own] at stored
      refine booked_set entries stored rfl ?_ (by simp [row, creditRow]) (by simp [row, creditRow])
        booked
      rw [row]
      exact terms.2.1.1.symm
  | voidBet bet casinoGroupId reason =>
      obtain ⟨credit, built, committed⟩ := Except.bind_eq_ok.mp ran
      obtain ⟨_, _, own, _, _, row⟩ := staffVoidCredit_ok built
      obtain ⟨old, stored, _, _, entries⟩ := Credit.commit_ok (staffVoidCredit_own built) committed
      obtain ⟨⟨same, there, terms, _⟩, _⟩ := proper
      rw [own] at stored
      obtain rfl := Option.some.inj (stored.symm.trans there)
      simp only [Bet.terms, Bet.placement, Prod.mk.injEq] at terms
      rw [← own] at stored
      refine booked_set entries stored rfl ?_ (by simp [row, creditRow]) (by simp [row, creditRow])
        booked
      rw [row]
      exact (respects : bet.casinoGroupId = casinoGroupId).symm.trans terms.2.1.1.symm
  | setTransactionCode => exact respects.elim
  | scheduleRetry | completeRow | assignBatch | completeBatch | clearRetries | recordAudit =>
      have terms := @terms_onRow now _ _ (Write.not_changesCode respects)
      have entries := Write.entry_of_rowsOnly ran trivial
      constructor
      · intro betId
        dsimp only
        rw [entries]
        exact (booked.tidy betId).map terms
      · apply booked.codes.of_rows
        intro betId row stored
        rw [entries, Entry.map_row] at stored
        obtain ⟨before, there, rfl⟩ := Option.map_eq_some_iff.mp stored
        have same := terms before
        simp only [WalletOutbox.terms, Prod.mk.injEq] at same
        exact ⟨before, there, same.2.2.1.symm⟩
      · intro betId row stored completed request payload
        dsimp only at stored
        rw [entries, Entry.map_row] at stored
        obtain ⟨before, there, rfl⟩ := Option.map_eq_some_iff.mp stored
        have same := terms before
        simp only [WalletOutbox.terms, Prod.mk.injEq] at same
        have payload := same.2.2.2.symm.trans payload
        rcases onRow_voids proper accounted there completed with earlier | applied
        · exact booked.voids betId before there earlier request payload
        · exact applied request payload

/-- Only a bet whose debit was applied is taken, settled or refunded. -/
theorem debited_of_taken {write : Write Reply} {reply : Reply}
    (accounted : premises.AccountedWrite world write)
    (ran : write.run id now world.db = .ok (reply, after)) (taken : TakenDebited world)
    {betId : String} {bet : Bet} (stored : (after.ledger.entry betId).bet = some bet)
    (counts : bet.Taken) : DebitIs true world betId := by
  cases write with
  | createBet data code =>
      obtain ⟨rfl, _, _, entries⟩ := createBet_ok ran
      rcases bet_of_update entries stored with ⟨_, rfl⟩ | ⟨_, before⟩
      · exact absurd rfl counts.1
      · exact taken betId bet before counts
  | acceptBet id reservation =>
      obtain ⟨_, _, _, _, _, entries⟩ := acceptBet_ok ran
      rcases bet_of_update entries stored with ⟨rfl, _⟩ | ⟨_, before⟩
      · exact accounted
      · exact taken betId bet before counts
  | rejectBet id reason =>
      obtain ⟨_, _, _, _, _, entries⟩ := rejectBet_ok ran
      rcases bet_of_update entries stored with ⟨_, rfl⟩ | ⟨_, before⟩
      · exact absurd rfl counts.2
      · exact taken betId bet before counts
  | settleBet graded batchId =>
      obtain ⟨credit, built, committed⟩ := Except.bind_eq_ok.mp ran
      obtain ⟨_, _, own, _, _, _⟩ := settlementCredit_ok built
      obtain ⟨_, _, _, _, entries⟩ := Credit.commit_ok (settlementCredit_own built) committed
      rcases bet_of_update entries stored with ⟨rfl, _⟩ | ⟨_, before⟩
      · exact own ▸ accounted
      · exact taken betId bet before counts
  | voidBet voided casinoGroupId reason =>
      obtain ⟨credit, built, committed⟩ := Except.bind_eq_ok.mp ran
      obtain ⟨_, _, own, _, _, _⟩ := staffVoidCredit_ok built
      obtain ⟨_, _, _, _, entries⟩ := Credit.commit_ok (staffVoidCredit_own built) committed
      rcases bet_of_update entries stored with ⟨rfl, _⟩ | ⟨_, before⟩
      · exact own ▸ accounted
      · exact taken betId bet before counts
  | setTransactionCode | scheduleRetry | completeRow | assignBatch | completeBatch | clearRetries |
      recordAudit =>
      rw [Write.entry_of_rowsOnly ran trivial] at stored
      exact taken betId bet (by simpa [Entry.map] using stored) counts

end Write

section Answer

variable {premises : Premises} {world : World} {Reply : Type} {request : BettingCall Reply}

/-- A property of the ledger and of what the wallet has applied, kept by transactions and
by the wallet, is kept by every call. -/
theorem kept_answer {holds : World → Prop} (choice : Choice)
    (written : ∀ (write : Write Reply), request = .write write → ∀ reply db,
      write.run choice.freshId world.clock world.db = .ok (reply, db) →
        holds { world with db := db })
    (grown : ∀ after : World, after.db.ledger = world.db.ledger →
      world.wallet.applied ⊆ after.wallet.applied → holds after) :
    holds (world.answer choice request).2 := by
  cases request with
  | write write =>
      rcases world.commit_cases choice.fault
        (fun db => write.run choice.freshId world.clock db) with
        ⟨_, same, _⟩ | ⟨reply, db, ran, same | same⟩
      · simp only [World.answer, same]
        exact grown world rfl (List.Subset.refl _)
      · simp only [World.answer, same]
        exact written write rfl reply db ran
      · simp only [World.answer, same]
        exact written write rfl reply db ran
  | read look =>
      unfold World.answer
      split <;> exact grown world rfl (List.Subset.refl _)
  | randomUUID | getBalance => exact grown _ rfl (List.Subset.refl _)
  | postTransaction request => exact grown _ rfl (applied_subset_post _ _ _)
  | postBatch => exact grown _ rfl (applied_subset_postBatch _ _ _ _ _)

theorem takenDebited_answer (choice : Choice) (proper : premises.Proper request world)
    (accounted : premises.Accounted request world) (taken : TakenDebited world) :
    TakenDebited (world.answer choice request).2 := by
  intro betId bet stored counts
  have kept := Premises.keeps_answer choice proper
  have grows := Premises.applied_answer request world choice
  have debited : DebitIs true world betId := by
    let holds (after : World) := (after.db.ledger.entry betId).bet = some bet →
      DebitIs true world betId
    have whole : holds (world.answer choice request).2 := by
      refine kept_answer choice ?_ ?_
      · rintro write rfl reply db ran found
        exact debited_of_taken accounted.2 ran taken found counts
      · intro after same _ found
        rw [same] at found
        exact taken betId bet found counts
    exact whole stored
  exact endures_debited betId kept grows debited

theorem booked_answer (choice : Choice) (proper : premises.Proper request world)
    (accounted : premises.Accounted request world) (booked : Booked world) :
    Booked (world.answer choice request).2 := by
  refine kept_answer choice ?_ ?_
  · rintro write rfl reply db ran
    exact booked_write proper.1 proper.2 accounted.2 ran booked
  · intro after same grows
    constructor
    · rw [same]
      exact booked.tidy
    · rw [same]
      exact booked.codes
    · intro betId row stored completed request payload
      rw [same] at stored
      exact hasApplied_of_subset grows (booked.voids betId row stored completed request payload)

end Answer

end Invariant

namespace Premises

/-- What is promised of the ledger, and what is known of the wallet. -/
abbrev books (premises : Premises) : Contract bettingMachine :=
  premises.contract.both premises.accounts

theorem spares_happen (premises : Premises) (happening : Happening) (world : World) :
    premises.Spares world (world.happen happening) :=
  ⟨persists_happen happening world, fun _ => by cases happening <;> rfl⟩

theorem takenDebited_happen (happening : Happening) {world : World} (taken : TakenDebited world) :
    TakenDebited (world.happen happening) := by
  cases happening <;> exact taken

theorem books_stable (premises : Premises) : premises.books.Stable where
  refl request world := ⟨(stable premises).refl request world, .refl world, fun _ => rfl⟩
  trans request _ _ _ earlier later := ⟨(stable premises).trans request earlier.1 later.1,
    earlier.2.persists.trans later.2.persists,
    fun alone => (later.2.wallet alone).trans (earlier.2.wallet alone)⟩
  keeps request choice world sound proper admitted := by
    have orderly := (stable premises).keeps request choice world sound.1 proper.1 admitted.1
    exact ⟨orderly, orderly, takenDebited_answer choice proper.1 proper.2 sound.2.2⟩
  sound happening world sound :=
    ⟨orderly_happen happening sound.1, orderly_happen happening sound.1,
      takenDebited_happen happening sound.2.2⟩
  event request happening world sound :=
    ⟨(stable premises).event request happening world sound.1, spares_happen premises happening world⟩

/-- Every actor keeps its promises and knows what it must. -/
theorem books_actor (premises : Premises) {config : BetValidation.EnvConfig}
    (nonneg : StakesNonneg config) (runtime : Text.Runtime) (actor : Actor) (world : World) :
    premises.books.Runs (actor.program config runtime) world :=
  Contract.Runs.both (runs_actor config runtime actor world)
    (accounts_actor nonneg runtime actor world)

end Premises

/-- In such a move every reply of the wallet is its own, or lost. -/
def OwnReply : Move bettingMachine → Prop
  | .run _ choice => choice.exchange.Own
  | .occur _ => True

instance (move : Move bettingMachine) : Decidable (OwnReply move) :=
  match move with
  | .run _ choice => inferInstanceAs (Decidable choice.exchange.Own)
  | .occur _ => .isTrue trivial

/-- The replies of a run, as its guard. -/
def ownReplies : Guard bettingMachine := fun _ choice _ => choice.exchange.Own

theorem follows_ownReplies {moves : List (Move bettingMachine)}
    (own : ∀ move ∈ moves, OwnReply move) (config : Config bettingMachine) :
    config.Follows ownReplies moves := by
  apply Config.follows_of_prefixes
  rintro earlier move later rfl
  cases move with
  | occur happening => trivial
  | run index choice =>
      have here : choice.exchange.Own := own (.run index choice) (by simp)
      simp only [Config.Permits]
      split
      · exact here
      · trivial

section Debit

variable {world : World} {betId : String}

/-- A debit code is drawn, so what is applied under it is a debit. -/
theorem Orderly.debit_of_code (orderly : Orderly world) {number : ℕ}
    {done : WalletTransactionRequest} (member : done ∈ world.wallet.applied)
    (code : done.transactionCode = .uuid number) : IsDebit world.db.ledger done := by
  rcases orderly.traced done member with debit | credit
  · exact debit
  · obtain ⟨kind, row, found, credit, _, carries⟩ := credit.carries orderly.sound
    have sound := orderly.sound _ _ row found
    unfold WalletOutbox.Sound at sound
    rw [(entry_row.mp found).2.2] at sound
    rw [carries.code] at code
    cases kind with
    | walletReserve => exact absurd rfl credit
    | walletSettle =>
        obtain ⟨⟨outcome, own⟩, _⟩ := sound
        rw [own] at code
        cases code
    | walletStaffVoid =>
        rw [sound.1] at code
        cases code

/-- A bet whose debit was applied has one applied debit, of its stake. -/
theorem debits_of_debited (orderly : Orderly world) (booked : Booked world)
    (debited : DebitIs true world betId) {bet : Bet}
    (stored : (world.db.ledger.entry betId).bet = some bet) :
    ∃ debit, appliedDebits world.wallet betId = [debit] ∧
      debit.casinoGroupId = bet.casinoGroupId ∧ amountOf debit = -bet.stake.value := by
  obtain ⟨same, row, there, reserved, applied⟩ := debited
  obtain rfl := Option.some.inj (stored.symm.trans there)
  obtain ⟨done, member, group, code⟩ := hasApplied_iff.mp applied
  have sound := orderly.sound _ _ row reserved
  unfold WalletOutbox.Sound at sound
  rw [(entry_row.mp reserved).2.2] at sound
  obtain ⟨number, drawn⟩ := sound
  obtain ⟨other, row', debit⟩ := orderly.debit_of_code member (code.trans drawn)
  have round : done.roundId = betId :=
    booked.codes _ _ row' row debit.reserved reserved (debit.code.symm.trans code)
  have own := debit.stored
  rw [round] at own
  obtain rfl := Option.some.inj (stored.symm.trans own)
  have listed : done ∈ appliedDebits world.wallet betId :=
    mem_appliedDebits.mpr ⟨member, round, debit.unfinished⟩
  have atMost := appliedDebits_length orderly betId
  cases debits : appliedDebits world.wallet betId with
  | nil => simp [debits] at listed
  | cons first rest =>
      rw [debits] at atMost listed
      have alone : rest = [] := by
        cases rest with
        | nil => rfl
        | cons second rest => simp at atMost
      subst alone
      obtain rfl := List.mem_singleton.mp listed
      exact ⟨done, rfl, debit.group, debit.amountOf ((booked.tidy betId).staked bet stored)⟩

/-- The code of a credit names its bet and its kind: what is applied under it is its
transaction. -/
theorem Orderly.applied_of_credit (orderly : Orderly world) {type : OutboxType}
    {row : WalletOutbox} (stored : (world.db.ledger.entry betId).row type = some row)
    (credit : type ≠ .walletReserve) {request : WalletTransactionRequest}
    (payload : row.payload = some request)
    (applied : world.wallet.hasApplied request.casinoGroupId request.transactionCode = true) :
    request ∈ world.wallet.applied := by
  obtain ⟨done, member, _, code⟩ := hasApplied_iff.mp applied
  obtain ⟨type', row', stored', credit', payload', carries'⟩ : ∃ type row,
      (world.db.ledger.entry done.roundId).row type = some row ∧ type ≠ .walletReserve ∧
        row.payload = some done ∧ done.Carries row := by
    rcases orderly.traced done member with ⟨bet, debitRow, debit⟩ | credited
    · have sound := orderly.sound _ _ row stored
      have drawn := orderly.sound _ _ debitRow debit.reserved
      unfold WalletOutbox.Sound at sound drawn
      rw [(entry_row.mp stored).2.2] at sound
      rw [(entry_row.mp debit.reserved).2.2] at drawn
      obtain ⟨number, uuid⟩ := drawn
      have same := debit.code.symm.trans code
      rw [uuid] at same
      cases type with
      | walletReserve => exact absurd rfl credit
      | walletSettle =>
          obtain ⟨⟨outcome, own⟩, other, there, carries⟩ := sound
          obtain rfl := Option.some.inj (payload.symm.trans there)
          rw [carries.code, own] at same
          cases same
      | walletStaffVoid =>
          obtain ⟨own, other, there, carries⟩ := sound
          obtain rfl := Option.some.inj (payload.symm.trans there)
          rw [carries.code, own] at same
          cases same
    · exact credited.carries orderly.sound
  have sound := orderly.sound _ _ row stored
  have sound' := orderly.sound _ _ row' stored'
  obtain ⟨_, own, kind⟩ := entry_row.mp stored
  obtain ⟨_, own', kind'⟩ := entry_row.mp stored'
  unfold WalletOutbox.Sound at sound sound'
  rw [kind] at sound
  rw [kind'] at sound'
  have key : betId = done.roundId ∧ type = type' := by
    rw [carries'.code] at code
    cases type with
    | walletReserve => exact absurd rfl credit
    | walletSettle =>
        obtain ⟨⟨outcome, named⟩, other, there, carries⟩ := sound
        obtain rfl := Option.some.inj (payload.symm.trans there)
        rw [carries.code, named] at code
        cases type' with
        | walletReserve => exact absurd rfl credit'
        | walletSettle =>
            obtain ⟨⟨outcome', named'⟩, _⟩ := sound'
            rw [named', own, own'] at code
            exact ⟨(TransactionCode.settlement.inj code).1.symm, rfl⟩
        | walletStaffVoid =>
            rw [sound'.1] at code
            cases code
    | walletStaffVoid =>
        obtain ⟨named, other, there, carries⟩ := sound
        obtain rfl := Option.some.inj (payload.symm.trans there)
        rw [carries.code, named] at code
        cases type' with
        | walletReserve => exact absurd rfl credit'
        | walletSettle =>
            obtain ⟨⟨outcome', named'⟩, _⟩ := sound'
            rw [named'] at code
            cases code
        | walletStaffVoid =>
            rw [sound'.1, own, own'] at code
            exact ⟨(TransactionCode.staffVoid.inj code).symm, rfl⟩
  obtain ⟨rfl, rfl⟩ := key
  obtain rfl := Option.some.inj (stored.symm.trans stored')
  obtain rfl := Option.some.inj (payload.symm.trans payload')
  exact member

end Debit

section Interleaved

theorem plain_books_protects : Premises.plain.books.Protects ownReplies where
  admits _ _ _ _ own := ⟨trivial, own⟩
  others config _ choice _ request _ _ _ _ proper _ program _ _ := by
    cases program with
    | done outcome => trivial
    | await waits next =>
        have persists := Premises.persists_answer not_false choice proper.1
        exact ⟨⟨persists, fun _ _ _ => trivial⟩, persists, fun alone => alone.elim⟩

variable {config : BetValidation.EnvConfig} {runtime : Text.Runtime} {catalog : Catalog}
  {clock : Time} {balances : String → String → ℚ} {actors : List Actor}
  {moves : List (Move bettingMachine)}

/-- However services interleave: a bet that counts was debited once, by its stake, the
refund of a completed staff void was applied, and the wallet has applied nothing but the
debit or a stored credit of a bet. -/
theorem taken_bets_debited (nonneg : Premises.StakesNonneg config)
    (own : ∀ move ∈ moves, OwnReply move) :
    let world := ((Actor.start config runtime (.deployed catalog clock balances) actors).run
      moves).state
    (∀ bet ∈ world.db.ledger.bets.rows, bet.Taken →
      ∃ debit, appliedDebits world.wallet bet.id = [debit] ∧
        debit.casinoGroupId = bet.casinoGroupId ∧ amountOf debit = -bet.stake.value) ∧
    (∀ row ∈ world.db.ledger.walletOutbox.rows, row.type = .walletStaffVoid →
      row.status = .completed → ∃ request ∈ row.payload, request ∈ world.wallet.applied) ∧
    ∀ done ∈ world.wallet.applied, ∃ bet ∈ world.db.ledger.bets.rows, bet.id = done.roundId ∧
      done.casinoGroupId = bet.casinoGroupId ∧
        (done.isFinished = false ∧ amountOf done = -bet.stake.value ∨
          ∃ row ∈ world.db.ledger.walletOutbox.rows, row.betId = bet.id ∧
            row.type ≠ .walletReserve ∧ row.payload = some done) := by
  intro world
  have healthy : Premises.plain.books.Healthy
      (Actor.start config runtime (.deployed catalog clock balances) actors) := by
    refine ⟨⟨orderly_deployed .., orderly_deployed .., fun betId bet stored => ?_⟩,
      fun program member => ?_⟩
    · cases stored
    · obtain ⟨actor, _, rfl⟩ := List.mem_map.mp member
      exact Premises.books_actor Premises.plain nonneg runtime actor _
  have event : ∀ happening (world : World), Booked world → Booked (world.happen happening) := by
    intro happening world booked
    cases happening <;> exact ⟨booked.tidy, booked.codes, booked.voids⟩
  obtain ⟨kept, booked⟩ := healthy.run_invariant (Premises.books_stable Premises.plain)
    plain_books_protects Booked
    (fun _ choice _ _ _ proper _ booked => booked_answer choice proper.1 proper.2 booked)
    event (booked_deployed catalog clock balances) (follows_ownReplies own _)
  obtain ⟨orderly, _, taken⟩ := kept.sound
  refine ⟨fun bet member counts => ?_, fun row member type completed => ?_, fun done member => ?_⟩
  · have stored := entry_of_bet (Table.mem_rows.mp member)
    exact debits_of_debited orderly booked (taken bet.id bet stored counts) stored
  · have stored := entry_row.mpr ⟨Table.mem_rows.mp member, rfl, type⟩
    have sound := orderly.sound row.betId _ row stored
    unfold WalletOutbox.Sound at sound
    rw [type] at sound
    obtain ⟨_, request, payload, _⟩ := sound
    exact ⟨request, payload, orderly.applied_of_credit stored (by simp) payload
      (booked.voids row.betId row stored completed request payload)⟩
  · rcases orderly.traced done member with ⟨bet, row, debit⟩ | credit
    · obtain ⟨there, round⟩ := entry_bet.mp debit.stored
      exact ⟨bet, Table.mem_rows.mpr there, round, debit.group, .inl ⟨debit.unfinished,
        debit.amountOf ((booked.tidy done.roundId).staked bet debit.stored)⟩⟩
    · obtain ⟨type, row, stored, credited, payload, carries⟩ := credit.carries orderly.sound
      obtain ⟨bet, found, group⟩ := (booked.tidy done.roundId).rows type row stored
      obtain ⟨there, round⟩ := entry_bet.mp found
      obtain ⟨listed, rowRound, same⟩ := entry_row.mp stored
      exact ⟨bet, Table.mem_rows.mpr there, round, carries.group.trans group, .inr ⟨row,
        Table.mem_rows.mpr listed, rowRound.trans round.symm, same ▸ credited, payload⟩⟩

end Interleaved

section Sample

open Sample

theorem least_stake_nonneg : Premises.StakesNonneg ⟨"1", "100", "1000"⟩ := by
  intro minStake least
  have one : newDecimal "1" = .ok 1 := by decide +kernel
  rw [one] at least
  rw [← Except.ok.inj least]
  norm_num

/-- A placement and its replay overlap; then a settlement run and a worker do. -/
def busyHour : List (Move bettingMachine) :=
  calls 0 9 "bet" ++ calls 1 4 "" ++ calls 0 4 "" ++ calls 1 4 "" ++ [matchEnds] ++ calls 2 9 "" ++
    calls 3 9 "" ++ calls 2 14 ""

theorem busy_bet_debited :
    let world := ((Actor.start ⟨"1", "100", "1000"⟩ Text.asciiRuntime
      (.deployed (catalog .live .open) 0 fun _ _ => 100)
      [placeBet "key", placeBet "key", .settleBatch, .pollOutbox]).run busyHour).state
    world.db.ledger.bets.rows.map Bet.status = [.won] ∧
      ∀ bet ∈ world.db.ledger.bets.rows, bet.Taken →
        ∃ debit, appliedDebits world.wallet bet.id = [debit] ∧
          debit.casinoGroupId = bet.casinoGroupId ∧ amountOf debit = -bet.stake.value :=
  ⟨by decide +kernel, (taken_bets_debited least_stake_nonneg (by decide +kernel)).1⟩

end Sample

end SportsBetting
