import SportsBetting.Bets.Compliance

/-!
# Settlement batches and the wallet

The rows of one run are committed one by one under one batch id. A part that is
flushed before the rest makes the wallet take the rest for a repetition: it
acknowledges the batch and applies nothing.
-/

namespace SportsBetting

open Async Ledger Wallet

/-- The transaction of every completed settlement row was applied. -/
def CompletedApplied (world : World) : Prop :=
  ∀ row ∈ world.db.ledger.walletOutbox.rows, row.type = .walletSettle → row.status = .completed →
    ∃ request ∈ row.payload, request ∈ world.wallet.applied

instance (world : World) : Decidable (CompletedApplied world) :=
  inferInstanceAs (Decidable (∀ row ∈ world.db.ledger.walletOutbox.rows, _))

section Guard

/-- Acknowledgements of a batch come from the wallet itself. -/
def WalletAcknowledges (world : World) (choice : Choice) {Reply : Type} : BettingCall Reply → Prop
  | .postBatch casinoGroupId batchId transactions =>
      readBatch (world.wallet.postBatch choice.exchange casinoGroupId batchId transactions).1 = .ok () →
        choice.exchange.reached = true ∧ choice.exchange.replaced = none
  | _ => True

/-- What is posted again under an applied batch id was applied with it. -/
def RepeatsApplied (world : World) (choice : Choice) {Reply : Type} : BettingCall Reply → Prop
  | .postBatch casinoGroupId batchId transactions =>
      choice.exchange.reached = true → (casinoGroupId, batchId) ∈ world.wallet.batches →
        ∀ request ∈ transactions,
          world.wallet.hasApplied request.casinoGroupId request.transactionCode = true
  | _ => True

/-- The wallet answers for itself. -/
def walletAcknowledges : Guard bettingMachine := fun config choice request =>
  WalletAcknowledges config.state choice request

/-- And no batch grows after it was applied. -/
def batchesRepeat : Guard bettingMachine := fun config choice request =>
  WalletAcknowledges config.state choice request ∧ RepeatsApplied config.state choice request

instance (world : World) (choice : Choice) {Reply : Type} (request : BettingCall Reply) :
    Decidable (WalletAcknowledges world choice request) :=
  match request with
  | .postBatch .. => inferInstanceAs (Decidable (_ → _))
  | .read _ | .write _ | .randomUUID | .getBalance .. | .postTransaction _ => .isTrue trivial

instance (world : World) (choice : Choice) {Reply : Type} (request : BettingCall Reply) :
    Decidable (RepeatsApplied world choice request) :=
  match request with
  | .postBatch .. => inferInstanceAs (Decidable (_ → _))
  | .read _ | .write _ | .randomUUID | .getBalance .. | .postTransaction _ => .isTrue trivial

instance (config : Config bettingMachine) (choice : Choice) {Reply : Type}
    (request : BettingCall Reply) : Decidable (walletAcknowledges config choice request) :=
  inferInstanceAs (Decidable (WalletAcknowledges config.state choice request))

instance (config : Config bettingMachine) (choice : Choice) {Reply : Type}
    (request : BettingCall Reply) : Decidable (batchesRepeat config choice request) :=
  inferInstanceAs (Decidable (_ ∧ _))

end Guard

section Delivered

/-- An acknowledged batch that does not grow has all its transactions applied. -/
theorem applied_of_acknowledged {world : World} {choice : Choice} {casinoGroupId : String}
    {batchId : ℕ} {transactions : List WalletTransactionRequest}
    (honest : WalletAcknowledges world choice (.postBatch casinoGroupId batchId transactions))
    (repeats : RepeatsApplied world choice (.postBatch casinoGroupId batchId transactions))
    (acknowledged : readBatch
      (world.wallet.postBatch choice.exchange casinoGroupId batchId transactions).1 = .ok ())
    {request : WalletTransactionRequest} (member : request ∈ transactions) :
    (world.answer choice (.postBatch casinoGroupId batchId transactions)).2.wallet.hasApplied
      request.casinoGroupId request.transactionCode = true := by
  obtain ⟨reached, original⟩ := honest acknowledged
  have seen := acknowledged
  simp only [Merchant.postBatch, Merchant.deliver, reached, original, if_true] at seen
  simp only [World.answer, Merchant.postBatch, Merchant.deliver, reached, if_true]
  unfold Merchant.batchTransactions at seen ⊢
  by_cases applied : (casinoGroupId, batchId) ∈ world.wallet.batches
  · rw [if_pos applied]
    exact repeats reached applied request member
  · rw [if_neg applied] at seen ⊢
    cases refused : choice.exchange.refuse with
    | true =>
        simp [refused, readBatch, Exchange.acknowledges_refusalReply] at seen
    | false => exact hasApplied_applyAll member

end Delivered

section Invariant

/-- Everything is known about batches; programs may interleave. -/
def batchPremises : Premises where
  exclusive := False
  admits world choice request :=
    WalletAcknowledges world choice request ∧ RepeatsApplied world choice request
  delivered world request :=
    world.wallet.hasApplied request.casinoGroupId request.transactionCode = true
  declined _ _ := True
  delivered_later grows applied := hasApplied_of_subset grows applied
  declined_later _ _ _ _ := trivial
  acknowledged _ _ _ _ _ admitted acknowledged _ member :=
    applied_of_acknowledged admitted.1 admitted.2 acknowledged member
  refusal _ _ _ _ _ _ := trivial

theorem batchesRepeat_protects : batchPremises.contract.Protects batchesRepeat :=
  Premises.protects_shared not_false (fun _ _ => trivial) fun _ _ _ _ guarded => guarded

/-- Completed settlement rows were delivered. -/
def SettledDelivered (world : World) : Prop :=
  ∀ betId row, (world.db.ledger.entry betId).row .walletSettle = some row →
    row.status = .completed → ∀ request, row.payload = some request →
      batchPremises.delivered world request

section Write

variable {id : String} {now : Time} {world : World} {after : Database} {Reply : Type}

theorem settledDelivered_update {betId : String} {bet : Bet} {row : WalletOutbox}
    (entries : after.ledger.entry = Function.update world.db.ledger.entry betId
      (((world.db.ledger.entry betId).setBet bet).setRow row))
    (pending : row.type = .walletSettle → row.status ≠ .completed)
    (delivered : SettledDelivered world) : SettledDelivered { world with db := after } := by
  intro other found stored completed
  rcases Ledger.row_of_update entries stored with ⟨_, settle, rfl⟩ | earlier
  · exact absurd completed (pending settle)
  · exact delivered other found earlier completed

/-- A row that is completed by a transaction was delivered or completed before. -/
theorem onRow_completes {write : Write Reply} (proper : batchPremises.ProperWrite world write)
    {row : WalletOutbox} (type : row.type = .walletSettle)
    (completed : (write.onRow now row).status = .completed) :
    row.status = .completed ∨ batchPremises.Completes world row.key := by
  cases write with
  | completeRow key =>
      have apart : row.key ≠ key := by
        rintro rfl
        simp [Premises.ProperWrite, WalletOutbox.key, type] at proper
      exact .inl (by simpa [Write.onRow, apart] using completed)
  | completeBatch keys batchId =>
      by_cases member : row.key ∈ keys
      · exact .inr (proper row.key member)
      · exact .inl (by simpa [Write.onRow, member] using completed)
  | setTransactionCode | scheduleRetry | assignBatch | clearRetries =>
      simp only [Write.onRow] at completed
      split at completed <;> exact .inl completed
  | createBet | acceptBet | rejectBet | settleBet | voidBet | recordAudit => exact .inl completed

theorem settledDelivered_write {write : Write Reply} {reply : Reply} (respects : write.Respects)
    (proper : batchPremises.ProperWrite world write)
    (ran : write.run id now world.db = .ok (reply, after)) (delivered : SettledDelivered world) :
    SettledDelivered { world with db := after } := by
  cases write with
  | createBet data code =>
      obtain ⟨_, _, _, entries⟩ := createBet_ok ran
      exact settledDelivered_update entries (by simp [reserveRow]) delivered
  | acceptBet betId reservation =>
      obtain ⟨_, row, _, reserved, _, entries⟩ := acceptBet_ok ran
      refine settledDelivered_update entries (fun settle => ?_) delivered
      exact absurd ((entry_row.mp reserved).2.2.symm.trans settle) (by simp)
  | rejectBet betId reason =>
      obtain ⟨_, row, _, reserved, _, entries⟩ := rejectBet_ok ran
      refine settledDelivered_update entries (fun settle => ?_) delivered
      exact absurd ((entry_row.mp reserved).2.2.symm.trans settle) (by simp)
  | settleBet graded batchId =>
      obtain ⟨credit, built, committed⟩ := Except.bind_eq_ok.mp ran
      obtain ⟨_, _, _, _, _, row⟩ := settlementCredit_ok built
      obtain ⟨_, _, _, _, entries⟩ := Credit.commit_ok (settlementCredit_own built) committed
      exact settledDelivered_update entries (by simp [row, creditRow]) delivered
  | voidBet bet casinoGroupId reason =>
      obtain ⟨credit, built, committed⟩ := Except.bind_eq_ok.mp ran
      obtain ⟨_, _, _, _, _, row⟩ := staffVoidCredit_ok built
      obtain ⟨_, _, _, _, entries⟩ := Credit.commit_ok (staffVoidCredit_own built) committed
      exact settledDelivered_update entries (by simp [row, creditRow]) delivered
  | setTransactionCode => exact respects.elim
  | scheduleRetry | completeRow | assignBatch | completeBatch | clearRetries | recordAudit =>
      intro betId row stored completed request payload
      dsimp only at stored
      rw [Write.entry_of_rowsOnly ran trivial, Entry.map_row] at stored
      obtain ⟨before, there, rfl⟩ := Option.map_eq_some_iff.mp stored
      obtain ⟨_, own, type⟩ := entry_row.mp there
      have terms : (Write.onRow now _ before).terms = before.terms :=
        terms_onRow (Write.not_changesCode respects) before
      simp only [WalletOutbox.terms, Prod.mk.injEq] at terms
      have payload := terms.2.2.2.symm.trans payload
      rcases onRow_completes proper type completed with earlier | completes
      · exact delivered betId before there earlier request payload
      · have key : before.key = (betId, .walletSettle) := by rw [WalletOutbox.key, own, type]
        rw [key] at completes
        exact completes.2 before there request payload

end Write

/-- A proper call keeps completed settlements delivered. -/
theorem settledDelivered_answer {world : World} {Reply : Type} {request : BettingCall Reply}
    (choice : Choice) (proper : batchPremises.Proper request world)
    (delivered : SettledDelivered world) : SettledDelivered (world.answer choice request).2 := by
  cases request with
  | write write =>
      rcases world.commit_cases choice.fault
        (fun db => write.run choice.freshId world.clock db) with
        ⟨_, same, _⟩ | ⟨_, _, ran, same | same⟩
      · simpa only [World.answer, same] using delivered
      · simp only [World.answer, same]
        exact settledDelivered_write proper.1 proper.2 ran delivered
      · simp only [World.answer, same]
        exact settledDelivered_write proper.1 proper.2 ran delivered
  | read look =>
      unfold World.answer
      split <;> exact delivered
  | randomUUID | getBalance =>
      exact fun betId row stored => delivered betId row stored
  | postTransaction request =>
      exact fun betId row stored completed other payload =>
        batchPremises.delivered_later (applied_subset_post _ _ _)
          (delivered betId row stored completed other payload)
  | postBatch casinoGroupId batchId transactions =>
      exact fun betId row stored completed other payload =>
        batchPremises.delivered_later (applied_subset_postBatch _ _ _ _ _)
          (delivered betId row stored completed other payload)

/-- A settlement row has a code of its own: what is applied under it is its transaction. -/
theorem Orderly.applied_of_settled {world : World} (orderly : Orderly world) {betId : String}
    {row : WalletOutbox} (stored : (world.db.ledger.entry betId).row .walletSettle = some row)
    {request : WalletTransactionRequest} (payload : row.payload = some request)
    (applied : world.wallet.hasApplied request.casinoGroupId request.transactionCode = true) :
    request ∈ world.wallet.applied := by
  obtain ⟨done, member, _, code⟩ := hasApplied_iff.mp applied
  have sound := orderly.sound betId _ row stored
  obtain ⟨_, own, type⟩ := entry_row.mp stored
  unfold WalletOutbox.Sound at sound
  rw [type] at sound
  obtain ⟨⟨outcome, rowCode⟩, other, there, carries⟩ := sound
  obtain rfl := Option.some.inj (payload.symm.trans there)
  have settlement : done.transactionCode = .settlement betId outcome := by
    rw [code, carries.code, rowCode, own]
  rcases orderly.traced done member with ⟨bet, debitRow, debit⟩ | credit
  · have reserved := orderly.sound _ _ debitRow debit.reserved
    unfold WalletOutbox.Sound at reserved
    rw [(entry_row.mp debit.reserved).2.2] at reserved
    obtain ⟨number, drawn⟩ := reserved
    rw [debit.code, drawn] at settlement
    cases settlement
  · obtain ⟨kind, creditRow, found, notReserve, stored', held⟩ := credit.carries orderly.sound
    have creditSound := orderly.sound _ _ creditRow found
    obtain ⟨_, round, same⟩ := entry_row.mp found
    unfold WalletOutbox.Sound at creditSound
    rw [same] at creditSound
    rw [held.code] at settlement
    cases kind with
    | walletReserve => exact absurd rfl notReserve
    | walletStaffVoid =>
        rw [creditSound.1] at settlement
        cases settlement
    | walletSettle =>
        obtain ⟨⟨outcome', code'⟩, _⟩ := creditSound
        rw [code', round] at settlement
        obtain ⟨rfl, _⟩ := TransactionCode.settlement.inj settlement
        obtain rfl := Option.some.inj (found.symm.trans stored)
        obtain rfl := Option.some.inj (stored'.symm.trans payload)
        exact member

end Invariant

section Run

variable {config : BetValidation.EnvConfig} {runtime : Text.Runtime} {catalog : Catalog}
  {clock : Time} {balances : String → String → ℚ} {actors : List Actor}
  {moves : List (Move bettingMachine)}

/-- As long as no batch grows after it was applied, completed settlements were applied. -/
theorem completed_settlements_applied
    (followed : (Actor.start config runtime (.deployed catalog clock balances) actors).Follows
      batchesRepeat moves) :
    CompletedApplied
      ((Actor.start config runtime (.deployed catalog clock balances) actors).run moves).state := by
  have healthy : batchPremises.contract.Healthy _ :=
    Premises.healthy_start config runtime (orderly_deployed catalog clock balances) actors
  have first : SettledDelivered (World.deployed catalog clock balances) := by
    intro betId row stored
    rw [← outboxOf_eq_row] at stored
    cases stored
  have event : ∀ happening (world : World), SettledDelivered world →
      SettledDelivered (world.happen happening) := by
    intro happening world delivered
    cases happening <;> exact fun betId row stored => delivered betId row stored
  obtain ⟨kept, delivered⟩ := healthy.run_invariant (Premises.stable batchPremises)
    batchesRepeat_protects SettledDelivered
    (fun _ choice _ _ _ proper _ delivered => settledDelivered_answer choice proper delivered)
    event first followed
  intro row member type completed
  have stored := entry_row.mpr ⟨Table.mem_rows.mp member, rfl, type⟩
  have sound := kept.sound.sound row.betId _ row stored
  unfold WalletOutbox.Sound at sound
  rw [type] at sound
  obtain ⟨_, request, payload, _⟩ := sound
  exact ⟨request, payload, kept.sound.applied_of_settled stored payload
    (delivered row.betId row stored completed request payload)⟩

end Run

section Sample

open Sample

/-- Two bets on the same match, a settlement run and a worker. -/
def twoBets : Config bettingMachine :=
  Sample.start [placeBet "key", placeBet "other", .settleBatch, .pollOutbox]

/-- Both bets are accepted, the match ends, and the first of them is settled. -/
def halfSettled : List (Move bettingMachine) :=
  calls 0 12 "bet" ++ calls 1 12 "other" ++ [matchEnds] ++ calls 2 9 ""

/-- The worker flushes before the second bet is settled. -/
def flushedEarly : List (Move bettingMachine) := halfSettled ++ calls 3 8 "" ++ calls 2 7 ""

/-- The run settles both bets before anyone flushes. -/
def flushedOnce : List (Move bettingMachine) := halfSettled ++ calls 2 7 "" ++ calls 3 8 ""

theorem completed_settlements_applied_once :
    CompletedApplied (twoBets.run flushedOnce).state ∧
      (twoBets.run flushedOnce).state.wallet.applied.map WalletTransactionRequest.amount =
        ["-10", "-10", "20", "20"] :=
  ⟨completed_settlements_applied (by decide +kernel), by decide +kernel⟩

/-- The second payout is acknowledged as a repetition of the first, and lost. -/
theorem early_flush_loses_payout :
    twoBets.Follows walletAcknowledges flushedEarly ∧
      ¬ CompletedApplied (twoBets.run flushedEarly).state :=
  ⟨by decide +kernel, by decide +kernel⟩

end Sample

end SportsBetting
