import SportsBetting.Bets.Idempotency

/-!
# Refused debits

The client takes a debit for refused whenever a reply body is not a success,
even if it came with a server error after the debit was applied; and a refusal
is written down after another attempt may have succeeded.
-/

namespace SportsBetting

open Async Ledger Wallet

/-- No rejected bet has an applied debit. -/
def RejectedUndebited (world : World) : Prop :=
  ∀ bet ∈ world.db.ledger.bets.rows, bet.status = .rejected → appliedDebits world.wallet bet.id = []

instance (world : World) : Decidable (RejectedUndebited world) :=
  inferInstanceAs (Decidable (∀ bet ∈ world.db.ledger.bets.rows, _))

section Guard

/-- The bet whose rejection the program is about to write. -/
def rejectionOf : Betting Unit → Option String
  | .await request _ => Premises.rejects request
  | .done _ => none

/-- A reply reads as a refusal only where the debit was not applied. -/
def RefusalsMeant (world : World) (choice : Choice) {Reply : Type} : BettingCall Reply → Prop
  | .postTransaction request => request.isFinished = false →
      ReadsAsRefusal request (world.wallet.post choice.exchange request).1 →
        appliedDebits (world.wallet.post choice.exchange request).2 request.roundId = []
  | _ => True

/-- No debit is applied for a bet that is rejected, or that an attempt is about to reject. -/
def DebitsInTime (config : Config bettingMachine) (choice : Choice) {Reply : Type} :
    BettingCall Reply → Prop
  | .postTransaction request => request.isFinished = false →
      (config.state.wallet.post choice.exchange request).2.applied ≠ config.state.wallet.applied →
        (config.state.db.ledger.entry request.roundId).bet.map Bet.status ≠ some .rejected ∧
        ∀ program ∈ config.pool, rejectionOf program ≠ some request.roundId
  | _ => True

def refusalsInTime : Guard bettingMachine := fun config choice request =>
  RefusalsMeant config.state choice request ∧ DebitsInTime config choice request

/-- A reply that the network replaces becomes a timeout, or a server error with any body. -/
def networkFails : Guard bettingMachine := fun _ choice _ =>
  match choice.exchange.replaced with
  | none | some (.failure none none) => True
  | some (.failure (some status) _) => 500 ≤ status
  | _ => False

instance (config : Config bettingMachine) (choice : Choice) {Reply : Type}
    (request : BettingCall Reply) : Decidable (refusalsInTime config choice request) :=
  match request with
  | .postTransaction _ => inferInstanceAs (Decidable ((_ → _) ∧ (_ → _)))
  | .read _ | .write _ | .randomUUID | .getBalance .. | .postBatch .. => .isTrue ⟨trivial, trivial⟩

instance (config : Config bettingMachine) (choice : Choice) {Reply : Type}
    (request : BettingCall Reply) : Decidable (networkFails config choice request) := by
  unfold networkFails
  split <;> infer_instance

end Guard

section Debits

variable {merchant : Merchant} {request : WalletTransactionRequest} {betId : String}

theorem appliedDebits_of_applied {other : Merchant} (same : other.applied = merchant.applied) :
    appliedDebits other betId = appliedDebits merchant betId := by
  rw [appliedDebits, same, appliedDebits]

/-- Only an open transaction of its round is a new debit of a bet. -/
theorem appliedDebits_apply (apart : request.isFinished = true ∨ request.roundId ≠ betId) :
    appliedDebits (merchant.apply request) betId = appliedDebits merchant betId := by
  unfold appliedDebits Merchant.apply
  rw [List.filter_append]
  rcases apart with finished | other
  · simp [finished]
  · simp [other]

theorem appliedDebits_applyAll {transactions : List WalletTransactionRequest}
    (finished : ∀ request ∈ transactions, request.isFinished = true) :
    appliedDebits (merchant.applyAll transactions) betId = appliedDebits merchant betId := by
  induction transactions generalizing merchant with
  | nil => rfl
  | cons request rest ih =>
      have step : appliedDebits (merchant.applyNew request) betId = appliedDebits merchant betId := by
        rcases applyNew_cases merchant request with ⟨_, same⟩ | ⟨_, changed⟩
        · rw [same]
        · rw [changed]
          exact appliedDebits_apply (.inl (finished request List.mem_cons_self))
      rw [← step]
      exact ih fun other member => finished other (List.mem_cons_of_mem _ member)

end Debits

section Invariant

/-- What is known of refusals; programs may interleave. -/
def refusalPremises : Premises where
  exclusive := False
  admits world choice request := RefusalsMeant world choice request
  delivered _ _ := True
  declined world betId := appliedDebits world.wallet betId = []
  delivered_later _ _ := trivial
  declined_later happening world betId declined := by
    rw [← declined]
    exact appliedDebits_of_applied (by cases happening <;> rfl)
  acknowledged _ _ _ _ _ _ _ _ _ := trivial
  refusal world choice request admitted unfinished refused := admitted unfinished refused

/-- A call applies a debit of the bet only where the guard allows it. -/
theorem declined_answer {config : Config bettingMachine} {Reply : Type}
    {request : BettingCall Reply} (choice : Choice) (orderly : Orderly config.state)
    (proper : refusalPremises.Proper request config.state)
    (guarded : refusalsInTime config choice request)
    (settled : (config.state.db.ledger.entry betId).bet.map Bet.status = some .rejected ∨
      ∃ program ∈ config.pool, rejectionOf program = some betId)
    (declined : refusalPremises.declined config.state betId) :
    refusalPremises.declined (config.state.answer choice request).2 betId := by
  have finished : ∀ done, IsCredit config.state.db.ledger done → done.isFinished = true := by
    intro done credit
    obtain ⟨_, _, _, _, _, carries⟩ := credit.carries orderly.sound
    exact carries.finished
  cases request with
  | read look =>
      unfold World.answer
      split <;> exact declined
  | write transaction =>
      rcases config.state.commit_cases choice.fault
        (fun db => transaction.run choice.freshId config.state.clock db) with
        ⟨_, same, _⟩ | ⟨_, _, _, same | same⟩ <;>
        simp only [World.answer, same] <;> exact declined
  | randomUUID | getBalance => exact declined
  | postTransaction request =>
      rcases post_cases config.state.wallet choice.exchange request with same | ⟨fresh, applied⟩
      · simpa only [World.answer, same] using declined
      · simp only [World.answer, applied]
        refine (appliedDebits_apply ?_).trans declined
        by_cases unfinished : request.isFinished = true
        · exact .inl unfinished
        · refine .inr fun round => ?_
          subst round
          have changed : (config.state.wallet.post choice.exchange request).2.applied ≠
              config.state.wallet.applied := by
            rw [applied]
            simp [Merchant.apply]
          obtain ⟨notRejected, noneWaits⟩ := guarded.2 (by simpa using unfinished) changed
          rcases settled with rejected | ⟨program, member, waits⟩
          · exact notRejected rejected
          · exact noneWaits program member waits
  | postBatch casinoGroupId batchId transactions =>
      rcases postBatch_cases config.state.wallet choice.exchange casinoGroupId batchId
        transactions with same | ⟨fresh, applied⟩
      · simpa only [World.answer, same] using declined
      · simp only [World.answer, applied]
        exact (appliedDebits_applyAll fun request member =>
          finished request (proper request member)).trans declined

theorem refusalsInTime_protects : refusalPremises.contract.Protects refusalsInTime where
  admits _ _ _ _ guarded := guarded.1
  others config index choice _ request next waiting guarded sound proper other program _ found := by
    cases program with
    | done outcome => trivial
    | await waits next =>
        refine ⟨Premises.persists_answer not_false choice proper, fun betId rejects declined => ?_⟩
        exact declined_answer choice sound proper guarded
          (.inr ⟨_, List.mem_of_getElem? found, rejects⟩) declined

/-- The debit of a rejected bet was not applied. -/
def RejectedDeclined (world : World) : Prop :=
  ∀ betId, (world.db.ledger.entry betId).bet.map Bet.status = some .rejected →
    refusalPremises.declined world betId

section Write

variable {id : String} {now : Time} {world : World} {after : Database} {Reply : Type}

/-- Only a rejection, of a declined debit, makes a bet a rejected one. -/
theorem rejectedDeclined_update {betId : String} {bet : Bet} {row : WalletOutbox}
    (entries : after.ledger.entry = Function.update world.db.ledger.entry betId
      (((world.db.ledger.entry betId).setBet bet).setRow row))
    (own : bet.status = .rejected → refusalPremises.declined world betId)
    (declined : RejectedDeclined world) : RejectedDeclined { world with db := after } := by
  intro other rejected
  obtain ⟨found, stored, status⟩ := Option.map_eq_some_iff.mp rejected
  rcases bet_of_update entries stored with ⟨rfl, rfl⟩ | ⟨_, before⟩
  · exact own status
  · exact declined other (Option.map_eq_some_iff.mpr ⟨found, before, status⟩)

theorem WalletSettlementOutcome.status_ne_rejected (outcome : WalletSettlementOutcome) :
    outcome.status ≠ .rejected := by
  cases outcome <;> simp [status]

theorem rejectedDeclined_write {write : Write Reply} {reply : Reply}
    (proper : refusalPremises.ProperWrite world write)
    (ran : write.run id now world.db = .ok (reply, after)) (declined : RejectedDeclined world) :
    RejectedDeclined { world with db := after } := by
  cases write with
  | createBet data code =>
      obtain ⟨rfl, _, _, entries⟩ := createBet_ok ran
      exact rejectedDeclined_update entries (by simp [BetData.bet]) declined
  | acceptBet betId reservation =>
      obtain ⟨_, _, _, _, _, entries⟩ := acceptBet_ok ran
      exact rejectedDeclined_update entries (by simp [acceptedAs]) declined
  | rejectBet betId reason =>
      obtain ⟨_, _, _, _, _, entries⟩ := rejectBet_ok ran
      exact rejectedDeclined_update entries (fun _ => proper.1) declined
  | settleBet graded batchId =>
      obtain ⟨credit, built, committed⟩ := Except.bind_eq_ok.mp ran
      obtain ⟨_, _, _, status, _, _⟩ := settlementCredit_ok built
      obtain ⟨_, _, _, _, entries⟩ := Credit.commit_ok (settlementCredit_own built) committed
      refine rejectedDeclined_update entries (fun rejected => ?_) declined
      exact absurd (status.symm.trans rejected) graded.betResult.status_ne_rejected
  | voidBet bet casinoGroupId reason =>
      obtain ⟨credit, built, committed⟩ := Except.bind_eq_ok.mp ran
      obtain ⟨_, _, _, status, _, _⟩ := staffVoidCredit_ok built
      obtain ⟨_, _, _, _, entries⟩ := Credit.commit_ok (staffVoidCredit_own built) committed
      refine rejectedDeclined_update entries (fun rejected => ?_) declined
      exact absurd (status.symm.trans rejected) (by simp)
  | setTransactionCode | scheduleRetry | completeRow | assignBatch | completeBatch | clearRetries
    | recordAudit =>
      intro betId rejected
      dsimp only at rejected
      rw [Write.entry_of_rowsOnly ran trivial] at rejected
      exact declined betId (by simpa [Entry.map] using rejected)

end Write

theorem rejectedDeclined_answer {config : Config bettingMachine} {Reply : Type}
    {request : BettingCall Reply} (choice : Choice) (orderly : Orderly config.state)
    (proper : refusalPremises.Proper request config.state)
    (guarded : refusalsInTime config choice request) (declined : RejectedDeclined config.state) :
    RejectedDeclined (config.state.answer choice request).2 := by
  have unwritten : (config.state.answer choice request).2.db.ledger = config.state.db.ledger →
      RejectedDeclined (config.state.answer choice request).2 := by
    intro same betId rejected
    rw [same] at rejected
    exact declined_answer choice orderly proper guarded (.inl rejected) (declined betId rejected)
  cases request with
  | write write =>
      rcases config.state.commit_cases choice.fault
        (fun db => write.run choice.freshId config.state.clock db) with
        ⟨_, same, _⟩ | ⟨_, _, ran, same | same⟩
      · exact unwritten (by simp only [World.answer, same])
      · simp only [World.answer, same]
        exact rejectedDeclined_write proper.2 ran declined
      · simp only [World.answer, same]
        exact rejectedDeclined_write proper.2 ran declined
  | read look =>
      apply unwritten
      unfold World.answer
      split <;> rfl
  | randomUUID | getBalance | postTransaction | postBatch => exact unwritten rfl

end Invariant

section Run

variable {config : BetValidation.EnvConfig} {runtime : Text.Runtime} {catalog : Catalog}
  {clock : Time} {balances : String → String → ℚ} {actors : List Actor}
  {moves : List (Move bettingMachine)}

/-- If refusals are meant, and written down before anything else happens to the debit,
a rejected bet was not debited. -/
theorem rejected_bets_undebited
    (followed : (Actor.start config runtime (.deployed catalog clock balances) actors).Follows
      refusalsInTime moves) :
    RejectedUndebited
      ((Actor.start config runtime (.deployed catalog clock balances) actors).run moves).state := by
  have healthy : refusalPremises.contract.Healthy _ :=
    Premises.healthy_start config runtime (orderly_deployed catalog clock balances) actors
  have first : RejectedDeclined (World.deployed catalog clock balances) := fun _ _ => rfl
  have event : ∀ happening (world : World), RejectedDeclined world →
      RejectedDeclined (world.happen happening) := by
    intro happening world declined
    cases happening <;> exact fun betId rejected => declined betId rejected
  obtain ⟨_, declined⟩ := healthy.run_invariant (Premises.stable refusalPremises)
    refusalsInTime_protects RejectedDeclined
    (fun _ choice _ _ orderly proper guarded declined =>
      rejectedDeclined_answer choice orderly proper guarded declined)
    event first followed
  intro bet member rejected
  apply declined bet.id
  rw [entry_bet.mpr ⟨Table.mem_rows.mp member, rfl⟩, Option.map_some, rejected]

end Run

section Sample

open Sample

/-- The reply to the debit is replaced by a server error with a body. -/
def brokenReply : Choice :=
  let choice := plainly ""
  { choice with
    exchange := { choice.exchange with
      replaced := some (.failure (some 502) (some ⟨false, .absent, none⟩)) } }

/-- The wallet refuses the debit because the player has nothing left. -/
def poorPlayer : List (Move bettingMachine) :=
  calls 0 9 "bet" ++ [.occur (.balance "group" "player" 0)] ++ calls 0 2 ""

/-- The debit is applied, and the reply to it is lost. -/
def lostReply : List (Move bettingMachine) :=
  calls 0 9 "bet" ++ [.run 0 brokenReply] ++ calls 0 1 ""

/-- A replay is debited between the refusal of the first attempt and its rejection. -/
def lateRejection : List (Move bettingMachine) :=
  calls 0 9 "bet" ++ calls 1 4 "" ++ [.occur (.balance "group" "player" 0)] ++ calls 0 1 "" ++
    [.occur (.balance "group" "player" 100)] ++ calls 1 1 "" ++ calls 0 1 ""

theorem refused_bet_undebited :
    RejectedUndebited ((Sample.start [placeBet "key"]).run poorPlayer).state ∧
      ((Sample.start [placeBet "key"]).run poorPlayer).state.db.ledger.bets.rows.map Bet.status =
        [.rejected] :=
  ⟨rejected_bets_undebited (by decide +kernel), by decide +kernel⟩

/-- Either way the player has paid for a bet that is rejected. -/
theorem rejected_bet_debited :
    ((Sample.start [placeBet "key"]).Follows networkFails lostReply ∧
      ¬ RejectedUndebited ((Sample.start [placeBet "key"]).run lostReply).state) ∧
    (Sample.start [placeBet "key", placeBet "key"]).Follows networkFails lateRejection ∧
      ¬ RejectedUndebited
        ((Sample.start [placeBet "key", placeBet "key"]).run lateRejection).state :=
  ⟨⟨by decide +kernel, by decide +kernel⟩, by decide +kernel, by decide +kernel⟩

end Sample

end SportsBetting
