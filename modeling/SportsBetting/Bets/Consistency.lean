import SportsBetting.Bets.Compliance

/-!
# A bet agrees with its outbox rows

Wherever services that run one after the other stop, the status of a bet, its
debit row, its credit row and its payout tell the same story.
-/

namespace SportsBetting

open Async Ledger Wallet WalletOutboxService Numeral

section Agreement

/-- The outbox has the debit row, in this status. -/
def Ledger.Entry.Reserved (entry : Entry) (status : WalletOutboxStatus) : Prop :=
  ∃ row, entry.row .walletReserve = some row ∧ row.status = status

def Ledger.Entry.Uncredited (entry : Entry) : Prop :=
  entry.row .walletSettle = none ∧ entry.row .walletStaffVoid = none

/-- The outbox has one credit row, and it pays out what the bet says. -/
def Ledger.Entry.Credited (entry : Entry) (bet : Bet) (payout : Numeric 14 2) : Prop :=
  bet.payoutAmount = some payout ∧ ∃ row request,
    (entry.row .walletSettle = some row ∧ entry.row .walletStaffVoid = none ∨
      entry.row .walletSettle = none ∧ entry.row .walletStaffVoid = some row) ∧
    row.payload = some request ∧ amountOf request = payout.value

def Ledger.Entry.Agrees (entry : Entry) (bet : Bet) : Prop :=
  match bet.status with
  | .pending => entry.Reserved .pending ∧ entry.Uncredited
  | .rejected => entry.Reserved .failed ∧ entry.Uncredited
  | .accepted => entry.Reserved .completed ∧ entry.Uncredited
  | .won => entry.Reserved .completed ∧ entry.Credited bet bet.potentialPayout
  | .lost => entry.Reserved .completed ∧ entry.Credited bet 0
  | .void => entry.Reserved .completed ∧ entry.Credited bet (stakeAmount bet.stake)

/-- Rows belong to a bet, and each bet agrees with its rows. -/
def Ledger.Entry.Consistent (entry : Entry) : Prop :=
  match entry.bet with
  | none => entry.row .walletReserve = none ∧ entry.Uncredited
  | some bet => entry.Agrees bet

def Ledger.Consistent (ledger : Ledger) : Prop := ∀ betId, (ledger.entry betId).Consistent

variable {entry : Entry} {bet : Bet}

theorem Ledger.Entry.Consistent.agrees (consistent : entry.Consistent) (stored : entry.bet = some bet) :
    entry.Agrees bet := by
  unfold Consistent at consistent
  rwa [stored] at consistent

theorem Ledger.Entry.consistent_iff (stored : entry.bet = some bet) :
    entry.Consistent ↔ entry.Agrees bet := by
  unfold Consistent
  rw [stored]

/-- An open debit row belongs to a pending bet. -/
theorem Ledger.Entry.Agrees.pending (agrees : entry.Agrees bet) (stored : entry.bet = some bet)
    (isOpen : debitOpen entry = true) : bet.status = .pending := by
  unfold debitOpen at isOpen
  rw [stored] at isOpen
  cases reserved : entry.reserve with
  | none => simp [reserved] at isOpen
  | some row =>
      simp only [reserved, isDecided, Bool.and_eq_true, Bool.not_eq_true', Bool.or_eq_false_iff,
        decide_eq_false_iff_not, decide_eq_true_eq] at isOpen
      obtain ⟨⟨notAccepted, notRejected⟩, notCompleted⟩ := isOpen
      have completed : ¬ entry.Reserved .completed := by
        rintro ⟨other, same, completed⟩
        obtain rfl := Option.some.inj (reserved.symm.trans same)
        exact notCompleted completed
      unfold Agrees at agrees
      cases status : bet.status with
      | pending => rfl
      | accepted => exact absurd status notAccepted
      | rejected => exact absurd status notRejected
      | won | lost | void =>
          rw [status] at agrees
          exact absurd agrees.1 completed

end Agreement

section Preserved

variable {entry : Entry} {bet : Bet}

theorem consistent_set {row : WalletOutbox} :
    ((entry.setBet bet).setRow row).Consistent ↔ ((entry.setBet bet).setRow row).Agrees bet :=
  Entry.consistent_iff (by simp)

theorem consistent_created {data : BetData} {code : TransactionCode} {id : String} {now : Time}
    (consistent : entry.Consistent) (fresh : entry.bet = none) :
    ((entry.setBet (data.bet id now)).setRow (reserveRow (data.bet id now) code)).Consistent := by
  unfold Entry.Consistent at consistent
  rw [fresh] at consistent
  obtain ⟨_, settle, staffVoid⟩ := consistent
  rw [consistent_set]
  refine ⟨⟨reserveRow (data.bet id now) code, by simp [Entry.setRow_row, reserveRow], rfl⟩, ?_, ?_⟩
  · simpa [Entry.setRow_row, reserveRow] using settle
  · simpa [Entry.setRow_row, reserveRow] using staffVoid

/-- A debit is decided once, while its bet is pending. -/
theorem consistent_decided {old changed : Bet} {row : WalletOutbox}
    (consistent : entry.Consistent) (stored : entry.bet = some old)
    (isOpen : debitOpen entry = true) (type : row.type = .walletReserve)
    (decided : changed.status = .accepted ∧ row.status = .completed ∨
      changed.status = .rejected ∧ row.status = .failed) :
    ((entry.setBet changed).setRow row).Consistent := by
  have agrees := consistent.agrees stored
  have pending := agrees.pending stored isOpen
  unfold Entry.Agrees at agrees
  rw [pending] at agrees
  obtain ⟨_, settle, staffVoid⟩ := agrees
  have uncredited : ((entry.setBet changed).setRow row).Uncredited := by
    constructor
    · simpa [Entry.setRow_row, type] using settle
    · simpa [Entry.setRow_row, type] using staffVoid
  have reserved : ((entry.setBet changed).setRow row).Reserved row.status :=
    ⟨row, by simp [Entry.setRow_row, type], rfl⟩
  rw [consistent_set]
  unfold Entry.Agrees
  rcases decided with ⟨status, rowStatus⟩ | ⟨status, rowStatus⟩
  · rw [status]
    exact ⟨rowStatus ▸ reserved, uncredited⟩
  · rw [status]
    exact ⟨rowStatus ▸ reserved, uncredited⟩

/-- What a credit pays out, by the outcome it writes. -/
theorem agrees_of_credited {outcome : WalletSettlementOutcome} (decided : bet.status = outcome.status)
    (reserved : entry.Reserved .completed)
    (credited : entry.Credited bet
      (SettlementService.payoutForResult bet.stake bet.potentialPayout outcome)) :
    entry.Agrees bet := by
  unfold Entry.Agrees
  rw [decided]
  cases outcome <;> exact ⟨reserved, credited⟩

/-- A credit is written once, to an accepted bet. -/
theorem consistent_credited {credit : Credit} {now : Time} {old : Bet}
    {outcome : WalletSettlementOutcome} {request : WalletTransactionRequest}
    (consistent : entry.Consistent) (stored : entry.bet = some old)
    (accepted : old.status = .accepted) (kind : credit.row.type ≠ .walletReserve)
    (decided : credit.status = outcome.status)
    (payout : credit.payoutAmount =
      SettlementService.payoutForResult old.stake old.potentialPayout outcome)
    (payload : credit.row.payload = some request)
    (amount : amountOf request = credit.payoutAmount.value) :
    ((entry.setBet (credit.update now old)).setRow credit.row).Consistent := by
  have agrees := consistent.agrees stored
  unfold Entry.Agrees at agrees
  rw [accepted] at agrees
  obtain ⟨⟨row, reserved, completed⟩, settle, staffVoid⟩ := agrees
  rw [consistent_set]
  refine agrees_of_credited decided ?_ ?_
  · exact ⟨row, by simp [Entry.setRow_row, kind, reserved], completed⟩
  · refine ⟨by simp [Credit.update, payout], credit.row, request, ?_, payload, ?_⟩
    · cases type : credit.row.type with
      | walletReserve => exact absurd type kind
      | walletSettle => exact .inl (by simp [Entry.setRow_row, type, staffVoid])
      | walletStaffVoid => exact .inr (by simp [Entry.setRow_row, type, settle])
    · rw [amount, payout]
      rfl

/-- Updates of rows change no payload, and no status of a debit row. -/
theorem consistent_map {onRow : WalletOutbox → WalletOutbox} (consistent : entry.Consistent)
    (terms : ∀ row, (onRow row).terms = row.terms)
    (status : ∀ row, entry.row .walletReserve = some row → (onRow row).status = row.status) :
    (entry.map (fun bet => bet) onRow).Consistent := by
  have uncredited : entry.Uncredited → (entry.map (fun bet => bet) onRow).Uncredited := by
    rintro ⟨settle, staffVoid⟩
    exact ⟨by simp [settle], by simp [staffVoid]⟩
  have reserved : ∀ status, entry.Reserved status →
      (entry.map (fun bet => bet) onRow).Reserved status := by
    rintro _ ⟨row, there, rfl⟩
    exact ⟨onRow row, by simp [there], status row there⟩
  have credited : ∀ bet payout, entry.Credited bet payout →
      (entry.map (fun bet => bet) onRow).Credited bet payout := by
    rintro bet payout ⟨paid, row, request, one, payload, amount⟩
    have same := terms row
    simp only [WalletOutbox.terms, Prod.mk.injEq] at same
    refine ⟨paid, onRow row, request, ?_, same.2.2.2.trans payload, amount⟩
    rcases one with ⟨settle, staffVoid⟩ | ⟨settle, staffVoid⟩
    · exact .inl (by simp [settle, staffVoid])
    · exact .inr (by simp [settle, staffVoid])
  cases stored : entry.bet with
  | none =>
      have there : (entry.map (fun bet => bet) onRow).bet = none := by
        simp [Entry.map, stored]
      unfold Entry.Consistent at consistent ⊢
      rw [stored] at consistent
      rw [there]
      exact ⟨by simp [consistent.1], uncredited consistent.2⟩
  | some bet =>
      have agrees := consistent.agrees stored
      have there : (entry.map (fun bet => bet) onRow).bet = some bet := by
        simp [Entry.map, stored]
      rw [Entry.consistent_iff there]
      unfold Entry.Agrees at agrees ⊢
      cases status : bet.status with
      | pending | accepted | rejected =>
          rw [status] at agrees
          exact ⟨reserved _ agrees.1, uncredited agrees.2⟩
      | won | lost | void =>
          rw [status] at agrees
          exact ⟨reserved _ agrees.1, credited _ _ agrees.2⟩

end Preserved

section Writes

namespace Premises

/-- Services run one after the other; nothing is asked of the wallet. -/
def serial : Premises where
  exclusive := True
  admits _ _ _ := True
  delivered _ _ := True
  declined _ _ := True
  delivered_later _ _ := trivial
  declined_later _ _ _ _ := trivial
  acknowledged _ _ _ _ _ _ _ _ _ := trivial
  refusal _ _ _ _ _ _ := trivial

end Premises

variable {id : String} {now : Time} {db after : Database} {Reply : Type}

theorem Ledger.Consistent.update {before after : Ledger} {betId : String} {entry : Entry}
    (consistent : before.Consistent) (entries : after.entry = Function.update before.entry betId entry)
    (own : entry.Consistent) : after.Consistent := by
  unfold Ledger.Consistent
  rw [entries, Function.forall_update_iff _ fun _ (entry : Entry) => entry.Consistent]
  exact ⟨own, fun other _ => consistent other⟩

/-- Rows are completed by type: a debit row keeps its status. -/
theorem onRow_status {write : Write Reply} {world : World}
    (proper : Premises.serial.ProperWrite world write) (row : WalletOutbox)
    (type : row.type = .walletReserve) : (write.onRow now row).status = row.status := by
  cases write with
  | completeRow key =>
      have apart : row.key ≠ key := by
        rintro rfl
        simp [Premises.ProperWrite, WalletOutbox.key, type] at proper
      simp [Write.onRow, apart]
  | completeBatch keys batchId =>
      have apart : row.key ∉ keys := by
        intro member
        have settle := (proper row.key member).1
        simp [WalletOutbox.key, type] at settle
      simp [Write.onRow, apart]
  | setTransactionCode | scheduleRetry | assignBatch | clearRetries =>
      simp only [Write.onRow]
      split <;> rfl
  | createBet | acceptBet | rejectBet | settleBet | voidBet | recordAudit => rfl

/-- A settlement that is built from what is stored credits the payout of its result. -/
theorem consistent_settleBet {world : World} {graded : GradedBet} {batchId : ℕ}
    {reply : Bet} (proper : Premises.serial.Graded world.db.ledger graded)
    (ran : (Write.settleBet graded batchId).run id now world.db = .ok (reply, after))
    (consistent : world.db.ledger.Consistent) : after.ledger.Consistent := by
  obtain ⟨credit, built, committed⟩ := Except.bind_eq_ok.mp ran
  obtain ⟨_, made, own, status, payout, row⟩ := settlementCredit_ok built
  obtain ⟨old, stored, _, _, entries⟩ := Credit.commit_ok (settlementCredit_own built) committed
  obtain ⟨same, there, terms, accepted⟩ := proper.stored
  obtain ⟨_, _, _, _, amount⟩ := buildSettlementTransaction_ok made
  rw [own] at stored
  obtain rfl := Option.some.inj (stored.symm.trans there)
  simp only [Bet.terms, Prod.mk.injEq] at terms
  have accepted := (accepted trivial).trans proper.accepted
  refine consistent.update entries (consistent_credited (consistent _) (own ▸ stored) accepted
    ?_ status ?_ (by rw [row]; rfl) ?_)
  · rw [row]
    simp [creditRow]
  · rw [payout, proper.payout, terms.2.2.1, terms.2.2.2]
  · rw [amountOf, amount, payout]
    split
    · next lost =>
        have zero : parse "0" = some (0 : ℚ) := by decide +kernel
        simp [proper.payout, lost, SettlementService.payoutForResult, zero]
    · rw [Numeric.parse_text, Option.getD_some]

/-- A staff void of what is stored credits the stake. -/
theorem consistent_voidBet {world : World} {bet reply : Bet} {casinoGroupId reason : String}
    (proper : Premises.serial.StoredAs world.db.ledger bet ∧ bet.status = .accepted)
    (ran : (Write.voidBet bet casinoGroupId reason).run id now world.db = .ok (reply, after))
    (consistent : world.db.ledger.Consistent) : after.ledger.Consistent := by
  obtain ⟨credit, built, committed⟩ := Except.bind_eq_ok.mp ran
  obtain ⟨_, made, own, status, payout, row⟩ := staffVoidCredit_ok built
  obtain ⟨old, stored, _, _, entries⟩ := Credit.commit_ok (staffVoidCredit_own built) committed
  obtain ⟨⟨same, there, terms, accepted⟩, was⟩ := proper
  obtain ⟨_, _, _, _, amount⟩ := buildSettlementTransaction_ok made
  rw [own] at stored
  obtain rfl := Option.some.inj (stored.symm.trans there)
  simp only [Bet.terms, Prod.mk.injEq] at terms
  have decided : credit.status = WalletSettlementOutcome.void.status := status
  refine consistent.update entries (consistent_credited (consistent _) (own ▸ stored)
    ((accepted trivial).trans was) ?_ decided ?_ (by rw [row]; rfl) ?_)
  · rw [row]
    simp [creditRow]
  · rw [payout, SettlementService.payoutForResult, terms.2.2.1]
  · rw [amountOf, amount, payout, if_neg (by simp), Numeric.parse_text, Option.getD_some]
    rfl

/-- One transaction of a service that runs alone. -/
theorem consistent_write {world : World} {write : Write Reply} {reply : Reply}
    (respects : write.Respects) (proper : Premises.serial.ProperWrite world write)
    (ran : write.run id now world.db = .ok (reply, after)) (consistent : world.db.ledger.Consistent) :
    after.ledger.Consistent := by
  cases write with
  | createBet data code =>
      obtain ⟨rfl, fresh, _, entries⟩ := createBet_ok ran
      exact consistent.update entries (consistent_created (consistent id) fresh)
  | acceptBet betId reservation =>
      obtain ⟨old, row, stored, reserved, _, entries⟩ := acceptBet_ok ran
      exact consistent.update entries (consistent_decided (consistent betId) stored
        (proper trivial) (entry_row.mp reserved).2.2 (.inl ⟨rfl, rfl⟩))
  | rejectBet betId reason =>
      obtain ⟨old, row, stored, reserved, _, entries⟩ := rejectBet_ok ran
      exact consistent.update entries (consistent_decided (consistent betId) stored
        (proper.2 trivial) (entry_row.mp reserved).2.2 (.inr ⟨rfl, rfl⟩))
  | settleBet graded batchId => exact consistent_settleBet proper ran consistent
  | voidBet bet casinoGroupId reason => exact consistent_voidBet proper ran consistent
  | setTransactionCode => exact respects.elim
  | scheduleRetry | completeRow | assignBatch | completeBatch | clearRetries | recordAudit =>
      intro betId
      rw [Write.entry_of_rowsOnly ran trivial betId]
      apply consistent_map (consistent betId) (terms_onRow (Write.not_changesCode respects))
      intro row reserved
      exact onRow_status proper row (entry_row.mp reserved).2.2

end Writes

section Sessions

theorem consistent_deployed (catalog : Catalog) (clock : Time) (balances : String → String → ℚ) :
    (World.deployed catalog clock balances).db.ledger.Consistent := by
  intro betId
  exact ⟨rfl, rfl, rfl⟩

/-- An actor that works alone, with the moves it gets. -/
def Actor.session (config : BetValidation.EnvConfig) (runtime : Text.Runtime)
    (work : Actor × List (Move bettingMachine)) : Session bettingMachine :=
  ⟨work.1.program config runtime, work.2⟩

/-- One service, run alone up to any of its calls. -/
theorem consistent_session (config : BetValidation.EnvConfig) (runtime : Text.Runtime)
    (work : Actor × List (Move bettingMachine)) {world : World} (orderly : Orderly world)
    (consistent : world.db.ledger.Consistent) :
    Orderly ((Actor.session config runtime work).result world) ∧
      ((Actor.session config runtime work).result world).db.ledger.Consistent := by
  have stable := Premises.stable Premises.serial
  have call : ∀ {Reply : Type} (request : BettingCall Reply) choice (world : World),
      Orderly world → Premises.serial.Proper request world → True →
      world.db.ledger.Consistent → (world.answer choice request).2.db.ledger.Consistent := by
    intro _ request choice world _ proper _ consistent
    refine World.answer_ledger world Ledger.Consistent choice request ?_ consistent
    rintro write rfl _ reply db ran
    exact consistent_write proper.1 proper.2 ran consistent
  have event : ∀ happening (world : World), world.db.ledger.Consistent →
      (world.happen happening).db.ledger.Consistent := by
    intro happening world consistent
    cases happening <;> exact consistent
  obtain ⟨_, _, kept, held, _⟩ := Contract.Safe.alone stable
    (fun world => world.db.ledger.Consistent) call event (fun _ _ _ _ _ => trivial) orderly
    consistent (Premises.runs_actor config runtime work.1 world)
    (Config.follows_unguarded _ work.2)
  exact ⟨kept, held⟩

/-- Wherever services that run one after the other stop, every bet agrees with its rows. -/
theorem consistent_after_sessions (config : BetValidation.EnvConfig) (runtime : Text.Runtime)
    (catalog : Catalog) (clock : Time) (balances : String → String → ℚ)
    (sessions : List (Actor × List (Move bettingMachine))) :
    Ledger.Consistent (Session.runAll (sessions.map (Actor.session config runtime))
      (World.deployed catalog clock balances)).db.ledger := by
  suffices kept : ∀ world : World, Orderly world → world.db.ledger.Consistent →
      Ledger.Consistent (Session.runAll (sessions.map (Actor.session config runtime)) world).db.ledger from
    kept _ (orderly_deployed catalog clock balances) (consistent_deployed catalog clock balances)
  induction sessions with
  | nil => exact fun _ _ consistent => consistent
  | cons work rest ih =>
      intro world orderly consistent
      obtain ⟨orderly, consistent⟩ := consistent_session config runtime work orderly consistent
      exact ih _ orderly consistent

end Sessions

end SportsBetting
