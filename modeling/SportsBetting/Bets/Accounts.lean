import SportsBetting.Bets.Idempotency
import SportsBetting.Bets.Quotes
import SportsBetting.Settlement.Calls

/-!
# A bet is taken once it is paid for

Where every reply is the wallet's own or lost, a bet is accepted only after its
debit was applied, and a staff void is completed only after its refund was. Where
nobody interferes, a bet is rejected only if its debit was not applied.
-/

namespace SportsBetting

open Async Ledger Wallet WalletHttpClient WalletOutboxService BetsService SettlementService
open BetValidation Text

section Replies

/-- The reply is the wallet's own, or it is lost: a timeout, or a server error without a
body. -/
def Wallet.Exchange.Own (exchange : Exchange) : Prop :=
  match exchange.replaced with
  | none | some (.failure none none) => True
  | some (.failure (some status) none) => 500 ≤ status
  | _ => False

instance (exchange : Exchange) : Decidable exchange.Own := by
  unfold Exchange.Own
  split <;> infer_instance

variable {merchant : Merchant} {exchange : Exchange} {request : WalletTransactionRequest}

/-- A lost reply tells nothing. -/
theorem Wallet.Exchange.Own.reply (own : exchange.Own) (merchant : Merchant)
    (request : WalletTransactionRequest) :
    readTransaction request (merchant.post exchange request).1 = .error serviceUnavailable ∨
      merchant.post exchange request =
        (.response (some (merchant.transaction exchange request).1),
          (merchant.transaction exchange request).2) := by
  have lost : ∀ reply, exchange.replaced = some reply →
      readTransaction request reply = .error serviceUnavailable := by
    intro reply replaced
    unfold Exchange.Own at own
    rw [replaced] at own
    cases reply with
    | response data => exact own.elim
    | failure status data =>
        cases data with
        | some data => cases status <;> exact own.elim
        | none =>
            cases status with
            | none => rfl
            | some status =>
                have large : 500 ≤ status := own
                have apart : status ≠ 402 ∧ status ≠ 409 ∧ status ≠ 400 := by omega
                simp [readTransaction, apart]
  unfold Merchant.post Merchant.deliver
  cases replaced : exchange.replaced with
  | none =>
      cases exchange.reached with
      | true => exact .inr rfl
      | false => exact .inl rfl
  | some reply =>
      cases exchange.reached with
      | true => exact .inl (lost reply replaced)
      | false => exact .inl (lost reply replaced)

theorem acknowledges_of_parsed {data : MerchantWalletResponse} {reservation : Reservation}
    (parsed : parseTransactionResponse request data = .ok reservation) :
    acknowledges data = true := by
  unfold parseTransactionResponse at parsed
  unfold acknowledges
  cases success : isSuccess data with
  | true => rfl
  | false =>
      cases duplicate : isDuplicateTransaction data with
      | true => rfl
      | false =>
          simp only [success, duplicate, Bool.false_eq_true, if_false] at parsed
          split at parsed <;> cases parsed

theorem not_acknowledges_of_refused {data : MerchantWalletResponse} {failure : Failure}
    (parsed : parseTransactionResponse request data = .error failure) :
    acknowledges data = false := by
  unfold parseTransactionResponse at parsed
  unfold acknowledges
  cases success : isSuccess data with
  | true =>
      simp only [success, if_true] at parsed
      split at parsed <;> cases parsed
  | false =>
      cases duplicate : isDuplicateTransaction data with
      | true => simp [success, duplicate] at parsed
      | false => rfl

theorem acknowledges_repeatReply (exchange : Exchange) :
    acknowledges exchange.repeatReply = true := by
  unfold Exchange.repeatReply
  split
  · assumption
  · rfl

/-- What reads as a reservation was applied. -/
theorem applied_of_reserved (own : exchange.Own) {reservation : Reservation}
    (read : readTransaction request (merchant.post exchange request).1 = .ok reservation) :
    (merchant.post exchange request).2.hasApplied request.casinoGroupId
      request.transactionCode = true := by
  rcases own.reply merchant request with lost | same
  · rw [lost] at read
    cases read
  · rw [same] at read ⊢
    have acknowledged := acknowledges_of_parsed read
    unfold Merchant.transaction at acknowledged ⊢
    split
    · assumption
    · next fresh =>
        rw [if_neg fresh] at acknowledged
        split
        · next refused =>
            rw [if_pos refused, Exchange.acknowledges_refusalReply] at acknowledged
            cases acknowledged
        · exact hasApplied_iff.mpr ⟨request, mem_apply.mpr (.inr rfl), rfl, rfl⟩

/-- What reads as a refusal was not. -/
theorem unapplied_of_refused (own : exchange.Own)
    (read : ReadsAsRefusal request (merchant.post exchange request).1) :
    (merchant.post exchange request).2.hasApplied request.casinoGroupId
      request.transactionCode = false := by
  unfold ReadsAsRefusal at read
  rcases own.reply merchant request with lost | same
  · rw [lost] at read
    simp [serviceUnavailable, insufficientBalance] at read
  · rw [same] at read ⊢
    have refused := not_acknowledges_of_refused read
    unfold Merchant.transaction at refused ⊢
    split
    · next repeated =>
        rw [if_pos repeated, acknowledges_repeatReply] at refused
        cases refused
    · next fresh =>
        rw [if_neg fresh] at refused
        split
        · simpa using fresh
        · next accepted =>
            rw [if_neg accepted] at refused
            simp [Exchange.success, acknowledges, isSuccess] at refused

end Replies

section Facts

/-- The debit of the stored bet was applied by the wallet, or was not. -/
def DebitIs (applied : Bool) (world : World) (betId : String) : Prop :=
  ∃ bet row, (world.db.ledger.entry betId).bet = some bet ∧
    (world.db.ledger.entry betId).row .walletReserve = some row ∧
    world.wallet.hasApplied bet.casinoGroupId row.transactionCode = applied

/-- The bet counts: it was accepted, and may be settled by now. -/
def Bet.Taken (bet : Bet) : Prop := bet.status ≠ .pending ∧ bet.status ≠ .rejected

instance (bet : Bet) : Decidable bet.Taken := inferInstanceAs (Decidable (_ ∧ _))

def TakenDebited (world : World) : Prop :=
  ∀ betId bet, (world.db.ledger.entry betId).bet = some bet → bet.Taken → DebitIs true world betId

/-- The credit of the row was applied by the wallet. -/
def CreditApplied (world : World) (row : WalletOutbox) : Prop :=
  Premises.RowKept world.db.ledger row ∧ ∀ request, row.payload = some request →
    world.wallet.hasApplied request.casinoGroupId request.transactionCode = true

theorem DebitIs.later {applied : Bool} {before after : World} {betId : String}
    (kept : before.db.ledger.Keeps after.db.ledger)
    (same : ∀ group code, before.wallet.hasApplied group code = applied →
      after.wallet.hasApplied group code = applied)
    (debit : DebitIs applied before betId) : DebitIs applied after betId := by
  obtain ⟨bet, row, stored, reserved, known⟩ := debit
  obtain ⟨bet', stored', sameBet⟩ := (kept betId).bet bet stored
  obtain ⟨row', reserved', sameRow⟩ := (kept betId).row _ row reserved
  simp only [Bet.terms, Bet.placement, WalletOutbox.terms, Prod.mk.injEq] at sameBet sameRow
  refine ⟨bet', row', stored', reserved', ?_⟩
  rw [sameBet.2.1.1, sameRow.2.2.1]
  exact same _ _ known

theorem endures_debited (betId : String) :
    Premises.Endures fun world => DebitIs true world betId :=
  fun _ _ kept grows debit => debit.later kept fun _ _ => hasApplied_of_subset grows

theorem endures_creditApplied (row : WalletOutbox) :
    Premises.Endures fun world => CreditApplied world row := by
  intro before after kept grows held
  refine ⟨?_, fun request payload => hasApplied_of_subset grows (held.2 request payload)⟩
  have rows := Premises.endures_rowKept [row] kept grows fun other member => by
    rw [List.mem_singleton.mp member]
    exact held.1
  exact rows row (List.mem_singleton.mpr rfl)

end Facts

namespace Premises

variable (premises : Premises)

section Contract

/-- What the others leave as it is; where nobody else runs, the wallet too. -/
structure Spares (before after : World) : Prop where
  persists : premises.Persists before after
  wallet : premises.exclusive → after.wallet.applied = before.wallet.applied

/-- What is known of the wallet when a bet is decided, credited or refunded. -/
def AccountedWrite (world : World) {Reply : Type} : Write Reply → Prop
  | .createBet data _ => 0 ≤ data.stake.units
  | .acceptBet betId _ => DebitIs true world betId
  | .rejectBet betId _ => premises.exclusive → DebitIs false world betId
  | .settleBet graded _ => DebitIs true world graded.bet.id
  | .voidBet bet _ _ => DebitIs true world bet.id
  | .completeRow key => ∃ row, row.key = key ∧ CreditApplied world row
  | _ => True

def Accounted {Reply : Type} (request : BettingCall Reply) (world : World) : Prop :=
  match request with
  | .write transaction => transaction.Respects ∧ premises.AccountedWrite world transaction
  | .postTransaction request => premises.exclusive → request.isFinished = false →
      debitOpen (world.db.ledger.entry request.roundId) = true
  | _ => True

@[reducible] def accounts : Contract bettingMachine where
  invariant world := Orderly world ∧ TakenDebited world
  rely _ before after := premises.Spares before after
  proper := premises.Accounted
  admits _ choice _ := choice.exchange.Own

end Contract

variable {premises}

section Rules

variable {world : World} {fact : World → Prop} {α β : Type}

/-- What the others leave true. -/
def Spared (premises : Premises) (fact : World → Prop) : Prop :=
  ∀ ⦃before after : World⦄, premises.Spares before after → fact before → fact after

theorem Lasts.spared (lasts : premises.Lasts fact) : premises.Spared fact :=
  fun _ _ spares held => lasts spares.persists held

theorem Endures.spared (endures : Endures fact) : premises.Spared fact :=
  (Endures.lasts endures).spared

/-- Calls of which nothing is asked. -/
def Neutral {Reply : Type} : BettingCall Reply → Prop
  | .write (.createBet ..) | .write (.acceptBet ..) | .write (.rejectBet ..)
  | .write (.settleBet ..) | .write (.voidBet ..) | .write (.completeRow _)
  | .write (.setTransactionCode ..) | .postTransaction _ => False
  | _ => True

theorem accounted_neutral {Reply : Type} {request : BettingCall Reply} (neutral : Neutral request)
    (world : World) : premises.Accounted request world := by
  cases request with
  | write transaction => cases transaction <;> first | exact neutral.elim | exact ⟨trivial, trivial⟩
  | postTransaction => exact neutral.elim
  | read | randomUUID | getBalance | postBatch => trivial

theorem neutral_runs {program : Betting α} (neutral : program.CallsOnly Neutral) :
    premises.accounts.Runs program world :=
  have start : (fun _ : World => True) world := trivial
  Contract.Safe.of_callsOnly (fun _ _ _ _ _ => trivial)
    (fun _ world neutral => accounted_neutral neutral world) (fun _ _ _ _ _ => trivial) neutral
    start

theorem neutral_of_reading {program : Betting α} (reads : program.CallsOnly Reading) :
    program.CallsOnly Neutral := by
  refine reads.mono fun request reading => ?_
  cases request with
  | read | randomUUID | getBalance => trivial
  | write | postTransaction | postBatch => exact reading.elim

theorem accounts_reading {program : Betting α} (reads : program.CallsOnly Reading)
    (spared : premises.Spared fact) (start : fact world) :
    premises.accounts.Safe (fun _ after => fact after) program world := by
  refine Contract.Safe.of_callsOnly ?_ ?_ ?_ reads start
  · exact fun _ _ _ waited held => spared waited held
  · intro _ request world reading
    cases request with
    | read | randomUUID | getBalance => trivial
    | write | postTransaction | postBatch => exact reading.elim
  · intro _ request choice world reading held
    refine spared ⟨persists_reading reading choice world, fun _ => ?_⟩ held
    cases request with
    | read look =>
        change (world.answer choice (.read look)).2.wallet.applied = _
        unfold World.answer
        split <;> rfl
    | randomUUID | getBalance => rfl
    | write | postTransaction | postBatch => exact reading.elim

theorem accounts_read {look : Database → Moment → α} {next : α → Betting β}
    {post : Except Failure β → World → Prop} (spared : premises.Spared fact) (start : fact world)
    (rest : ∀ moment after, fact after → Orderly after → TakenDebited after →
      premises.accounts.Safe post (next (look after.db moment)) after)
    (failed : ∀ after, fact after → post (.error .database) after) :
    premises.accounts.Safe post (Program.call (.read look) >>= next) world :=
  safe_betting_read (fun _ => trivial) (fun _ waited => spared waited start)
    (fun moment _ after sound _ held => rest moment after held sound.1 sound.2) failed

/-- What endures holds wherever a program ends. -/
theorem Endures.accounts (endures : Endures fact) {program : Betting α}
    {post : Except Failure α → World → Prop} (start : fact world)
    (safe : premises.accounts.Safe post program world) :
    premises.accounts.Safe (fun outcome after => post outcome after ∧ fact after) program world := by
  refine Contract.Safe.frame ?_ ?_ start safe
  · exact fun _ _ _ waited held => Endures.spared endures waited held
  · intro _ request choice state _ proper _ held
    refine endures ?_ (applied_answer request state choice) held
    refine World.answer_ledger state (fun ledger => state.db.ledger.Keeps ledger) choice request ?_
      (.refl _)
    intro write same _ reply db ran
    subst same
    exact Write.keeps (Write.not_changesCode proper.1) ran

/-- A missing configuration is not taken for a refusal. -/
theorem accounts_requireWalletConfig (casinoGroupId : String) (spared : premises.Spared fact)
    (start : fact world) :
    premises.accounts.Safe (fun outcome after => fact after ∧
      ∀ message, outcome ≠ .error (.walletReserve message .insufficientFunds))
      (requireWalletConfig casinoGroupId) world := by
  apply accounts_read spared start
  · intro _ after held _ _
    dsimp only
    cases getWalletConfig after.db casinoGroupId with
    | none => exact .done ⟨held, fun message => by simp⟩
    | some currency => exact .done ⟨held, fun message => by simp⟩
  · intro after held
    exact ⟨held, fun message => by simp⟩

end Rules

section Debits

variable {world : World} {bet : Bet} {outbox : WalletOutbox}
  {transaction : WalletTransactionRequest}

/-- What the attempt has read says which code the wallet knows its debit by. -/
theorem Attempting.debitIs {applied : Bool}
    (attempting : premises.Attempting world.db.ledger bet outbox transaction)
    (known : world.wallet.hasApplied transaction.casinoGroupId transaction.transactionCode =
      applied) : DebitIs applied world bet.id := by
  obtain ⟨stored, there, terms, _⟩ := attempting.stored
  obtain ⟨row, reserved, same, _⟩ := attempting.reserved
  obtain ⟨group, _, code, _, _⟩ := buildBetDebitTransaction_ok attempting.built
  rw [attempting.own, attempting.type] at reserved
  simp only [Bet.terms, Bet.placement, WalletOutbox.terms, Prod.mk.injEq] at terms same
  refine ⟨stored, row, there, reserved, ?_⟩
  rw [terms.2.1.1, same.2.2.1, ← group, ← code]
  exact known

/-- A debit that reads as reserved was applied, and one that reads as refused was not. -/
theorem accounts_postTransaction
    (attempting : premises.Attempting world.db.ledger bet outbox transaction) :
    premises.accounts.Safe (fun outcome after =>
      premises.Attempting after.db.ledger bet outbox transaction ∧
        (∀ reservation, outcome = .ok reservation → DebitIs true after bet.id) ∧
        ∀ message, outcome = .error (.walletReserve message .insufficientFunds) →
          DebitIs false after bet.id)
      (postTransaction transaction) world := by
  have lasts : premises.Lasts _ := lasts_attempting bet outbox transaction
  obtain ⟨_, round, _, _, _⟩ := buildBetDebitTransaction_ok attempting.built
  apply Contract.Safe.bind (accounts_requireWalletConfig _ lasts.spared attempting)
  · intro currency after held later waited sound
    have kept := lasts.spared waited held.1
    refine ⟨fun alone _ => round ▸ kept.debitOpen alone, fun choice own => ⟨kept, ?_, ?_⟩⟩
    · intro reservation reserved
      exact Attempting.debitIs kept (applied_of_reserved own reserved)
    · intro message refused
      exact Attempting.debitIs kept
        (unapplied_of_refused own (insufficientFunds_of_readTransaction refused))
  · intro failure after held
    exact ⟨held.1, fun _ ended => absurd ended (by simp),
      fun message same => absurd (congrArg _ (Except.error.inj same)) (held.2 message)⟩

theorem accounts_scheduleRetry (row : WalletOutbox) (failure : Failure) :
    premises.accounts.Runs (WalletOutboxService.scheduleRetry row failure) world :=
  fun _ _ _ => ⟨⟨trivial, trivial⟩, fun _ _ => trivial⟩

theorem accounts_attemptDebit
    (attempting : premises.Attempting world.db.ledger bet outbox transaction) :
    premises.accounts.Runs (attemptDebit bet outbox transaction) world := by
  -- A refusal has been seen by the time the handler rejects the bet.
  apply Contract.Safe.handle (fun (outcome : Except Failure Bet) (after : World) =>
    ∀ message, outcome = .error (.walletReserve message .insufficientFunds) →
      DebitIs false after bet.id)
  · apply Contract.Safe.bind (accounts_postTransaction attempting)
    · intro reservation after held later waited _
      have debited := (endures_debited bet.id).spared waited (held.2.1 reservation rfl)
      refine ⟨⟨trivial, debited⟩, fun choice _ message failed => ?_⟩
      rcases later.commit_cases choice.fault
        (fun db => (Write.acceptBet bet.id reservation).run choice.freshId later.clock db) with
        ⟨failure, same, cause⟩ | ⟨_, _, _, same | same⟩ <;>
        simp only [World.answer, same] at failed
      · obtain rfl := Except.error.inj failed
        rcases cause with impossible | refused
        · cases impossible
        · cases acceptBet_error refused
      · cases failed
      · cases failed
    · intro failure after held message failed
      exact held.2.2 message (congrArg _ (Except.error.inj failed))
  · intro _ _ _
    trivial
  · intro failure after held
    unfold debitFailed
    split
    · next message =>
        intro later waited _
        refine ⟨⟨trivial, fun alone => ?_⟩, fun _ _ => trivial⟩
        have same := waited.wallet alone
        refine (held message rfl).later waited.persists.terms fun group code unapplied => ?_
        rwa [Merchant.hasApplied, same]
    · exact Contract.Runs.seq (accounts_scheduleRetry outbox failure) fun _ _ => trivial

theorem accounts_processSingleDebit (betId : String) :
    premises.accounts.Runs (processSingleDebit betId) world := by
  apply accounts_read lasts_true.spared trivial
  · intro _ after _ _ _
    dsimp only
    cases stored : after.db.ledger.bets.get? betId with
    | none => trivial
    | some bet =>
        by_cases decided : isDecided bet = true
        · simp only [decided, if_true]
          trivial
        · simp only [decided]
          obtain ⟨member, rfl⟩ := Table.get?_eq_some_iff.mp stored
          apply accounts_read (lasts_storedAs bet).spared (storedAs_of_mem member)
          · intro _ after held orderly _
            dsimp only
            cases reserved : after.db.ledger.outboxOf bet.id .walletReserve with
            | none => trivial
            | some outbox =>
                by_cases completed : outbox.status = .completed
                · simp only [completed, if_true]
                  trivial
                · rw [outboxOf_eq_row] at reserved
                  obtain ⟨present, own, type⟩ := entry_row.mp reserved
                  simp only [completed, if_false, pure_bind,
                    ensureTransactionCode_of_sound (orderly.sound _ _ _ reserved) type]
                  cases built : buildBetDebitTransaction bet outbox.transactionCode with
                  | error failure => trivial
                  | ok transaction =>
                      rw [Program.bind_ok]
                      exact accounts_attemptDebit ⟨held, rowStoredAs_of_mem present, own, type,
                        by simpa using decided, completed, built⟩
          · exact fun _ _ => trivial
  · exact fun _ _ => trivial

theorem accounts_attemptWalletDebit (betId : String) :
    premises.accounts.Runs (attemptWalletDebit betId) world := by
  apply Contract.Runs.handle
  · exact accounts_processSingleDebit betId
  · intro failure _
    cases failure <;> trivial

end Debits

section Outbox

variable {world : World}

theorem accounts_processPendingDebits (limit : ℕ) :
    premises.accounts.Runs (processPendingDebits limit) world := by
  apply accounts_read lasts_true.spared trivial
  · intro moment after _ _ _
    apply Contract.Runs.foldlM
    intro processed entry state
    apply Contract.Runs.handle
    · exact Contract.Runs.seq (accounts_processSingleDebit entry.betId) fun _ _ => trivial
    · intro _ _
      trivial
  · exact fun _ _ => trivial

/-- A staff void is completed once its refund was applied. -/
theorem accounts_deliverStaffVoid (entry : WalletOutbox) (credit : entry.type ≠ .walletReserve)
    (sound : entry.Sound) (kept : RowKept world.db.ledger entry) :
    premises.accounts.Runs (deliverStaffVoid entry) world := by
  have stored : Endures fun world => ∀ row ∈ [entry], RowKept world.db.ledger row :=
    endures_rowKept [entry]
  have start : ∀ row ∈ [entry], RowKept world.db.ledger row := by simpa using kept
  unfold deliverStaffVoid
  cases read : deserializeWalletTransaction entry with
  | error failure => trivial
  | ok transaction =>
      have payload := payload_of_deserialize read
      have finished : transaction.isFinished = true := by
        unfold WalletOutbox.Sound at sound
        cases type : entry.type with
        | walletReserve => exact absurd type credit
        | walletSettle | walletStaffVoid =>
            simp only [type] at sound
            obtain ⟨_, request, there, carries⟩ := sound
            obtain rfl := Option.some.inj (payload.symm.trans there)
            exact carries.finished
      rw [Program.bind_ok]
      let middle (outcome : Except Failure Reservation) (after : World) :=
        ∀ reservation, outcome = .ok reservation → CreditApplied after entry
      apply Contract.Runs.bind
      · show premises.accounts.Safe middle _ _
        apply Contract.Safe.bind (accounts_requireWalletConfig _ stored.spared start)
        · intro _ after held later waited _
          have kept := stored.spared waited held.1
          refine ⟨fun _ open_ => absurd (finished.symm.trans open_) (by simp),
            fun choice own reservation reserved => ⟨kept entry (by simp), ?_⟩⟩
          intro request same
          obtain rfl := Option.some.inj (payload.symm.trans same)
          exact applied_of_reserved own reserved
        · exact fun _ _ _ _ impossible => by cases impossible
      · intro reservation after applied later waited _
        have kept := (endures_creditApplied entry).spared waited (applied reservation rfl)
        exact ⟨⟨trivial, entry, rfl, kept⟩, fun _ _ => trivial⟩

theorem accounts_processPendingStaffVoids (limit : ℕ) :
    premises.accounts.Runs (processPendingStaffVoids limit) world := by
  apply accounts_read lasts_true.spared trivial
  · intro moment after _ orderly _
    apply Contract.Safe.foldlM (fun rest _ (world : World) => ∀ row ∈ rest,
      (row.type ≠ .walletReserve ∧ row.Sound) ∧ RowKept world.db.ledger row)
    · intro entry rest processed state held
      have others : Endures fun world => ∀ row ∈ rest, RowKept world.db.ledger row :=
        endures_rowKept rest
      have safe : premises.accounts.Runs (Program.handle (do
          deliverStaffVoid entry
          return processed + 1)
          fun failure => do
            WalletOutboxService.scheduleRetry entry failure
            return processed) state := by
        obtain ⟨⟨credit, sound⟩, kept⟩ := held entry List.mem_cons_self
        apply Contract.Runs.handle
        · exact Contract.Runs.seq (accounts_deliverStaffVoid entry credit sound kept)
            fun _ _ => trivial
        · intro failure _
          exact Contract.Runs.seq (accounts_scheduleRetry entry failure) fun _ _ => trivial
      apply Contract.Safe.mono _ (others.accounts (fun row member =>
        (held row (List.mem_cons_of_mem _ member)).2) safe)
      intro outcome after kept
      cases outcome with
      | error failure => trivial
      | ok value =>
          exact fun row member => ⟨(held row (List.mem_cons_of_mem _ member)).1, kept.2 row member⟩
    · intro _ _ _
      trivial
    · intro row member
      obtain ⟨stored, due⟩ := mem_dueRows.mp (List.mem_of_mem_take member)
      simp only [isDue, Bool.and_eq_true, decide_eq_true_eq] at due
      refine ⟨⟨by simp [due.1.1], ?_⟩, rowKept_of_mem stored⟩
      exact orderly.sound row.betId row.type row (entry_row.mpr ⟨stored, rfl, rfl⟩)
  · exact fun _ _ => trivial

/-- The rest of the outbox posts batches, of which nothing is asked. -/
theorem neutral_deliverBatch (casinoGroupId : String) (batchId : ℕ) (entries : List WalletOutbox) :
    (deliverBatch casinoGroupId batchId entries).CallsOnly Neutral := by
  have call : ∀ {α : Type} {request : BettingCall α}, Neutral request →
      (Program.call request : Betting α).CallsOnly Neutral :=
    fun neutral => (Program.callsOnly_call _).mpr neutral
  apply Program.CallsOnly.handle
  · apply Program.CallsOnly.bind
    · apply Program.CallsOnly.bind
      · apply Program.CallsOnly.bind (call (by trivial))
        intro config
        cases config <;> trivial
      · intro _
        apply Program.CallsOnly.bind (Program.callsOnly_done _)
        intro transactions
        exact Program.CallsOnly.bind (call (by trivial)) fun _ => trivial
    · intro _
      exact Program.CallsOnly.bind (call (by trivial)) fun _ => trivial
  · intro failure
    apply Program.CallsOnly.bind
    · exact Program.CallsOnly.foldlM (fun _ _ => call (by trivial)) entries ()
    · exact fun _ => trivial

theorem neutral_flushSettlementBatchForGroup (casinoGroupId : String) :
    (flushSettlementBatchForGroup casinoGroupId).CallsOnly Neutral := by
  have call : ∀ {α : Type} {request : BettingCall α}, Neutral request →
      (Program.call request : Betting α).CallsOnly Neutral :=
    fun neutral => (Program.callsOnly_call _).mpr neutral
  apply Program.CallsOnly.bind (call (by trivial))
  rintro ⟨now, anchor?⟩
  cases anchor? with
  | none => trivial
  | some anchor =>
      apply Program.CallsOnly.bind
      · unfold batchIdOf
        split
        · trivial
        · exact call trivial
      · intro batchId
        apply Program.CallsOnly.bind (call (by trivial))
        intro entries
        split
        · trivial
        · apply Program.CallsOnly.bind
          · unfold assignBatchId
            split
            · exact call trivial
            · trivial
          · exact fun _ => neutral_deliverBatch casinoGroupId batchId entries

theorem neutral_flushSettlementBatches : flushSettlementBatches.CallsOnly Neutral := by
  apply Program.CallsOnly.bind ((Program.callsOnly_call _).mpr (by trivial))
  intro groups
  apply Program.CallsOnly.foldlM
  intro batches casinoGroupId
  exact Program.CallsOnly.bind (neutral_flushSettlementBatchForGroup _) fun _ => trivial

theorem neutral_flushUpTo (casinoGroupId : String) (fuel : ℕ) :
    (flushUpTo casinoGroupId fuel).CallsOnly Neutral := by
  induction fuel with
  | zero => trivial
  | succ fuel ih =>
      apply Program.CallsOnly.bind (neutral_flushSettlementBatchForGroup _)
      intro sent
      split
      · exact Program.CallsOnly.bind ih fun _ => trivial
      · trivial

theorem accounts_processPending : premises.accounts.Runs processPending world := by
  apply Contract.Runs.seq (accounts_processPendingDebits _)
  intro debits _
  apply Contract.Runs.seq (accounts_processPendingStaffVoids _)
  intro staffVoids _
  exact Contract.Runs.seq (neutral_runs neutral_flushSettlementBatches) fun _ _ => trivial

end Outbox

section Placement

variable {world : World}

/-- Where the least stake is not negative, no stake is. -/
def StakesNonneg (config : EnvConfig) : Prop :=
  ∀ minStake, newDecimal config.BET_MIN_STAKE = .ok minStake → 0 ≤ minStake

theorem staked_of_checkRequest {config : EnvConfig} {selectionIds : List String}
    {stakeRaw : String} {stake : ℚ} (nonneg : StakesNonneg config)
    (checked : checkRequest config selectionIds stakeRaw = .ok stake) : 0 ≤ stake := by
  unfold checkRequest at checked
  split at checked
  · cases checked
  · obtain ⟨_, minStake, _, least, _, below, _⟩ := checkStake_ok checked
    exact (nonneg minStake least).trans below

theorem validateRows_stake {config : EnvConfig} {selectionIds : List String} {stake : ℚ}
    {rows : List SelectionRow} {quote : ValidatedBetQuote}
    (accepted : validateRows config selectionIds stake rows = .ok quote) : quote.stake = stake := by
  unfold validateRows at accepted
  dsimp only at accepted
  split at accepted
  · obtain ⟨_, impossible, _⟩ := Except.bind_eq_ok.mp accepted
    cases impossible
  · obtain ⟨legs, passed, accepted⟩ := Except.bind_eq_ok.mp accepted
    obtain ⟨maxPayout, _, accepted⟩ := Except.bind_eq_ok.mp accepted
    split at accepted
    · cases accepted
    · obtain rfl := Except.ok.inj accepted
      rfl

theorem accounts_validatePlacement {config : EnvConfig} (nonneg : StakesNonneg config)
    (casinoGroupId : String) (selectionIds : List String) (stakeRaw : String) :
    premises.accounts.Safe (fun outcome _ => ∀ quote, outcome = .ok quote → 0 ≤ quote.stake)
      (BetsService.validatePlacement config casinoGroupId selectionIds stakeRaw) world := by
  unfold BetsService.validatePlacement
  cases checked : checkRequest config selectionIds stakeRaw with
  | error failure => exact Contract.Safe.done (by simp)
  | ok stake =>
      rw [Program.bind_ok]
      apply accounts_read lasts_true.spared trivial
      · intro _ after _ _ _
        apply Contract.Safe.done
        intro quote accepted
        rw [validateRows_stake accepted]
        exact staked_of_checkRequest nonneg checked
      · exact fun _ _ => by simp

theorem accounts_placeBet {config : EnvConfig} (nonneg : StakesNonneg config) (user : UserContext)
    (idempotencyKey : String) (selectionIds : List String) (stake : String) :
    premises.accounts.Runs (placeBet config user idempotencyKey selectionIds stake) world := by
  apply accounts_read lasts_true.spared trivial
  · intro _ after _ _ _
    dsimp only
    split
    · split
      · exact accounts_attemptWalletDebit _
      · trivial
    · apply Contract.Runs.bind (accounts_validatePlacement nonneg _ selectionIds stake)
      intro quote _ staked
      apply Contract.Runs.seq (neutral_runs (neutral_of_reading (reads_checkBalance user quote.stake)))
      intro _ _
      apply Contract.Runs.seq (neutral_runs (neutral_of_reading (reads_call (by trivial))))
      intro number _
      cases built : betData user idempotencyKey quote with
      | error failure => trivial
      | ok data =>
          have stored := store_of_toColumn (betData_ok built).1
          have units : 0 ≤ data.stake.units := by
            rw [Numeral.Numeric.store_units stored]
            exact Numeral.roundHalfUp_nonneg 2 (staked quote rfl)
          rw [Program.bind_ok]
          apply Contract.Runs.seq
          · exact fun _ _ _ => ⟨⟨⟨number, rfl⟩, units⟩, fun _ _ => trivial⟩
          · exact fun bet _ => accounts_attemptWalletDebit bet.id
  · exact fun _ _ => trivial

end Placement

section Settlement

variable {world : World}

/-- A bet that is graded was debited. -/
theorem accounts_gradeBet (runtime : Runtime) (betId : String) :
    premises.accounts.Safe (fun outcome after =>
      ∀ graded, outcome = .ok (some graded) → DebitIs true after graded.bet.id)
      (gradeBet runtime betId) world := by
  apply accounts_read lasts_true.spared trivial
  · intro _ after _ _ taken
    dsimp only
    cases found : findAccepted after.db betId with
    | none => exact Contract.Safe.done fun graded returned => by cases Except.ok.inj returned
    | some bet =>
        unfold findAccepted at found
        obtain ⟨stored, accepted, rfl⟩ := Option.map_eq_some_iff.mp found
        obtain ⟨there, status⟩ := Option.filter_eq_some_iff.mp accepted
        obtain ⟨member, rfl⟩ := Table.get?_eq_some_iff.mp there
        have counts : stored.Taken := by
          have accepted : stored.status = .accepted := by simpa using status
          simp [Bet.Taken, accepted]
        have debited := taken stored.id stored (entry_of_bet member) counts
        apply Contract.Safe.bind (accounts_reading (reads_loadLegContexts _)
          (endures_debited stored.id).spared debited)
        · intro contexts after kept
          refine Contract.Safe.done fun graded returned => ?_
          obtain ⟨bet, _, _⟩ := gradeContexts_some (Except.ok.inj returned)
          rw [bet]
          exact kept
        · exact fun _ _ _ => by simp
  · exact fun _ _ => by simp

/-- The bets of a run were all debited. -/
def AllDebited (world : World) (graded : List GradedBet) : Prop :=
  ∀ entry ∈ graded, DebitIs true world entry.bet.id

theorem endures_allDebited (graded : List GradedBet) :
    Endures fun world => AllDebited world graded :=
  fun _ _ kept grows held entry member => endures_debited _ kept grows (held entry member)

theorem accounts_applySettlements {graded : List GradedBet} (debited : AllDebited world graded) :
    premises.accounts.Runs (applySettlements graded) world := by
  have persisted : premises.accounts.Runs (persistGradedSettlements graded) world := by
    apply Contract.Safe.foldlM (fun rest _ (world : World) => AllDebited world rest)
    · intro entry rest batchIdByGroup state held
      apply Contract.Safe.bind (accounts_reading (reads_batchIdFor batchIdByGroup _)
        (endures_allDebited _).spared held)
      · rintro ⟨batchId, batchIdByGroup⟩ after held
        have settled : premises.accounts.Runs (transact (.settleBet entry batchId)) after := by
          intro later waited _
          have own := (endures_debited _).spared waited (held entry List.mem_cons_self)
          exact ⟨⟨trivial, own⟩, fun _ _ => trivial⟩
        have others : AllDebited after rest := fun other member =>
          held other (List.mem_cons_of_mem _ member)
        apply Contract.Safe.bind ((endures_allDebited rest).accounts others settled)
        · exact fun _ _ kept => kept.2
        · exact fun _ _ _ => trivial
      · exact fun _ _ _ => trivial
    · exact fun _ _ _ => trivial
    · exact debited
  apply Contract.Runs.seq persisted
  intro _ _
  exact Contract.Runs.seq (neutral_runs neutral_flushSettlementBatches) fun _ _ => trivial

theorem accounts_settleBatch (runtime : Runtime) :
    premises.accounts.Runs (settleBatch runtime) world := by
  apply accounts_read lasts_true.spared trivial
  · intro moment after _ _ _
    have graded : premises.accounts.Safe (fun outcome after =>
        ∀ graded, outcome = .ok graded → AllDebited after graded)
        (gradeBets runtime (((acceptedBets after.db moment fun _ => true).take BATCH_SIZE).map
          Bet.id)) after := by
      apply Contract.Safe.foldlM (fun _ graded (world : World) => AllDebited world graded)
      · intro betId rest graded state held
        apply Contract.Safe.bind ((endures_allDebited graded).accounts held
          (accounts_gradeBet runtime betId))
        · rintro result after ⟨own, kept⟩
          refine Contract.Safe.done fun entry member => ?_
          rcases List.mem_append.mp member with old | new
          · exact kept entry old
          · exact own entry (by rw [Option.mem_toList.mp new])
        · exact fun _ _ _ => by simp
      · rintro graded state held _ ⟨⟩
        exact held
      · exact fun entry member => by cases member
    apply Contract.Runs.bind graded
    intro graded after held
    split
    · trivial
    · exact Contract.Runs.seq (accounts_applySettlements (held graded rfl)) fun _ _ => trivial
  · exact fun _ _ => trivial

theorem accounts_trySettleBet (runtime : Runtime) (betId : String) :
    premises.accounts.Runs (trySettleBet runtime betId) world := by
  apply Contract.Runs.bind (accounts_gradeBet runtime betId)
  intro graded after held
  cases graded with
  | none => trivial
  | some entry =>
      have debited : AllDebited after [entry] := by simpa [AllDebited] using held entry rfl
      exact Contract.Runs.seq (accounts_applySettlements debited) fun _ _ => trivial

theorem accounts_settleBetsForEvent (runtime : Runtime) (eventId casinoGroupId : String) :
    premises.accounts.Runs (settleBetsForEvent runtime eventId casinoGroupId) world := by
  apply accounts_read lasts_true.spared trivial
  · intro moment after _ _ _
    apply Contract.Runs.seq
    · apply Contract.Runs.foldlM
      intro settled betId state
      exact Contract.Runs.seq (accounts_trySettleBet runtime betId) fun _ _ => trivial
    · exact fun _ _ => trivial
  · exact fun _ _ => trivial

end Settlement

section Staff

variable {world : World}

theorem accounts_record (entry : AuditEntry) :
    premises.accounts.Runs (StaffBetsService.record entry) world := by
  apply Contract.Runs.handle
  · exact fun _ _ _ => ⟨⟨trivial, trivial⟩, fun _ _ => trivial⟩
  · exact fun _ _ => trivial

theorem accounts_voidBet (casinoGroupId betId reason staffUserId : String) :
    premises.accounts.Runs (StaffBetsService.voidBet casinoGroupId betId reason staffUserId)
      world := by
  apply accounts_read lasts_true.spared trivial
  · intro _ after _ _ taken
    dsimp only
    cases found : (after.db.ledger.bets.get? betId).filter
        fun bet => bet.casinoGroupId = casinoGroupId with
    | none => trivial
    | some bet =>
        obtain ⟨there, group⟩ := Option.filter_eq_some_iff.mp found
        obtain ⟨member, rfl⟩ := Table.get?_eq_some_iff.mp there
        dsimp only
        split
        · trivial
        · next accepted =>
            split
            · trivial
            · apply Contract.Runs.seq
              · intro later waited _
                have respects : (Write.voidBet bet casinoGroupId reason).Respects := by
                  simpa [Write.Respects] using group
                have counts : bet.Taken := by
                  have accepted : bet.status = .accepted := by simpa using accepted
                  simp [Bet.Taken, accepted]
                exact ⟨⟨respects, (endures_debited bet.id).spared waited
                  (taken bet.id bet (entry_of_bet member) counts)⟩, fun _ _ => trivial⟩
              · exact fun _ _ => Contract.Runs.seq (accounts_record _) fun _ _ => trivial
  · exact fun _ _ => trivial

theorem accounts_retryWalletSettlementTransmission (casinoGroupId staffUserId : String) :
    premises.accounts.Runs
      (StaffSettlementService.retryWalletSettlementTransmission casinoGroupId staffUserId)
      world := by
  have reads : (StaffSettlementService.countPending casinoGroupId).CallsOnly Reading :=
    reads_call trivial
  apply Contract.Runs.seq (neutral_runs (neutral_of_reading reads))
  intro pendingBefore _
  split
  · trivial
  · apply Contract.Runs.seq
    · exact fun _ _ _ => ⟨⟨trivial, trivial⟩, fun _ _ => trivial⟩
    · intro _ _
      apply Contract.Runs.seq (neutral_runs (neutral_flushUpTo casinoGroupId 100))
      intro batchesSent _
      apply Contract.Runs.seq (neutral_runs (neutral_of_reading reads))
      intro pendingAfter _
      exact Contract.Runs.seq (accounts_record _) fun _ _ => trivial

end Staff

section Actors

theorem accounts_poll {α : Type} {program : Betting α} {world : World}
    (runs : premises.accounts.Runs program world) :
    premises.accounts.Runs (Actor.poll program) world :=
  Contract.Runs.handle (Contract.Runs.void runs) fun _ _ => trivial

/-- Every actor knows what it must of the wallet, whatever the state it starts in. -/
theorem accounts_actor {config : EnvConfig} (nonneg : StakesNonneg config) (runtime : Runtime)
    (actor : Actor) (world : World) :
    premises.accounts.Runs (actor.program config runtime) world := by
  cases actor with
  | placeBet user idempotencyKey selectionIds stake =>
      exact Contract.Runs.void (accounts_placeBet nonneg user idempotencyKey selectionIds stake)
  | pollOutbox => exact accounts_poll accounts_processPending
  | pollSettlement => exact accounts_poll (accounts_settleBatch runtime)
  | settleBatch => exact Contract.Runs.void (accounts_settleBatch runtime)
  | trySettleBet betId => exact Contract.Runs.void (accounts_trySettleBet runtime betId)
  | settleBetsForEvent eventId casinoGroupId =>
      exact Contract.Runs.void (accounts_settleBetsForEvent runtime eventId casinoGroupId)
  | voidBet casinoGroupId betId reason staffUserId =>
      exact Contract.Runs.void (accounts_voidBet casinoGroupId betId reason staffUserId)
  | retryWalletSettlementTransmission casinoGroupId staffUserId =>
      exact Contract.Runs.void
        (accounts_retryWalletSettlementTransmission casinoGroupId staffUserId)

end Actors

end Premises

end SportsBetting
