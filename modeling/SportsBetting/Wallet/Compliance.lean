import SportsBetting.Bets.Discipline

/-!
# The outbox keeps to the contract

Between its calls a service relies on what it has read: the terms of a bet or
row last, and its status too when the service runs alone.
-/

namespace SportsBetting

open Async Ledger Wallet WalletHttpClient WalletOutboxService BetsService

namespace Premises

variable {premises : Premises}

section Facts

/-- What the others can not destroy. -/
def Lasts (premises : Premises) (fact : World → Prop) : Prop :=
  ∀ ⦃before after : World⦄, premises.Persists before after → fact before → fact after

theorem Lasts.and {first second : World → Prop} (one : premises.Lasts first)
    (two : premises.Lasts second) : premises.Lasts fun world => first world ∧ second world :=
  fun _ _ persists held => ⟨one persists held.1, two persists held.2⟩

theorem lasts_true : premises.Lasts fun _ => True := fun _ _ _ _ => trivial

theorem lasts_storedAs (bet : Bet) :
    premises.Lasts fun world => premises.StoredAs world.db.ledger bet := by
  intro before after persists held
  obtain ⟨stored, there, terms, status⟩ := held
  obtain ⟨later, found, same⟩ := (persists.terms bet.id).bet stored there
  refine ⟨later, found, same.trans terms, fun alone => ?_⟩
  rw [persists.alone alone, there] at found
  rw [← Option.some.inj found]
  exact status alone

theorem lasts_rowStoredAs (row : WalletOutbox) :
    premises.Lasts fun world => premises.RowStoredAs world.db.ledger row := by
  intro before after persists held
  obtain ⟨stored, there, terms, status⟩ := held
  obtain ⟨later, found, same⟩ := (persists.terms row.betId).row row.type stored there
  refine ⟨later, found, same.trans terms, fun alone => ?_⟩
  rw [persists.alone alone, there] at found
  rw [← Option.some.inj found]
  exact status alone

theorem lasts_graded (graded : GradedBet) :
    premises.Lasts fun world => premises.Graded world.db.ledger graded :=
  fun _ _ persists held =>
    ⟨lasts_storedAs graded.bet persists held.stored, held.accepted, held.payout⟩

theorem storedAs_of_mem {ledger : Ledger} {bet : Bet} (member : bet ∈ ledger.bets) :
    premises.StoredAs ledger bet :=
  ⟨bet, entry_bet.mpr ⟨member, rfl⟩, rfl, fun _ => rfl⟩

/-- The order of the legs does not matter. -/
theorem StoredAs.legs {ledger : Ledger} {bet : Bet} (held : premises.StoredAs ledger bet)
    (legs : List BetLeg) : premises.StoredAs ledger { bet with legs } := held

theorem rowStoredAs_of_mem {ledger : Ledger} {row : WalletOutbox} (member : row ∈ ledger.walletOutbox) :
    premises.RowStoredAs ledger row :=
  ⟨row, entry_row.mpr ⟨member, rfl, rfl⟩, rfl, fun _ => rfl⟩

end Facts

section Reading

/-- Calls that change neither the ledger nor the wallet. -/
def Reading {Reply : Type} : BettingCall Reply → Prop
  | .read _ | .randomUUID | .getBalance .. => True
  | _ => False

theorem persists_reading {Reply : Type} {request : BettingCall Reply} (reading : Reading request)
    (choice : Choice) (world : World) :
    premises.Persists world (world.answer choice request).2 := by
  cases request with
  | read look =>
      unfold World.answer
      split <;> exact .refl _
  | randomUUID | getBalance => exact ⟨.refl _, List.Subset.refl _, fun _ => rfl⟩
  | write | postTransaction | postBatch => exact reading.elim

theorem proper_reading {Reply : Type} {request : BettingCall Reply} (reading : Reading request)
    (world : World) : premises.Proper request world := by
  cases request with
  | read | randomUUID | getBalance => trivial
  | write | postTransaction | postBatch => exact reading.elim

variable {α β : Type} {world : World} {fact : World → Prop}

/-- A program that only reads keeps what lasts. -/
theorem safe_reading {program : Betting α} (reads : program.CallsOnly Reading)
    (lasts : premises.Lasts fact) (start : fact world) :
    premises.contract.Safe (fun _ after => fact after) program world := by
  refine Contract.Safe.of_callsOnly ?_ ?_ ?_ reads start
  · intro _ _ before after waited held
    exact lasts waited.1 held
  · exact fun _ world reading => proper_reading reading world
  · intro _ request choice world reading held
    exact lasts (persists_reading reading choice world) held

theorem reads_call {request : BettingCall α} (reading : Reading request) :
    (Program.call request : Betting α).CallsOnly Reading :=
  (Program.callsOnly_call request).mpr reading

/-- What a read sees is what is stored when it is answered. -/
theorem safe_read {look : Database → Moment → α} {next : α → Betting β}
    {post : Except Failure β → World → Prop} (lasts : premises.Lasts fact) (start : fact world)
    (rest : ∀ moment after, fact after → after.db.ledger.Sound →
      premises.contract.Safe post (next (look after.db moment)) after)
    (failed : ∀ after, fact after → post (.error .database) after) :
    premises.contract.Safe post (Program.call (.read look) >>= next) world :=
  safe_betting_read (fun _ => trivial) (fun _ waited => lasts waited.1 start)
    (fun moment _ after sound _ held => rest moment after held sound.sound) failed

theorem runs_read {look : Database → Moment → α} {next : α → Betting β}
    (lasts : premises.Lasts fact) (start : fact world)
    (rest : ∀ moment after, fact after → after.db.ledger.Sound →
      premises.contract.Runs (next (look after.db moment)) after) :
    premises.contract.Runs (Program.call (.read look) >>= next) world :=
  safe_read lasts start rest fun _ _ => trivial

/-- A missing configuration is not taken for a refusal. -/
theorem safe_requireWalletConfig (casinoGroupId : String) (lasts : premises.Lasts fact)
    (start : fact world) :
    premises.contract.Safe (fun outcome after => fact after ∧
      ∀ message, outcome ≠ .error (.walletReserve message .insufficientFunds))
      (requireWalletConfig casinoGroupId) world := by
  apply safe_read lasts start
  · intro _ after held _
    dsimp only
    cases getWalletConfig after.db casinoGroupId with
    | none => exact .done ⟨held, fun message => by simp⟩
    | some currency => exact .done ⟨held, fun message => by simp⟩
  · intro after held
    exact ⟨held, fun message => by simp⟩

end Reading

section Debits

variable {world : World}

/-- What an attempt has read, and the request it built from it. -/
structure Attempting (premises : Premises) (ledger : Ledger) (bet : Bet) (outbox : WalletOutbox)
    (transaction : WalletTransactionRequest) : Prop where
  stored : premises.StoredAs ledger bet
  reserved : premises.RowStoredAs ledger outbox
  own : outbox.betId = bet.id
  type : outbox.type = .walletReserve
  undecided : isDecided bet = false
  notCompleted : outbox.status ≠ .completed
  built : buildBetDebitTransaction bet outbox.transactionCode = .ok transaction

theorem lasts_attempting (bet : Bet) (outbox : WalletOutbox)
    (transaction : WalletTransactionRequest) :
    premises.Lasts fun world => premises.Attempting world.db.ledger bet outbox transaction :=
  fun _ _ persists held => { held with
    stored := lasts_storedAs bet persists held.stored
    reserved := lasts_rowStoredAs outbox persists held.reserved }

variable {bet : Bet} {outbox : WalletOutbox} {transaction : WalletTransactionRequest}
  {ledger : Ledger}

theorem Attempting.isDebit (attempting : premises.Attempting ledger bet outbox transaction) :
    IsDebit ledger transaction := by
  obtain ⟨stored, there, terms, _⟩ := attempting.stored
  obtain ⟨row, reserved, same, _⟩ := attempting.reserved
  obtain ⟨group, round, code, unfinished, amount⟩ := buildBetDebitTransaction_ok attempting.built
  rw [attempting.own, attempting.type, ← round] at reserved
  rw [← round] at there
  simp only [Bet.terms, Bet.placement, WalletOutbox.terms, Prod.mk.injEq] at terms same
  refine ⟨stored, row, there, reserved, group.trans terms.2.1.1.symm, code.trans same.2.2.1.symm,
    unfinished, ?_⟩
  rw [terms.2.2.1]
  exact amount

theorem Attempting.debitOpen (attempting : premises.Attempting ledger bet outbox transaction)
    (alone : premises.exclusive) : debitOpen (ledger.entry bet.id) = true := by
  obtain ⟨stored, there, _, status⟩ := attempting.stored
  obtain ⟨row, reserved, _, rowStatus⟩ := attempting.reserved
  have reserved : (ledger.entry bet.id).reserve = some row := by
    rwa [attempting.own, attempting.type] at reserved
  have undecided := attempting.undecided
  have notCompleted := attempting.notCompleted
  unfold isDecided at undecided
  rw [← status alone] at undecided
  rw [← rowStatus alone] at notCompleted
  simp only [WalletOutboxService.debitOpen, there, reserved, isDecided, undecided]
  simpa using notCompleted

theorem runs_scheduleRetry (row : WalletOutbox) (failure : Failure) :
    premises.contract.Runs (WalletOutboxService.scheduleRetry row failure) world :=
  fun _ _ _ => ⟨⟨trivial, trivial⟩, fun _ _ => trivial⟩

theorem acceptBet_error {betId : String} {reservation : Reservation} {db : Database}
    {failure : Failure} (failed : acceptBet betId reservation db = .error failure) :
    failure = .database := by
  unfold acceptBet at failed
  cases stored : db.ledger.bets.get? betId with
  | none => simpa [stored, found, bind, Except.bind] using failed.symm
  | some bet =>
      cases reserved : db.ledger.outboxOf betId .walletReserve with
      | none => simpa [stored, reserved, found, bind, Except.bind] using failed.symm
      | some row => simp [stored, reserved, found, bind, Except.bind, pure, Except.pure] at failed

/-- A debit that is taken for refused is declined. -/
theorem safe_postTransaction
    (attempting : premises.Attempting world.db.ledger bet outbox transaction) :
    premises.contract.Safe (fun outcome after =>
      premises.Attempting after.db.ledger bet outbox transaction ∧
        ∀ message, outcome = .error (.walletReserve message .insufficientFunds) →
          premises.declined after bet.id)
      (postTransaction transaction) world := by
  obtain ⟨_, round, _, unfinished, _⟩ := buildBetDebitTransaction_ok attempting.built
  apply Contract.Safe.bind (safe_requireWalletConfig _ (lasts_attempting bet outbox transaction)
    attempting)
  · intro currency after held later waited sound
    have kept := lasts_attempting bet outbox transaction waited.1 held.1
    refine ⟨.inl kept.isDebit, fun choice admitted => ⟨kept, fun message failed => ?_⟩⟩
    rw [← round]
    exact premises.refusal later choice transaction admitted unfinished
      (insufficientFunds_of_readTransaction failed)
  · intro failure after held
    exact ⟨held.1, fun message same => absurd (congrArg _ (Except.error.inj same))
      (held.2 message)⟩

theorem runs_attemptDebit
    (attempting : premises.Attempting world.db.ledger bet outbox transaction) :
    premises.contract.Runs (attemptDebit bet outbox transaction) world := by
  have lasts : premises.Lasts _ := lasts_attempting bet outbox transaction
  -- A refusal has been seen by the time the handler rejects the bet.
  apply Contract.Safe.handle (fun (outcome : Except Failure Bet) (after : World) =>
    ∀ message, outcome = .error (.walletReserve message .insufficientFunds) →
      premises.Attempting after.db.ledger bet outbox transaction ∧
        premises.declined after bet.id)
  · apply Contract.Safe.bind (safe_postTransaction attempting)
    · intro reservation after held later waited _
      have kept := lasts waited.1 held.1
      refine ⟨⟨trivial, fun alone => kept.debitOpen alone⟩, fun choice _ message failed => ?_⟩
      rcases later.commit_cases choice.fault
        (fun db => (Write.acceptBet bet.id reservation).run choice.freshId later.clock db) with
        ⟨failure, same, cause⟩ | ⟨_, _, _, same | same⟩ <;>
        simp only [World.answer, same] at failed
      · obtain rfl := Except.error.inj failed
        rcases cause with impossible | refused
        · cases impossible
        · cases acceptBet_error refused
      · cases failed
      · cases failed
    · intro failure after held message failed
      exact ⟨held.1, held.2 message (congrArg _ (Except.error.inj failed))⟩
  · intro _ _ _
    trivial
  · intro failure after held
    unfold debitFailed
    split
    · next message =>
        obtain ⟨tried, declined⟩ := held message rfl
        intro later waited _
        have kept := lasts waited.1 tried
        exact ⟨⟨trivial, waited.2 bet.id rfl declined, fun alone => kept.debitOpen alone⟩,
          fun _ _ => trivial⟩
    · exact Contract.Runs.seq (runs_scheduleRetry outbox failure) fun _ _ => trivial

theorem ensureTransactionCode_of_sound (sound : outbox.Sound) (type : outbox.type = .walletReserve) :
    ensureTransactionCode outbox = pure outbox.transactionCode := by
  unfold WalletOutbox.Sound at sound
  rw [type] at sound
  obtain ⟨number, code⟩ := sound
  simp [ensureTransactionCode, code]

theorem runs_processSingleDebit (betId : String) :
    premises.contract.Runs (processSingleDebit betId) world := by
  apply runs_read lasts_true trivial
  intro _ after _ _
  dsimp only
  cases stored : after.db.ledger.bets.get? betId with
  | none => trivial
  | some bet =>
      by_cases decided : isDecided bet = true
      · simp only [decided, if_true]
        trivial
      · simp only [decided]
        obtain ⟨member, rfl⟩ := Table.get?_eq_some_iff.mp stored
        apply runs_read (lasts_storedAs bet) (storedAs_of_mem member)
        intro _ after held sound
        dsimp only
        cases reserved : after.db.ledger.outboxOf bet.id .walletReserve with
        | none => trivial
        | some outbox =>
            by_cases completed : outbox.status = .completed
            · simp only [completed, if_true]
              trivial
            · rw [outboxOf_eq_row] at reserved
              obtain ⟨present, own, type⟩ := entry_row.mp reserved
              simp only [completed, if_false, pure_bind,
                ensureTransactionCode_of_sound (sound _ _ _ reserved) type]
              cases built : buildBetDebitTransaction bet outbox.transactionCode with
              | error failure => trivial
              | ok transaction =>
                  rw [Program.bind_ok]
                  exact runs_attemptDebit ⟨held, rowStoredAs_of_mem present, own, type,
                    by simpa using decided, completed, built⟩

theorem runs_processPendingDebits (limit : ℕ) :
    premises.contract.Runs (processPendingDebits limit) world := by
  apply runs_read lasts_true trivial
  intro moment after _ _
  apply Contract.Runs.foldlM
  intro processed entry state
  apply Contract.Runs.handle
  · exact Contract.Runs.seq (runs_processSingleDebit entry.betId) fun _ _ => trivial
  · intro _ _
    trivial

end Debits

section Deliveries

variable {world : World} {α : Type}

/-- What neither the others nor own calls can destroy. -/
def Endures (fact : World → Prop) : Prop :=
  ∀ ⦃before after : World⦄, before.db.ledger.Keeps after.db.ledger →
    before.wallet.applied ⊆ after.wallet.applied → fact before → fact after

theorem Endures.lasts {fact : World → Prop} (endures : Endures fact) : premises.Lasts fact :=
  fun _ _ persists held => endures persists.terms persists.applied held

/-- What endures holds wherever a program ends. -/
theorem Endures.frame {fact : World → Prop} (endures : Endures fact) {program : Betting α}
    {post : Except Failure α → World → Prop} (start : fact world)
    (safe : premises.contract.Safe post program world) :
    premises.contract.Safe (fun outcome after => post outcome after ∧ fact after) program world := by
  refine Contract.Safe.frame ?_ ?_ start safe
  · intro _ request before after waited held
    exact endures waited.1.terms waited.1.applied held
  · intro _ request choice state _ proper _ held
    exact endures (keeps_answer choice proper) (applied_answer request state choice) held

/-- The row is stored under these terms. -/
def RowKept (ledger : Ledger) (row : WalletOutbox) : Prop :=
  ∃ stored, (ledger.entry row.betId).row row.type = some stored ∧ stored.terms = row.terms

theorem rowKept_of_mem {ledger : Ledger} {row : WalletOutbox} (member : row ∈ ledger.walletOutbox) :
    RowKept ledger row :=
  ⟨row, entry_row.mpr ⟨member, rfl, rfl⟩, rfl⟩

theorem endures_rowKept (rows : List WalletOutbox) :
    Endures fun world => ∀ row ∈ rows, RowKept world.db.ledger row := by
  intro before after kept _ held row member
  obtain ⟨stored, there, terms⟩ := held row member
  obtain ⟨later, found, same⟩ := (kept row.betId).row row.type stored there
  exact ⟨later, found, same.trans terms⟩

theorem RowKept.isCredit {ledger : Ledger} {row : WalletOutbox} {request : WalletTransactionRequest}
    (kept : RowKept ledger row) (credit : row.type ≠ .walletReserve)
    (payload : row.payload = some request) : IsCredit ledger request := by
  obtain ⟨stored, there, terms⟩ := kept
  simp only [WalletOutbox.terms, Prod.mk.injEq] at terms
  exact ⟨row.betId, row.type, stored, there, credit, terms.2.2.2.trans payload⟩

theorem payload_of_deserialize {row : WalletOutbox} {request : WalletTransactionRequest}
    (read : deserializeWalletTransaction row = .ok request) : row.payload = some request := by
  unfold deserializeWalletTransaction at read
  cases stored : row.payload with
  | none => simp [stored] at read
  | some payload => simpa [stored] using read

section StaffVoids

theorem runs_postCredit {request : WalletTransactionRequest}
    (credit : IsCredit world.db.ledger request) :
    premises.contract.Runs (postTransaction request) world := by
  have endures : Endures fun world => IsCredit world.db.ledger request :=
    fun _ _ kept _ held => held.later kept
  apply Contract.Runs.bind (safe_requireWalletConfig request.casinoGroupId endures.lasts credit)
  intro _ after held later waited _
  exact ⟨.inr (endures.lasts waited.1 held.1), fun _ _ => trivial⟩

theorem runs_deliverStaffVoid {entry : WalletOutbox} (type : entry.type = .walletStaffVoid)
    (kept : RowKept world.db.ledger entry) :
    premises.contract.Runs (deliverStaffVoid entry) world := by
  unfold deliverStaffVoid
  cases read : deserializeWalletTransaction entry with
  | error failure => trivial
  | ok transaction =>
      rw [Program.bind_ok]
      apply Contract.Runs.bind
      · exact runs_postCredit (kept.isCredit (by simp [type]) (payload_of_deserialize read))
      · exact fun _ _ _ _ _ _ => ⟨⟨trivial, type⟩, fun _ _ => trivial⟩

theorem runs_processPendingStaffVoids (limit : ℕ) :
    premises.contract.Runs (processPendingStaffVoids limit) world := by
  apply runs_read lasts_true trivial
  intro moment after _ _
  apply Contract.Safe.foldlM (fun rest _ (world : World) => ∀ row ∈ rest,
    row.type = .walletStaffVoid ∧ RowKept world.db.ledger row)
  · intro entry rest processed state held
    have others := endures_rowKept rest
    have safe : premises.contract.Runs (Program.handle (do
        deliverStaffVoid entry
        return processed + 1)
        fun failure => do
          WalletOutboxService.scheduleRetry entry failure
          return processed) state := by
      obtain ⟨type, kept⟩ := held entry List.mem_cons_self
      apply Contract.Runs.handle
      · exact Contract.Runs.seq (runs_deliverStaffVoid type kept) fun _ _ => trivial
      · intro failure _
        exact Contract.Runs.seq (runs_scheduleRetry entry failure) fun _ _ => trivial
    apply Contract.Safe.mono _ (others.frame (fun row member =>
      (held row (List.mem_cons_of_mem _ member)).2) safe)
    intro outcome after kept
    cases outcome with
    | error failure => trivial
    | ok value =>
        exact fun row member => ⟨(held row (List.mem_cons_of_mem _ member)).1, kept.2 row member⟩
  · intro _ _ _
    trivial
  · intro row member
    obtain ⟨stored, due⟩ := mem_dueRows.mp (List.mem_of_mem_take member)
    simp only [isDue, Bool.and_eq_true, decide_eq_true_eq] at due
    exact ⟨due.1.1, rowKept_of_mem stored⟩

end StaffVoids

section Batches

variable {entries : List WalletOutbox}

theorem runs_retryAll (entries : List WalletOutbox) (failure : Failure) :
    premises.contract.Runs (retryAll entries failure) world :=
  Contract.Runs.foldlM (fun _ entry _ => runs_scheduleRetry entry failure) entries () world

/-- The rows are settlements, stored as they were read. -/
def Batched (ledger : Ledger) (entries : List WalletOutbox) : Prop :=
  ∀ row ∈ entries, row.type = .walletSettle ∧ RowKept ledger row

theorem endures_batched (entries : List WalletOutbox) :
    Endures fun world => Batched world.db.ledger entries :=
  fun _ _ kept grows held row member => ⟨(held row member).1,
    endures_rowKept entries kept grows (fun row member => (held row member).2) row member⟩

/-- The requests of the rows were delivered. -/
def Delivered (premises : Premises) (world : World) (entries : List WalletOutbox) : Prop :=
  ∀ row ∈ entries, ∀ request, row.payload = some request → premises.delivered world request

theorem endures_delivered (entries : List WalletOutbox) :
    Endures fun world => premises.Delivered world entries :=
  fun _ _ _ grows held row member request payload =>
    premises.delivered_later grows (held row member request payload)

/-- An acknowledged batch was delivered. -/
theorem safe_postTransactionBatch (casinoGroupId : String) (batchId : ℕ)
    (batched : Batched world.db.ledger entries) :
    premises.contract.Safe (fun outcome after =>
      outcome = .ok () → premises.Delivered after entries)
      (postTransactionBatch casinoGroupId batchId entries) world := by
  have endures := endures_batched entries
  apply Contract.Safe.bind (safe_requireWalletConfig casinoGroupId endures.lasts batched)
  · intro _ after held
    cases read : entries.mapM deserializeWalletTransaction with
    | error failure => exact .done nofun
    | ok transactions =>
        rw [Program.bind_ok]
        intro later waited _
        have kept := endures.lasts waited.1 held.1
        refine ⟨fun request member => ?_, fun choice admitted acknowledged => ?_⟩
        · obtain ⟨row, listed, same⟩ := (Except.mapM_eq_ok read).2 request member
          obtain ⟨type, stored⟩ := kept row listed
          exact stored.isCredit (by simp [type]) (payload_of_deserialize same)
        · intro row listed request payload
          apply premises.acknowledged later choice casinoGroupId batchId transactions admitted
            acknowledged
          apply Except.mem_of_mapM_eq_ok read listed
          simp [deserializeWalletTransaction, payload]
  · intro failure after _
    exact nofun

/-- Rows of one batch are completed after its acknowledgement. -/
theorem runs_deliverBatch (casinoGroupId : String) (batchId : ℕ)
    (batched : Batched world.db.ledger entries) :
    premises.contract.Runs (deliverBatch casinoGroupId batchId entries) world := by
  have endures := endures_batched entries
  apply Contract.Runs.handle
  · apply Contract.Runs.bind (endures.frame batched
      (safe_postTransactionBatch casinoGroupId batchId batched))
    rintro ⟨⟩ after ⟨posted, held⟩
    apply Contract.Runs.seq
    · intro later waited _
      have kept := endures.lasts waited.1 held
      have delivered := (endures_delivered entries).lasts waited.1 (posted rfl)
      refine ⟨⟨trivial, fun key member => ?_⟩, fun _ _ => trivial⟩
      obtain ⟨row, listed, rfl⟩ := List.mem_map.mp member
      obtain ⟨type, stored, there, terms⟩ := kept row listed
      refine ⟨type, fun found same request payload => delivered row listed request ?_⟩
      obtain rfl := Option.some.inj (same.symm.trans there)
      simp only [WalletOutbox.terms, Prod.mk.injEq] at terms
      exact terms.2.2.2.symm.trans payload
    · intro _ _
      trivial
  · intro failure _
    exact Contract.Runs.seq (runs_retryAll entries failure) fun _ _ => trivial

theorem runs_assignBatchId (anchor : WalletOutbox) (batchId : ℕ) (entries : List WalletOutbox) :
    premises.contract.Runs (assignBatchId anchor batchId entries) world := by
  unfold assignBatchId
  split
  · exact fun _ _ _ => ⟨⟨trivial, trivial⟩, fun _ _ => trivial⟩
  · trivial

theorem runs_flushSettlementBatchForGroup (casinoGroupId : String) :
    premises.contract.Runs (flushSettlementBatchForGroup casinoGroupId) world := by
  apply runs_read lasts_true trivial
  intro moment after _ _
  dsimp only
  cases (dueRows after.db moment moment.now .walletSettle).find?
      fun row => row.casinoGroupId = casinoGroupId with
  | none => trivial
  | some anchor =>
      have reads : (batchIdOf anchor).CallsOnly Reading := by
        unfold batchIdOf
        cases anchor.batchId with
        | none => exact reads_call trivial
        | some batchId => trivial
      apply Contract.Runs.bind (safe_reading reads lasts_true trivial)
      intro batchId _ _
      apply runs_read lasts_true trivial
      intro moment' after _ _
      split
      · trivial
      · have batched : Batched after.db.ledger ((dueRows after.db moment' moment.now
            .walletSettle).filter fun row =>
              row.casinoGroupId = casinoGroupId && row.batchId = anchor.batchId) := by
          intro row member
          obtain ⟨stored, due⟩ := mem_dueRows.mp (List.mem_of_mem_filter member)
          simp only [isDue, Bool.and_eq_true, decide_eq_true_eq] at due
          exact ⟨due.1.1, rowKept_of_mem stored⟩
        apply Contract.Runs.bind ((endures_batched _).frame batched (runs_assignBatchId ..))
        intro _ _ held
        exact runs_deliverBatch casinoGroupId batchId held.2

theorem runs_flushSettlementBatches : premises.contract.Runs flushSettlementBatches world := by
  apply runs_read lasts_true trivial
  intro moment after _ _
  apply Contract.Runs.foldlM
  intro batches casinoGroupId state
  exact Contract.Runs.seq (runs_flushSettlementBatchForGroup casinoGroupId) fun _ _ => trivial

theorem runs_flushUpTo (casinoGroupId : String) (fuel : ℕ) :
    premises.contract.Runs (flushUpTo casinoGroupId fuel) world := by
  induction fuel generalizing world with
  | zero => trivial
  | succ fuel ih =>
      apply Contract.Runs.bind (runs_flushSettlementBatchForGroup casinoGroupId)
      intro sent after _
      cases sent with
      | false => trivial
      | true => exact Contract.Runs.seq ih fun _ _ => trivial

end Batches

theorem runs_processPending : premises.contract.Runs processPending world := by
  apply Contract.Runs.bind (runs_processPendingDebits _)
  intro debits _ _
  apply Contract.Runs.bind (runs_processPendingStaffVoids _)
  intro staffVoids _ _
  exact Contract.Runs.seq runs_flushSettlementBatches fun _ _ => trivial

end Deliveries

end Premises

end SportsBetting
