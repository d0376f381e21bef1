import SportsBetting.Bets.Stocked
import SportsBetting.Wallet.Flush

/-!
# The backlog of the outbox

While wallets answer, a poll of the outbox delivers the oldest debits and refunds and a
batch of every tenant. Whatever was left behind before, enough polls leave no row
pending.
-/

namespace SportsBetting

open Async Ledger Wallet WalletHttpClient WalletOutboxService

section Waiting

/-- What a delivery reads of a row. -/
def WalletOutbox.load (row : WalletOutbox) :=
  (row.key, row.casinoGroupId, row.payload, row.nextRetryAt)

/-- The pending rows of a kind, by their keys. -/
def Ledger.waiting (ledger : Ledger) (chosen : OutboxType → String → Bool) :
    Finset (String × OutboxType) :=
  ((ledger.walletOutbox.rows.filter fun row =>
    row.status = .pending && chosen row.type row.casinoGroupId).map WalletOutbox.key).toFinset

/-- The rows of these keys wait no longer, and the others wait as before. -/
structure Ledger.Delivers (before after : Ledger) (keys : Finset (String × OutboxType)) : Prop where
  row : ∀ betId type row, (before.entry betId).row type = some row →
    ∃ later, (after.entry betId).row type = some later ∧ later.load = row.load ∧
      (later.status = .pending ↔ row.status = .pending ∧ row.key ∉ keys)
  old : ∀ betId type later, (after.entry betId).row type = some later →
    ∃ row, (before.entry betId).row type = some row

variable {before middle after ledger : Ledger} {chosen : OutboxType → String → Bool}
  {keys others : Finset (String × OutboxType)} {key : String × OutboxType}

theorem mem_waiting : key ∈ ledger.waiting chosen ↔ ∃ row,
    (ledger.entry key.1).row key.2 = some row ∧ row.status = .pending ∧
      chosen row.type row.casinoGroupId = true := by
  simp only [Ledger.waiting, List.mem_toFinset, List.mem_map, List.mem_filter, Bool.and_eq_true,
    decide_eq_true_eq]
  constructor
  · rintro ⟨row, ⟨listed, waits⟩, rfl⟩
    exact ⟨row, entry_row.mpr ⟨Table.mem_rows.mp listed, rfl, rfl⟩, waits⟩
  · rintro ⟨row, stored, waits⟩
    obtain ⟨listed, bet, type⟩ := entry_row.mp stored
    exact ⟨row, ⟨Table.mem_rows.mpr listed, waits⟩, by rw [WalletOutbox.key, bet, type]⟩

theorem Ledger.Delivers.refl (ledger : Ledger) : ledger.Delivers ledger ∅ where
  row _ _ row stored := ⟨row, stored, rfl, by simp⟩
  old _ _ row stored := ⟨row, stored⟩

theorem Ledger.Delivers.trans (first : before.Delivers middle keys)
    (second : middle.Delivers after others) : before.Delivers after (keys ∪ others) where
  row betId type row stored := by
    obtain ⟨next, there, load, status⟩ := first.row betId type row stored
    obtain ⟨last, here, load', status'⟩ := second.row betId type next there
    have same : next.key = row.key := congrArg Prod.fst load
    refine ⟨last, here, load'.trans load, ?_⟩
    rw [status', status, same, Finset.mem_union, not_or, and_assoc]
  old betId type last stored := by
    obtain ⟨next, there⟩ := second.old betId type last stored
    exact first.old betId type next there

theorem Ledger.Delivers.waiting (delivers : before.Delivers after keys)
    (chosen : OutboxType → String → Bool) :
    after.waiting chosen = before.waiting chosen \ keys := by
  ext key
  rw [Finset.mem_sdiff, mem_waiting, mem_waiting]
  have own : ∀ row, (before.entry key.1).row key.2 = some row → row.key = key := by
    intro row stored
    obtain ⟨_, bet, type⟩ := entry_row.mp stored
    rw [WalletOutbox.key, bet, type]
  constructor
  · rintro ⟨later, stored, pending, chosen⟩
    obtain ⟨row, there⟩ := delivers.old _ _ later stored
    obtain ⟨found, here, load, status⟩ := delivers.row _ _ row there
    obtain rfl := Option.some.inj (stored.symm.trans here)
    obtain ⟨waits, apart⟩ := status.mp pending
    simp only [WalletOutbox.load, WalletOutbox.key, Prod.mk.injEq] at load
    rw [load.1.2, load.2.1] at chosen
    rw [own row there] at apart
    exact ⟨⟨row, there, waits, chosen⟩, apart⟩
  · rintro ⟨⟨row, stored, pending, chosen⟩, apart⟩
    obtain ⟨later, there, load, status⟩ := delivers.row _ _ row stored
    refine ⟨later, there, status.mpr ⟨pending, by rwa [own row stored]⟩, ?_⟩
    simp only [WalletOutbox.load, WalletOutbox.key, Prod.mk.injEq] at load
    rw [load.1.2, load.2.1]
    exact chosen

/-- Rows that are changed in their place. -/
theorem Ledger.delivers_of_map {onBet : Bet → Bet} {onRow : WalletOutbox → WalletOutbox}
    (entries : ∀ betId, after.entry betId = (before.entry betId).map onBet onRow)
    (load : ∀ row, (onRow row).load = row.load)
    (status : ∀ row, (onRow row).status = .pending ↔ row.status = .pending ∧ row.key ∉ keys) :
    before.Delivers after keys where
  row betId type row stored :=
    ⟨onRow row, by rw [entries, Entry.map_row, stored]; rfl, load row, status row⟩
  old betId type later stored := by
    rw [entries, Entry.map_row] at stored
    obtain ⟨row, there, _⟩ := Option.map_eq_some_iff.mp stored
    exact ⟨row, there⟩

end Waiting

section Deliverable

/-- Every pending row can be delivered at once. -/
structure Deliverable (world : World) : Prop where
  sound : world.db.ledger.Sound
  bet : ∀ betId type row, (world.db.ledger.entry betId).row type = some row →
    ∃ bet, (world.db.ledger.entry betId).bet = some bet ∧
      bet.casinoGroupId = row.casinoGroupId ∧ bet.legs ≠ []
  undecided : ∀ betId row, (world.db.ledger.entry betId).row .walletReserve = some row →
    row.status = .pending → ∀ bet, (world.db.ledger.entry betId).bet = some bet →
      isDecided bet = false
  refund : ∀ betId row, (world.db.ledger.entry betId).row .walletStaffVoid = some row →
    ∀ request, row.payload = some request → 0 ≤ amountOf request
  due : ∀ betId type row, (world.db.ledger.entry betId).row type = some row →
    row.status = .pending → isDue world.clock type row = true
  configured : ∀ betId type row, (world.db.ledger.entry betId).row type = some row →
    row.status = .pending → (getWalletConfig world.db row.casinoGroupId).isSome = true

variable {world next : World} {db : Database}

theorem isDue_later {now after : Time} {type : OutboxType} {row : WalletOutbox}
    (passed : now ≤ after) (due : isDue now type row = true) : isDue after type row = true := by
  simp only [isDue, Bool.and_eq_true, decide_eq_true_eq] at due ⊢
  refine ⟨due.1, ?_⟩
  cases scheduled : row.nextRetryAt with
  | none => rfl
  | some time =>
      have early := due.2
      simp only [scheduled, decide_eq_true_eq] at early
      exact decide_eq_true (early.trans passed)

theorem Deliverable.later (deliverable : Deliverable world) (same : next.db = world.db)
    (passed : world.clock ≤ next.clock) : Deliverable next := by
  constructor
  · rw [same]
    exact deliverable.sound
  · rw [same]
    exact deliverable.bet
  · rw [same]
    exact deliverable.undecided
  · rw [same]
    exact deliverable.refund
  · intro betId type row stored pending
    rw [same] at stored
    exact isDue_later passed (deliverable.due betId type row stored pending)
  · rw [same]
    exact deliverable.configured

/-- A step of a delivery: it changes rows in their place, and the bets that it decides
have no pending debit after it. -/
theorem Deliverable.map {onBet : Bet → Bet} {onRow : WalletOutbox → WalletOutbox}
    (deliverable : Deliverable world)
    (entries : ∀ betId, db.ledger.entry betId = (world.db.ledger.entry betId).map onBet onRow)
    (catalog : db.catalog = world.db.catalog)
    (bet : ∀ bet, (onBet bet).casinoGroupId = bet.casinoGroupId ∧ (onBet bet).legs = bet.legs)
    (terms : ∀ row, (onRow row).terms = row.terms)
    (retry : ∀ row, (onRow row).nextRetryAt = row.nextRetryAt)
    (status : ∀ row, (onRow row).status = .pending → row.status = .pending)
    (decided : ∀ bet row, row.key = (bet.id, .walletReserve) → (onRow row).status = .pending →
      isDecided bet = false → isDecided (onBet bet) = false) :
    Deliverable { world with db } := by
  have rows : ∀ betId type row, (db.ledger.entry betId).row type = some row →
      ∃ before, (world.db.ledger.entry betId).row type = some before ∧ onRow before = row := by
    intro betId type row stored
    rw [entries, Entry.map_row] at stored
    exact Option.map_eq_some_iff.mp stored
  have own : ∀ row, (onRow row).key = row.key ∧ (onRow row).casinoGroupId = row.casinoGroupId ∧
      (onRow row).payload = row.payload := by
    intro row
    have same := terms row
    simp only [WalletOutbox.terms, Prod.mk.injEq] at same
    exact ⟨same.1, same.2.1, same.2.2.2⟩
  constructor
  · intro betId type row stored
    obtain ⟨before, there, rfl⟩ := rows betId type row stored
    exact (deliverable.sound betId type before there).of_terms (terms before).symm
  · intro betId type row stored
    obtain ⟨before, there, rfl⟩ := rows betId type row stored
    obtain ⟨old, placed, group, legs⟩ := deliverable.bet betId type before there
    refine ⟨onBet old, by rw [entries]; simp [Entry.map, placed], ?_, ?_⟩
    · rw [(bet old).1, group, (own before).2.1]
    · rwa [(bet old).2]
  · intro betId row stored pending found changed
    obtain ⟨before, there, rfl⟩ := rows betId _ row stored
    have changed : ((world.db.ledger.entry betId).map onBet onRow).bet = some found := by
      rw [← entries]
      exact changed
    obtain ⟨old, placed, rfl⟩ := Option.map_eq_some_iff.mp changed
    refine decided old before ?_ pending
      (deliverable.undecided betId before there (status before pending) old placed)
    rw [WalletOutbox.key, (entry_row.mp there).2.1, (entry_row.mp there).2.2,
      (entry_bet.mp placed).2]
  · intro betId row stored request payload
    obtain ⟨before, there, rfl⟩ := rows betId _ row stored
    rw [(own before).2.2] at payload
    exact deliverable.refund betId before there request payload
  · intro betId type row stored pending
    obtain ⟨before, there, rfl⟩ := rows betId type row stored
    have due := deliverable.due betId type before there (status before pending)
    have type : (onRow before).type = before.type := congrArg Prod.snd (own before).1
    simp only [isDue, Bool.and_eq_true, decide_eq_true_eq] at due ⊢
    rw [type, retry]
    exact ⟨⟨due.1.1, pending⟩, due.2⟩
  · intro betId type row stored pending
    obtain ⟨before, there, rfl⟩ := rows betId type row stored
    have config := deliverable.configured betId type before there (status before pending)
    rw [(own before).2.1]
    unfold getWalletConfig at config ⊢
    rwa [catalog]

end Deliverable

section Obliging

/-- The request arrives, the reply comes back, and only a debit may be refused. -/
def Wallet.Exchange.Obliging (exchange : Exchange) : Prop :=
  exchange.reached = true ∧ exchange.replaced = none ∧ exchange.refuse = false

instance (exchange : Exchange) : Decidable exchange.Obliging :=
  inferInstanceAs (Decidable (_ ∧ _ ∧ _))

variable {exchange : Exchange}

theorem Wallet.Exchange.Obliging.own (obliging : exchange.Obliging) : exchange.Own := by
  unfold Exchange.Own
  rw [obliging.2.1]
  trivial

theorem reserves_of_acknowledges {request : WalletTransactionRequest} {data : MerchantWalletResponse}
    (acknowledged : acknowledges data = true) :
    ∃ reservation, parseTransactionResponse request data = .ok reservation := by
  unfold acknowledges at acknowledged
  unfold parseTransactionResponse
  by_cases success : isSuccess data = true
  · rw [if_pos success]
    cases data.message with
    | absent | text | number => exact ⟨_, rfl⟩
  · simp only [success, Bool.false_or] at acknowledged
    rw [if_neg success, if_pos acknowledged]
    exact ⟨_, rfl⟩

theorem Wallet.Exchange.acknowledges_success (exchange : Exchange) :
    acknowledges exchange.success = true := rfl

/-- A transaction goes through, or it is a debit that the balance does not cover. -/
theorem Wallet.Exchange.Obliging.reply (obliging : exchange.Obliging) (merchant : Merchant)
    (request : WalletTransactionRequest) :
    (∃ reservation, readTransaction request (merchant.post exchange request).1 =
      .ok reservation) ∨
    readTransaction request (merchant.post exchange request).1 = .error insufficientBalance ∧
      amountOf request < 0 := by
  obtain ⟨reached, replaced, refuse⟩ := obliging
  have reply : (merchant.post exchange request).1 =
      .response (some (merchant.transaction exchange request).1) := by
    simp [Merchant.post, Merchant.deliver, reached, replaced]
  rw [reply]
  simp only [readTransaction]
  unfold Merchant.transaction
  split
  · exact .inl (reserves_of_acknowledges (acknowledges_repeatReply exchange))
  · split
    · next refused =>
        have debit : amountOf request < 0 := by
          by_contra credit
          simp [Merchant.refuses, credit, refuse] at refused
        right
        have silent := exchange.acknowledges_refusalReply
        simp only [acknowledges, Bool.or_eq_false_iff] at silent
        refine ⟨?_, debit⟩
        simp [parseTransactionResponse, silent, debit]
    · exact .inl (reserves_of_acknowledges exchange.acknowledges_success)

theorem Wallet.Exchange.Obliging.batch (obliging : exchange.Obliging) (merchant : Merchant)
    (casinoGroupId : String) (batchId : ℕ) (transactions : List WalletTransactionRequest) :
    readBatch (merchant.postBatch exchange casinoGroupId batchId transactions).1 = .ok () := by
  obtain ⟨reached, replaced, refuse⟩ := obliging
  have acknowledged :
      acknowledges (merchant.batchTransactions exchange casinoGroupId batchId transactions).1 =
        true := by
    unfold Merchant.batchTransactions
    split
    · exact acknowledges_repeatReply exchange
    · rw [refuse]
      exact exchange.acknowledges_success
  simp [Merchant.postBatch, Merchant.deliver, reached, replaced, readBatch, acknowledged]

/-- No call fails, wallets answer, and only time and balances change meanwhile. -/
@[reducible] def obliging : Contract bettingMachine where
  invariant _ := True
  rely _ before after := after.db = before.db ∧ before.clock ≤ after.clock
  proper _ _ := True
  admits _ choice _ := choice.fault = .none ∧ choice.exchange.Obliging

/-- Nothing was delivered since. -/
structure Kept (db : Database) (world : World) : Prop where
  db : world.db = db
  deliverable : Deliverable world

variable {α β : Type} {db : Database} {world : World} {post : Except Failure β → World → Prop}

theorem Kept.later {request : BettingCall α} {next : World} (kept : Kept db world)
    (waited : obliging.rely request world next) : Kept db next :=
  ⟨waited.1.trans kept.db, kept.deliverable.later waited.1 waited.2⟩

theorem obliging_read {look : Database → Moment → α} {next : α → Betting β} (kept : Kept db world)
    (rest : ∀ moment later, Kept db later → moment.now = later.clock →
      obliging.Safe post (next (look db moment)) later) :
    obliging.Safe post (Program.call (.read look) >>= next) world := by
  intro later waited _
  refine ⟨trivial, fun choice admitted => ?_⟩
  have held := kept.later waited
  simp only [World.answer, admitted.1, held.db]
  exact rest _ later held rfl

theorem obliging_view {look : Database → α} {next : α → Betting β} (kept : Kept db world)
    (rest : ∀ later, Kept db later → obliging.Safe post (next (look db)) later) :
    obliging.Safe post (view look >>= next) world :=
  obliging_read kept fun _ later held _ => rest later held

theorem obliging_transact {write : Write α} {next : α → Betting β} (kept : Kept db world)
    (runs : ∀ id later, Kept db later → ∃ reply after,
      write.run id later.clock db = .ok (reply, after) ∧
        obliging.Safe post (next reply) { later with db := after }) :
    obliging.Safe post (transact write >>= next) world := by
  intro later waited _
  refine ⟨trivial, fun choice admitted => ?_⟩
  have held := kept.later waited
  obtain ⟨reply, after, ran, rest⟩ := runs choice.freshId later held
  simp only [World.answer, World.commit, admitted.1, held.db, ran]
  exact rest

/-- The last call of a program. -/
theorem obliging_last {write : Write β} (kept : Kept db world)
    (runs : ∀ id later, Kept db later → ∃ reply after,
      write.run id later.clock db = .ok (reply, after) ∧ post (.ok reply) { later with db := after }) :
    obliging.Safe post (transact write) world := by
  intro later waited _
  refine ⟨trivial, fun choice admitted => ?_⟩
  have held := kept.later waited
  obtain ⟨reply, after, ran, ended⟩ := runs choice.freshId later held
  simp only [World.answer, World.commit, admitted.1, held.db, ran]
  exact ended

theorem obliging_requireWalletConfig {casinoGroupId : String}
    (configured : (getWalletConfig db casinoGroupId).isSome = true) (kept : Kept db world) :
    obliging.Safe (fun outcome after => Kept db after ∧ ∃ currency, outcome = .ok currency)
      (requireWalletConfig casinoGroupId) world := by
  obtain ⟨currency, config⟩ := Option.isSome_iff_exists.mp configured
  apply obliging_view kept
  intro later held
  rw [config]
  exact ⟨held, currency, rfl⟩

/-- A transaction of a tenant whose wallet is configured. -/
theorem obliging_postTransaction {request : WalletTransactionRequest}
    (configured : (getWalletConfig db request.casinoGroupId).isSome = true) (kept : Kept db world) :
    obliging.Safe (fun outcome after => Kept db after ∧
      ((∃ reservation, outcome = .ok reservation) ∨
        outcome = .error insufficientBalance ∧ amountOf request < 0))
      (postTransaction request) world := by
  apply Contract.Safe.bind (obliging_requireWalletConfig configured kept)
  · rintro currency after ⟨held, _⟩ later waited _
    refine ⟨trivial, fun choice admitted => ?_⟩
    have held := held.later waited
    exact ⟨⟨held.db, held.deliverable.later rfl le_rfl⟩, admitted.2.reply later.wallet request⟩
  · rintro failure after ⟨_, _, impossible⟩
    cases impossible

end Obliging

section Debits

variable {α : Type} {db : Database} {world : World} {betId : String}

/-- The calls came to an end, and the rows of these keys were delivered. -/
def Delivered (db : Database) (keys : Finset (String × OutboxType)) {α : Type}
    (outcome : Except Failure α) (after : World) : Prop :=
  (∃ value, outcome = .ok value) ∧ Deliverable after ∧ db.ledger.Delivers after.db.ledger keys

/-- The debit of a bet is decided with the bet. -/
theorem delivered_decide (kept : Kept db world) (onBet : Bet → Bet)
    (onRow : WalletOutbox → WalletOutbox) (keepsId : ∀ bet, (onBet bet).id = bet.id)
    (keepsPlacement : ∀ bet, (onBet bet).placement = bet.placement)
    (keepsLegs : ∀ bet, (onBet bet).legs = bet.legs)
    (keepsKey : ∀ row, (onRow row).key = row.key)
    (keeps : ∀ row, (onRow row).terms = row.terms ∧ (onRow row).nextRetryAt = row.nextRetryAt ∧
      (onRow row).status ≠ .pending) (outcome : Bet) :
    Delivered db {(betId, .walletReserve)} (.ok outcome : Except Failure Bet)
      { world with db := { db with
        ledger := (db.ledger.modifyBets (fun bet => bet.id = betId) onBet keepsId
          keepsPlacement).modifyOutbox (fun row => row.key = (betId, .walletReserve)) onRow
            keepsKey } } := by
  obtain ⟨rfl, deliverable⟩ := kept
  let changeBet (bet : Bet) : Bet := if bet.id = betId then onBet bet else bet
  let changeRow (row : WalletOutbox) : WalletOutbox :=
    if row.key = (betId, .walletReserve) then onRow row else row
  have entries : ∀ other, ((world.db.ledger.modifyBets (fun bet => bet.id = betId) onBet keepsId
      keepsPlacement).modifyOutbox (fun row => row.key = (betId, .walletReserve)) onRow
        keepsKey).entry other = (world.db.ledger.entry other).map changeBet changeRow := by
    intro other
    rw [entry_modifyOutbox, entry_modifyBets]
    simp [Entry.map, changeBet, changeRow, Function.comp_def]
  have status : ∀ row, (changeRow row).status = .pending ↔
      row.status = .pending ∧ row.key ∉ ({(betId, .walletReserve)} : Finset _) := by
    intro row
    by_cases here : row.key = (betId, .walletReserve)
    · simp [changeRow, here, (keeps row).2.2]
    · simp [changeRow, here]
  have terms : ∀ row, (changeRow row).terms = row.terms ∧
      (changeRow row).nextRetryAt = row.nextRetryAt := by
    intro row
    simp only [changeRow]
    split
    · exact ⟨(keeps row).1, (keeps row).2.1⟩
    · exact ⟨rfl, rfl⟩
  refine ⟨⟨outcome, rfl⟩, deliverable.map entries rfl ?_ (fun row => (terms row).1)
    (fun row => (terms row).2) (fun row waits => ((status row).mp waits).1) ?_,
    delivers_of_map entries ?_ status⟩
  · intro bet
    simp only [changeBet]
    split
    · exact ⟨congrArg Prod.fst (keepsPlacement bet), keepsLegs bet⟩
    · exact ⟨rfl, rfl⟩
  · intro bet row key waits undecided
    have apart : bet.id ≠ betId := by
      rintro rfl
      exact ((status row).mp waits).2 (by simp [key])
    simpa [changeBet, apart] using undecided
  · intro row
    have same := (terms row).1
    simp only [WalletOutbox.terms, Prod.mk.injEq] at same
    simp only [WalletOutbox.load, same.1, same.2.1, same.2.2.2, (terms row).2]

/-- The attempt comes to an acceptance, or to a rejection of what is not covered. -/
theorem delivered_attemptDebit {bet : Bet} {outbox : WalletOutbox}
    {transaction : WalletTransactionRequest} (kept : Kept db world)
    (stored : (db.ledger.entry bet.id).bet = some bet)
    (reserved : (db.ledger.entry bet.id).row .walletReserve = some outbox)
    (configured : (getWalletConfig db transaction.casinoGroupId).isSome = true) :
    obliging.Safe (Delivered db {(bet.id, .walletReserve)})
      (attemptDebit bet outbox transaction) world := by
  have bet? : found (db.ledger.bets.get? bet.id) = .ok bet := found_ok.mpr stored
  have row? : found (db.ledger.outboxOf bet.id .walletReserve) = .ok outbox := by
    rw [found_ok, outboxOf_eq_row]
    exact reserved
  let middle (outcome : Except Failure Bet) (after : World) : Prop :=
    match outcome with
    | .ok _ => Delivered db {(bet.id, .walletReserve)} outcome after
    | .error failure => failure = insufficientBalance ∧ Kept db after
  unfold attemptDebit
  apply Contract.Safe.handle middle
  · apply Contract.Safe.bind (obliging_postTransaction configured kept)
    · rintro reservation after ⟨held, _⟩
      apply obliging_last held
      intro id later held
      refine ⟨acceptedAs reservation bet, _, ?_, delivered_decide held (acceptedAs reservation)
        completed (fun _ => rfl) (fun _ => rfl) (fun _ => rfl) (fun _ => rfl) ?_ _⟩
      · simp only [Write.run, acceptBet, bet?, row?]
        rfl
      · exact fun row => ⟨rfl, rfl, by simp [completed]⟩
    · rintro failure after ⟨held, ⟨_, impossible⟩ | ⟨same, _⟩⟩
      · cases impossible
      · exact ⟨Except.error.inj same, held⟩
  · exact fun _ _ delivered => delivered
  · rintro failure after ⟨rfl, held⟩
    unfold debitFailed insufficientBalance
    apply obliging_last held
    intro id later held
    refine ⟨rejectedFor "Insufficient balance" bet, _, ?_,
      delivered_decide held (rejectedFor "Insufficient balance")
        (failedWith "Insufficient balance") (fun _ => rfl) (fun _ => rfl) (fun _ => rfl)
        (fun _ => rfl) ?_ _⟩
    · simp only [Write.run, rejectBet, bet?, row?]
      rfl
    · exact fun row => ⟨rfl, rfl, by simp [failedWith]⟩

theorem exists_buildBetDebitTransaction {bet : Bet} (legs : bet.legs ≠ []) (code : TransactionCode) :
    ∃ transaction, buildBetDebitTransaction bet code = .ok transaction := by
  have size : (sortLegs bet.legs).length = bet.legs.length :=
    List.length_insertionSort _ _
  cases sorted : sortLegs bet.legs with
  | nil =>
      rw [sorted] at size
      exact absurd (List.length_eq_zero_iff.mp size.symm) legs
  | cons leg rest =>
      have primary : primaryLeg bet.legs = .ok leg := by rw [primaryLeg, sorted]
      unfold buildBetDebitTransaction
      rw [primary]
      exact ⟨_, rfl⟩

theorem delivered_processSingleDebit {row : WalletOutbox} (deliverable : Deliverable world)
    (reserved : (world.db.ledger.entry betId).row .walletReserve = some row)
    (pending : row.status = .pending) :
    obliging.Safe (Delivered world.db {(betId, .walletReserve)}) (processSingleDebit betId)
      world := by
  obtain ⟨bet, stored, group, legs⟩ := deliverable.bet betId _ row reserved
  have undecided := deliverable.undecided betId row reserved pending bet stored
  have configured := deliverable.configured betId _ row reserved pending
  have own : bet.id = betId := (entry_bet.mp stored).2
  have outbox? : world.db.ledger.outboxOf betId .walletReserve = some row := by
    rw [outboxOf_eq_row]
    exact reserved
  have drawn := deliverable.sound betId _ row reserved
  unfold WalletOutbox.Sound at drawn
  rw [(entry_row.mp reserved).2.2] at drawn
  obtain ⟨number, code⟩ := drawn
  have kept : Kept world.db world := ⟨rfl, deliverable⟩
  unfold processSingleDebit
  apply obliging_view kept
  intro looked held
  rw [show world.db.ledger.bets.get? betId = some bet from stored]
  dsimp only
  rw [if_neg (by simp [undecided])]
  apply obliging_view held
  intro found held
  rw [outbox?]
  dsimp only
  rw [if_neg (by simp [pending])]
  have ensured : ensureTransactionCode row = pure row.transactionCode := by
    simp [ensureTransactionCode, code]
  rw [ensured, pure_bind]
  obtain ⟨transaction, built⟩ := exists_buildBetDebitTransaction legs row.transactionCode
  obtain ⟨ofGroup, _⟩ := buildBetDebitTransaction_ok built
  rw [built, Program.bind_ok, ← own]
  rw [← own] at stored reserved
  apply delivered_attemptDebit held stored reserved
  rw [ofGroup, group]
  exact configured

end Debits

section Rounds

variable {α : Type} {db : Database} {world : World}

/-- The row waits as it was read. -/
def Waits (ledger : Ledger) (row : WalletOutbox) : Prop :=
  ∃ stored, (ledger.entry row.betId).row row.type = some stored ∧ stored.status = .pending ∧
    stored.load = row.load

theorem Ledger.Delivers.waits {before after : Ledger} {keys : Finset (String × OutboxType)}
    {row : WalletOutbox} (delivers : before.Delivers after keys) (waits : Waits before row)
    (apart : row.key ∉ keys) : Waits after row := by
  obtain ⟨stored, there, pending, load⟩ := waits
  obtain ⟨later, here, load', status⟩ := delivers.row _ _ stored there
  have own : stored.key = row.key := congrArg Prod.fst load
  exact ⟨later, here, status.mpr ⟨pending, own ▸ apart⟩, load'.trans load⟩

theorem waits_of_due {moment : Moment} {now : Time} {type : OutboxType} {row : WalletOutbox}
    (listed : row ∈ dueRows db moment now type) : Waits db.ledger row ∧ row.type = type := by
  obtain ⟨stored, due⟩ := mem_dueRows.mp listed
  simp only [isDue, Bool.and_eq_true, decide_eq_true_eq] at due
  exact ⟨⟨row, entry_row.mpr ⟨stored, rfl, rfl⟩, due.1.2, rfl⟩, due.1.1⟩

/-- A loop that delivers each of its rows delivers them all. -/
theorem delivered_foldlM {body : ℕ → WalletOutbox → Betting ℕ} {entries : List WalletOutbox}
    (each : ∀ processed row (world : World), row ∈ entries → Deliverable world →
      Waits world.db.ledger row →
        obliging.Safe (Delivered world.db {row.key}) (body processed row) world)
    (distinct : (entries.map WalletOutbox.key).Nodup) (processed : ℕ)
    (deliverable : Deliverable world) (waits : ∀ row ∈ entries, Waits world.db.ledger row) :
    obliging.Safe (Delivered world.db (entries.map WalletOutbox.key).toFinset)
      (entries.foldlM body processed) world := by
  induction entries generalizing processed world with
  | nil => exact ⟨⟨processed, rfl⟩, deliverable, .refl _⟩
  | cons row rest ih =>
      rw [List.map_cons, List.nodup_cons] at distinct
      rw [List.foldlM_cons]
      apply Contract.Safe.bind (each processed row world List.mem_cons_self deliverable
        (waits row List.mem_cons_self))
      · rintro count after ⟨_, deliverable, delivers⟩
        have still : ∀ other ∈ rest, Waits after.db.ledger other := by
          intro other member
          refine delivers.waits (waits other (List.mem_cons_of_mem _ member)) ?_
          rw [Finset.mem_singleton]
          exact fun same => distinct.1 (List.mem_map.mpr ⟨other, member, same⟩)
        refine Contract.Safe.mono ?_ (ih (fun processed other world member =>
          each processed other world (List.mem_cons_of_mem _ member)) distinct.2 count
          deliverable still)
        rintro outcome last ⟨ended, deliverable, others⟩
        refine ⟨ended, deliverable, ?_⟩
        have whole := delivers.trans others
        rwa [← Finset.insert_eq, ← List.toFinset_cons] at whole
      · rintro failure after ⟨⟨_, impossible⟩, _⟩
        cases impossible

theorem nodup_dueRows (db : Database) (moment : Moment) (now : Time) (type : OutboxType) :
    ((dueRows db moment now type).map WalletOutbox.key).Nodup := by
  have sorted : (dueRows db moment now type).Perm
      (db.ledger.walletOutbox.rows.filter (isDue now type)) := List.perm_insertionSort _ _
  rw [(sorted.map _).nodup_iff]
  exact (List.Sublist.map _ List.filter_sublist).nodup db.ledger.walletOutbox.unique

/-- All pending rows of a kind are due. -/
theorem keys_dueRows (deliverable : Deliverable world) (moment : Moment)
    (now : moment.now = world.clock) (type : OutboxType) :
    ((dueRows world.db moment moment.now type).map WalletOutbox.key).toFinset =
      world.db.ledger.waiting fun other _ => other = type := by
  ext key
  rw [List.mem_toFinset, List.mem_map, mem_waiting]
  constructor
  · rintro ⟨row, listed, rfl⟩
    obtain ⟨stored, due⟩ := mem_dueRows.mp listed
    simp only [isDue, Bool.and_eq_true, decide_eq_true_eq] at due
    exact ⟨row, entry_row.mpr ⟨stored, rfl, rfl⟩, due.1.2, decide_eq_true due.1.1⟩
  · rintro ⟨row, stored, pending, own⟩
    obtain ⟨listed, bet, kind⟩ := entry_row.mp stored
    have due := deliverable.due _ _ row stored pending
    rw [← kind, of_decide_eq_true own] at due
    refine ⟨row, mem_dueRows.mpr ⟨listed, by rw [now]; exact due⟩, ?_⟩
    rw [WalletOutbox.key, bet, kind]

/-- Every due row that a poll has room for is delivered. -/
def Reduces (type : OutboxType) (limit : ℕ) (before after : Ledger) : Prop :=
  ∃ keys, before.Delivers after keys ∧ keys ⊆ (before.waiting fun other _ => other = type) ∧
    ((before.waiting fun other _ => other = type).card ≤ keys.card ∨ limit ≤ keys.card)

theorem reduces_of_taken {after : World} {moment : Moment} {later : World}
    (deliverable : Deliverable later) (same : later.db = db) (now : moment.now = later.clock)
    {type : OutboxType} {limit : ℕ} (delivers : db.ledger.Delivers after.db.ledger
      (((dueRows db moment moment.now type).take limit).map WalletOutbox.key).toFinset) :
    Reduces type limit db.ledger after.db.ledger := by
  have all := keys_dueRows deliverable moment now type
  rw [same] at all
  have distinct := nodup_dueRows db moment moment.now type
  refine ⟨_, delivers, ?_, ?_⟩
  · rw [← all]
    intro key member
    rw [List.mem_toFinset] at member ⊢
    exact (List.Sublist.map _ (List.take_sublist _ _)).subset member
  · have taken := (List.Sublist.map WalletOutbox.key (List.take_sublist limit _)).nodup distinct
    rw [← all, List.toFinset_card_of_nodup distinct, List.toFinset_card_of_nodup taken,
      List.length_map, List.length_map, List.length_take]
    omega

theorem reduces_processPendingDebits (deliverable : Deliverable world) (limit : ℕ) :
    obliging.Safe (fun outcome after => (∃ count, outcome = .ok count) ∧ Deliverable after ∧
      Reduces .walletReserve limit world.db.ledger after.db.ledger)
      (processPendingDebits limit) world := by
  have kept : Kept world.db world := ⟨rfl, deliverable⟩
  unfold processPendingDebits
  apply obliging_read kept
  intro moment later held now
  have listed : ∀ row ∈ (dueRows world.db moment moment.now .walletReserve).take limit,
      Waits world.db.ledger row ∧ row.type = .walletReserve :=
    fun row member => waits_of_due (List.mem_of_mem_take member)
  refine Contract.Safe.mono ?_ (delivered_foldlM ?_ ?_ 0 held.deliverable ?_)
  · rintro outcome after ⟨ended, deliverable, delivers⟩
    rw [held.db] at delivers
    exact ⟨ended, deliverable, reduces_of_taken held.deliverable held.db now delivers⟩
  · intro processed row state member deliverable waits
    obtain ⟨stored, there, pending, _⟩ := waits
    have type := (listed row member).2
    rw [type] at there
    have key : row.key = (row.betId, .walletReserve) := by rw [WalletOutbox.key, type]
    rw [key]
    apply Contract.Safe.handle (Delivered state.db {(row.betId, .walletReserve)})
    · apply Contract.Safe.bind (delivered_processSingleDebit deliverable there pending)
      · rintro bet after ⟨_, rest⟩
        exact ⟨⟨_, rfl⟩, rest⟩
      · rintro failure after ⟨⟨_, impossible⟩, _⟩
        cases impossible
    · exact fun _ _ delivered => delivered
    · rintro failure after ⟨⟨_, impossible⟩, _⟩
      cases impossible
  · exact (List.Sublist.map _ (List.take_sublist _ _)).nodup (nodup_dueRows _ _ _ _)
  · intro row member
    rw [held.db]
    exact (listed row member).1

end Rounds

section Credits

variable {db : Database} {world : World}

/-- A transaction that changes rows while the bets stay as they are. -/
theorem delivered_write {Reply : Type} {write : Write Reply} {id : String} {now : Time}
    {reply : Reply} {after : Database} {keys : Finset (String × OutboxType)}
    (kept : Kept db world) (ran : write.run id now db = .ok (reply, after))
    (rowsOnly : write.RowsOnly)
    (keeps : ∀ row, (write.onRow now row).terms = row.terms ∧
      (write.onRow now row).nextRetryAt = row.nextRetryAt)
    (status : ∀ row, (write.onRow now row).status = .pending ↔
      row.status = .pending ∧ row.key ∉ keys) :
    Deliverable { world with db := after } ∧ db.ledger.Delivers after.ledger keys := by
  obtain ⟨rfl, deliverable⟩ := kept
  have entries := Write.entry_of_rowsOnly ran rowsOnly
  have catalog : after.catalog = world.db.catalog := by
    obtain ⟨ledger, rfl⟩ := Write.run_beside ran
    rfl
  refine ⟨deliverable.map entries catalog (fun _ => ⟨rfl, rfl⟩) (fun row => (keeps row).1)
    (fun row => (keeps row).2) (fun row waits => ((status row).mp waits).1)
    (fun _ _ _ _ undecided => undecided), delivers_of_map entries ?_ status⟩
  intro row
  have same := (keeps row).1
  simp only [WalletOutbox.terms, Prod.mk.injEq] at same
  simp only [WalletOutbox.load, same.1, same.2.1, same.2.2.2, (keeps row).2]

theorem delivered_deliverStaffVoid {row : WalletOutbox} (deliverable : Deliverable world)
    (waits : Waits world.db.ledger row) (type : row.type = .walletStaffVoid) :
    obliging.Safe (Delivered world.db {row.key}) (deliverStaffVoid row) world := by
  obtain ⟨stored, there, pending, load⟩ := waits
  simp only [WalletOutbox.load, Prod.mk.injEq] at load
  have sound := deliverable.sound _ _ stored there
  unfold WalletOutbox.Sound at sound
  rw [(entry_row.mp there).2.2, type] at sound
  obtain ⟨_, request, payload, carries⟩ := sound
  have configured := deliverable.configured _ _ stored there pending
  rw [← carries.group] at configured
  rw [type] at there
  have credit := deliverable.refund _ stored there request payload
  have read : deserializeWalletTransaction row = .ok request := by
    rw [deserializeWalletTransaction, ← load.2.2.1, payload]
  have kept : Kept world.db world := ⟨rfl, deliverable⟩
  unfold deliverStaffVoid
  rw [read, Program.bind_ok]
  apply Contract.Safe.bind (obliging_postTransaction configured kept)
  · rintro reservation after ⟨held, _⟩
    apply obliging_last held
    intro id later held
    have key : (row.betId, OutboxType.walletStaffVoid) = row.key := by rw [WalletOutbox.key, type]
    have row? : found (world.db.ledger.walletOutbox.get? row.key) = .ok stored := by
      rw [found_ok, ← key]
      exact there
    have ran : (Write.completeRow row.key).run id later.clock world.db = .ok ((), { world.db with
        ledger := world.db.ledger.modifyOutbox (fun other => other.key = row.key) completed }) := by
      simp only [Write.run, completeRow, row?]
      rfl
    refine ⟨(), _, ran, ⟨(), rfl⟩, delivered_write held ran trivial ?_ ?_⟩
    · intro other
      simp only [Write.onRow]
      split <;> exact ⟨rfl, rfl⟩
    · intro other
      by_cases here : other.key = row.key
      · simp [Write.onRow, here, completed]
      · simp [Write.onRow, here]
  · rintro failure after ⟨_, ⟨_, impossible⟩ | ⟨_, debit⟩⟩
    · cases impossible
    · exact absurd debit (not_lt.mpr credit)

theorem reduces_processPendingStaffVoids (deliverable : Deliverable world) (limit : ℕ) :
    obliging.Safe (fun outcome after => (∃ count, outcome = .ok count) ∧ Deliverable after ∧
      Reduces .walletStaffVoid limit world.db.ledger after.db.ledger)
      (processPendingStaffVoids limit) world := by
  have kept : Kept world.db world := ⟨rfl, deliverable⟩
  unfold processPendingStaffVoids
  apply obliging_read kept
  intro moment later held now
  have listed : ∀ row ∈ (dueRows world.db moment moment.now .walletStaffVoid).take limit,
      Waits world.db.ledger row ∧ row.type = .walletStaffVoid :=
    fun row member => waits_of_due (List.mem_of_mem_take member)
  refine Contract.Safe.mono ?_ (delivered_foldlM ?_ ?_ 0 held.deliverable ?_)
  · rintro outcome after ⟨ended, deliverable, delivers⟩
    rw [held.db] at delivers
    exact ⟨ended, deliverable, reduces_of_taken held.deliverable held.db now delivers⟩
  · intro processed row state member deliverable waits
    apply Contract.Safe.handle (Delivered state.db {row.key})
    · apply Contract.Safe.bind
        (delivered_deliverStaffVoid deliverable waits (listed row member).2)
      · rintro _ after ⟨_, rest⟩
        exact ⟨⟨_, rfl⟩, rest⟩
      · rintro failure after ⟨⟨_, impossible⟩, _⟩
        cases impossible
    · exact fun _ _ delivered => delivered
    · rintro failure after ⟨⟨_, impossible⟩, _⟩
      cases impossible
  · exact (List.Sublist.map _ (List.take_sublist _ _)).nodup (nodup_dueRows _ _ _ _)
  · intro row member
    rw [held.db]
    exact (listed row member).1

end Credits

section Batches

variable {db : Database} {world : World} {casinoGroupId : String}

/-- The pending settlements of a tenant. -/
def settlementsOf (casinoGroupId : String) : OutboxType → String → Bool :=
  fun type group => type = .walletSettle && group = casinoGroupId

theorem delivered_deliverBatch {entries : List WalletOutbox} (kept : Kept db world)
    (configured : (getWalletConfig db casinoGroupId).isSome = true) (batchId : ℕ)
    (payloads : ∀ entry ∈ entries, entry.payload.isSome = true) :
    obliging.Safe (fun outcome after => outcome = .ok true ∧ Deliverable after ∧
      db.ledger.Delivers after.db.ledger (entries.map WalletOutbox.key).toFinset)
      (deliverBatch casinoGroupId batchId entries) world := by
  let goal (outcome : Except Failure Bool) (after : World) : Prop :=
    outcome = .ok true ∧ Deliverable after ∧
      db.ledger.Delivers after.db.ledger (entries.map WalletOutbox.key).toFinset
  have posted : obliging.Safe (fun outcome after => outcome = .ok () ∧ Kept db after)
      (postTransactionBatch casinoGroupId batchId entries) world := by
    apply Contract.Safe.bind (obliging_requireWalletConfig configured kept)
    · rintro currency after ⟨held, _⟩
      rcases mapM_deserialize entries with ⟨_, transactions, read, _⟩ | ⟨lacks, _⟩
      · rw [read, Program.bind_ok]
        intro later waited _
        refine ⟨trivial, fun choice admitted => ?_⟩
        have held := held.later waited
        exact ⟨admitted.2.batch later.wallet casinoGroupId batchId transactions,
          held.db, held.deliverable.later rfl le_rfl⟩
      · obtain ⟨_, member, missing⟩ := List.all_eq_false.mp lacks
        obtain ⟨entry, listed, rfl⟩ := List.mem_map.mp member
        exact absurd (payloads entry listed) missing
    · rintro failure after ⟨_, _, impossible⟩
      cases impossible
  unfold deliverBatch
  apply Contract.Safe.handle goal
  · apply Contract.Safe.bind posted
    · rintro _ after ⟨_, held⟩
      apply obliging_transact held
      intro id later held
      have ran : (Write.completeBatch (entries.map WalletOutbox.key) batchId).run id later.clock db =
          .ok ((), completeBatch (entries.map WalletOutbox.key) batchId db) := rfl
      refine ⟨(), _, ran, rfl, delivered_write held ran trivial ?_ ?_⟩
      · intro row
        simp only [Write.onRow]
        split <;> exact ⟨rfl, rfl⟩
      · intro row
        by_cases here : row.key ∈ entries.map WalletOutbox.key
        · simp only [Write.onRow, if_pos here, completed, List.mem_toFinset]
          simp [here]
        · simp only [Write.onRow, if_neg here, List.mem_toFinset]
          simp [here]
    · rintro failure after ⟨impossible, _⟩
      cases impossible
  · exact fun _ _ delivered => delivered
  · rintro failure after ⟨impossible, _⟩
    cases impossible

theorem kept_batchIdOf {anchor : WalletOutbox} (kept : Kept db world) :
    obliging.Safe (fun outcome after => (∃ batchId, outcome = .ok batchId) ∧ Kept db after)
      (batchIdOf anchor) world := by
  unfold batchIdOf
  cases anchor.batchId with
  | some batchId => exact ⟨⟨batchId, rfl⟩, kept⟩
  | none =>
      intro later waited _
      have held := kept.later waited
      exact ⟨trivial, fun _ _ => ⟨⟨_, rfl⟩, held.db, held.deliverable.later rfl le_rfl⟩⟩

/-- Giving a batch its id delivers nothing yet. -/
theorem delivered_assignBatchId {anchor : WalletOutbox} {batchId : ℕ}
    {entries : List WalletOutbox} (kept : Kept db world) :
    obliging.Safe (fun outcome after => outcome = .ok () ∧ Deliverable after ∧
      after.db.catalog = db.catalog ∧ db.ledger.Delivers after.db.ledger ∅)
      (assignBatchId anchor batchId entries) world := by
  unfold assignBatchId
  split
  · apply obliging_last kept
    intro id later held
    have ran : (Write.assignBatch (entries.map WalletOutbox.key) batchId).run id later.clock db =
        .ok ((), assignBatch (entries.map WalletOutbox.key) batchId db) := rfl
    have unmoved : Deliverable { later with
          db := assignBatch (entries.map WalletOutbox.key) batchId db } ∧
        db.ledger.Delivers (assignBatch (entries.map WalletOutbox.key) batchId db).ledger ∅ := by
      apply delivered_write held ran trivial
      · intro row
        simp only [Write.onRow]
        split <;> exact ⟨rfl, rfl⟩
      · intro row
        simp only [Write.onRow]
        split <;> simp
    exact ⟨(), _, ran, rfl, unmoved.1, rfl, unmoved.2⟩
  · obtain ⟨rfl, deliverable⟩ := kept
    exact ⟨rfl, deliverable, rfl, .refl _⟩

/-- The rows that are found for a batch wait, and belong to the tenant. -/
theorem waits_of_entriesOf {batchId : Option ℕ} {now : Time} {moment : Moment}
    {entry : WalletOutbox} (chosen : entry ∈ entriesOf casinoGroupId batchId now db moment) :
    entry.type = .walletSettle ∧ ∃ stored,
      (db.ledger.entry entry.betId).row .walletSettle = some stored ∧ stored.status = .pending ∧
        stored.load = entry.load ∧ stored.casinoGroupId = casinoGroupId := by
  obtain ⟨due, same⟩ := List.mem_filter.mp chosen
  obtain ⟨⟨stored, there, pending, load⟩, type⟩ := waits_of_due due
  simp only [Bool.and_eq_true, decide_eq_true_eq] at same
  rw [type] at there
  refine ⟨type, stored, there, pending, load, ?_⟩
  simp only [WalletOutbox.load, Prod.mk.injEq] at load
  rw [load.2.1, same.1]

theorem delivered_flushBatch {anchor : WalletOutbox} {moment : Moment} (kept : Kept db world)
    (listed : anchor ∈ dueRows db moment moment.now .walletSettle)
    (group : anchor.casinoGroupId = casinoGroupId) :
    obliging.Safe (fun outcome after => outcome = .ok true ∧ Deliverable after ∧
      ∃ keys, db.ledger.Delivers after.db.ledger keys ∧ keys.Nonempty ∧
        keys ⊆ db.ledger.waiting (settlementsOf casinoGroupId))
      (flushBatch casinoGroupId moment.now anchor) world := by
  apply Contract.Safe.bind (kept_batchIdOf kept)
  · rintro batchId drawn ⟨_, held⟩
    apply obliging_read held
    intro later looked held _
    have picked : anchor ∈ entriesOf casinoGroupId anchor.batchId moment.now db later :=
      List.mem_filter.mpr ⟨mem_dueRows.mpr (mem_dueRows.mp listed), by simp [group]⟩
    have each := fun entry =>
      @waits_of_entriesOf db casinoGroupId anchor.batchId moment.now later entry
    rw [if_neg (List.ne_nil_of_mem picked)]
    generalize entriesOf casinoGroupId anchor.batchId moment.now db later = entries at picked each
    apply Contract.Safe.bind (delivered_assignBatchId held)
    · rintro _ marked ⟨_, ready, catalog, same⟩
      obtain ⟨rfl, deliverable⟩ := held
      have configured : (getWalletConfig marked.db casinoGroupId).isSome = true := by
        obtain ⟨_, found, there, waiting, _, own⟩ := each anchor picked
        have config := deliverable.configured _ _ found there waiting
        rw [own] at config
        unfold getWalletConfig at config ⊢
        rwa [catalog]
      refine Contract.Safe.mono ?_ (delivered_deliverBatch ⟨rfl, ready⟩ configured batchId ?_)
      · rintro outcome after ⟨sent, deliverable, delivers⟩
        have whole := same.trans delivers
        rw [Finset.empty_union] at whole
        refine ⟨sent, deliverable, _, whole, ⟨anchor.key, ?_⟩, ?_⟩
        · exact List.mem_toFinset.mpr (List.mem_map.mpr ⟨anchor, picked, rfl⟩)
        · intro key chosen
          obtain ⟨entry, listed, rfl⟩ := List.mem_map.mp (List.mem_toFinset.mp chosen)
          obtain ⟨type, found, there, waiting, _, own⟩ := each entry listed
          rw [WalletOutbox.key, type]
          refine mem_waiting.mpr ⟨found, there, waiting, ?_⟩
          simp [settlementsOf, (entry_row.mp there).2.2, own]
      · intro entry listed
        obtain ⟨_, found, there, _, load, _⟩ := each entry listed
        have sound := deliverable.sound _ _ found there
        unfold WalletOutbox.Sound at sound
        rw [(entry_row.mp there).2.2] at sound
        obtain ⟨_, request, payload, _⟩ := sound
        simp only [WalletOutbox.load, Prod.mk.injEq] at load
        rw [← load.2.2.1, payload]
        rfl
    · rintro failure after ⟨impossible, _⟩
      cases impossible
  · rintro failure after ⟨⟨_, impossible⟩, _⟩
    cases impossible

/-- A flush delivers a batch of the tenant, if anything of it waits. -/
theorem delivered_flush (deliverable : Deliverable world)
    (waits : (world.db.ledger.waiting (settlementsOf casinoGroupId)).Nonempty) :
    obliging.Safe (fun outcome after => outcome = .ok true ∧ Deliverable after ∧
      ∃ keys, world.db.ledger.Delivers after.db.ledger keys ∧ keys.Nonempty ∧
        keys ⊆ world.db.ledger.waiting (settlementsOf casinoGroupId))
      (flushSettlementBatchForGroup casinoGroupId) world := by
  have kept : Kept world.db world := ⟨rfl, deliverable⟩
  rw [flushSettlementBatchForGroup_eq]
  apply obliging_read kept
  intro moment looked held now
  dsimp only
  cases anchored : anchorOf casinoGroupId world.db moment with
  | none =>
      -- A waiting row is due, so it would have been found.
      obtain ⟨first, member⟩ := waits
      obtain ⟨row, stored, pending, own⟩ := mem_waiting.mp member
      obtain ⟨listed, _, type⟩ := entry_row.mp stored
      simp only [settlementsOf, Bool.and_eq_true, decide_eq_true_eq] at own
      have here : (looked.db.ledger.entry first.1).row first.2 = some row := by
        rw [held.db]
        exact stored
      have due := held.deliverable.due _ _ row here pending
      rw [← now, ← type, own.1] at due
      have absent := List.find?_eq_none.mp anchored row (mem_dueRows.mpr ⟨listed, due⟩)
      simp [own.2] at absent
  | some anchor =>
      exact delivered_flushBatch held (List.mem_of_find?_eq_some anchored)
        (by simpa using List.find?_some anchored)

end Batches

section Polls

variable {world : World}

/-- One batch of each of these tenants. -/
theorem delivered_flushes {groups : List String} (distinct : groups.Nodup)
    (deliverable : Deliverable world)
    (waits : ∀ group ∈ groups, (world.db.ledger.waiting (settlementsOf group)).Nonempty)
    (batches : ℕ) :
    obliging.Safe (fun outcome after => (∃ count, outcome = .ok count) ∧ Deliverable after ∧
      ∃ keys, world.db.ledger.Delivers after.db.ledger keys ∧
        ∀ group ∈ groups, (keys ∩ world.db.ledger.waiting (settlementsOf group)).Nonempty)
      (groups.foldlM (fun batches casinoGroupId => do
        let sent ← flushSettlementBatchForGroup casinoGroupId
        return if sent then batches + 1 else batches) batches) world := by
  induction groups generalizing world batches with
  | nil => exact ⟨⟨batches, rfl⟩, deliverable, ∅, .refl _, by simp⟩
  | cons group rest ih =>
      rw [List.nodup_cons] at distinct
      have here := waits group List.mem_cons_self
      rw [List.foldlM_cons]
      let middle (outcome : Except Failure ℕ) (after : World) : Prop :=
        (∃ count, outcome = .ok count) ∧ Deliverable after ∧
          ∃ keys, world.db.ledger.Delivers after.db.ledger keys ∧ keys.Nonempty ∧
            keys ⊆ world.db.ledger.waiting (settlementsOf group)
      have first : obliging.Safe middle (do
          let sent ← flushSettlementBatchForGroup group
          return if sent then batches + 1 else batches) world := by
        apply Contract.Safe.bind (delivered_flush deliverable here)
        · rintro sent after ⟨_, rest⟩
          exact ⟨⟨_, rfl⟩, rest⟩
        · rintro failure after ⟨impossible, _⟩
          cases impossible
      apply Contract.Safe.bind first
      · rintro count after ⟨_, deliverable, keys, delivers, ⟨key, own⟩, sub⟩
        -- The batch of one tenant leaves the rows of the others.
        have same : ∀ other ∈ rest, after.db.ledger.waiting (settlementsOf other) =
            world.db.ledger.waiting (settlementsOf other) := by
          intro other member
          rw [delivers.waiting, Finset.sdiff_eq_self_iff_disjoint, Finset.disjoint_left]
          intro shared waiting chosen
          obtain ⟨row, stored, _, settles⟩ := mem_waiting.mp waiting
          obtain ⟨row', stored', _, settles'⟩ := mem_waiting.mp (sub chosen)
          obtain rfl := Option.some.inj (stored.symm.trans stored')
          simp only [settlementsOf, Bool.and_eq_true, decide_eq_true_eq] at settles settles'
          exact distinct.1 ((settles.2.symm.trans settles'.2) ▸ member)
        refine Contract.Safe.mono ?_ (ih distinct.2 deliverable ?_ count)
        · rintro outcome last ⟨ended, deliverable, others, delivers', each⟩
          refine ⟨ended, deliverable, _, delivers.trans delivers', ?_⟩
          intro other member
          rcases List.mem_cons.mp member with rfl | member
          · exact ⟨key, Finset.mem_inter.mpr ⟨Finset.mem_union_left _ own, sub own⟩⟩
          · have there := each other member
            rw [same other member] at there
            exact there.mono (Finset.inter_subset_inter_right Finset.subset_union_right)
        · intro other member
          rw [same other member]
          exact waits other (List.mem_cons_of_mem _ member)
      · rintro failure after ⟨⟨_, impossible⟩, _⟩
        cases impossible

theorem delivered_flushSettlementBatches (deliverable : Deliverable world) :
    obliging.Safe (fun outcome after => (∃ count, outcome = .ok count) ∧ Deliverable after ∧
      ∃ keys, world.db.ledger.Delivers after.db.ledger keys ∧
        ∀ group, (world.db.ledger.waiting (settlementsOf group)).Nonempty →
          (keys ∩ world.db.ledger.waiting (settlementsOf group)).Nonempty)
      flushSettlementBatches world := by
  have kept : Kept world.db world := ⟨rfl, deliverable⟩
  unfold flushSettlementBatches
  apply obliging_read kept
  intro moment later held now
  have all := keys_dueRows held.deliverable moment now .walletSettle
  have due := fun entry => @mem_dueRows world.db moment moment.now .walletSettle entry
  rw [held.db] at all
  generalize dueRows world.db moment moment.now .walletSettle = rows at all due
  have sorted : ((rows.map WalletOutbox.casinoGroupId).dedup.insertionSort fun first second =>
      moment.rank first ≤ moment.rank second).Perm (rows.map WalletOutbox.casinoGroupId).dedup :=
    List.perm_insertionSort _ _
  have listed : ∀ group, group ∈ (rows.map WalletOutbox.casinoGroupId).dedup.insertionSort
      (fun first second => moment.rank first ≤ moment.rank second) ↔
        (world.db.ledger.waiting (settlementsOf group)).Nonempty := by
    intro group
    rw [sorted.mem_iff, List.mem_dedup, List.mem_map]
    constructor
    · rintro ⟨row, member, rfl⟩
      obtain ⟨stored, waits⟩ := (due row).mp member
      simp only [isDue, Bool.and_eq_true, decide_eq_true_eq] at waits
      refine ⟨row.key, mem_waiting.mpr ⟨row, entry_row.mpr ⟨stored, rfl, rfl⟩, waits.1.2, ?_⟩⟩
      simp [settlementsOf, waits.1.1]
    · rintro ⟨key, member⟩
      obtain ⟨row, stored, pending, own⟩ := mem_waiting.mp member
      simp only [settlementsOf, Bool.and_eq_true, decide_eq_true_eq] at own
      have settles : key ∈ world.db.ledger.waiting fun other _ => other = .walletSettle :=
        mem_waiting.mpr ⟨row, stored, pending, decide_eq_true own.1⟩
      rw [← all, List.mem_toFinset, List.mem_map] at settles
      obtain ⟨found, chosen, rfl⟩ := settles
      obtain ⟨there, _⟩ := (due found).mp chosen
      obtain rfl : found = row := Option.some.inj ((entry_row.mpr ⟨there, rfl, rfl⟩).symm.trans stored)
      exact ⟨found, chosen, own.2⟩
  refine Contract.Safe.mono ?_ (delivered_flushes ?_ held.deliverable ?_ 0)
  · rintro outcome after ⟨ended, deliverable, keys, delivers, each⟩
    rw [held.db] at delivers each
    exact ⟨ended, deliverable, keys, delivers, fun group waits =>
      each group ((listed group).mpr waits)⟩
  · exact sorted.nodup_iff.mpr (List.nodup_dedup _)
  · intro group member
    rw [held.db]
    exact (listed group).mp member

/-- What one poll does to the backlog. -/
structure Ledger.Wanes (before after : Ledger) : Prop where
  debits : (after.waiting fun type _ => type = .walletReserve).card ≤
    (before.waiting fun type _ => type = .walletReserve).card - DEBIT_BATCH_LIMIT
  staffVoids : (after.waiting fun type _ => type = .walletStaffVoid).card ≤
    (before.waiting fun type _ => type = .walletStaffVoid).card - DEBIT_BATCH_LIMIT
  settlements : ∀ group, (after.waiting (settlementsOf group)).card ≤
    (before.waiting (settlementsOf group)).card - 1

theorem Reduces.card {type : OutboxType} {limit : ℕ} {before after : Ledger}
    (reduces : Reduces type limit before after) :
    (after.waiting fun other _ => other = type).card ≤
      (before.waiting fun other _ => other = type).card - limit := by
  obtain ⟨keys, delivers, sub, enough⟩ := reduces
  rw [delivers.waiting, Finset.card_sdiff_of_subset sub]
  omega

theorem Ledger.Delivers.card {before after : Ledger} {keys : Finset (String × OutboxType)}
    (delivers : before.Delivers after keys) (chosen : OutboxType → String → Bool) :
    (after.waiting chosen).card ≤ (before.waiting chosen).card := by
  rw [delivers.waiting]
  exact Finset.card_le_card Finset.sdiff_subset

theorem wanes_processPending (deliverable : Deliverable world) :
    obliging.Safe (fun outcome after => (∃ count, outcome = .ok count) ∧ Deliverable after ∧
      world.db.ledger.Wanes after.db.ledger) processPending world := by
  unfold processPending
  apply Contract.Safe.bind (reduces_processPendingDebits deliverable _)
  · rintro debits first ⟨_, deliverable, debited⟩
    apply Contract.Safe.bind (reduces_processPendingStaffVoids deliverable _)
    · rintro staffVoids second ⟨_, deliverable, voided⟩
      apply Contract.Safe.bind (delivered_flushSettlementBatches deliverable)
      · rintro batches third ⟨_, deliverable, keys, flushed, each⟩
        have fewer := debited.card
        have fewer' := voided.card
        obtain ⟨_, one, _⟩ := debited
        obtain ⟨_, two, _⟩ := voided
        refine ⟨⟨_, rfl⟩, deliverable, ?_, ?_, fun group => ?_⟩
        · have others := two.card fun type _ => type = .walletReserve
          exact ((flushed.card _).trans others).trans fewer
        · have others := one.card fun type _ => type = .walletStaffVoid
          exact ((flushed.card _).trans fewer').trans (Nat.sub_le_sub_right others _)
        · have earlier : (second.db.ledger.waiting (settlementsOf group)).card ≤
              (world.db.ledger.waiting (settlementsOf group)).card :=
            (two.card _).trans (one.card _)
          rcases Finset.eq_empty_or_nonempty (second.db.ledger.waiting (settlementsOf group)) with
            empty | waits
          · have none_ := flushed.card (settlementsOf group)
            rw [empty, Finset.card_empty] at none_
            omega
          · have some_ := Finset.card_pos.mpr (each group waits)
            rw [flushed.waiting, Finset.card_sdiff]
            omega
      · rintro failure after ⟨⟨_, impossible⟩, _⟩
        cases impossible
    · rintro failure after ⟨⟨_, impossible⟩, _⟩
      cases impossible
  · rintro failure after ⟨⟨_, impossible⟩, _⟩
    cases impossible

end Polls

section Recovery

variable {config : BetValidation.EnvConfig} (runtime : Text.Runtime) {world : World}

/-- In such a move nothing fails, wallets answer, and no tenant changes. -/
def Quiet : Move bettingMachine → Prop
  | .run _ choice => choice.fault = .none ∧ choice.exchange.Obliging
  | .occur (.catalog _) => False
  | .occur _ => True

instance (move : Move bettingMachine) : Decidable (Quiet move) := by
  cases move with
  | run _ choice => exact inferInstanceAs (Decidable (_ ∧ _))
  | occur happening =>
      cases happening with
      | catalog => exact .isFalse fun quiet => quiet
      | clock | balance => exact .isTrue trivial

theorem Quiet.own {move : Move bettingMachine} (quiet : Quiet move) : OwnReply move := by
  cases move with
  | run _ choice => exact quiet.2.own
  | occur _ => trivial

theorem obliging_bears : obliging.Bears fun happening => Quiet (.occur happening) where
  sound _ := trivial
  refl _ _ := ⟨rfl, le_rfl⟩
  trans _ _ _ _ earlier later := ⟨later.1.trans earlier.1, earlier.2.trans later.2⟩
  event _ happening world quiet := by
    cases happening with
    | clock elapsed => exact ⟨rfl, by simp [World.happen]⟩
    | balance => exact ⟨rfl, le_rfl⟩
    | catalog => exact quiet.elim

/-- A poll of the outbox that runs to its end. -/
theorem wanes_session {moves : List (Move bettingMachine)} (quiet : ∀ move ∈ moves, Quiet move)
    (deliverable : Deliverable world)
    (returned : (Actor.session config runtime (.pollOutbox, moves)).Returned world) :
    Deliverable ((Actor.session config runtime (.pollOutbox, moves)).result world) ∧
      world.db.ledger.Wanes
        ((Actor.session config runtime (.pollOutbox, moves)).result world).db.ledger := by
  let post (_ : Except Failure Unit) (after : World) : Prop :=
    Deliverable after ∧ world.db.ledger.Wanes after.db.ledger
  have safe : obliging.Safe post (Actor.poll processPending) world := by
    apply Contract.Safe.handle post
    · apply Contract.Safe.bind (wanes_processPending deliverable)
      · exact fun _ _ ended => ended.2
      · exact fun _ _ ended => ended.2
    · exact fun _ _ ended => ended
    · exact fun _ _ ended => ended
  have followed : Config.Follows obliging.guard ⟨world, [Actor.poll processPending]⟩ moves := by
    apply Config.follows_of_prefixes
    rintro earlier move later same
    cases move with
    | occur happening => trivial
    | run index choice =>
        have here : Quiet (.run index choice) := quiet _ (by rw [same]; simp)
        simp only [Config.Permits]
        split
        · exact here
        · trivial
  obtain ⟨rest, pool, ended⟩ := Contract.Safe.among obliging_bears
    (fun _ state happening quiet held => by
      obtain ⟨same, passed⟩ := obliging_bears.event BettingCall.randomUUID happening state quiet
      refine ⟨held.1.later same passed, ?_⟩
      rw [same]
      exact held.2)
    (fun happening member => quiet _ member) safe followed
  have outcome : rest.outcome = some (.ok ()) := by
    have all : (Config.run ⟨world, [Actor.poll processPending]⟩ moves).pool.map Program.outcome =
      [some (.ok ())] := returned
    rw [pool] at all
    exact List.singleton_inj.mp all
  rw [Program.eq_done_of_outcome outcome] at ended
  exact ended

/-- Polls that run one after the other. -/
theorem wanes_polls (polls : List (List (Move bettingMachine)))
    (quiet : ∀ moves ∈ polls, ∀ move ∈ moves, Quiet move) (deliverable : Deliverable world)
    (returned : Session.Each (fun world session => session.Returned world)
      (polls.map fun moves => Actor.session config runtime (.pollOutbox, moves)) world) :
    let after := Session.runAll
      (polls.map fun moves => Actor.session config runtime (.pollOutbox, moves)) world
    (after.db.ledger.waiting fun type _ => type = .walletReserve).card ≤
        (world.db.ledger.waiting fun type _ => type = .walletReserve).card -
          DEBIT_BATCH_LIMIT * polls.length ∧
      (after.db.ledger.waiting fun type _ => type = .walletStaffVoid).card ≤
        (world.db.ledger.waiting fun type _ => type = .walletStaffVoid).card -
          DEBIT_BATCH_LIMIT * polls.length ∧
      ∀ group, (after.db.ledger.waiting (settlementsOf group)).card ≤
        (world.db.ledger.waiting (settlementsOf group)).card - polls.length := by
  induction polls generalizing world with
  | nil => simp [Session.runAll]
  | cons moves rest ih =>
      obtain ⟨deliverable, wanes⟩ :=
        wanes_session runtime (quiet moves List.mem_cons_self) deliverable returned.1
      obtain ⟨debits, staffVoids, settlements⟩ := ih
        (fun other member => quiet other (List.mem_cons_of_mem _ member)) deliverable returned.2
      have size : DEBIT_BATCH_LIMIT * (rest.length + 1) =
          DEBIT_BATCH_LIMIT + DEBIT_BATCH_LIMIT * rest.length := by ring
      rw [List.length_cons, size]
      refine ⟨debits.trans ?_, staffVoids.trans ?_, fun group => (settlements group).trans ?_⟩
      · have fewer := wanes.debits
        omega
      · have fewer := wanes.staffVoids
        omega
      · have fewer := wanes.settlements group
        omega

/-- Fifteen minutes later all that was left behind can be delivered. -/
theorem deliverable_of_balanced (balanced : Balanced world) (stocked : Stocked world) {elapsed : ℕ}
    (long : longestDelay ≤ elapsed)
    (configured : ∀ row ∈ world.db.ledger.walletOutbox.rows, row.status = .pending →
      (getWalletConfig world.db row.casinoGroupId).isSome = true) :
    Deliverable (world.happen (.clock elapsed)) where
  sound := balanced.orderly.sound
  bet betId type row stored := by
    obtain ⟨bet, placed, group⟩ := (balanced.booked.tidy betId).rows type row stored
    exact ⟨bet, placed, group.symm, (stocked betId).legs bet placed⟩
  undecided betId row stored pending bet placed := by
    have agrees := (balanced.consistent betId).agrees placed
    have apart : ∀ status, status ≠ .pending → ¬ (world.db.ledger.entry betId).Reserved status := by
      rintro status other ⟨found, there, rfl⟩
      obtain rfl := Option.some.inj (stored.symm.trans there)
      exact other pending
    unfold Entry.Agrees at agrees
    unfold isDecided
    cases status : bet.status with
    | pending | won | lost | void => rfl
    | rejected | accepted =>
        rw [status] at agrees
        exact absurd agrees.1 (apart _ (by simp))
  refund betId row stored request payload := (stocked betId).refund row stored request payload
  due betId type row stored pending := by
    have own : row.type = type := (entry_row.mp stored).2.2
    simp only [isDue, Bool.and_eq_true, decide_eq_true_eq]
    refine ⟨⟨own, pending⟩, ?_⟩
    cases scheduled : row.nextRetryAt with
    | none => rfl
    | some time =>
        have early := (stocked betId).delay type row stored time scheduled
        exact decide_eq_true (early.trans (by simpa [World.happen] using long))
  configured betId type row stored pending :=
    configured row (Table.mem_rows.mpr (entry_row.mp stored).1) pending

variable (catalog : Catalog) (clock : Time) (balances : String → String → ℚ)

/-- Wherever services have stopped, once fifteen minutes have passed and wallets answer, the
outbox is drained by as many polls as the rows that wait need: twenty debits, twenty refunds
and a batch of every tenant at a time. Then no bet is pending, and the account of every bet
is what its status says. -/
theorem outbox_drained (nonneg : Premises.StakesNonneg config)
    (sessions : List (Actor × List (Move bettingMachine)))
    (named : ∀ work ∈ sessions, work.1.Named)
    (own : ∀ work ∈ sessions, ∀ move ∈ work.2, OwnReply move) {stopped : World}
    (left : Session.runAll (sessions.map (Actor.session config runtime))
      (World.deployed catalog clock balances) = stopped)
    (configured : ∀ row ∈ stopped.db.ledger.walletOutbox.rows, row.status = .pending →
      (getWalletConfig stopped.db row.casinoGroupId).isSome = true)
    {elapsed : ℕ} (long : longestDelay ≤ elapsed) (polls : List (List (Move bettingMachine)))
    (quiet : ∀ moves ∈ polls, ∀ move ∈ moves, Quiet move)
    (returned : Session.Each (fun world session => session.Returned world)
      (polls.map fun moves => Actor.session config runtime (.pollOutbox, moves))
      (stopped.happen (.clock elapsed)))
    (debits : (stopped.db.ledger.waiting fun type _ => type = .walletReserve).card ≤
      DEBIT_BATCH_LIMIT * polls.length)
    (staffVoids : (stopped.db.ledger.waiting fun type _ => type = .walletStaffVoid).card ≤
      DEBIT_BATCH_LIMIT * polls.length)
    (settlements : ∀ row ∈ stopped.db.ledger.walletOutbox.rows,
      (stopped.db.ledger.waiting (settlementsOf row.casinoGroupId)).card ≤ polls.length) :
    let world := Session.runAll
      (polls.map fun moves => Actor.session config runtime (.pollOutbox, moves))
      (stopped.happen (.clock elapsed))
    (∀ row ∈ world.db.ledger.walletOutbox.rows, row.status ≠ .pending) ∧
      ∀ bet ∈ world.db.ledger.bets.rows, bet.status ≠ .pending ∧
        bet.Accounts (world.wallet.net bet.id) := by
  intro world
  obtain ⟨balanced, stocked⟩ := stocked_sessions runtime nonneg sessions named own
    (balanced_deployed catalog clock balances) (stocked_deployed catalog clock balances)
  rw [left] at balanced stocked
  have deliverable := deliverable_of_balanced balanced stocked long configured
  obtain ⟨fewerDebits, fewerVoids, fewerSettlements⟩ :=
    wanes_polls runtime polls quiet deliverable returned
  have later : Balanced (stopped.happen (.clock elapsed)) :=
    ⟨Premises.orderly_happen _ balanced.orderly, balanced.taken,
      ⟨balanced.booked.tidy, balanced.booked.codes, balanced.booked.voids⟩,
      balanced.consistent, balanced.rejected⟩
  have account : Balanced world := by
    have kept := balanced_sessions runtime nonneg
      (polls.map fun moves => (Actor.pollOutbox, moves)) ?_ later
    · rwa [List.map_map] at kept
    · intro work member move moved
      obtain ⟨moves, listed, rfl⟩ := List.mem_map.mp member
      exact (quiet moves listed move moved).own
  have none_ : ∀ betId type row, (world.db.ledger.entry betId).row type = some row →
      row.status ≠ .pending := by
    intro betId type row stored pending
    have waits : ∀ chosen : OutboxType → String → Bool, chosen type row.casinoGroupId = true →
        0 < (world.db.ledger.waiting chosen).card := by
      intro chosen own
      refine Finset.card_pos.mpr ⟨(betId, type), mem_waiting.mpr ⟨row, stored, pending, ?_⟩⟩
      rwa [(entry_row.mp stored).2.2]
    cases type with
    | walletReserve =>
        have some_ := waits (fun type _ => type = .walletReserve) (by rfl)
        have fewer := some_.trans_le (fewerDebits.trans (Nat.sub_le_of_le_add
          (debits.trans (Nat.le_add_left _ 0))))
        exact absurd fewer (lt_irrefl 0)
    | walletStaffVoid =>
        have some_ := waits (fun type _ => type = .walletStaffVoid) (by rfl)
        have fewer := some_.trans_le (fewerVoids.trans (Nat.sub_le_of_le_add
          (staffVoids.trans (Nat.le_add_left _ 0))))
        exact absurd fewer (lt_irrefl 0)
    | walletSettle =>
        have some_ := waits (settlementsOf row.casinoGroupId) (by simp [settlementsOf])
        have fewer := some_.trans_le (fewerSettlements row.casinoGroupId)
        -- The tenant had a settlement row before the polls, so there are enough of them.
        obtain ⟨key, member⟩ := Finset.card_pos.mp (fewer.trans_le (Nat.sub_le _ _))
        obtain ⟨old, there, _, own⟩ := mem_waiting.mp member
        simp only [settlementsOf, Bool.and_eq_true, decide_eq_true_eq] at own
        have few := settlements old (Table.mem_rows.mpr (entry_row.mp there).1)
        rw [own.2] at few
        exact absurd fewer (not_lt.mpr (Nat.sub_eq_zero_of_le few).le)
  refine ⟨fun row member => ?_, fun bet member => ?_⟩
  · exact none_ row.betId row.type row (entry_row.mpr ⟨Table.mem_rows.mp member, rfl, rfl⟩)
  · have stored := entry_of_bet (Table.mem_rows.mp member)
    refine ⟨fun pending => ?_, account.accounts stored⟩
    have agrees := (account.consistent bet.id).agrees stored
    unfold Entry.Agrees at agrees
    rw [pending] at agrees
    obtain ⟨⟨row, reserved, waiting⟩, _⟩ := agrees
    exact none_ bet.id .walletReserve row reserved waiting

end Recovery

section Sample

open Sample

/-- A placement stops once the bet is stored. -/
def leftBehind : List (Actor × List (Move bettingMachine)) :=
  [(placeBet "key", calls 0 6 "bet")]

theorem drained_bet :
    let stopped := Session.runAll (leftBehind.map (Actor.session ⟨"1", "100", "1000"⟩
      Text.asciiRuntime)) (World.deployed (catalog .live .open) 0 fun _ _ => 100)
    let world := Session.runAll ([calls 0 20 ""].map fun moves =>
      Actor.session ⟨"1", "100", "1000"⟩ Text.asciiRuntime (.pollOutbox, moves))
      (stopped.happen (.clock 900000))
    stopped.db.ledger.bets.rows.map Bet.status = [.pending] ∧
      ∀ row ∈ world.db.ledger.walletOutbox.rows, row.status ≠ .pending :=
  ⟨by decide +kernel, (outbox_drained Text.asciiRuntime (catalog .live .open) 0 (fun _ _ => 100)
    least_stake_nonneg leftBehind (by decide +kernel) (by decide +kernel) rfl (by decide +kernel)
    (by decide) [calls 0 20 ""] (by decide +kernel) ⟨by decide +kernel, trivial⟩
    (by decide +kernel) (by decide +kernel) (by decide +kernel)).1⟩

end Sample

end SportsBetting
