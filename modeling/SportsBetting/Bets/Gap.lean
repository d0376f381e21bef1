import SportsBetting.Async.Parts
import SportsBetting.Backoffice.Trading
import SportsBetting.Bets.Lifecycle
import SportsBetting.Bets.Numbering
import SportsBetting.Bets.Origin

/-!
# Between the validation and the insert

A placement reads whether its selections take bets, then asks the wallet for the
balance, and inserts the bet without looking again. What is closed in between is
still bet on.
-/

namespace SportsBetting

open Async Ledger BetValidation BetsService Text

section Catalog

variable {id : String} {now : Time} {db after : Database} {Reply : Type}

/-- No transaction on bets touches the catalog. -/
theorem Write.catalog {write : Write Reply} {reply : Reply}
    (ran : write.run id now db = .ok (reply, after)) : after.catalog = db.catalog := by
  obtain ⟨ledger, rfl⟩ := Write.run_beside ran
  rfl

theorem World.answer_catalog (world : World) (choice : Choice) (request : BettingCall Reply) :
    (world.answer choice request).2.db.catalog = world.db.catalog := by
  cases request with
  | read look =>
      unfold World.answer
      split <;> rfl
  | randomUUID | getBalance | postTransaction | postBatch => rfl
  | write write =>
      rcases world.commit_cases choice.fault
        (fun db => write.run choice.freshId world.clock db) with
        ⟨_, unchanged, _⟩ | ⟨reply, db, ran, done | done⟩
      · simp only [World.answer, unchanged]
      · simp only [World.answer, done]
        exact Write.catalog ran
      · simp only [World.answer, done]
        exact Write.catalog ran

end Catalog

section Offer

/-- The selection, its market and its event admit bets now. -/
def TakesBets (catalog : Catalog) (selectionId : String) : Prop :=
  ∃ selection ∈ catalog.selections, selection.providerRef = selectionId ∧ selection.status = .open ∧
    ∃ market ∈ catalog.markets, market.providerRef = selection.market ∧ market.status = .open ∧
      ∃ event ∈ catalog.events, event.providerRef = market.event ∧ admitsBets event.status

instance (catalog : Catalog) (selectionId : String) : Decidable (TakesBets catalog selectionId) :=
  inferInstanceAs (Decidable (∃ selection ∈ catalog.selections.rows, _ ∧ _ ∧
    ∃ market ∈ catalog.markets.rows, _ ∧ _ ∧ ∃ event ∈ catalog.events.rows, _ ∧ _))

/-- Every leg of a quote was requested, and took bets when its row was read. -/
theorem takesBets_of_quote {config : EnvConfig} {db : Database} {user : UserContext}
    {idempotencyKey : String} {selectionIds : List String} {stake : ℚ} {rows : List SelectionRow}
    {quote : ValidatedBetQuote} {data : BetData}
    (found : rows.Perm (findSelections db user.casinoGroupId selectionIds))
    (accepted : validateRows config selectionIds stake rows = .ok quote)
    (built : betData user idempotencyKey quote = .ok data) {leg : BetLeg} (member : leg ∈ data.legs) :
    leg.selectionId ∈ selectionIds ∧ TakesBets db.catalog leg.selectionId := by
  obtain ⟨_, _, stored, _⟩ := betData_ok built
  obtain ⟨⟨quoted, index⟩, listed, made⟩ := (Except.mapM_eq_ok stored).2 leg member
  obtain ⟨row, read, passed⟩ := (Except.mapM_eq_ok (validateRows_ok accepted).2).2 quoted
    (List.fst_mem_of_mem_zipIdx listed)
  obtain ⟨selection, kept, joined⟩ := List.mem_filterMap.mp (found.mem_iff.mp read)
  obtain ⟨there, requested⟩ := List.mem_filter.mp kept
  obtain ⟨rfl, market, on, event, of⟩ := joinSelection_ok joined
  obtain ⟨selectionOpen, marketOpen, admits, _⟩ := validateLeg_ok passed
  rw [(legData_ok made).1, validateLeg_selectionId passed]
  exact ⟨by simpa using requested, row.selection, Table.mem_rows.mp there, rfl, selectionOpen,
    row.market, market, on, marketOpen, row.event, event, of, admits⟩

end Offer

section Placement

/-- The program is about to create the bet. -/
def Creates (program : Betting Unit) (data : BetData) : Prop :=
  ∃ code next, program = .await (.write (.createBet data code)) next

theorem eq_of_creates {built data : BetData} {code : TransactionCode}
    {next : Except Failure Bet → Betting Unit}
    (creates : Creates (.await (.write (.createBet built code)) next) data) : built = data := by
  obtain ⟨_, _, same⟩ := creates
  cases same
  rfl

theorem not_creates_of_callsOnly {allowed : {Reply : Type} → BettingCall Reply → Prop}
    {program : Betting Unit} {data : BetData} (only : program.CallsOnly allowed)
    (excluded : ∀ code, ¬ allowed (.write (.createBet data code))) : ¬ Creates program data := by
  rintro ⟨code, next, rfl⟩
  exact excluded code only.1

variable {α : Type}

theorem read_ne_write (look : Database → Moment → α) (write : Write α) :
    BettingCall.read look ≠ .write write := by
  intro same
  injection same

theorem randomUUID_ne_write (write : Write ℕ) : BettingCall.randomUUID ≠ .write write := by
  intro same
  injection same

theorem getBalance_ne_write (casinoGroupId userCode : String) (write : Write Wallet.HttpReply) :
    BettingCall.getBalance casinoGroupId userCode ≠ .write write := by
  intro same
  injection same

/-- A program creates a bet only after the call before it was answered. -/
theorem creates_of_call {request : BettingCall α} {next : α → Betting Unit} {data : BetData}
    {history : List (World × Choice)}
    (creates : Creates ((Program.call request >>= next).after bettingMachine history) data)
    (other : ∀ write : Write α, request ≠ .write write) :
    ∃ world choice rest value, history = (world, choice) :: rest ∧
      (world.answer choice request).1 = .ok value ∧ Creates ((next value).after bettingMachine rest) data := by
  cases history with
  | nil =>
      obtain ⟨code, _, same⟩ := creates
      rw [Program.after_nil, Program.call, Program.bind_await] at same
      injection same with reply asked
      subst reply
      exact absurd (eq_of_heq asked) (other _)
  | cons answered rest =>
      obtain ⟨world, choice⟩ := answered
      rw [Program.after_call_bind] at creates
      cases replied : (world.answer choice request).1 with
      | ok value =>
          rw [show (bettingMachine.perform choice request world).1 = _ from replied] at creates
          exact ⟨world, choice, rest, value, rfl, replied, creates⟩
      | error failure =>
          rw [show (bettingMachine.perform choice request world).1 = _ from replied] at creates
          obtain ⟨_, _, same⟩ := creates
          cases same

/-- A computation between two calls has succeeded. -/
theorem creates_of_done {outcome : Except Failure α} {next : α → Betting Unit} {data : BetData}
    {history : List (World × Choice)}
    (creates : Creates ((Program.done outcome >>= next).after bettingMachine history) data) :
    ∃ value, outcome = .ok value ∧ Creates ((next value).after bettingMachine history) data := by
  cases outcome with
  | ok value => exact ⟨value, rfl, creates⟩
  | error failure =>
      rw [Program.bind_error, Program.after_done] at creates
      obtain ⟨_, _, same⟩ := creates
      cases same

theorem read_ok {look : Database → Moment → α} {world : World} {choice : Choice} {value : α}
    (answered : (world.answer choice (.read look)).1 = .ok value) :
    value = look world.db ⟨world.clock, choice.rank⟩ := by
  simp only [World.answer] at answered
  split at answered
  · exact (Except.ok.inj answered).symm
  · cases answered

variable {config : EnvConfig} {user : UserContext} {idempotencyKey : String}
  {selectionIds : List String} {stake : String} {data : BetData} {history : List (World × Choice)}

/-- A failure creates no bet. -/
theorem not_creates_throw {failure : Failure} {next : α → Betting Unit} :
    ¬ Creates ((throw failure >>= next : Betting Unit).after bettingMachine history) data := by
  intro creates
  obtain ⟨_, impossible, _⟩ := creates_of_done creates
  cases impossible

/-- Two calls of the balance check are answered before the placement goes on. -/
theorem creates_of_checkBalance {amount : ℚ} {next : Unit → Betting Unit}
    (creates : Creates ((checkBalance user amount >>= next).after bettingMachine history) data) :
    ∃ first second rest, history = first :: second :: rest ∧
      Creates ((next ()).after bettingMachine rest) data := by
  unfold checkBalance WalletHttpClient.getBalance WalletHttpClient.requireWalletConfig at creates
  simp only [bind_assoc] at creates
  obtain ⟨_, _, _, wallet, rfl, _, creates⟩ := creates_of_call creates (read_ne_write _)
  cases wallet with
  | none => exact absurd creates not_creates_throw
  | some currency =>
      obtain ⟨_, _, creates⟩ := creates_of_done creates
      obtain ⟨_, _, rest, reply, rfl, _, creates⟩ :=
        creates_of_call creates (getBalance_ne_write _ _)
      obtain ⟨balance, _, creates⟩ := creates_of_done creates
      obtain ⟨_, pair, creates⟩ := creates_of_done creates
      obtain rfl := Except.ok.inj pair
      refine ⟨_, _, rest, rfl, ?_⟩
      split at creates
      · exact absurd creates not_creates_throw
      · rw [bind_assoc] at creates
        obtain ⟨affordable, _, creates⟩ := creates_of_done creates
        split at creates
        · exact creates
        · exact absurd creates not_creates_throw

/-- A debit attempt creates no bet. -/
theorem not_creates_debiting {program : Betting Unit}
    (debiting : program.CallsOnly BettingCall.Debiting) :
    ¬ Creates (program.after bettingMachine history) data := by
  have excluded : ∀ code, ¬ (BettingCall.write (.createBet data code)).Debiting :=
    fun _ allowed => allowed
  have only : (program.after bettingMachine history).CallsOnly BettingCall.Debiting :=
    debiting.after bettingMachine history
  exact not_creates_of_callsOnly only excluded

/-- The bet that a placement is about to create was validated on what its second call
read, and three calls have been answered since. -/
theorem placeNewBet_creates
    (creates : Creates ((placeNewBet config user idempotencyKey selectionIds stake).void.after
      bettingMachine history) data) :
    (placeNewBet config user idempotencyKey selectionIds stake).void.Awaits bettingMachine []
      (readSelections user.casinoGroupId selectionIds) ∧
    ∃ read rest rows amount quote, history = read :: rest ∧ rest.length = 3 ∧
      rows.Perm (findSelections read.1.db user.casinoGroupId selectionIds) ∧
      validateRows config selectionIds amount rows = .ok quote ∧
      betData user idempotencyKey quote = .ok data := by
  unfold placeNewBet BetsService.validatePlacement at creates
  simp only [Program.void, bind_assoc] at creates
  obtain ⟨amount, checked, creates⟩ := creates_of_done creates
  have reads : (placeNewBet config user idempotencyKey selectionIds stake).void.Awaits
      bettingMachine [] (readSelections user.casinoGroupId selectionIds) := by
    unfold placeNewBet BetsService.validatePlacement
    rw [checked]
    exact ⟨_, rfl⟩
  obtain ⟨read, choice, rest, rows, rfl, answered, creates⟩ :=
    creates_of_call creates (read_ne_write _)
  obtain ⟨quote, accepted, creates⟩ := creates_of_done creates
  obtain ⟨_, _, rest, rfl, afforded⟩ := creates_of_checkBalance creates
  obtain ⟨_, _, rest, number, rfl, _, creates⟩ :=
    creates_of_call afforded randomUUID_ne_write
  obtain ⟨built, made, creates⟩ := creates_of_done creates
  have found : rows.Perm (findSelections read.db user.casinoGroupId selectionIds) := by
    rw [read_ok answered]
    exact List.perm_insertionSort _ _
  have last : rest = [] ∧ built = data := by
    cases rest with
    | nil =>
        rw [transact, Program.after_nil, Program.call, Program.bind_await] at creates
        exact ⟨rfl, eq_of_creates creates⟩
    | cons answered rest =>
        obtain ⟨world, choice⟩ := answered
        rw [transact, Program.after_call_bind] at creates
        split at creates
        · next bet _ =>
            have debiting : (do let _ ← attemptWalletDebit bet.id; pure () : Betting Unit).CallsOnly
                BettingCall.Debiting := (attemptWalletDebit_debiting bet.id).void
            exact absurd creates (not_creates_debiting debiting)
        · obtain ⟨_, _, same⟩ := creates
          cases same
  obtain ⟨rfl, rfl⟩ := last
  exact ⟨reads, (read, choice), _, rows, amount, quote, rfl, rfl, found, accepted, made⟩

theorem placeBet_creates
    (creates : Creates ((placeBet config user idempotencyKey selectionIds stake).void.after
      bettingMachine history) data) :
    ∃ first read rest rows amount quote, history = first :: read :: rest ∧ rest.length = 3 ∧
      (placeBet config user idempotencyKey selectionIds stake).void.Awaits bettingMachine [first]
        (readSelections user.casinoGroupId selectionIds) ∧
      first.1.db.ledger.findBetByKey (user.casinoGroupId, user.userId, idempotencyKey) = none ∧
      rows.Perm (findSelections read.1.db user.casinoGroupId selectionIds) ∧
      validateRows config selectionIds amount rows = .ok quote ∧
      betData user idempotencyKey quote = .ok data := by
  unfold placeBet at creates
  simp only [Program.void, bind_assoc] at creates
  obtain ⟨first, choice, rest, existing, rfl, answered, creates⟩ :=
    creates_of_call creates (read_ne_write _)
  have found := read_ok answered
  cases existing with
  | some bet =>
      dsimp only at creates
      split at creates
      · have debiting : (do let _ ← retryPendingBet bet.id; pure () : Betting Unit).CallsOnly
            BettingCall.Debiting := (attemptWalletDebit_debiting bet.id).void
        exact absurd creates (not_creates_debiting debiting)
      · rw [Program.pure_eq, Program.bind_ok, Program.pure_eq, Program.after_done] at creates
        obtain ⟨_, _, same⟩ := creates
        cases same
  | none =>
      have opened : (placeBet config user idempotencyKey selectionIds stake).void.after
          bettingMachine [(first, choice)] =
            (placeNewBet config user idempotencyKey selectionIds stake).void := by
        unfold placeBet view
        rw [Program.void, bind_assoc, Program.after_call_bind]
        rw [show (bettingMachine.perform choice _ first).1 = _ from answered]
        exact Program.after_nil _
      obtain ⟨⟨next, reads⟩, read, rest, rows, amount, quote, rfl, size, perm, accepted, made⟩ :=
        placeNewBet_creates creates
      have awaits : (placeBet config user idempotencyKey selectionIds stake).void.Awaits
          bettingMachine [(first, choice)] (readSelections user.casinoGroupId selectionIds) :=
        ⟨next, by rw [opened, ← reads, Program.after_nil]⟩
      exact ⟨(first, choice), read, rest, rows, amount, quote, rfl, size, awaits, found.symm, perm,
        accepted, made⟩

/-- Only placements create bets. -/
theorem exists_placeBet_of_creates {runtime : Runtime} {actor : Actor}
    (creates : Creates ((actor.program config runtime).after bettingMachine history) data) :
    ∃ user idempotencyKey selectionIds stake,
      actor = .placeBet user idempotencyKey selectionIds stake := by
  have credit : ¬ actor.credits := by
    intro credits
    have only : ((actor.program config runtime).after bettingMachine history).CallsOnly
        BettingCall.Crediting := (crediting_of_credits runtime credits).after bettingMachine history
    have excluded : ∀ code, ¬ (BettingCall.write (.createBet data code)).Crediting :=
      fun _ allowed => allowed
    exact not_creates_of_callsOnly only excluded creates
  cases actor with
  | placeBet user idempotencyKey selectionIds stake => exact ⟨_, _, _, _, rfl⟩
  | pollOutbox =>
      have debiting : (Actor.poll WalletOutboxService.processPending).CallsOnly
          BettingCall.Debiting :=
        Program.CallsOnly.handle processPending_debiting.void fun _ => trivial
      exact absurd creates (not_creates_debiting debiting)
  | pollSettlement | settleBatch | trySettleBet | settleBetsForEvent | voidBet =>
      exact absurd trivial credit
  | retryWalletSettlementTransmission casinoGroupId staffUserId =>
      have debiting : (StaffSettlementService.retryWalletSettlementTransmission casinoGroupId
          staffUserId).void.CallsOnly BettingCall.Debiting :=
        debiting_of_delivering
          (retryWalletSettlementTransmission_delivering casinoGroupId staffUserId).void
      exact absurd creates (not_creates_debiting debiting)

end Placement

section Writes

variable {id : String} {now : Time} {db after : Database} {Reply : Type} {betId : String} {bet : Bet}

theorem absent_update {entries : String → Entry} {changed : Entry} {old : Bet}
    (stored : (entries id).bet = some old) (absent : (entries betId).bet = none) :
    (Function.update entries id changed betId).bet = none := by
  have other : betId ≠ id := by
    rintro rfl
    rw [stored] at absent
    cases absent
  rw [Function.update_of_ne other, absent]

/-- A bet is new only where a transaction creates it. -/
theorem Write.new_bet {write : Write Reply} {reply : Reply}
    (ran : write.run id now db = .ok (reply, after))
    (absent : (db.ledger.entry betId).bet = none)
    (stored : (after.ledger.entry betId).bet = some bet) (next : Except Failure Reply → Betting Unit) :
    ∃ data, Creates (.await (.write write) next) data ∧ bet = data.bet id now := by
  cases write with
  | createBet data code =>
      obtain ⟨rfl, _, _, entries⟩ := createBet_ok ran
      rcases bet_of_update entries stored with ⟨_, rfl⟩ | ⟨_, before⟩
      · exact ⟨data, ⟨code, next, rfl⟩, rfl⟩
      · rw [absent] at before
        cases before
  | acceptBet betId reservation =>
      obtain ⟨old, _, there, _, _, entries⟩ := acceptBet_ok ran
      rw [entries, absent_update there absent] at stored
      cases stored
  | rejectBet betId reason =>
      obtain ⟨old, _, there, _, _, entries⟩ := rejectBet_ok ran
      rw [entries, absent_update there absent] at stored
      cases stored
  | settleBet graded batchId =>
      obtain ⟨credit, built, committed⟩ := Except.bind_eq_ok.mp ran
      obtain ⟨old, there, _, _, entries⟩ := Credit.commit_ok (settlementCredit_own built) committed
      rw [entries, absent_update there absent] at stored
      cases stored
  | voidBet bet casinoGroupId reason =>
      obtain ⟨credit, built, committed⟩ := Except.bind_eq_ok.mp ran
      obtain ⟨old, there, _, _, entries⟩ := Credit.commit_ok (staffVoidCredit_own built) committed
      rw [entries, absent_update there absent] at stored
      cases stored
  | setTransactionCode | scheduleRetry | completeRow | assignBatch | completeBatch | clearRetries
    | recordAudit =>
      rw [Write.entry_of_rowsOnly ran trivial] at stored
      simp [Entry.map, absent] at stored

end Writes

section Run

variable {config : EnvConfig} {runtime : Runtime} {world : World} {actors : List Actor}
  {start : Config bettingMachine} {moves earlier later : List (Move bettingMachine)}
  {move : Move bettingMachine} {betId : String} {bet : Bet}

/-- The program has read its selections, and may still create this bet. -/
def Undecided (start : Config bettingMachine) (earlier : List (Move bettingMachine)) (index : ℕ)
    (data : BetData) : Prop :=
  2 ≤ (start.answered index earlier).length ∧
    ∃ program history, (start.run earlier).pool[index]? = some program ∧
      Creates (program.after bettingMachine history) data

/-- Nothing that a placement has found open is closed before its bet is created. -/
def GapsUndisturbed (start : Config bettingMachine) (moves : List (Move bettingMachine)) : Prop :=
  ∀ position catalog, moves[position]? = some (.occur (.catalog catalog)) →
    ∀ index data, Undecided start (moves.take position) index data → ∀ leg ∈ data.legs,
      TakesBets (start.run (moves.take position)).state.db.catalog leg.selectionId →
        TakesBets catalog leg.selectionId

/-- A bet appears only where a program creates it. -/
theorem creates_of_new {config : Config bettingMachine}
    (absent : (config.state.db.ledger.entry betId).bet = none)
    (created : ((config.step move).state.db.ledger.entry betId).bet = some bet) :
    ∃ (index : ℕ) (choice : Choice) (program : Betting Unit) (data : BetData),
      move = .run index choice ∧ config.pool[index]? = some program ∧ Creates program data ∧
      bet = data.bet choice.freshId config.state.clock := by
  rcases config.step_cases move with same | ⟨index, choice, _, request, next, rfl, waiting⟩ |
    ⟨happening, rfl⟩
  · rw [same, absent] at created
    cases created
  · rw [Config.step_run waiting] at created
    by_contra none
    suffices still : (((config.state.answer choice request).2.db.ledger).entry betId).bet ≠ some bet
      from still created
    refine World.answer_ledger config.state (fun ledger => (ledger.entry betId).bet ≠ some bet)
      choice request ?_ (by simp [absent])
    rintro write rfl _ reply db ran stored
    obtain ⟨data, creates, own⟩ := Write.new_bet ran absent stored next
    exact none ⟨index, choice, _, data, rfl, waiting, creates, own⟩
  · have same : ((config.step (.occur happening)).state.db.ledger) = config.state.db.ledger := by
      cases happening <;> rfl
    rw [same, absent] at created
    cases created

/-- No call touches the catalog. -/
theorem catalog_step_run (config : Config bettingMachine) (index : ℕ) (choice : Choice) :
    (config.step (.run index choice)).state.db.catalog = config.state.db.catalog := by
  rcases config.step_cases (.run index choice) with same |
    ⟨other, picked, _, request, next, run, waiting⟩ | ⟨_, ⟨⟩⟩
  · rw [same]
  · rw [run, Config.step_run waiting]
    exact World.answer_catalog config.state picked request

/-- The point of the run just after an entry of a history was recorded. -/
theorem exists_after_answered {index position : ℕ} {passed : World} {choice : Choice}
    (recorded : (start.answered index earlier)[position]? = some (passed, choice)) :
    ∃ first rest, earlier = first ++ rest ∧
      (start.run first).state.db.catalog = passed.db.catalog ∧
      (start.answered index first).length = position + 1 := by
  obtain ⟨before, rest, rfl, rfl, size⟩ := Config.exists_answered recorded
  refine ⟨before ++ [.run index choice], rest, by simp, ?_, ?_⟩
  · rw [Config.run_append, Config.run_cons, Config.run_nil, catalog_step_run]
  · simp [Config.answered_append, Config.answered, size]

/-- An offer that is not taken off while the bet is undecided is there to the end. -/
theorem takesBets_kept {selectionId : String} {read middle : List (Move bettingMachine)}
    (kept : ∀ first catalog rest, middle = first ++ .occur (.catalog catalog) :: rest →
      TakesBets (start.run (read ++ first)).state.db.catalog selectionId →
        TakesBets catalog selectionId)
    (offered : TakesBets (start.run read).state.db.catalog selectionId) :
    TakesBets (start.run (read ++ middle)).state.db.catalog selectionId := by
  induction middle using List.reverseRecOn with
  | nil => simpa using offered
  | append_singleton middle move ih =>
      have before := ih fun first catalog rest split =>
        kept first catalog (rest ++ [move]) (by simp [split])
      rw [← List.append_assoc, Config.run_append]
      cases move with
      | run index choice =>
          rw [Config.run_cons, Config.run_nil, catalog_step_run]
          exact before
      | occur happening =>
          cases happening with
          | clock | balance => exact before
          | catalog catalog => exact kept middle catalog [] rfl before

/-- A program that later creates the bet may still create it at any point before. -/
theorem undecided_of_creates {index : ℕ} {program : Betting Unit} {data : BetData}
    {first rest : List (Move bettingMachine)} (initial : start.pool[index]? = some program)
    (creates : Creates (program.after bettingMachine (start.answered index (first ++ rest))) data)
    (read : 2 ≤ (start.answered index first).length) : Undecided start first index data := by
  refine ⟨read, program.after bettingMachine (start.answered index first),
    (start.run first).answered index rest, ?_, ?_⟩
  · rw [Config.pool_run, initial]
    rfl
  · rwa [← Program.after_append, ← Config.answered_append]

/-- **No bet on what is closed**: if nothing is closed between a placement's reading and its
writing, every leg of a new bet takes bets at that moment. -/
theorem new_bet_on_offer (begins : start = Actor.start config runtime world actors)
    (undisturbed : GapsUndisturbed start moves) (split : moves = earlier ++ move :: later)
    (absent : ((start.run earlier).state.db.ledger.entry betId).bet = none)
    (created : (((start.run earlier).step move).state.db.ledger.entry betId).bet = some bet) :
    ∀ leg ∈ bet.legs, TakesBets (start.run earlier).state.db.catalog leg.selectionId := by
  obtain ⟨index, choice, program, data, rfl, waiting, creates, rfl⟩ := creates_of_new absent created
  intro leg member
  rw [Config.pool_run] at waiting
  obtain ⟨first, initial, rfl⟩ := Option.map_eq_some_iff.mp waiting
  obtain ⟨actor, _, rfl⟩ : ∃ actor, actors[index]? = some actor ∧ actor.program config runtime = first := by
    rw [begins] at initial
    simpa [Actor.start] using initial
  obtain ⟨user, key, selectionIds, stake, rfl⟩ := exists_placeBet_of_creates creates
  obtain ⟨opening, read, rest, rows, amount, quote, history, _, _, _, found, accepted, built⟩ :=
    placeBet_creates creates
  have second : (start.answered index earlier)[1]? = some (read.1, read.2) := by
    rw [history]
    rfl
  obtain ⟨first, middle, rfl, same, size⟩ := exists_after_answered second
  obtain ⟨_, offered⟩ := takesBets_of_quote found accepted built member
  refine takesBets_kept ?_ (same ▸ offered)
  rintro between catalog rest rfl stillOffered
  have here : moves = (first ++ between) ++ .occur (.catalog catalog) :: (rest ++ .run index choice :: later) := by
    simp [split]
  have undecided : Undecided start (first ++ between) index data := by
    rw [← List.append_assoc] at creates
    have read : 2 ≤ (start.answered index (first ++ between)).length := by
      have longer := Config.length_answered_mono start index first between
      omega
    exact undecided_of_creates initial creates read
  refine undisturbed (first ++ between).length catalog ?_ index data ?_ leg member ?_
  · simp [here]
  · rwa [here, List.take_left]
  · rwa [here, List.take_left]

end Run

section Sample

open Sample

theorem catalog_calls (config : Config bettingMachine) (index count : ℕ) (freshId : String) :
    (config.run (calls index count freshId)).state.db.catalog = config.state.db.catalog := by
  induction count generalizing config with
  | zero => rfl
  | succ count ih =>
      rw [calls, List.replicate_succ, Config.run_cons]
      exact (ih _).trans (catalog_step_run ..)

/-- The catalog after the ants have scored again. -/
def scored : Catalog :=
  { catalog .live .open with
    events := ⟨[⟨"match", "match", .live, some 3, some 1, none, none⟩], by simp⟩ }

theorem takesBets_scored {selectionId : String} (offered : TakesBets (catalog .live .open) selectionId) :
    TakesBets scored selectionId := by
  obtain ⟨selection, stored, rfl, _⟩ := offered
  obtain rfl := List.mem_singleton.mp (Table.mem_rows.mpr stored)
  decide

/-- The ants score while the placement waits for the wallet. -/
def goalInGap : List (Move bettingMachine) :=
  calls 0 3 "bet" ++ [.occur (.catalog scored)] ++ calls 0 2 "bet"

/-- Staff suspend the market. -/
def suspension : Session databaseMachine :=
  ⟨Trading.suspendMarket "group" "winner" "injury" "staff", List.replicate 8 (.run 0 .none)⟩

def suspends : Move bettingMachine := .occur (.catalog (suspension.result world.db).catalog)

/-- A goal in the gap leaves the offer as it is. -/
theorem bet_after_goal_on_offer :
    ∃ bet, (((((start [placeBet "key"]).run goalInGap).step
      (.run 0 (plainly "bet"))).state.db.ledger.entry "bet").bet = some bet) ∧
    ∀ leg ∈ bet.legs,
      TakesBets ((start [placeBet "key"]).run goalInGap).state.db.catalog leg.selectionId := by
  obtain ⟨bet, created⟩ := Option.isSome_iff_exists.mp (show Option.isSome
    ((((start [placeBet "key"]).run goalInGap).step
      (.run 0 (plainly "bet"))).state.db.ledger.entry "bet").bet = true by decide +kernel)
  have undisturbed : GapsUndisturbed (start [placeBet "key"])
      (goalInGap ++ .run 0 (plainly "bet") :: []) := by
    intro position catalog occurs index data _ leg _ offered
    match position with
    | 3 =>
        obtain ⟨⟩ := occurs
        have before : (goalInGap ++ [Move.run 0 (plainly "bet")]).take 3 = calls 0 3 "bet" := rfl
        rw [before, catalog_calls] at offered
        exact takesBets_scored offered
    | 0 | 1 | 2 | 4 | 5 | 6 => cases occurs
    | position + 7 => cases occurs
  exact ⟨bet, created, new_bet_on_offer rfl undisturbed rfl (by decide +kernel) created⟩

/-- A suspension in the gap does not: the bet is created on a suspended market. -/
theorem bet_on_suspended_market :
    suspension.Returned world.db ∧
    let before := (start [placeBet "key"]).run (calls 0 3 "bet" ++ [suspends] ++ calls 0 2 "bet")
    (before.state.db.ledger.entry "bet").bet = none ∧
    ¬ TakesBets before.state.db.catalog "winner:ants" ∧
    ∃ bet ∈ ((before.step (.run 0 (plainly "bet"))).state.db.ledger.entry "bet").bet,
      ∃ leg ∈ bet.legs, leg.selectionId = "winner:ants" := by
  decide +kernel

end Sample

end SportsBetting
