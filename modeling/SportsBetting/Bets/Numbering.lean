import SportsBetting.Settlement.Credits

/-!
# Legs by their place in the bet

A placement numbers its legs from zero, and only placements create bets. So the
place of a leg tells it apart from the other legs of its bet, for good.
-/

namespace SportsBetting

open Async Ledger Program BetsService BetValidation Text

/-- The legs are numbered in the order they are stored in. -/
def Numbered (legs : List BetLeg) : Prop := legs.map BetLeg.legOrder = List.range legs.length

section Legs

theorem legOrder_setLegOutcomes (outcomes : List (ℕ × BetLegOutcome)) (legs : List BetLeg) :
    (setLegOutcomes outcomes legs).map BetLeg.legOrder = legs.map BetLeg.legOrder := by
  rw [setLegOutcomes, List.map_map]
  refine List.map_congr_left fun leg _ => ?_
  simp only [Function.comp]
  split <;> rfl

theorem Numbered.setLegOutcomes {legs : List BetLeg} (numbered : Numbered legs)
    (outcomes : List (ℕ × BetLegOutcome)) : Numbered (setLegOutcomes outcomes legs) := by
  rw [Numbered, legOrder_setLegOutcomes, numbered]
  simp [SportsBetting.setLegOutcomes]

theorem Numbered.nodup {legs : List BetLeg} (numbered : Numbered legs) :
    (legs.map BetLeg.legOrder).Nodup := by
  rw [numbered]
  exact List.nodup_range

/-- Each leg is created with the place it is quoted at. -/
theorem numbered_of_betData {user : UserContext} {idempotencyKey : String}
    {quote : ValidatedBetQuote} {data : BetData}
    (built : betData user idempotencyKey quote = .ok data) : Numbered data.legs := by
  obtain ⟨_, _, stored, _⟩ := betData_ok built
  have order : data.legs.map BetLeg.legOrder = quote.legs.zipIdx.map Prod.snd :=
    Except.map_eq_of_mapM_eq_ok stored fun _ _ leg made => (legData_placed made).1
  rw [List.zipIdx_map_snd] at order
  have length : data.legs.length = quote.legs.length := by
    simpa using congrArg List.length order
  rw [Numbered, order, length, List.range_eq_range']

end Legs

section Programs

/-- A new bet has numbered legs. -/
def BettingCall.Numbering {Reply : Type} : BettingCall Reply → Prop
  | .write (.createBet data _) => Numbered data.legs
  | _ => True

/-- What a placement calls: a new bet has numbered legs, and none is credited. -/
def BettingCall.Placing {Reply : Type} : BettingCall Reply → Prop
  | .write (.createBet data _) => Numbered data.legs
  | .write (.settleBet ..) | .write (.voidBet ..) => False
  | _ => True

theorem BettingCall.Placing.numbering {Reply : Type} {request : BettingCall Reply}
    (placing : request.Placing) : request.Numbering := by
  cases request with
  | write transaction => cases transaction <;> first | exact placing | trivial
  | read | randomUUID | getBalance | postTransaction | postBatch => trivial

theorem BettingCall.Debiting.placing {Reply : Type} {request : BettingCall Reply}
    (debiting : request.Debiting) : request.Placing := by
  cases request with
  | write transaction => cases transaction <;> first | exact debiting.elim | trivial
  | read | randomUUID | getBalance | postTransaction | postBatch => trivial

theorem BettingCall.Crediting.numbering {Reply : Type} {request : BettingCall Reply}
    (crediting : request.Crediting) : request.Numbering := by
  cases request with
  | write transaction => cases transaction <;> first | exact crediting.elim | trivial
  | read | randomUUID | getBalance | postTransaction | postBatch => trivial

variable {α : Type}

theorem placing_of_debiting {program : Betting α}
    (debiting : program.CallsOnly BettingCall.Debiting) :
    program.CallsOnly BettingCall.Placing :=
  debiting.mono fun _ => BettingCall.Debiting.placing

theorem placing_of_posting {program : Betting α}
    (posting : program.CallsOnly BettingCall.Posting) : program.CallsOnly BettingCall.Placing :=
  placing_of_debiting (debiting_of_posting posting)

theorem numbering_of_debiting {program : Betting α}
    (debiting : program.CallsOnly BettingCall.Debiting) :
    program.CallsOnly BettingCall.Numbering :=
  (placing_of_debiting debiting).mono fun _ => BettingCall.Placing.numbering

theorem attemptWalletDebit_debiting (betId : String) :
    (attemptWalletDebit betId).CallsOnly BettingCall.Debiting := by
  apply CallsOnly.handle (processSingleDebit_debiting betId)
  intro failure
  cases failure <;> trivial

theorem checkBalance_posting (user : UserContext) (stake : ℚ) :
    (checkBalance user stake).CallsOnly BettingCall.Posting := by
  apply CallsOnly.bind
  · apply CallsOnly.bind (requireWalletConfig_posting _)
    intro currency
    apply CallsOnly.bind ((callsOnly_call _).mpr trivial)
    intro reply
    exact CallsOnly.bind (callsOnly_done _) fun _ => trivial
  · rintro ⟨balance, currency⟩
    dsimp only
    split
    · trivial
    · apply CallsOnly.bind (callsOnly_done _)
      intro affordable
      split <;> trivial

theorem placeNewBet_placing (config : EnvConfig) (user : UserContext) (idempotencyKey : String)
    (selectionIds : List String) (stake : String) :
    (placeNewBet config user idempotencyKey selectionIds stake).CallsOnly
      BettingCall.Placing := by
  apply CallsOnly.bind
  · apply CallsOnly.bind (callsOnly_done _)
    intro stake
    apply CallsOnly.bind (placing_of_posting (read_posting _))
    exact fun _ => callsOnly_done _
  · intro quote
    apply CallsOnly.bind (placing_of_posting (checkBalance_posting user quote.stake))
    intro _
    apply CallsOnly.bind (placing_of_posting randomUUID_posting)
    intro number
    cases built : betData user idempotencyKey quote with
    | error failure => trivial
    | ok data =>
        rw [bind_ok]
        apply CallsOnly.bind ((callsOnly_call _).mpr (numbered_of_betData built))
        exact fun bet => placing_of_debiting (attemptWalletDebit_debiting bet.id)

theorem placeBet_placing (config : EnvConfig) (user : UserContext) (idempotencyKey : String)
    (selectionIds : List String) (stake : String) :
    (placeBet config user idempotencyKey selectionIds stake).CallsOnly BettingCall.Placing := by
  apply CallsOnly.bind (placing_of_posting (view_posting _))
  intro existing
  cases existing with
  | none => exact placeNewBet_placing ..
  | some bet =>
      dsimp only
      split
      · exact placing_of_debiting (attemptWalletDebit_debiting bet.id)
      · trivial

theorem retryWalletSettlementTransmission_delivering (casinoGroupId staffUserId : String) :
    (StaffSettlementService.retryWalletSettlementTransmission casinoGroupId
      staffUserId).CallsOnly BettingCall.Delivering := by
  have counts : (StaffSettlementService.countPending casinoGroupId).CallsOnly
      BettingCall.Delivering := delivering_of_posting (read_posting _)
  have cleared : (Write.clearRetries casinoGroupId).RowsOnly := trivial
  have recorded : ∀ entry, (Write.recordAudit entry).RowsOnly := fun _ => trivial
  apply CallsOnly.bind counts
  intro pendingBefore
  split
  · trivial
  · apply CallsOnly.bind (transact_delivering cleared)
    intro _
    apply CallsOnly.bind (delivering_of_posting (flushUpTo_posting casinoGroupId 100))
    intro batchesSent
    apply CallsOnly.bind counts
    intro pendingAfter
    apply CallsOnly.bind
    · exact CallsOnly.handle (transact_delivering (recorded _)) fun _ => trivial
    · exact fun _ => trivial

theorem actor_numbering (config : EnvConfig) (runtime : Runtime) (actor : Actor) :
    (actor.program config runtime).CallsOnly BettingCall.Numbering := by
  have credit : actor.credits → (actor.program config runtime).CallsOnly BettingCall.Numbering :=
    fun credits => (crediting_of_credits runtime credits).mono fun _ =>
      BettingCall.Crediting.numbering
  cases actor with
  | placeBet user idempotencyKey selectionIds stake =>
      exact ((placeBet_placing ..).mono fun _ => BettingCall.Placing.numbering).void
  | pollOutbox =>
      exact CallsOnly.handle (numbering_of_debiting processPending_debiting).void fun _ => trivial
  | pollSettlement | settleBatch | trySettleBet | settleBetsForEvent | voidBet =>
      exact credit trivial
  | retryWalletSettlementTransmission casinoGroupId staffUserId =>
      exact (numbering_of_debiting (debiting_of_delivering
        (retryWalletSettlementTransmission_delivering casinoGroupId staffUserId))).void

end Programs

section Run

/-- The legs of every bet are numbered. -/
def AllNumbered (ledger : Ledger) : Prop :=
  ∀ betId bet, (ledger.entry betId).bet = some bet → Numbered bet.legs

variable {id : String} {now : Time} {db after : Database} {Reply : Type}

theorem AllNumbered.update {before after : Ledger} {betId : String} {bet : Bet}
    {row : WalletOutbox} (numbered : AllNumbered before)
    (entries : after.entry = Function.update before.entry betId
      (((before.entry betId).setBet bet).setRow row)) (own : Numbered bet.legs) :
    AllNumbered after := by
  intro other found stored
  rcases bet_of_update entries stored with ⟨_, rfl⟩ | ⟨_, before⟩
  · exact own
  · exact numbered other found before

theorem allNumbered_commit {credit : Credit} {bet : Bet} (own : credit.row.betId = credit.betId)
    (committed : credit.commit now db = .ok (bet, after)) (numbered : AllNumbered db.ledger) :
    AllNumbered after.ledger := by
  obtain ⟨old, stored, _, _, entries⟩ := Credit.commit_ok own committed
  exact numbered.update entries ((numbered _ old stored).setLegOutcomes _)

theorem allNumbered_write {write : Write Reply} {reply : Reply}
    (numbering : (BettingCall.write write).Numbering)
    (ran : write.run id now db = .ok (reply, after)) (numbered : AllNumbered db.ledger) :
    AllNumbered after.ledger := by
  cases write with
  | createBet data code =>
      obtain ⟨rfl, _, _, entries⟩ := createBet_ok ran
      exact numbered.update entries numbering
  | acceptBet betId reservation =>
      obtain ⟨old, _, stored, _, _, entries⟩ := acceptBet_ok ran
      exact numbered.update entries (numbered _ old stored)
  | rejectBet betId reason =>
      obtain ⟨old, _, stored, _, _, entries⟩ := rejectBet_ok ran
      exact numbered.update entries (numbered _ old stored)
  | settleBet graded batchId =>
      obtain ⟨credit, built, committed⟩ := Except.bind_eq_ok.mp ran
      exact allNumbered_commit (settlementCredit_own built) committed numbered
  | voidBet bet casinoGroupId reason =>
      obtain ⟨credit, built, committed⟩ := Except.bind_eq_ok.mp ran
      exact allNumbered_commit (staffVoidCredit_own built) committed numbered
  | setTransactionCode | scheduleRetry | completeRow | assignBatch | completeBatch | clearRetries
    | recordAudit =>
      intro betId bet stored
      rw [Write.entry_of_rowsOnly ran trivial] at stored
      exact numbered betId bet (by simpa [Entry.map] using stored)

/-- However the services have run since the deployment, all legs are numbered. -/
theorem allNumbered_run (config : EnvConfig) (runtime : Runtime) (catalog : Catalog) (clock : Time)
    (balances : String → String → ℚ) (actors : List Actor) (moves : List (Move bettingMachine)) :
    AllNumbered ((Actor.start config runtime (.deployed catalog clock balances) actors).run
      moves).state.db.ledger := by
  have pool : ∀ program ∈ (Actor.start config runtime (.deployed catalog clock balances)
      actors).pool, program.CallsOnly BettingCall.Numbering := by
    intro program member
    obtain ⟨actor, _, rfl⟩ := List.mem_map.mp member
    exact actor_numbering config runtime actor
  have fresh : AllNumbered (World.deployed catalog clock balances).db.ledger := by
    rintro betId bet ⟨⟩
  refine Config.state_invariant Config.unguarded (fun world : World => AllNumbered world.db.ledger)
    ?_ ?_ pool fresh (Config.follows_unguarded _ moves)
  · intro config choice _ request numbering _ numbered
    refine World.answer_ledger config.state AllNumbered choice request ?_ numbered
    rintro write rfl _ reply db ran
    exact allNumbered_write numbering ran numbered
  · intro happening world numbered
    cases happening <;> exact numbered

end Run

end SportsBetting
