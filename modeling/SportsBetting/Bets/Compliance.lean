import SportsBetting.Wallet.Compliance

/-!
# All actors keep to the contract
-/

namespace SportsBetting

open Async Ledger Wallet WalletHttpClient WalletOutboxService BetsService SettlementService
open BetValidation Text

namespace Premises

variable {premises : Premises} {world : World}

section Placement

theorem runs_attemptWalletDebit (betId : String) :
    premises.contract.Runs (attemptWalletDebit betId) world := by
  apply Contract.Runs.handle
  · exact runs_processSingleDebit betId
  · intro failure _
    cases failure <;> trivial

theorem reads_validatePlacement (config : EnvConfig) (casinoGroupId : String)
    (selectionIds : List String) (stakeRaw : String) :
    (BetsService.validatePlacement config casinoGroupId selectionIds stakeRaw).CallsOnly Reading := by
  apply Program.CallsOnly.bind (Program.callsOnly_done _)
  intro stake
  apply Program.CallsOnly.bind (reads_call (by trivial))
  exact fun _ => Program.callsOnly_done _

theorem reads_checkBalance (user : UserContext) (stake : ℚ) :
    (checkBalance user stake).CallsOnly Reading := by
  apply Program.CallsOnly.bind
  · apply Program.CallsOnly.bind
    · apply Program.CallsOnly.bind (reads_call (by trivial))
      intro config
      cases config <;> trivial
    · intro currency
      apply Program.CallsOnly.bind (reads_call (by trivial))
      intro reply
      exact Program.CallsOnly.bind (Program.callsOnly_done _) fun _ => trivial
  · rintro ⟨balance, currency⟩
    dsimp only
    split
    · trivial
    · apply Program.CallsOnly.bind (Program.callsOnly_done _)
      intro affordable
      split <;> trivial

theorem runs_placeNewBet (config : EnvConfig) (user : UserContext) (idempotencyKey : String)
    (selectionIds : List String) (stake : String) :
    premises.contract.Runs (placeNewBet config user idempotencyKey selectionIds stake) world := by
  apply Contract.Runs.bind (safe_reading
    (reads_validatePlacement config user.casinoGroupId selectionIds stake) lasts_true trivial)
  intro quote _ _
  apply Contract.Runs.bind (safe_reading (reads_checkBalance user quote.stake) lasts_true trivial)
  intro _ _ _
  apply Contract.Runs.bind
    (safe_reading (reads_call (by trivial)) lasts_true trivial)
  intro number _ _
  cases betData user idempotencyKey quote with
  | error failure => trivial
  | ok data =>
      rw [Program.bind_ok]
      apply Contract.Runs.seq
      · exact fun _ _ _ => ⟨⟨⟨number, rfl⟩, trivial⟩, fun _ _ => trivial⟩
      · exact fun bet _ => runs_attemptWalletDebit bet.id

theorem runs_placeBet (config : EnvConfig) (user : UserContext) (idempotencyKey : String)
    (selectionIds : List String) (stake : String) :
    premises.contract.Runs (placeBet config user idempotencyKey selectionIds stake) world := by
  apply runs_read lasts_true trivial
  intro _ after _ _
  dsimp only
  split
  · split
    · exact runs_attemptWalletDebit _
    · trivial
  · exact runs_placeNewBet ..

end Placement

section Settlement

theorem reads_loadLegContext (leg : BetLeg) : (loadLegContext leg).CallsOnly Reading := by
  apply Program.CallsOnly.bind (reads_call (by trivial))
  intro event?
  apply Program.CallsOnly.bind (reads_call (by trivial))
  intro market?
  split
  · split
    · trivial
    · exact Program.CallsOnly.bind (reads_call (by trivial)) fun _ => trivial
  · trivial

theorem reads_loadLegContexts (legs : List BetLeg) :
    (loadLegContexts legs).CallsOnly Reading :=
  Program.CallsOnly.foldlM (fun _ leg => Program.CallsOnly.bind (reads_loadLegContext leg)
    fun _ => Program.callsOnly_done _) legs []

theorem gradeContexts_some {runtime : Runtime} {bet : Bet} {contexts : List (Option LegContext)}
    {graded : GradedBet} (some : gradeContexts runtime bet contexts = some graded) :
    graded.bet = bet ∧ graded.betResult = aggregateBetResult graded.legResults ∧
      graded.payoutAmount = payoutForResult bet.stake bet.potentialPayout graded.betResult := by
  unfold gradeContexts at some
  simp only [Option.bind_eq_bind, Option.bind_eq_some_iff] at some
  obtain ⟨found, _, some⟩ := some
  split at some
  · simp only [Option.pure_def, Option.bind_eq_some_iff, Option.some.injEq] at some
    obtain ⟨results, _, rfl⟩ := some
    exact ⟨rfl, rfl, rfl⟩
  · cases some

/-- What grading returns is graded as it is stored. -/
theorem safe_gradeBet (runtime : Runtime) (betId : String) {fact : World → Prop}
    (lasts : premises.Lasts fact) (start : fact world) :
    premises.contract.Safe (fun outcome after => fact after ∧
      ∀ graded, outcome = .ok (some graded) →
        graded.bet.id = betId ∧ premises.Graded after.db.ledger graded)
      (gradeBet runtime betId) world := by
  apply safe_read lasts start
  · intro _ after held _
    dsimp only
    cases found : findAccepted after.db betId with
    | none =>
        refine Contract.Safe.done ⟨held, fun graded returned => ?_⟩
        cases Except.ok.inj returned
    | some bet =>
        unfold findAccepted at found
        obtain ⟨stored, accepted, rfl⟩ := Option.map_eq_some_iff.mp found
        obtain ⟨there, status⟩ := Option.filter_eq_some_iff.mp accepted
        obtain ⟨member, rfl⟩ := Table.get?_eq_some_iff.mp there
        have same : premises.StoredAs after.db.ledger _ :=
          (storedAs_of_mem member).legs (sortLegs stored.legs)
        apply Contract.Safe.bind (safe_reading (reads_loadLegContexts (sortLegs stored.legs))
          (lasts.and (lasts_storedAs _)) ⟨held, same⟩)
        · intro contexts after kept
          refine Contract.Safe.done ⟨kept.1, fun graded returned => ?_⟩
          obtain ⟨bet, _, payout⟩ := gradeContexts_some (Except.ok.inj returned)
          refine ⟨by rw [bet], ⟨by rw [bet]; exact kept.2, ?_, ?_⟩⟩
          · rw [bet]
            simpa using status
          · rw [bet]
            exact payout
        · exact fun _ _ kept => ⟨kept.1, by simp⟩
  · exact fun _ held => ⟨held, by simp⟩

/-- Bets to settle: graded as stored, and each only once. -/
structure Prepared (premises : Premises) (ledger : Ledger) (graded : List GradedBet) : Prop where
  once : (graded.map fun entry => entry.bet.id).Nodup
  each : ∀ entry ∈ graded, premises.Graded ledger entry

theorem lasts_prepared (graded : List GradedBet) :
    premises.Lasts fun world => premises.Prepared world.db.ledger graded :=
  fun _ _ persists held => ⟨held.once, fun entry member =>
    lasts_graded entry persists (held.each entry member)⟩

/-- Settling one bet leaves the others as they were graded. -/
theorem Graded.after_settle {entry other : GradedBet} {batchId : ℕ} {later : World}
    (choice : Choice) (apart : other.bet.id ≠ entry.bet.id)
    (held : premises.Graded later.db.ledger other) :
    premises.Graded (later.answer choice (.write (.settleBet entry batchId))).2.db.ledger other := by
  refine World.answer_ledger later (fun ledger => premises.Graded ledger other) choice _ ?_ held
  rintro _ ⟨⟩ _ reply db ran
  obtain ⟨credit, built, committed⟩ := Except.bind_eq_ok.mp ran
  obtain ⟨_, _, own, _, _, _⟩ := settlementCredit_ok built
  obtain ⟨_, _, _, _, entries⟩ := Credit.commit_ok (settlementCredit_own built) committed
  obtain ⟨stored, there, rest⟩ := held.stored
  refine ⟨⟨stored, ?_, rest⟩, held.accepted, held.payout⟩
  rwa [entries, own, Function.update_of_ne apart]

theorem reads_batchIdFor (batchIdByGroup : List (String × ℕ)) (casinoGroupId : String) :
    (batchIdFor batchIdByGroup casinoGroupId).CallsOnly Reading := by
  unfold batchIdFor
  split
  · trivial
  · exact Program.CallsOnly.bind (reads_call trivial) fun _ => Program.callsOnly_done _

theorem runs_persistGradedSettlements {graded : List GradedBet}
    (prepared : premises.Prepared world.db.ledger graded) :
    premises.contract.Runs (persistGradedSettlements graded) world := by
  apply Contract.Safe.foldlM (fun rest _ (world : World) =>
    premises.Prepared world.db.ledger rest)
  · intro entry rest batchIdByGroup state held
    apply Contract.Safe.bind
      (safe_reading (reads_batchIdFor batchIdByGroup _) (lasts_prepared _) held)
    · rintro ⟨batchId, batchIdByGroup⟩ after held
      have settled : premises.contract.Safe (fun _ after => premises.Prepared after.db.ledger rest)
          (transact (.settleBet entry batchId)) after := by
        intro later waited _
        have kept := lasts_prepared _ waited.1 held
        refine ⟨⟨trivial, kept.each entry List.mem_cons_self⟩, fun choice _ => ?_⟩
        have once := List.nodup_cons.mp kept.once
        refine ⟨once.2, fun other member => Graded.after_settle choice ?_
          (kept.each other (List.mem_cons_of_mem _ member))⟩
        intro same
        exact once.1 (List.mem_map.mpr ⟨other, member, same⟩)
      exact Contract.Safe.bind settled (fun _ _ kept => kept) fun _ _ _ => trivial
    · exact fun _ _ _ => trivial
  · exact fun _ _ _ => trivial
  · exact prepared

theorem runs_applySettlements {graded : List GradedBet}
    (prepared : premises.Prepared world.db.ledger graded) :
    premises.contract.Runs (applySettlements graded) world := by
  apply Contract.Runs.bind (runs_persistGradedSettlements prepared)
  intro _ _ _
  exact Contract.Runs.seq runs_flushSettlementBatches fun _ _ => trivial

/-- The bets of a run are graded one after the other. -/
theorem safe_gradeBets (runtime : Runtime) {betIds : List String} (once : betIds.Nodup) :
    premises.contract.Safe (fun outcome after =>
      ∀ graded, outcome = .ok graded → premises.Prepared after.db.ledger graded)
      (gradeBets runtime betIds) world := by
  apply Contract.Safe.foldlM (fun rest graded (world : World) =>
    (graded.map (fun entry => entry.bet.id) ++ rest).Nodup ∧
      premises.Prepared world.db.ledger graded)
  · intro betId rest graded state held
    have lasts : premises.Lasts _ := lasts_prepared graded
    apply Contract.Safe.bind (safe_gradeBet runtime betId lasts held.2)
    · intro result after kept
      apply Contract.Safe.done
      cases result with
      | none =>
          simp only [Option.toList_none, List.append_nil]
          exact ⟨(held.1.sublist (by simp)), kept.1⟩
      | some entry =>
          obtain ⟨rfl, own⟩ := kept.2 entry rfl
          have once : (List.map (fun entry => entry.bet.id) (graded ++ [entry]) ++ rest).Nodup := by
            simpa using held.1
          refine ⟨by simpa using once, (List.nodup_append.mp once).1, ?_⟩
          intro other member
          rcases List.mem_append.mp member with old | new
          · exact kept.1.each other old
          · obtain rfl := List.mem_singleton.mp new
            exact own
    · exact fun _ _ _ => by simp
  · rintro graded state ⟨_, prepared⟩ _ ⟨⟩
    exact prepared
  · exact ⟨by simpa using once, List.nodup_nil, by simp⟩

theorem runs_settleBatch (runtime : Runtime) :
    premises.contract.Runs (settleBatch runtime) world := by
  apply runs_read lasts_true trivial
  intro moment after _ _
  have once : (((acceptedBets after.db moment fun _ => true).take BATCH_SIZE).map Bet.id).Nodup :=
    (((List.take_sublist _ _).map Bet.id).nodup) (nodup_acceptedBets after.db moment _)
  apply Contract.Runs.bind (safe_gradeBets runtime once)
  intro graded after prepared
  split
  · trivial
  · exact Contract.Runs.seq (runs_applySettlements (prepared graded rfl)) fun _ _ => trivial

theorem runs_trySettleBet (runtime : Runtime) (betId : String) :
    premises.contract.Runs (trySettleBet runtime betId) world := by
  apply Contract.Runs.bind (safe_gradeBet runtime betId lasts_true trivial)
  intro graded after held
  cases graded with
  | none => trivial
  | some entry =>
      have prepared : premises.Prepared after.db.ledger [entry] :=
        ⟨by simp, by simpa using (held.2 entry rfl).2⟩
      exact Contract.Runs.seq (runs_applySettlements prepared) fun _ _ => trivial

theorem runs_settleBetsForEvent (runtime : Runtime) (eventId casinoGroupId : String) :
    premises.contract.Runs (settleBetsForEvent runtime eventId casinoGroupId) world := by
  apply runs_read lasts_true trivial
  intro moment after _ _
  apply Contract.Runs.seq
  · apply Contract.Runs.foldlM
    intro settled betId state
    exact Contract.Runs.seq (runs_trySettleBet runtime betId) fun _ _ => trivial
  · exact fun _ _ => trivial

end Settlement

section Staff

theorem runs_record (entry : AuditEntry) :
    premises.contract.Runs (StaffBetsService.record entry) world := by
  apply Contract.Runs.handle
  · exact fun _ _ _ => ⟨⟨trivial, trivial⟩, fun _ _ => trivial⟩
  · exact fun _ _ => trivial

theorem runs_voidBet (casinoGroupId betId reason staffUserId : String) :
    premises.contract.Runs (StaffBetsService.voidBet casinoGroupId betId reason staffUserId)
      world := by
  apply runs_read lasts_true trivial
  intro _ after _ _
  dsimp only
  cases found : (after.db.ledger.bets.get? betId).filter
      fun bet => bet.casinoGroupId = casinoGroupId with
  | none => trivial
  | some bet =>
      obtain ⟨there, group⟩ := Option.filter_eq_some_iff.mp found
      obtain ⟨member, rfl⟩ := Table.get?_eq_some_iff.mp there
      dsimp only
      split
      · trivial
      · next accepted =>
          split
          · trivial
          · apply Contract.Runs.seq
            · intro later waited _
              have respects : (Write.voidBet bet casinoGroupId reason).Respects := by
                simpa [Write.Respects] using group
              refine ⟨⟨respects, lasts_storedAs bet waited.1 (storedAs_of_mem member),
                by simpa using accepted⟩, fun _ _ => trivial⟩
            · exact fun _ _ => Contract.Runs.seq (runs_record _) fun _ _ => trivial

theorem runs_retryWalletSettlementTransmission (casinoGroupId staffUserId : String) :
    premises.contract.Runs
      (StaffSettlementService.retryWalletSettlementTransmission casinoGroupId staffUserId)
      world := by
  have reads : (StaffSettlementService.countPending casinoGroupId).CallsOnly Reading :=
    reads_call trivial
  apply Contract.Runs.bind (safe_reading reads lasts_true trivial)
  intro pendingBefore _ _
  split
  · trivial
  · apply Contract.Runs.seq
    · exact fun _ _ _ => ⟨⟨trivial, trivial⟩, fun _ _ => trivial⟩
    · intro _ _
      apply Contract.Runs.bind (runs_flushUpTo casinoGroupId 100)
      intro batchesSent _ _
      apply Contract.Runs.bind (safe_reading reads lasts_true trivial)
      intro pendingAfter _ _
      exact Contract.Runs.seq (runs_record _) fun _ _ => trivial

end Staff

section Actors

theorem runs_poll {α : Type} {program : Betting α} (runs : premises.contract.Runs program world) :
    premises.contract.Runs (Actor.poll program) world :=
  Contract.Runs.handle (Contract.Runs.void runs) fun _ _ => trivial

/-- Every actor keeps to the contract, whatever the state it starts in. -/
theorem runs_actor (config : EnvConfig) (runtime : Runtime) (actor : Actor) (world : World) :
    premises.contract.Runs (actor.program config runtime) world := by
  cases actor with
  | placeBet user idempotencyKey selectionIds stake =>
      exact Contract.Runs.void (runs_placeBet config user idempotencyKey selectionIds stake)
  | pollOutbox => exact runs_poll runs_processPending
  | pollSettlement => exact runs_poll (runs_settleBatch runtime)
  | settleBatch => exact Contract.Runs.void (runs_settleBatch runtime)
  | trySettleBet betId => exact Contract.Runs.void (runs_trySettleBet runtime betId)
  | settleBetsForEvent eventId casinoGroupId =>
      exact Contract.Runs.void (runs_settleBetsForEvent runtime eventId casinoGroupId)
  | voidBet casinoGroupId betId reason staffUserId =>
      exact Contract.Runs.void (runs_voidBet casinoGroupId betId reason staffUserId)
  | retryWalletSettlementTransmission casinoGroupId staffUserId =>
      exact Contract.Runs.void
        (runs_retryWalletSettlementTransmission casinoGroupId staffUserId)

theorem healthy_start (config : EnvConfig) (runtime : Runtime) {world : World}
    (orderly : Orderly world) (actors : List Actor) :
    premises.contract.Healthy (Actor.start config runtime world actors) := by
  refine ⟨orderly, fun program member => ?_⟩
  obtain ⟨actor, _, rfl⟩ := List.mem_map.mp member
  exact runs_actor config runtime actor world

end Actors

end Premises

end SportsBetting
