import SportsBetting.Ingestion.Service
import SportsBetting.Settlement.Reads

/-!
# Two bets on one outcome

The frozen part of a leg never changes, and what a settlement writes to the legs
stays unless staff void the bet as well. So the outcome of a leg is a function of
what it froze and of the result that its settlement has read.
-/

namespace SportsBetting

open Async Ledger SettlementService Text

section Run

/-- SettlementService has settled the bet, and staff have not voided it. -/
def SettledByService (ledger : Ledger) (betId : String) : Prop :=
  ledger.outboxOf betId .walletSettle ≠ none ∧ ledger.outboxOf betId .walletStaffVoid = none

instance (ledger : Ledger) (betId : String) : Decidable (SettledByService ledger betId) :=
  inferInstanceAs (Decidable (_ ∧ _))

/-- These are the reads of the grading that settled the bet: the run whose write created the
settlement row had graded the bet in them, and wrote this grade. -/
def SettledOn (runtime : Runtime) (start : Config bettingMachine) (moves : List (Move bettingMachine))
    (betId : String) (reads : List (World × Choice)) : Prop :=
  ∃ earlier index choice later program graded batchId,
    moves = earlier ++ .run index choice :: later ∧
    (entries (start.run earlier) betId).settle = none ∧
    (entries ((start.run earlier).step (.run index choice)) betId).settle ≠ none ∧
    (start.run earlier).Awaits index (.write (.settleBet graded batchId)) ∧
    start.pool[index]? = some program ∧
    program.Ran bettingMachine (start.answered index earlier) (gradeBet runtime betId) reads
      (some graded)

variable {config : BetValidation.EnvConfig} {runtime : Runtime} {start : Config bettingMachine}
  {moves : List (Move bettingMachine)} {catalog : Catalog} {clock : Time}
  {balances : String → String → ℚ} {actors : List Actor} {betId : String}

/-- Every bet that has its settlement row got it from a run that had graded it. -/
theorem exists_settledOn {world : World} (pool : start = Actor.start config runtime world actors)
    (fresh : (entries start betId).settle = none)
    (settled : (entries (start.run moves) betId).settle ≠ none) :
    ∃ reads, SettledOn runtime start moves betId reads := by
  obtain ⟨earlier, move, later, rfl, still, now⟩ := Config.exists_turn
    (fun config => (entries config betId).settle ≠ none) (not_not.mpr fresh) settled
  rw [not_not] at still
  obtain ⟨graded, _, _, _, _, ⟨index, choice, batchId, next, rfl, waiting⟩, own, _⟩ :=
    asks_of_created still now
  have first := waiting
  rw [Config.pool_run] at first
  obtain ⟨program, initial, _⟩ := Option.map_eq_some_iff.mp first
  obtain ⟨actor, _, rfl⟩ : ∃ actor, actors[index]? = some actor ∧
      actor.program config runtime = program := by
    rw [pool] at initial
    simpa [Actor.start] using initial
  have awaits : (start.run earlier).Awaits index (.write (.settleBet graded batchId)) := ⟨next, waiting⟩
  obtain ⟨reads, ran⟩ := Settling.actor config runtime actor _ graded batchId
    ((Config.awaits_iff initial earlier).mp awaits)
  exact ⟨reads, earlier, index, choice, later, _, graded, batchId, rfl, still, now, awaits, initial,
    own ▸ ran⟩

/-- After its settlement, each leg of a bet shows the outcome that was graded for it. -/
theorem gradedOn_of_updated {reads : List (World × Choice)} {found old : Bet} {graded : GradedBet}
    {credit : Credit} {batchId : ℕ} {time : Time}
    (built : settlementCredit graded batchId time = .ok credit)
    (sorted : graded.bet = { found with legs := sortLegs found.legs }) (numbered : Numbered found.legs)
    (each : List.Forall₂ (GradedOn runtime reads) found.legs (graded.legResults.map toLegOutcome))
    (same : old.legs.map BetLeg.ungraded = found.legs.map BetLeg.ungraded) {leg : BetLeg}
    (member : leg ∈ (credit.update time old).legs) : GradedOn runtime reads leg leg.outcome := by
  unfold settlementCredit at built
  obtain ⟨transaction, _, built⟩ := Except.bind_eq_ok.mp built
  obtain rfl := Except.pure_eq_ok.mp built
  dsimp only [Credit.update] at member
  have legs : graded.bet.legs = found.legs := by
    rw [sorted]
    exact sortLegs_of_numbered numbered
  have orders : found.legs.map BetLeg.legOrder = old.legs.map BetLeg.legOrder := by
    have mapped := congrArg (List.map BetLeg.legOrder) same
    rw [List.map_map, List.map_map] at mapped
    exact mapped.symm
  have outcomes : (setLegOutcomes ((graded.bet.legs.map BetLeg.legOrder).zip
      (graded.legResults.map toLegOutcome)) old.legs).map BetLeg.outcome =
        graded.legResults.map toLegOutcome := by
    rw [legs, orders]
    apply outcome_setLegOutcomes (orders ▸ numbered.nodup)
    rw [← each.length_eq]
    simpa using (congrArg List.length same).symm
  have ungraded : List.Forall₂ (GradedOn runtime reads) (found.legs.map BetLeg.ungraded)
      (graded.legResults.map toLegOutcome) := by
    rw [List.forall₂_map_left_iff]
    exact each.imp fun _ _ own => own.ungraded
  rw [← same, ← outcomes, ← ungraded_setLegOutcomes, List.forall₂_map_left_iff,
    List.forall₂_map_right_iff, List.forall₂_same] at ungraded
  exact (ungraded leg member).of_ungraded

/-- Every leg of the run has frozen its data. -/
theorem exists_frozen
    (pool : start = Actor.start config runtime (.deployed catalog clock balances) actors) {bet : Bet}
    (stored : bet ∈ (start.run moves).state.db.ledger.bets) {leg : BetLeg} (member : leg ∈ bet.legs) :
    ∃ frozen, leg.frozen = some frozen := by
  subst pool
  obtain ⟨_, _, origin⟩ := placedIn_of_stored rfl rfl (entry_of_bet stored)
  obtain ⟨row, _, froze⟩ := origin leg member
  simp [BetLeg.frozen, froze.marketType, froze.homeTeamName, froze.awayTeamName]

/-- A leg of a bet that was settled, and not voided, shows what its settlement read. -/
theorem gradedOn_of_settledOn
    (pool : start = Actor.start config runtime (.deployed catalog clock balances) actors) {bet : Bet}
    (stored : bet ∈ (start.run moves).state.db.ledger.bets)
    (standing : (entries (start.run moves) bet.id).staffVoid = none) {reads : List (World × Choice)}
    (settled : SettledOn runtime start moves bet.id reads) {leg : BetLeg} (member : leg ∈ bet.legs) :
    GradedOn runtime reads leg leg.outcome := by
  obtain ⟨earlier, index, choice, later, program, graded, batchId, rfl, still, now, ⟨next, waiting⟩,
    initial, before, rest, history, _, ended⟩ := settled
  obtain ⟨written, time, credit, _, old, ⟨_, _, _, _, move, waiting'⟩, own, built, there, updated⟩ :=
    asks_of_created still now
  obtain rfl : written = graded := by
    cases move
    cases waiting.symm.trans waiting'
    rfl
  obtain ⟨first, found, read, here, id, sorted, grades⟩ := gradedOn_of_ends ended
  -- The bet was found in a state of the run.
  have recorded : (start.answered index earlier)[before.length]? = some (first.1, first.2) := by
    rw [history, List.append_assoc, List.getElem?_append_right le_rfl, Nat.sub_self]
    obtain ⟨bound, _⟩ := List.getElem?_eq_some_iff.mp read
    rw [List.getElem?_append_left bound, read]
  obtain ⟨past, onward, rfl, passed, _⟩ := Config.exists_answered recorded
  rw [← passed] at here
  have numbered : Numbered found.legs := by
    subst pool
    exact allNumbered_run config runtime catalog clock balances actors past _ _ (entry_of_bet here)
  have each := grades numbered fun leg member => exists_frozen pool here member
  -- From where it was found to its settlement, the bet keeps what its legs froze.
  obtain ⟨kept, stored', same, _⟩ :=
    (follows_run (start.run past) _ bet.id).bet found (id ▸ entry_of_bet here)
  rw [← Config.run_append] at stored'
  obtain rfl := Option.some.inj (stored'.symm.trans there)
  -- From its settlement on it keeps the outcomes.
  obtain ⟨last, stored'', _, legs⟩ := (follows_run _ later bet.id).bet _ updated
  have finished : ((start.run (past ++ .run index first.2 :: onward)).step (.run index choice)).run later =
      start.run (past ++ .run index first.2 :: onward ++ .run index choice :: later) :=
    (Config.run_append start _ (.run index choice :: later)).symm
  rw [finished] at stored'' legs
  obtain rfl := Option.some.inj (stored''.symm.trans (entry_of_bet stored))
  rw [legs now standing] at member
  exact gradedOn_of_updated built sorted numbered each (congrArg Prod.snd same) member

/-- **Same selection, same outcome**, where the same result was read: the outcomes of two legs
that froze the same are one function of the final results that their settlements read. -/
theorem same_result_same_outcome {ledger : Ledger}
    (pool : start = Actor.start config runtime (.deployed catalog clock balances) actors)
    (reached : ledger = (start.run moves).state.db.ledger) {first second : Bet}
    (stored : first ∈ ledger.bets) (stored' : second ∈ ledger.bets)
    (settled : SettledByService ledger first.id) (settled' : SettledByService ledger second.id)
    {leg other : BetLeg} (member : leg ∈ first.legs) (member' : other ∈ second.legs)
    (same : leg.frozen = other.frozen) :
    (∃ reads result, SettledOn runtime start moves first.id reads ∧ ResultRead reads leg result) ∧
    (∃ reads result, SettledOn runtime start moves second.id reads ∧ ResultRead reads other result) ∧
    ∃ frozen, leg.frozen = some frozen ∧ ∀ reads result reads' result',
      SettledOn runtime start moves first.id reads → ResultRead reads leg result →
      SettledOn runtime start moves second.id reads' → ResultRead reads' other result' →
        result.Final ∧ (frozen.grade runtime result).map toLegOutcome = some leg.outcome ∧
        result'.Final ∧ (frozen.grade runtime result').map toLegOutcome = some other.outcome ∧
        (result.Agrees result' → leg.outcome = other.outcome) := by
  subst reached
  have fresh : ∀ betId, (entries start betId).settle = none := fun _ => pool ▸ rfl
  obtain ⟨frozen, froze⟩ := exists_frozen pool stored member
  obtain ⟨reads, own⟩ := exists_settledOn pool (fresh first.id) settled.1
  obtain ⟨reads', own'⟩ := exists_settledOn pool (fresh second.id) settled'.1
  obtain ⟨result, read⟩ := (gradedOn_of_settledOn pool stored settled.2 own member).read
  obtain ⟨result', read'⟩ := (gradedOn_of_settledOn pool stored' settled'.2 own' member').read
  refine ⟨⟨reads, result, own, read⟩, ⟨reads', result', own', read'⟩, frozen, froze, ?_⟩
  intro reads result reads' result' own read own' read'
  obtain ⟨final, grade⟩ := (gradedOn_of_settledOn pool stored settled.2 own member).graded result read
  obtain ⟨final', grade'⟩ :=
    (gradedOn_of_settledOn pool stored' settled'.2 own' member').graded result' read'
  have graded := grade frozen froze
  have graded' := grade' frozen (same.symm.trans froze)
  refine ⟨final, graded, final', graded', fun agree => ?_⟩
  rw [frozen.grade_congr runtime agree, graded'] at graded
  exact (Option.some.inj graded).symm

end Run

section Sample

open Sample

/-- Two bets on the ants, a settlement run of the worker, and one of staff. -/
def antsTwice : Config bettingMachine :=
  start [placeBet "first", placeBet "second", .settleBatch, .settleBetsForEvent "match" "group"]

/-- The match ends while the wallet has not yet answered for the second bet, so that the first
run finds only the first one. -/
def settledApart (between : List (Move bettingMachine)) : List (Move bettingMachine) :=
  calls 0 20 "one" ++ calls 1 8 "two" ++ [matchEnds] ++ calls 2 30 "" ++ calls 1 20 "two" ++ between ++
    calls 3 30 ""

def ledgerApart (between : List (Move bettingMachine)) : Ledger :=
  (antsTwice.run (settledApart between)).state.db.ledger

/-- Staff enter another result for the match that has ended. -/
def enterResult : Session databaseMachine :=
  ⟨(Ingestion.finalizeEventResult "match" 2 3).void, List.replicate 8 (.run 0 .none)⟩

def enteredCatalog : Catalog :=
  (enterResult.result ⟨catalog .ended .settled, .empty, [], .empty⟩).catalog

/-- Both bets get their outcomes from one function of the results that were read. -/
theorem settled_apart_agree : ∃ first second : Bet, ∃ leg ∈ first.legs, ∃ other ∈ second.legs,
    first.id = "one" ∧ second.id = "two" ∧
    (∃ reads result, SettledOn asciiRuntime antsTwice (settledApart []) first.id reads ∧
      ResultRead reads leg result) ∧
    (∃ reads result, SettledOn asciiRuntime antsTwice (settledApart []) second.id reads ∧
      ResultRead reads other result) ∧
    ∃ frozen, leg.frozen = some frozen ∧ ∀ reads result reads' result',
      SettledOn asciiRuntime antsTwice (settledApart []) first.id reads →
      ResultRead reads leg result →
      SettledOn asciiRuntime antsTwice (settledApart []) second.id reads' →
      ResultRead reads' other result' →
        result.Final ∧ (frozen.grade asciiRuntime result).map toLegOutcome = some leg.outcome ∧
        result'.Final ∧ (frozen.grade asciiRuntime result').map toLegOutcome = some other.outcome ∧
        (result.Agrees result' → leg.outcome = other.outcome) := by
  have both : ∃ first ∈ (ledgerApart []).bets.rows, ∃ second ∈ (ledgerApart []).bets.rows,
      ∃ leg ∈ first.legs, ∃ other ∈ second.legs, first.id = "one" ∧ second.id = "two" ∧
        SettledByService (ledgerApart []) first.id ∧ SettledByService (ledgerApart []) second.id ∧
        leg.frozen = other.frozen := by
    decide +kernel
  obtain ⟨first, stored, second, stored', leg, member, other, member', one, two, settled, settled',
    same⟩ := both
  have pool : antsTwice = Actor.start ⟨"1", "100", "1000"⟩ asciiRuntime
      (.deployed (catalog .live .open) 0 fun _ _ => 100)
      [placeBet "first", placeBet "second", .settleBatch, .settleBetsForEvent "match" "group"] := rfl
  have reached : ledgerApart [] = (antsTwice.run (settledApart [])).state.db.ledger := rfl
  exact ⟨first, second, leg, member, other, member', one, two,
    same_result_same_outcome pool reached (Table.mem_rows.mp stored) (Table.mem_rows.mp stored')
      settled settled' member member' same⟩

/-- After another result was entered, the second bet on the ants is lost, and the first one won. -/
theorem entered_result_divides :
    let ledger := ledgerApart [.occur (.catalog enteredCatalog)]
    ∃ first ∈ ledger.bets.rows, ∃ second ∈ ledger.bets.rows,
    ∃ leg ∈ first.legs, ∃ other ∈ second.legs,
      SettledByService ledger first.id ∧ SettledByService ledger second.id ∧
      leg.selectionId = other.selectionId ∧ leg.frozen = other.frozen ∧
      leg.outcome = .won ∧ other.outcome = .lost := by
  decide +kernel

end Sample

end SportsBetting
