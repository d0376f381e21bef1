import SportsBetting.Settlement.Calls
import SportsBetting.Settlement.Frozen

/-!
# Grading from what was read

A settlement run reads the bet, and then the result of one leg after the other,
each when it gets there. The rules here say what a run has graded, under any
contract that lets it read.
-/

namespace SportsBetting

open Async Ledger SettlementService Text

section Grading

/-- What grading finds for a leg whose event, market and selection it reads one after
the other. -/
def legContextAcross (events markets selections : Database) (leg : BetLeg) : Option LegContext :=
  match findEvent events leg.eventId, markets.catalog.markets.get? leg.marketId with
  | some row, some market =>
      match storedSnapshot leg row with
      | some snapshot =>
          some ⟨buildLegSettlementInput leg snapshot market.status row.event.homeScore
            row.event.awayScore, row.event.status⟩
      | none => (selections.catalog.selections.get? leg.selectionId).map fun _ =>
          ⟨liveInput leg row market, row.event.status⟩
  | _, _ => none

/-- On one database it finds what `legContext` says. -/
theorem legContextAcross_self (db : Database) (leg : BetLeg) :
    legContextAcross db db db leg = legContext db leg := rfl

/-- The context was read for the leg from databases that were seen. -/
def ReadFor (seen : Database → Prop) (leg : BetLeg) (context : Option LegContext) : Prop :=
  ∃ events markets selections, seen events ∧ seen markets ∧ seen selections ∧
    context = legContextAcross events markets selections leg

/-- The bet was graded, leg by leg, by what was read for its legs. -/
structure GradedFrom (runtime : Runtime) (seen : Database → Prop) (bet : Bet)
    (graded : GradedBet) : Prop where
  sorted : graded.bet = { bet with legs := sortLegs bet.legs }
  accepted : bet.status = .accepted
  results : ∃ contexts, List.Forall₂ (ReadFor seen) graded.bet.legs contexts ∧
    gradeContexts runtime graded.bet contexts = some graded

theorem forall₂_of_mapM {α β : Type} {grade : α → Option β} {items : List α} {results : List β}
    (all : items.mapM grade = some results) :
    List.Forall₂ (fun item result => grade item = some result) items results := by
  induction items generalizing results with
  | nil =>
      obtain rfl := Option.some.inj all
      exact .nil
  | cons item rest ih =>
      rw [List.mapM_cons] at all
      simp only [Option.bind_eq_bind, Option.bind_eq_some_iff, Option.pure_def,
        Option.some.injEq] at all
      obtain ⟨result, here, others, later, rfl⟩ := all
      exact .cons here (ih later)

/-- A grade needs a final context for every leg, and evaluates each. -/
theorem legResults_of_graded {runtime : Runtime} {bet : Bet} {contexts : List (Option LegContext)}
    {graded : GradedBet} (all : gradeContexts runtime bet contexts = some graded) :
    ∃ found, List.Forall₂ (fun context own => context = some own) contexts found ∧
      (∀ context ∈ found, isFinal context = true) ∧
      List.Forall₂ (fun context result => LegOutcome.evaluate runtime context.input = some result)
        found graded.legResults := by
  unfold gradeContexts at all
  simp only [Option.bind_eq_bind, Option.bind_eq_some_iff] at all
  obtain ⟨found, each, all⟩ := all
  split at all
  · next final =>
      simp only [Option.pure_def, Option.bind_eq_some_iff, Option.some.injEq] at all
      obtain ⟨results, evaluated, rfl⟩ := all
      exact ⟨found, forall₂_of_mapM each, List.all_eq_true.mp final, forall₂_of_mapM evaluated⟩
  · cases all

/-- The outcome of a leg by databases that were seen. -/
def GradedBy (runtime : Runtime) (seen : Database → Prop) (leg : BetLeg)
    (outcome : BetLegOutcome) : Prop :=
  ∃ events markets selections context result, seen events ∧ seen markets ∧
    legContextAcross events markets selections leg = some context ∧ isFinal context = true ∧
    LegOutcome.evaluate runtime context.input = some result ∧ outcome = toLegOutcome result

/-- Every leg got its outcome from what was read for it. -/
theorem GradedFrom.outcomes {runtime : Runtime} {seen : Database → Prop} {bet : Bet}
    {graded : GradedBet} (own : GradedFrom runtime seen bet graded) :
    List.Forall₂ (GradedBy runtime seen) graded.bet.legs (graded.legResults.map toLegOutcome) := by
  obtain ⟨contexts, read, all⟩ := own.results
  obtain ⟨found, each, final, evaluated⟩ := legResults_of_graded all
  rw [List.forall₂_map_right_iff]
  clear all
  generalize graded.bet.legs = legs at read
  generalize graded.legResults = results at evaluated
  induction read generalizing found results with
  | nil =>
      cases each
      cases evaluated
      exact .nil
  | cons here _ ih =>
      cases each with
      | cons context others =>
          cases evaluated with
          | cons result later =>
              obtain ⟨events, markets, selections, visited, visited', _, rfl⟩ := here
              have rest := fun other member => final other (List.mem_cons_of_mem _ member)
              refine .cons ?_ (ih _ others rest _ later)
              exact ⟨events, markets, selections, _, _, visited, visited', context,
                final _ List.mem_cons_self, result, rfl⟩

/-- Every leg got a result. -/
theorem GradedFrom.length {runtime : Runtime} {seen : Database → Prop} {bet : Bet}
    {graded : GradedBet} (own : GradedFrom runtime seen bet graded) :
    graded.legResults.length = graded.bet.legs.length := by
  simpa using own.outcomes.length_eq.symm

end Grading

section Programs

/-- A bet was graded as it was found. -/
def GradedAsFound (runtime : Runtime) (seen : Database → Prop) (found : Bet → World → Prop)
    (graded : GradedBet) (world : World) : Prop :=
  ∃ bet, found bet world ∧ GradedFrom runtime seen bet graded

/-- What a contract lets settlement runs do: its reads are seen, delivery is proper, and so is
the settlement of a bet that was graded as it was found. -/
structure Grades (contract : Contract bettingMachine) (runtime : Runtime)
    (seen : Database → Prop) (found : Bet → World → Prop) : Prop where
  sees : ∀ {Reply : Type} {request : BettingCall Reply} {world choice},
    contract.admits world choice request → seen world.db
  delivers : ∀ {Reply : Type} {request : BettingCall Reply} world, request.Delivering →
    contract.proper request world
  settles : ∀ {graded batchId world}, GradedAsFound runtime seen found graded world →
    contract.proper (.write (.settleBet graded batchId)) world
  finds : ∀ {bet world}, bet ∈ world.db.ledger.bets → seen world.db → found bet world
  lasting : ∀ bet, contract.Lasting (found bet)

theorem safe_returned {contract : Contract bettingMachine} {α : Type} {holds : α → World → Prop}
    {value : α} {world : World} (own : holds value world) :
    contract.Safe (fun outcome after => ∀ value, outcome = .ok value → holds value after)
      (.done (.ok value)) world := by
  rintro _ ⟨⟩
  exact own

namespace Grades

variable {contract : Contract bettingMachine} {runtime : Runtime} {seen : Database → Prop}
  {found : Bet → World → Prop} (grades : Grades contract runtime seen found) {world : World}
  {α β : Type}

include grades

theorem lasting_graded (graded : GradedBet) :
    contract.Lasting (GradedAsFound runtime seen found graded) where
  waits := by
    rintro _ request before after waited ⟨bet, held, own⟩
    exact ⟨bet, (grades.lasting bet).waits request waited held, own⟩
  calls := by
    rintro _ request choice world proper ⟨bet, held, own⟩
    exact ⟨bet, (grades.lasting bet).calls request choice world proper held, own⟩

theorem lasting_allGraded (graded : List GradedBet) :
    contract.Lasting fun world =>
      ∀ entry ∈ graded, GradedAsFound runtime seen found entry world :=
  .all grades.lasting_graded

theorem runs_delivering {program : Betting α}
    (delivering : program.CallsOnly BettingCall.Delivering) : contract.Runs program world :=
  Contract.Safe.of_callsOnly (fun _ _ _ _ _ => trivial)
    (fun _ world allowed => grades.delivers world allowed) (fun _ _ _ _ _ => trivial)
    delivering trivial

/-- What a read sees was seen. -/
theorem safe_seen {look : Database → Moment → α} {next : α → Betting β}
    {post : Except Failure β → World → Prop} {fact : World → Prop}
    (lasting : contract.Lasting fact) (start : fact world)
    (rest : ∀ moment after, seen after.db → fact after →
      contract.Safe post (next (look after.db moment)) after)
    (failed : ∀ after, post (.error .database) after) :
    contract.Safe post (Program.call (.read look) >>= next) world :=
  safe_betting_read (fun later => grades.delivers later trivial)
    (fun _ waited => lasting.waits _ waited start)
    (fun moment _ after _ admitted held => rest moment after (grades.sees admitted) held)
    fun after _ => failed after

theorem safe_loadLegContext (leg : BetLeg) :
    contract.Safe (fun outcome _ => ∀ context, outcome = .ok context →
      ReadFor seen leg context) (loadLegContext leg) world := by
  have failed : ∀ context, (.error .database : Except Failure (Option LegContext)) = .ok context →
      ReadFor seen leg context := by
    intro context returned
    cases returned
  apply grades.safe_seen .trivial trivial
  · intro _ events visited _
    apply grades.safe_seen .trivial trivial
    · intro _ markets visited' _
      dsimp only
      have own : ∀ selections : World, seen selections.db → ReadFor seen leg
          (legContextAcross events.db markets.db selections.db leg) :=
        fun selections visited'' => ⟨_, _, _, visited, visited', visited'', rfl⟩
      have here := own markets visited'
      unfold legContextAcross at own here
      cases row? : findEvent events.db leg.eventId with
      | none =>
          simp only [row?] at here
          exact safe_returned here
      | some row =>
          cases market? : markets.db.catalog.markets.get? leg.marketId with
          | none =>
              simp only [row?, market?] at here
              exact safe_returned here
          | some market =>
              simp only [row?, market?] at own here
              dsimp only
              cases snapshot? : storedSnapshot leg row with
              | some snapshot =>
                  simp only [snapshot?] at here
                  exact safe_returned here
              | none =>
                  simp only [snapshot?] at own
                  apply grades.safe_seen .trivial trivial
                  · exact fun _ selections visited'' _ => safe_returned (own selections visited'')
                  · exact fun _ => failed
    · exact fun _ => failed
  · exact fun _ => failed

theorem safe_loadLegContexts (legs : List BetLeg) :
    contract.Safe (fun outcome _ => ∀ contexts, outcome = .ok contexts →
      List.Forall₂ (ReadFor seen) legs contexts) (loadLegContexts legs) world := by
  apply Contract.Safe.foldlM (fun rest contexts _ =>
    ∃ done, legs = done ++ rest ∧ List.Forall₂ (ReadFor seen) done contexts)
  · rintro leg rest contexts state ⟨done, rfl, read⟩
    apply Contract.Safe.bind (grades.safe_loadLegContext leg)
    · intro context after own
      apply Contract.Safe.done
      refine ⟨done ++ [leg], by simp, ?_⟩
      exact List.rel_append read (.cons (own context rfl) .nil)
    · exact fun _ _ _ => by simp
  · rintro contexts state ⟨done, rfl, read⟩ _ ⟨⟩
    simpa using read
  · exact ⟨[], rfl, .nil⟩

/-- A run that returns a grade has graded the bet as it found it. -/
theorem safe_gradeBet_found (betId : String) :
    contract.Safe (fun outcome after => ∀ graded, outcome = .ok (some graded) →
      GradedAsFound runtime seen found graded after) (gradeBet runtime betId) world := by
  apply grades.safe_seen .trivial trivial
  · intro _ after visited _
    dsimp only
    cases accepted? : findAccepted after.db betId with
    | none =>
        intro graded returned
        cases Except.ok.inj returned
    | some bet =>
        unfold findAccepted at accepted?
        obtain ⟨stored, accepted, rfl⟩ := Option.map_eq_some_iff.mp accepted?
        obtain ⟨there, status⟩ := Option.filter_eq_some_iff.mp accepted
        obtain ⟨member, rfl⟩ := Table.get?_eq_some_iff.mp there
        apply Contract.Safe.bind (Contract.Safe.lasting (grades.lasting stored)
          (grades.finds member visited) (grades.safe_loadLegContexts (sortLegs stored.legs)))
        · intro contexts after held graded returned
          have grade := Except.ok.inj returned
          have same := (Premises.gradeContexts_some grade).1
          refine ⟨stored, held.2, same, by simpa using status, contexts, ?_, ?_⟩
          · rw [same]
            exact held.1 contexts rfl
          · rw [same]
            exact grade
        · exact fun _ _ _ => by simp
  · exact fun _ => by simp

theorem safe_transact_settleBet {entry : GradedBet} (batchId : ℕ)
    (own : GradedAsFound runtime seen found entry world) :
    contract.Runs (transact (.settleBet entry batchId)) world :=
  fun _ waited _ => ⟨grades.settles ((grades.lasting_graded entry).waits _ waited own),
    fun _ _ => trivial⟩

theorem runs_applySettlements {graded : List GradedBet}
    (own : ∀ entry ∈ graded, GradedAsFound runtime seen found entry world) :
    contract.Runs (applySettlements graded) world := by
  apply Contract.Runs.seq
  · apply Contract.Safe.foldlM (fun rest _ world =>
      ∀ entry ∈ rest, GradedAsFound runtime seen found entry world)
    · intro entry rest batchIdByGroup state held
      apply Contract.Safe.bind (Contract.Safe.lasting (grades.lasting_allGraded _) held
        (grades.runs_delivering (delivering_of_posting (batchIdFor_posting batchIdByGroup _))))
      · rintro ⟨batchId, batchIdByGroup⟩ after ⟨_, kept⟩
        have first := kept entry List.mem_cons_self
        have others : ∀ entry ∈ rest, GradedAsFound runtime seen found entry after :=
          fun entry member => kept entry (List.mem_cons_of_mem _ member)
        apply Contract.Safe.bind (Contract.Safe.lasting (grades.lasting_allGraded rest) others
          (grades.safe_transact_settleBet batchId first))
        · exact fun _ _ kept => kept.2
        · exact fun _ _ _ => trivial
      · exact fun _ _ _ => trivial
    · exact fun _ _ _ => trivial
    · exact own
  · intro _ _
    exact Contract.Runs.seq (grades.runs_delivering
      (delivering_of_posting flushSettlementBatches_posting))
      fun _ _ => trivial

theorem runs_settleBatch : contract.Runs (settleBatch runtime) world := by
  apply grades.safe_seen .trivial trivial
  · intro moment after _ _
    have each : contract.Safe (fun outcome after => ∀ graded, outcome = .ok graded →
        ∀ entry ∈ graded, GradedAsFound runtime seen found entry after)
        (gradeBets runtime (((acceptedBets after.db moment fun _ => true).take BATCH_SIZE).map
          Bet.id)) after := by
      apply Contract.Safe.foldlM (fun _ graded world =>
        ∀ entry ∈ graded, GradedAsFound runtime seen found entry world)
      · intro betId rest graded state held
        apply Contract.Safe.bind (Contract.Safe.lasting (grades.lasting_allGraded graded) held
          (grades.safe_gradeBet_found betId))
        · rintro result after ⟨own, kept⟩ entry member
          rcases List.mem_append.mp member with old | new
          · exact kept entry old
          · exact own entry (by rw [Option.mem_toList.mp new])
        · exact fun _ _ _ => by simp
      · rintro graded state held _ ⟨⟩
        exact held
      · exact fun entry member => by cases member
    apply Contract.Runs.bind each
    intro graded after own
    split
    · trivial
    · exact Contract.Runs.seq (grades.runs_applySettlements (own graded rfl)) fun _ _ => trivial
  · exact fun _ => trivial

theorem runs_trySettleBet (betId : String) : contract.Runs (trySettleBet runtime betId) world := by
  apply Contract.Runs.bind (grades.safe_gradeBet_found betId)
  intro graded after own
  cases graded with
  | none => trivial
  | some entry =>
      have all : ∀ other ∈ [entry], GradedAsFound runtime seen found other after := by
        intro other member
        obtain rfl := List.mem_singleton.mp member
        exact own other rfl
      exact Contract.Runs.seq (grades.runs_applySettlements all) fun _ _ => trivial

theorem runs_settleBetsForEvent (eventId casinoGroupId : String) :
    contract.Runs (settleBetsForEvent runtime eventId casinoGroupId) world := by
  apply grades.safe_seen .trivial trivial
  · intro moment after _ _
    apply Contract.Runs.seq
    · apply Contract.Runs.foldlM
      intro settled betId state
      exact Contract.Runs.seq (grades.runs_trySettleBet betId) fun _ _ => trivial
    · exact fun _ _ => trivial
  · exact fun _ => trivial

end Grades

end Programs

end SportsBetting
