import SportsBetting.Async.Parts
import SportsBetting.Bets.Legs
import SportsBetting.Settlement.Races

/-!
# What a settlement has read

A run reads the bet first, and then for each leg its event and its market. What it settles is
the grade of these reads, so the history of the run says which results a bet was graded by.
-/

namespace SportsBetting

open Async Ledger SettlementService WalletOutboxService Text

section Legs

/-- What grading uses of a leg. -/
structure FrozenLeg where
  marketType : MarketType
  marketLine : Option (Numeral.Numeric 6 2)
  homeTeamName : String
  awayTeamName : String
  selectionName : String
  deriving DecidableEq

def BetLeg.frozen (leg : BetLeg) : Option FrozenLeg := do
  let marketType ← leg.marketType
  let homeTeamName ← leg.homeTeamName
  let awayTeamName ← leg.awayTeamName
  return ⟨marketType, leg.marketLine, homeTeamName, awayTeamName, leg.selectionName⟩

/-- The grade of what a leg froze under a result. -/
def FrozenLeg.grade (runtime : Runtime) (frozen : FrozenLeg) (result : LiveResult) :
    Option LegResult :=
  LegOutcome.evaluate runtime {
    marketType := frozen.marketType
    marketStatus := result.marketStatus
    marketLine := lineText frozen.marketLine
    selectionName := frozen.selectionName
    homeTeamName := frozen.homeTeamName
    awayTeamName := frozen.awayTeamName
    homeScore := result.homeScore
    awayScore := result.awayScore }

/-- The event has ended, and its market is settled or void. -/
def LiveResult.Final (result : LiveResult) : Prop :=
  result.eventStatus = .ended ∧ (result.marketStatus = .settled ∨ result.marketStatus = .void)

/-- Both markets are void, or neither is and the scores are the same. -/
def LiveResult.Agrees (first second : LiveResult) : Prop :=
  (first.marketStatus = .void ↔ second.marketStatus = .void) ∧
    (first.marketStatus ≠ .void →
      first.homeScore = second.homeScore ∧ first.awayScore = second.awayScore)

theorem FrozenLeg.grade_congr (runtime : Runtime) (frozen : FrozenLeg) {first second : LiveResult}
    (agree : first.Agrees second) : frozen.grade runtime first = frozen.grade runtime second := by
  obtain ⟨void, scores⟩ := agree
  unfold grade LegOutcome.evaluate
  by_cases voided : first.marketStatus = .void
  · simp [voided, void.mp voided]
  · obtain ⟨home, away⟩ := scores voided
    rw [if_neg voided, if_neg (fun other => voided (void.mpr other))]
    dsimp only
    rw [home, away]
    rfl

/-- The context of a leg that froze its data is made of these and the result. -/
theorem legContextAcross_of_frozen {events markets selections : Database} {leg : BetLeg}
    {frozen : FrozenLeg} {context : LegContext} (froze : leg.frozen = some frozen)
    (read : legContextAcross events markets selections leg = some context) (runtime : Runtime) :
    ∃ row market, findEvent events leg.eventId = some row ∧
      markets.catalog.markets.get? leg.marketId = some market ∧
      context.eventStatus = row.event.status ∧ context.input.marketStatus = market.status ∧
      LegOutcome.evaluate runtime context.input = frozen.grade runtime
        ⟨row.event.status, row.event.homeScore, row.event.awayScore, market.status⟩ := by
  unfold BetLeg.frozen at froze
  simp only [Option.bind_eq_bind, Option.bind_eq_some_iff, Option.pure_def,
    Option.some.injEq] at froze
  obtain ⟨marketType, type, home, homeName, away, awayName, rfl⟩ := froze
  unfold legContextAcross at read
  cases row? : findEvent events leg.eventId with
  | none => simp [row?] at read
  | some row =>
      cases market? : markets.catalog.markets.get? leg.marketId with
      | none => simp [row?, market?] at read
      | some market =>
          simp only [row?, market?, storedSnapshot, type, homeName, awayName, Option.bind_eq_bind,
            Option.bind_some, Option.pure_def, Option.some.injEq] at read
          subst read
          exact ⟨row, market, rfl, rfl, rfl, rfl, rfl⟩

end Legs

section Reads

variable {runtime : Runtime} {reads : List (World × Choice)}

/-- The result that a grading run has read for a leg: after the bet, it reads for each leg in
turn the event and the market. -/
def ResultRead (reads : List (World × Choice)) (leg : BetLeg) (result : LiveResult) : Prop :=
  ∃ events markets row market, reads[2 * leg.legOrder + 1]? = some events ∧
    reads[2 * leg.legOrder + 2]? = some markets ∧ findEvent events.1.db leg.eventId = some row ∧
    markets.1.db.catalog.markets.get? leg.marketId = some market ∧
    result = ⟨row.event.status, row.event.homeScore, row.event.awayScore, market.status⟩

theorem ends_view {α β : Type} {look : Database → α} {next : α → Betting β} {value : β}
    (ended : (view look >>= next).Ends bettingMachine reads (.ok value)) :
    ∃ first rest, reads = first :: rest ∧
      (next (look first.1.db)).Ends bettingMachine rest (.ok value) := by
  obtain ⟨own, later, answer, rfl, called, rest⟩ := Program.ends_bind ended
  obtain ⟨first, rfl, answered⟩ := Program.ends_call called
  rw [read_ok answered] at rest
  exact ⟨first, later, rfl, rest⟩

/-- A program that has ended took no more calls. -/
theorem ends_done {α : Type} {outcome : Except Failure α} {value : α}
    (ended : (Program.done outcome : Betting α).Ends bettingMachine reads (.ok value)) :
    reads = [] ∧ outcome = .ok value := by
  cases reads with
  | nil => exact ⟨rfl, ended⟩
  | cons => exact ended.elim

/-- For a leg that froze its data, its event and its market are read. -/
theorem ends_loadLegContext {leg : BetLeg} {frozen : FrozenLeg} {context : Option LegContext}
    (froze : leg.frozen = some frozen)
    (ended : (loadLegContext leg).Ends bettingMachine reads (.ok context)) :
    ∃ events markets, reads = [events, markets] ∧
      context = legContextAcross events.1.db markets.1.db markets.1.db leg := by
  unfold loadLegContext at ended
  obtain ⟨events, _, rfl, onward⟩ := ends_view ended
  obtain ⟨markets, rest, rfl, built⟩ := ends_view onward
  unfold BetLeg.frozen at froze
  simp only [Option.bind_eq_bind, Option.bind_eq_some_iff, Option.pure_def,
    Option.some.injEq] at froze
  obtain ⟨marketType, type, home, homeName, away, awayName, rfl⟩ := froze
  suffices rest = [] ∧ context = legContextAcross events.1.db markets.1.db markets.1.db leg by
    obtain ⟨rfl, same⟩ := this
    exact ⟨events, markets, rfl, same⟩
  unfold legContextAcross
  cases row? : findEvent events.1.db leg.eventId with
  | none =>
      simp only [row?] at built
      obtain ⟨rfl, same⟩ := ends_done built
      exact ⟨rfl, (Except.ok.inj same).symm⟩
  | some row =>
      cases market? : markets.1.db.catalog.markets.get? leg.marketId with
      | none =>
          simp only [row?, market?] at built
          obtain ⟨rfl, same⟩ := ends_done built
          exact ⟨rfl, (Except.ok.inj same).symm⟩
      | some market =>
          have snapshot : storedSnapshot leg row ≠ none := by
            simp [storedSnapshot, type, homeName, awayName]
          obtain ⟨stored, snapshot⟩ := Option.ne_none_iff_exists'.mp snapshot
          simp only [row?, market?, snapshot] at built ⊢
          obtain ⟨rfl, same⟩ := ends_done built
          exact ⟨rfl, (Except.ok.inj same).symm⟩

/-- One leg after the other, its context is made of the next two reads. -/
theorem ends_loadLegContexts {legs : List BetLeg} {before contexts : List (Option LegContext)}
    (froze : ∀ leg ∈ legs, ∃ frozen, leg.frozen = some frozen)
    (ended : Program.Ends bettingMachine (legs.foldlM (fun contexts leg => do
      let context ← loadLegContext leg
      return contexts ++ [context]) before : Betting _) reads (.ok contexts)) :
    ∃ own, contexts = before ++ own ∧ own.length = legs.length ∧
      ∀ place leg, legs[place]? = some leg → ∃ events markets, reads[2 * place]? = some events ∧
        reads[2 * place + 1]? = some markets ∧
        own[place]? = some (legContextAcross events.1.db markets.1.db markets.1.db leg) := by
  induction legs generalizing before reads with
  | nil =>
      obtain ⟨rfl, same⟩ := ends_done ended
      exact ⟨[], by rw [List.append_nil, Except.ok.inj same], rfl, fun _ _ none => by cases none⟩
  | cons leg rest ih =>
      rw [List.foldlM_cons] at ended
      obtain ⟨_, later, _, rfl, body, onward⟩ := Program.ends_bind ended
      obtain ⟨_, _, context, rfl, loaded, built⟩ := Program.ends_bind body
      obtain ⟨frozen, own⟩ := froze leg List.mem_cons_self
      obtain ⟨events, markets, rfl, rfl⟩ := ends_loadLegContext own loaded
      obtain ⟨rfl, same⟩ := ends_done built
      obtain rfl := Except.ok.inj same
      obtain ⟨others, rfl, length, each⟩ :=
        ih (fun other member => froze other (List.mem_cons_of_mem _ member)) onward
      refine ⟨_ :: others, by rw [List.append_assoc, List.singleton_append], by simp [length], ?_⟩
      rintro (_ | place) other there
      · obtain rfl := Option.some.inj there
        exact ⟨events, markets, rfl, rfl, rfl⟩
      · obtain ⟨events', markets', first, second, context⟩ := each place other there
        exact ⟨events', markets', first, second, context⟩

theorem ends_gradeBet {betId : String} {graded : GradedBet}
    (ended : (gradeBet runtime betId).Ends bettingMachine reads (.ok (some graded))) :
    ∃ first rest found contexts, reads = first :: rest ∧ found ∈ first.1.db.ledger.bets ∧
      found.id = betId ∧ graded.bet = { found with legs := sortLegs found.legs } ∧
      (loadLegContexts (sortLegs found.legs)).Ends bettingMachine rest (.ok contexts) ∧
      gradeContexts runtime graded.bet contexts = some graded := by
  unfold gradeBet at ended
  obtain ⟨first, rest, rfl, looked⟩ := ends_view ended
  cases accepted? : findAccepted first.1.db betId with
  | none =>
      simp only [accepted?] at looked
      cases Except.ok.inj (ends_done looked).2
  | some bet =>
      unfold findAccepted at accepted?
      simp only [findAccepted, accepted?] at looked
      obtain ⟨found, accepted, rfl⟩ := Option.map_eq_some_iff.mp accepted?
      obtain ⟨stored, _⟩ := Option.filter_eq_some_iff.mp accepted
      obtain ⟨member, own⟩ := Table.get?_eq_some_iff.mp stored
      obtain ⟨_, _, contexts, rfl, loaded, built⟩ := Program.ends_bind looked
      obtain ⟨rfl, same⟩ := ends_done built
      have grade := Except.ok.inj same
      have sorted := (Premises.gradeContexts_some grade).1
      rw [List.append_nil]
      exact ⟨first, _, found, contexts, rfl, member, own, sorted, loaded, by rw [sorted, grade]⟩

theorem id_of_ends_gradeBet {betId : String} {graded : GradedBet}
    (ended : (gradeBet runtime betId).Ends bettingMachine reads (.ok (some graded))) :
    graded.bet.id = betId := by
  obtain ⟨_, _, found, _, _, _, own, sorted, _⟩ := ends_gradeBet ended
  rw [sorted]
  exact own

/-- The outcome of a leg is the grade of what it froze under the final result that was read. -/
structure GradedOn (runtime : Runtime) (reads : List (World × Choice)) (leg : BetLeg)
    (outcome : BetLegOutcome) : Prop where
  read : ∃ result, ResultRead reads leg result
  graded : ∀ result, ResultRead reads leg result → result.Final ∧
    ∀ frozen, leg.frozen = some frozen → (frozen.grade runtime result).map toLegOutcome = some outcome

theorem GradedOn.of_ungraded {leg : BetLeg} {outcome : BetLegOutcome}
    (graded : GradedOn runtime reads leg.ungraded outcome) : GradedOn runtime reads leg outcome :=
  ⟨graded.read, graded.graded⟩

theorem GradedOn.ungraded {leg : BetLeg} {outcome : BetLegOutcome}
    (graded : GradedOn runtime reads leg outcome) : GradedOn runtime reads leg.ungraded outcome :=
  ⟨graded.read, graded.graded⟩

theorem gradedOn_of_context {leg : BetLeg} {events markets : World × Choice} {context : LegContext}
    {result : LegResult} (first : reads[2 * leg.legOrder + 1]? = some events)
    (second : reads[2 * leg.legOrder + 2]? = some markets)
    (froze : ∃ frozen, leg.frozen = some frozen)
    (read : legContextAcross events.1.db markets.1.db markets.1.db leg = some context)
    (final : isFinal context = true)
    (evaluated : LegOutcome.evaluate runtime context.input = some result) :
    GradedOn runtime reads leg (toLegOutcome result) := by
  obtain ⟨frozen, froze⟩ := froze
  obtain ⟨row, market, row?, market?, status, marketStatus, same⟩ :=
    legContextAcross_of_frozen froze read runtime
  simp only [isFinal, Bool.and_eq_true, Bool.or_eq_true, decide_eq_true_iff] at final
  rw [status, marketStatus] at final
  rw [evaluated] at same
  refine ⟨⟨_, events, markets, row, market, first, second, row?, market?, rfl⟩, ?_⟩
  rintro _ ⟨events', markets', row', market', first', second', rowRead, marketRead, rfl⟩
  obtain rfl := Option.some.inj (first'.symm.trans first)
  obtain rfl := Option.some.inj (second'.symm.trans second)
  obtain rfl := Option.some.inj (rowRead.symm.trans row?)
  obtain rfl := Option.some.inj (marketRead.symm.trans market?)
  refine ⟨final, fun other froze' => ?_⟩
  obtain rfl := Option.some.inj (froze'.symm.trans froze)
  rw [← same]
  rfl

/-- A run that returns a grade has graded each leg of the bet it found on what it read for it. -/
theorem gradedOn_of_ends {betId : String} {graded : GradedBet}
    (ended : (gradeBet runtime betId).Ends bettingMachine reads (.ok (some graded))) :
    ∃ first found, reads[0]? = some first ∧ found ∈ first.1.db.ledger.bets ∧ found.id = betId ∧
      graded.bet = { found with legs := sortLegs found.legs } ∧
      (Numbered found.legs → (∀ leg ∈ found.legs, ∃ frozen, leg.frozen = some frozen) →
        List.Forall₂ (GradedOn runtime reads) found.legs (graded.legResults.map toLegOutcome)) := by
  obtain ⟨first, rest, found, contexts, rfl, member, own, sorted, loaded, all⟩ := ends_gradeBet ended
  refine ⟨first, found, rfl, member, own, sorted, fun numbered froze => ?_⟩
  rw [sortLegs_of_numbered numbered] at loaded
  obtain ⟨_, rfl, length, each⟩ := ends_loadLegContexts froze loaded
  obtain ⟨known, contexts, final, evaluated⟩ := legResults_of_graded all
  rw [List.forall₂_map_right_iff, List.forall₂_iff_get]
  refine ⟨by rw [← length, contexts.length_eq, evaluated.length_eq], fun place bound bound' => ?_⟩
  have listed : found.legs[place]? = some (found.legs.get ⟨place, bound⟩) := by simp
  have order : (found.legs.get ⟨place, bound⟩).legOrder = place := by
    have mapped := congrArg (fun orders => orders[place]?) numbered
    simpa [bound] using mapped
  obtain ⟨events, markets, one, two, context⟩ := each place _ listed
  have here : place < known.length := by rwa [evaluated.length_eq]
  have own' := (List.forall₂_iff_get.mp contexts).2 place
    (by rwa [contexts.length_eq]) here
  have result := (List.forall₂_iff_get.mp evaluated).2 place here bound'
  have eventsRead : (first :: rest)[2 * (found.legs.get ⟨place, bound⟩).legOrder + 1]? =
      some events := by rwa [order, List.getElem?_cons_succ]
  have marketsRead : (first :: rest)[2 * (found.legs.get ⟨place, bound⟩).legOrder + 2]? =
      some markets := by rwa [order, List.getElem?_cons_succ]
  refine gradedOn_of_context eventsRead marketsRead (froze _ (List.get_mem _ _)) ?_
    (final _ (List.get_mem known ⟨place, here⟩)) result
  rw [← own']
  exact (List.getElem?_eq_some_iff.mp context).2.symm

end Reads

section Programs

variable {runtime : Runtime} {α : Type} {history : List (World × Choice)} {graded : GradedBet}
  {batchId : ℕ}

/-- Calls that settle no bet. -/
def BettingCall.Unsettling {Reply : Type} : BettingCall Reply → Prop
  | .write (.settleBet ..) => False
  | _ => True

theorem BettingCall.Placing.unsettling {Reply : Type} {request : BettingCall Reply}
    (placing : request.Placing) : request.Unsettling := by
  cases request with
  | write transaction => cases transaction <;> first | exact placing.elim | trivial
  | read | randomUUID | getBalance | postTransaction | postBatch => trivial

theorem BettingCall.Delivering.unsettling {Reply : Type} {request : BettingCall Reply}
    (delivering : request.Delivering) : request.Unsettling :=
  delivering.debiting.placing.unsettling

theorem BettingCall.Viewing.unsettling {Reply : Type} {request : BettingCall Reply}
    (viewing : request.Viewing) : request.Unsettling := by
  cases request with
  | read => trivial
  | write | randomUUID | getBalance | postTransaction | postBatch => exact viewing.elim

theorem voidBet_unsettling (casinoGroupId betId reason staffUserId : String) :
    (StaffBetsService.voidBet casinoGroupId betId reason staffUserId).CallsOnly
      BettingCall.Unsettling := by
  apply Program.CallsOnly.bind ((Program.callsOnly_call _).mpr trivial)
  intro bet?
  cases bet? with
  | none => trivial
  | some bet =>
      dsimp only
      split
      · trivial
      split
      · trivial
      apply Program.CallsOnly.bind ((Program.callsOnly_call _).mpr trivial)
      intro updated
      apply Program.CallsOnly.bind
      · exact Program.CallsOnly.handle ((Program.callsOnly_call _).mpr trivial) fun _ => trivial
      · exact fun _ => trivial

theorem not_awaits_settleBet {program : Betting α}
    (unsettling : program.CallsOnly BettingCall.Unsettling) :
    ¬ program.Awaits bettingMachine history (.write (.settleBet graded batchId)) :=
  fun awaits => unsettling.awaited awaits

theorem posting_unsettling {program : Betting α} (posting : program.CallsOnly BettingCall.Posting) :
    program.CallsOnly BettingCall.Unsettling :=
  (delivering_of_posting posting).mono fun _ delivering => delivering.unsettling

theorem gradeBet_waits (betId : String) : (gradeBet runtime betId).Waits := trivial

/-- Of the bets that it was given, a settlement run settles one after the other. -/
theorem mem_of_applySettlements {all : List GradedBet}
    (awaits : (applySettlements all).Awaits bettingMachine history
      (.write (.settleBet graded batchId))) : graded ∈ all := by
  unfold applySettlements at awaits
  rcases Program.awaits_bind awaits with persists | ⟨_, _, _, _, _, rest⟩
  · obtain ⟨entry, member, groups, _, body⟩ := Program.awaits_foldlM persists
    rcases Program.awaits_bind body with draws | ⟨_, _, ⟨drawn, known⟩, _, _, settles⟩
    · exact absurd draws (not_awaits_settleBet (posting_unsettling (batchIdFor_posting groups _)))
    · rcases Program.awaits_bind settles with writes | ⟨_, _, _, _, _, returns⟩
      · have asked : BettingCall.write (.settleBet entry drawn) = .write (.settleBet graded batchId) :=
          Program.awaits_call writes
        injection asked with _ own
        injection own with same
        exact same ▸ member
      · exact returns.waits.elim
  · refine absurd rest (not_awaits_settleBet ?_)
    exact Program.CallsOnly.bind (posting_unsettling flushSettlementBatches_posting) fun _ => trivial

/-- What a program settles, it has graded before. -/
def Settling (runtime : Runtime) (program : Betting α) : Prop :=
  ∀ history graded batchId, program.Awaits bettingMachine history (.write (.settleBet graded batchId)) →
    ∃ reads, program.Ran bettingMachine history (gradeBet runtime graded.bet.id) reads (some graded)

theorem Settling.of_unsettling {program : Betting α}
    (unsettling : program.CallsOnly BettingCall.Unsettling) : Settling runtime program :=
  fun _ _ _ awaits => absurd awaits (not_awaits_settleBet unsettling)

namespace Settling

variable {β : Type}

theorem bind {program : Betting α} {next : α → Betting β} (first : Settling runtime program)
    (second : ∀ value, Settling runtime (next value)) : Settling runtime (program >>= next) := by
  intro history graded batchId awaits
  rcases Program.awaits_bind awaits with still | ⟨own, later, value, rfl, ended, waits⟩
  · obtain ⟨reads, ran⟩ := first history graded batchId still
    exact ⟨reads, ran.within (.bind_first program next) (gradeBet_waits _)⟩
  · obtain ⟨reads, ran⟩ := second value later graded batchId waits
    exact ⟨reads, ran.within (.bind_second ended next) (gradeBet_waits _)⟩

theorem void {program : Betting α} (settling : Settling runtime program) :
    Settling runtime program.void :=
  settling.bind fun _ => .of_unsettling trivial

theorem foldlM {ι : Type} {body : β → ι → Betting β} (items : List ι) (value : β)
    (each : ∀ value item, Settling runtime (body value item)) :
    Settling runtime (items.foldlM body value) := by
  induction items generalizing value with
  | nil => exact .of_unsettling trivial
  | cons item rest ih =>
      rw [List.foldlM_cons]
      exact (each value item).bind ih

/-- A worker that logs its failure settles nothing in doing so. -/
theorem poll {program : Betting α} (settling : Settling runtime program) :
    Settling runtime (Actor.poll program) := by
  intro history graded batchId awaits
  rw [Actor.poll, Program.handle_eq_sequel] at awaits
  rcases Program.awaits_sequel awaits with still | ⟨_, _, outcome, _, _, waits⟩
  · obtain ⟨reads, ran⟩ := settling.void history graded batchId still
    exact ⟨reads, ran.within (.handle_first _ _) (gradeBet_waits _)⟩
  · cases outcome <;> exact waits.waits.elim

theorem trySettleBet (betId : String) :
    Settling runtime (SettlementService.trySettleBet runtime betId) := by
  intro history graded batchId awaits
  rcases Program.awaits_bind awaits with grades | ⟨own, later, grade, rfl, ended, waits⟩
  · refine absurd grades (not_awaits_settleBet ?_)
    exact (gradeBet_viewing betId).mono fun _ viewing => viewing.unsettling
  · cases grade with
    | none => exact waits.waits.elim
    | some entry =>
        rcases Program.awaits_bind waits with applies | ⟨_, _, _, _, _, returns⟩
        · obtain rfl := List.mem_singleton.mp (mem_of_applySettlements applies)
          rw [id_of_ends_gradeBet ended]
          exact ⟨own, ((Program.Ran.of_ends ended).within (.bind_first _ _)
            (gradeBet_waits betId)).extend later⟩
        · exact returns.waits.elim

/-- The body of the loop over the bets of a run. -/
abbrev gradeNext (runtime : Runtime) (graded : List GradedBet) (betId : String) :
    Betting (List GradedBet) := do
  let result ← gradeBet runtime betId
  return graded ++ result.toList

theorem ran_of_gradeNext {betId : String} {before all : List GradedBet}
    {history : List (World × Choice)} {graded : GradedBet}
    (ended : (gradeNext runtime before betId).Ends bettingMachine history (.ok all))
    (member : graded ∈ all) : graded ∈ before ∨ ∃ reads,
      (gradeNext runtime before betId).Ran bettingMachine history
        (gradeBet runtime graded.bet.id) reads (some graded) := by
  obtain ⟨own, later, result, rfl, grades, built⟩ := Program.ends_bind ended
  obtain rfl := Except.ok.inj (ends_done built).2
  rcases List.mem_append.mp member with old | new
  · exact .inl old
  · obtain rfl := Option.mem_toList.mp new
    refine .inr ⟨own, ?_⟩
    rw [id_of_ends_gradeBet grades]
    exact ((Program.Ran.of_ends grades).within (.bind_first _ _) (gradeBet_waits betId)).extend later

/-- What a run has graded, bet by bet. -/
theorem ran_of_gradeBets {betIds : List String} {before all : List GradedBet}
    {history : List (World × Choice)} {graded : GradedBet}
    (ended : Program.Ends bettingMachine (betIds.foldlM (gradeNext runtime) before) history (.ok all))
    (member : graded ∈ all) : graded ∈ before ∨ ∃ reads,
      Program.Ran bettingMachine (betIds.foldlM (gradeNext runtime) before) history
        (gradeBet runtime graded.bet.id) reads (some graded) := by
  induction betIds generalizing before history with
  | nil =>
      obtain ⟨_, same⟩ := ends_done ended
      exact .inl (Except.ok.inj same ▸ member)
  | cons betId rest ih =>
      rw [List.foldlM_cons] at ended ⊢
      obtain ⟨_, later, _, rfl, body, onward⟩ := Program.ends_bind ended
      rcases ih onward with known | ⟨reads, ran⟩
      · rcases ran_of_gradeNext body known with old | ⟨reads, ran⟩
        · exact .inl old
        · exact .inr ⟨reads, (ran.within (.bind_first _ _) (gradeBet_waits _)).extend later⟩
      · exact .inr ⟨reads, ran.within (.bind_second body _) (gradeBet_waits _)⟩

theorem settleBatch : Settling runtime (SettlementService.settleBatch runtime) := by
  refine bind (.of_unsettling ((Program.callsOnly_call _).mpr trivial)) fun bets => ?_
  intro history graded batchId awaits
  rcases Program.awaits_bind awaits with grades | ⟨own, later, all, rfl, ended, waits⟩
  · refine absurd grades (not_awaits_settleBet ?_)
    exact (gradeBets_viewing _).mono fun _ viewing => viewing.unsettling
  · split at waits
    · exact waits.waits.elim
    · rcases Program.awaits_bind waits with applies | ⟨_, _, _, _, _, returns⟩
      · rcases ran_of_gradeBets ended (mem_of_applySettlements applies) with known | ⟨reads, ran⟩
        · cases known
        · exact ⟨reads, (ran.within (.bind_first _ _) (gradeBet_waits _)).extend later⟩
      · exact returns.waits.elim

theorem settleBetsForEvent (eventId casinoGroupId : String) :
    Settling runtime (SettlementService.settleBetsForEvent runtime eventId casinoGroupId) := by
  refine bind (.of_unsettling ((Program.callsOnly_call _).mpr trivial)) fun bets => ?_
  refine bind (foldlM _ _ fun settled betId => ?_) fun settled => .of_unsettling trivial
  exact (trySettleBet betId).bind fun done => .of_unsettling trivial

theorem actor (config : BetValidation.EnvConfig) (runtime : Runtime) (actor : Actor) :
    Settling runtime (actor.program config runtime) := by
  cases actor with
  | placeBet user idempotencyKey selectionIds stake =>
      exact .of_unsettling ((placeBet_placing ..).mono fun _ placing => placing.unsettling).void
  | pollOutbox =>
      exact (of_unsettling (processPending_debiting.mono
        fun _ debiting => debiting.placing.unsettling)).poll
  | pollSettlement => exact settleBatch.poll
  | settleBatch => exact settleBatch.void
  | trySettleBet betId => exact (trySettleBet betId).void
  | settleBetsForEvent eventId casinoGroupId => exact (settleBetsForEvent eventId casinoGroupId).void
  | voidBet casinoGroupId betId reason staffUserId =>
      exact .of_unsettling (voidBet_unsettling casinoGroupId betId reason staffUserId).void
  | retryWalletSettlementTransmission casinoGroupId staffUserId =>
      exact .of_unsettling ((retryWalletSettlementTransmission_delivering casinoGroupId
        staffUserId).mono fun _ delivering => delivering.unsettling).void

end Settling

end Programs

end SportsBetting
