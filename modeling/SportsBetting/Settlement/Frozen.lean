import SportsBetting.Bets.Compliance
import SportsBetting.Bets.Gap
import SportsBetting.Bets.Legs

/-!
# Bets are graded by what they froze

Grading reads the result of the match from the catalog, and everything else
from the legs. Whatever the catalog has become, a bet is graded by the rows it
was placed on.
-/

namespace SportsBetting

open Async Ledger BetValidation SettlementService Text

section Reads

/-- What a program that only reads returns on a store that does not change. -/
def readFrom {α : Type} (db : Database) (moment : Moment) :
    Betting α → Option (Except Failure α)
  | .done outcome => some outcome
  | .await (.read look) next => readFrom db moment (next (.ok (look db moment)))
  | .await _ _ => none

variable {α β : Type} (db : Database) (moment : Moment)

theorem readFrom_bind {program : Betting α} {value : α} (next : α → Betting β)
    (returned : readFrom db moment program = some (.ok value)) :
    readFrom db moment (program >>= next) = readFrom db moment (next value) := by
  induction program with
  | done outcome =>
      obtain rfl := Option.some.inj returned
      rfl
  | await request rest ih =>
      cases request with
      | read look => exact ih _ returned
      | write | randomUUID | getBalance | postTransaction | postBatch => cases returned

theorem readFrom_foldlM {ι : Type} {body : β → ι → Betting β} {step : β → ι → β}
    (each : ∀ value item, readFrom db moment (body value item) = some (.ok (step value item)))
    (items : List ι) (value : β) :
    readFrom db moment (items.foldlM body value) = some (.ok (items.foldl step value)) := by
  induction items generalizing value with
  | nil => rfl
  | cons item rest ih =>
      rw [List.foldlM_cons, readFrom_bind db moment _ (each value item), ih]
      rfl

/-- What grading finds for a leg. -/
def legContext (leg : BetLeg) : Option LegContext :=
  match findEvent db leg.eventId, db.catalog.markets.get? leg.marketId with
  | some row, some market =>
      match storedSnapshot leg row with
      | some snapshot =>
          some ⟨buildLegSettlementInput leg snapshot market.status row.event.homeScore
            row.event.awayScore, row.event.status⟩
      | none => (db.catalog.selections.get? leg.selectionId).map fun _ =>
          ⟨liveInput leg row market, row.event.status⟩
  | _, _ => none

theorem readFrom_loadLegContext (leg : BetLeg) :
    readFrom db moment (loadLegContext leg) = some (.ok (legContext db leg)) := by
  unfold loadLegContext legContext
  rw [readFrom_bind db moment _ rfl, readFrom_bind db moment _ rfl]
  dsimp only
  generalize findEvent db leg.eventId = event?
  generalize db.catalog.markets.get? leg.marketId = market?
  cases event? with
  | none => rfl
  | some row =>
      cases market? with
      | none => rfl
      | some market =>
          dsimp only
          cases storedSnapshot leg row with
          | none => rfl
          | some snapshot => rfl

theorem readFrom_loadLegContexts (legs : List BetLeg) :
    readFrom db moment (loadLegContexts legs) = some (.ok (legs.map (legContext db))) := by
  have each : ∀ contexts leg, readFrom db moment (do
      let context ← loadLegContext leg
      return contexts ++ [context]) = some (.ok (contexts ++ [legContext db leg])) := by
    intro contexts leg
    rw [readFrom_bind db moment _ (readFrom_loadLegContext db moment leg)]
    rfl
  have appended : ∀ contexts, legs.foldl (fun contexts leg => contexts ++ [legContext db leg]) contexts =
      contexts ++ legs.map (legContext db) := by
    induction legs with
    | nil => simp
    | cons leg rest ih => simp [ih]
  rw [loadLegContexts, readFrom_foldlM db moment each, appended, List.nil_append]

theorem readFrom_gradeBet (runtime : Runtime) {bet : Bet}
    (stored : db.ledger.bets.get? bet.id = some bet) :
    readFrom db moment (gradeBet runtime bet.id) = some (.ok (if bet.status = .accepted then
      gradeContexts runtime { bet with legs := sortLegs bet.legs }
        ((sortLegs bet.legs).map (legContext db)) else none)) := by
  unfold gradeBet
  rw [readFrom_bind db moment _ rfl]
  by_cases accepted : bet.status = .accepted
  · simp only [findAccepted, stored, accepted, Option.filter_some, decide_true, if_true,
      Option.map_some]
    rw [readFrom_bind db moment _ (readFrom_loadLegContexts db moment _)]
    rfl
  · simp only [findAccepted, stored, accepted, Option.filter_some, decide_false, if_false]
    rfl

end Reads

section Placed

/-- What the catalog says about the result of a leg. -/
structure LiveResult where
  eventStatus : EventStatus
  homeScore : Option ℤ
  awayScore : Option ℤ
  marketStatus : MarketStatus
  deriving DecidableEq

def liveResult (db : Database) (leg : BetLeg) : Option LiveResult := do
  let row ← findEvent db leg.eventId
  let market ← db.catalog.markets.get? leg.marketId
  return ⟨row.event.status, row.event.homeScore, row.event.awayScore, market.status⟩

/-- The result of a leg, to be graded by the row it was placed on. -/
def placedContext (placed db : Database) (casinoGroupId : String) (leg : BetLeg) :
    Option LegContext := do
  let row ← placedRow placed casinoGroupId leg
  let live ← liveResult db leg
  return {
    input := {
      marketType := row.market.type
      marketStatus := live.marketStatus
      marketLine := lineText row.market.line
      selectionName := row.selection.name
      homeTeamName := row.homeTeam.name
      awayTeamName := row.awayTeam.name
      homeScore := live.homeScore
      awayScore := live.awayScore }
    eventStatus := live.eventStatus }

/-- The grade of a bet by the rows it was placed on. -/
def gradeAsPlaced (runtime : Runtime) (placed db : Database) (bet : Bet) : Option GradedBet :=
  if bet.status = .accepted then
    gradeContexts runtime { bet with legs := sortLegs bet.legs }
      ((sortLegs bet.legs).map (placedContext placed db bet.casinoGroupId))
  else none

variable {placed : Database} {casinoGroupId : String}

theorem legContext_of_froze {leg : BetLeg} {row : SelectionRow}
    (found : placedRow placed casinoGroupId leg = some row) (froze : leg.Froze row) (db : Database) :
    legContext db leg = placedContext placed db casinoGroupId leg := by
  unfold legContext placedContext liveResult
  rw [found]
  cases findEvent db leg.eventId with
  | none => rfl
  | some event =>
      cases db.catalog.markets.get? leg.marketId with
      | none => rfl
      | some market =>
          simp [storedSnapshot, buildLegSettlementInput, froze.marketType, froze.marketLine,
            froze.homeTeamName, froze.awayTeamName, froze.selectionName]

theorem mem_sortLegs {legs : List BetLeg} {leg : BetLeg} : leg ∈ sortLegs legs ↔ leg ∈ legs := by
  simp [sortLegs]

theorem graded_as_frozen (runtime : Runtime) {bet : Bet}
    (origin : PlacedFrom placed bet.casinoGroupId bet.legs) {db : Database}
    (stored : db.ledger.bets.get? bet.id = some bet) (moment : Moment) :
    readFrom db moment (gradeBet runtime bet.id) =
      some (.ok (gradeAsPlaced runtime placed db bet)) := by
  have same : (sortLegs bet.legs).map (legContext db) =
      (sortLegs bet.legs).map (placedContext placed db bet.casinoGroupId) := by
    apply List.map_congr_left
    intro leg member
    obtain ⟨row, found, froze⟩ := origin leg (mem_sortLegs.mp member)
    exact legContext_of_froze found froze db
  rw [readFrom_gradeBet db moment runtime stored, same, gradeAsPlaced]

/-- Only the results of its legs matter to the grade. -/
theorem gradeAsPlaced_congr (runtime : Runtime) {bet : Bet} {first second : Database}
    (agree : ∀ leg ∈ bet.legs, liveResult first leg = liveResult second leg) :
    gradeAsPlaced runtime placed first bet = gradeAsPlaced runtime placed second bet := by
  have same : (sortLegs bet.legs).map (placedContext placed first bet.casinoGroupId) =
      (sortLegs bet.legs).map (placedContext placed second bet.casinoGroupId) := by
    apply List.map_congr_left
    intro leg member
    rw [placedContext, placedContext, agree leg (mem_sortLegs.mp member)]
  rw [gradeAsPlaced, gradeAsPlaced, same]

end Placed

section Origin

/-- The actor is about to read the rows of the selections that it was asked to place. -/
def ReadsSelections (config : Config bettingMachine) (actors : List Actor) (index : ℕ) : Prop :=
  ∃ user idempotencyKey selectionIds stake,
    actors[index]? = some (.placeBet user idempotencyKey selectionIds stake) ∧
    config.Awaits index (BetsService.readSelections user.casinoGroupId selectionIds)

/-- In its next move, the actor creates the bet. -/
def CreatesBet (config : Config bettingMachine) (index : ℕ) (choice : Choice) (betId : String) :
    Prop :=
  (∃ data code, config.Awaits index (.write (.createBet data code))) ∧
    (entries config betId).bet = none ∧ (entries (config.step (.run index choice)) betId).bet ≠ none

/-- The placement that created the bet has read the rows of its selections in this state. -/
def PlacedIn (start : Config bettingMachine) (actors : List Actor)
    (moves : List (Move bettingMachine)) (betId : String) (placed : World) : Prop :=
  ∃ index earlier choice between choice' later,
    moves = earlier ++ .run index choice :: (between ++ .run index choice' :: later) ∧
    ReadsSelections (start.run earlier) actors index ∧ (start.run earlier).state = placed ∧
    CreatesBet (start.run (earlier ++ .run index choice :: between)) index choice' betId

/-- Outcomes are no part of what a leg froze. -/
theorem PlacedFrom.of_lasting {placed : Database} {bet created : Bet}
    (same : bet.lasting = created.lasting)
    (origin : PlacedFrom placed created.casinoGroupId created.legs) :
    PlacedFrom placed bet.casinoGroupId bet.legs := by
  obtain ⟨group, legs⟩ := Prod.mk.inj same
  intro leg member
  have kept : leg.ungraded ∈ created.legs.map BetLeg.ungraded :=
    legs ▸ List.mem_map_of_mem member
  obtain ⟨old, listed, frozen⟩ := List.mem_map.mp kept
  obtain ⟨row, found, froze⟩ := origin old listed
  have selection : leg.selectionId = old.selectionId := (congrArg BetLeg.selectionId frozen).symm
  refine ⟨row, ?_, ?_⟩
  · rw [← found, placedRow, placedRow, selection, group]
  · exact ⟨(congrArg BetLeg.marketType frozen).symm.trans froze.marketType,
      (congrArg BetLeg.marketLine frozen).symm.trans froze.marketLine,
      (congrArg BetLeg.homeTeamName frozen).symm.trans froze.homeTeamName,
      (congrArg BetLeg.awayTeamName frozen).symm.trans froze.awayTeamName,
      (congrArg BetLeg.selectionName frozen).symm.trans froze.selectionName⟩

variable {config : EnvConfig} {runtime : Runtime} {world : World} {actors : List Actor}
  {start : Config bettingMachine} {moves : List (Move bettingMachine)} {betId : String} {bet : Bet}

/-- A bet is created by a placement, with legs that froze the rows that the placement read. -/
theorem placedIn_of_creates (pool : start = Actor.start config runtime world actors)
    {earlier : List (Move bettingMachine)} {move : Move bettingMachine}
    (absent : (entries (start.run earlier) betId).bet = none)
    (created : (entries ((start.run earlier).step move) betId).bet = some bet)
    (later : List (Move bettingMachine)) :
    ∃ placed, PlacedIn start actors (earlier ++ move :: later) betId placed ∧
      PlacedFrom placed.db bet.casinoGroupId bet.legs := by
  obtain ⟨index, choice', program, data, rfl, waiting, creates, rfl⟩ := creates_of_new absent created
  have asked := waiting
  rw [Config.pool_run] at waiting
  obtain ⟨first, initial, rfl⟩ := Option.map_eq_some_iff.mp waiting
  obtain ⟨actor, listed, rfl⟩ : ∃ actor, actors[index]? = some actor ∧
      actor.program config runtime = first := by
    rw [pool] at initial
    simpa [Actor.start] using initial
  obtain ⟨user, key, selectionIds, stake, rfl⟩ := exists_placeBet_of_creates creates
  obtain ⟨opening, read, rest, rows, amount, quote, history, _, awaits, _, found, accepted, built⟩ :=
    placeBet_creates creates
  have second : (start.answered index earlier)[1]? = some (read.1, read.2) := by
    rw [history]
    rfl
  obtain ⟨before, between, rfl, passed, size⟩ := Config.exists_answered second
  have one : start.answered index before = [opening] := by
    rw [Config.answered_append] at history
    exact (List.append_inj history (size.trans rfl : _ = [opening].length)).1
  obtain ⟨code, next, same⟩ := creates
  refine ⟨read.1, ⟨index, before, read.2, between, choice', later, by simp, ?_, passed, ?_⟩,
    placedFrom_of_quote found accepted built⟩
  · refine ⟨user, key, selectionIds, stake, listed, ?_⟩
    rw [Config.awaits_iff initial, one]
    exact awaits
  · refine ⟨⟨data, code, next, ?_⟩, absent, ?_⟩
    · rw [asked, same]
    · rw [created]
      exact Option.some_ne_none _

/-- Every bet of a run was created by a placement, and its legs froze the rows that this
placement read. -/
theorem placedIn_of_stored (pool : start = Actor.start config runtime world actors)
    (fresh : (entries start betId).bet = none)
    (stored : (entries (start.run moves) betId).bet = some bet) :
    ∃ placed, PlacedIn start actors moves betId placed ∧
      PlacedFrom placed.db bet.casinoGroupId bet.legs := by
  have reached : (entries (start.run moves) betId).bet ≠ none := by
    rw [stored]
    exact Option.some_ne_none _
  obtain ⟨earlier, move, later, rfl, absent, created⟩ := Config.exists_turn
    (fun config => (entries config betId).bet ≠ none) (not_not.mpr fresh) reached
  rw [not_not] at absent
  obtain ⟨new, created⟩ := Option.ne_none_iff_exists'.mp created
  obtain ⟨placed, own, origin⟩ := placedIn_of_creates pool absent created later
  have finished : ((start.run earlier).step move).run later = start.run (earlier ++ move :: later) :=
    (Config.run_append start earlier (move :: later)).symm
  obtain ⟨last, stored', same, _⟩ := (follows_run _ later betId).bet new created
  rw [finished] at stored'
  obtain rfl := Option.some.inj (stored'.symm.trans stored)
  exact ⟨placed, own, origin.of_lasting same⟩

end Origin

/-- Whatever has become of the catalog, a bet is graded by the rows that its placement read
and by the results of its legs. -/
theorem graded_as_placed (config : EnvConfig) (runtime : Runtime) (catalog : Catalog) (clock : Time)
    (balances : String → String → ℚ) (actors : List Actor) (moves : List (Move bettingMachine))
    {bet : Bet} (created : bet ∈ ((Actor.start config runtime (.deployed catalog clock balances)
      actors).run moves).state.db.ledger.bets) :
    ∃ placed, PlacedIn (Actor.start config runtime (.deployed catalog clock balances) actors) actors
        moves bet.id placed ∧
      ∀ (first second : Database) (moment moment' : Moment),
        first.ledger.bets.get? bet.id = some bet → second.ledger.bets.get? bet.id = some bet →
        (∀ leg ∈ bet.legs, liveResult first leg = liveResult second leg) →
          readFrom first moment (gradeBet runtime bet.id) =
            some (.ok (gradeAsPlaced runtime placed.db first bet)) ∧
          readFrom second moment' (gradeBet runtime bet.id) =
            readFrom first moment (gradeBet runtime bet.id) := by
  obtain ⟨placed, own, origin⟩ := placedIn_of_stored rfl rfl (entry_of_bet created)
  refine ⟨placed, own, fun first second moment moment' stored stored' agree => ?_⟩
  rw [graded_as_frozen runtime origin stored moment, graded_as_frozen runtime origin stored' moment',
    gradeAsPlaced_congr runtime agree]
  exact ⟨rfl, rfl⟩

section Sample

open Sample

def placedWorld : World := ((Sample.start [placeBet "key"]).run (calls 0 12 "bet")).state

def placedBet : Bet := placedWorld.db.ledger.bets.rows.head (by decide +kernel)

def storeAfter (catalog : Catalog) : Database := { placedWorld.db with catalog }

/-- Since the placement, the teams have been renamed. -/
def renamedCatalog : Catalog :=
  { catalog .ended .settled with
    teams := ⟨[⟨"ants", "soccer", "Wasps", none⟩, ⟨"bees", "soccer", "Ants", none⟩], by simp⟩ }

theorem renamed_teams_graded_alike :
    readFrom (storeAfter renamedCatalog) ⟨0, fun _ => 0⟩ (gradeBet asciiRuntime placedBet.id) =
      readFrom (storeAfter (catalog .ended .settled)) ⟨0, fun _ => 0⟩
        (gradeBet asciiRuntime placedBet.id) := by
  have created : placedBet ∈ placedWorld.db.ledger.bets := by decide +kernel
  obtain ⟨_, _, same⟩ := graded_as_placed ⟨"1", "100", "1000"⟩ asciiRuntime (catalog .live .open) 0
    (fun _ _ => 100) [placeBet "key"] (calls 0 12 "bet") created
  refine (same _ _ ⟨0, fun _ => 0⟩ ⟨0, fun _ => 0⟩ ?_ ?_ ?_).2 <;> decide +kernel

end Sample

end SportsBetting
