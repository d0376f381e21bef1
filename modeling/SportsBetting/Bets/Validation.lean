import SportsBetting.Bets.LegSnapshot
import SportsBetting.Data.Outcome
import SportsBetting.Database
import Mathlib.Data.List.Dedup
import Mathlib.Data.List.Perm.Subperm

/-!
# Validation of a placement

The query joins each requested selection with its market, event, teams, league
and offering; the rows come back in any order. The checks on the rows are pure.
-/

namespace SportsBetting.BetValidation

open Numeral

structure EnvConfig where
  BET_MIN_STAKE : String
  BET_MAX_STAKE : String
  BET_MAX_PAYOUT : String

structure ValidatedLeg where
  selectionId : String
  marketId : String
  eventId : String
  selectionName : String
  price : Numeric 10 3
  snapshot : LegPlacementSnapshot

structure ValidatedBetQuote where
  stake : ℚ
  combinedOdds : ℚ
  potentialPayout : ℚ
  legs : List ValidatedLeg

/-- A selection with what it is joined to, and whether the group offers its league. -/
structure SelectionRow where
  selection : Selection
  market : Market
  event : Event
  homeTeam : Team
  awayTeam : Team
  league : League
  sport : Sport
  offered : Bool

def joinSelection (db : Database) (casinoGroupId : String) (selection : Selection) :
    Option SelectionRow := do
  let market ← db.catalog.markets.get? selection.market
  let event ← db.catalog.events.get? market.event
  let fixture ← db.catalog.fixtures.get? event.fixture
  let homeTeam ← db.catalog.teams.get? fixture.homeTeam
  let awayTeam ← db.catalog.teams.get? fixture.awayTeam
  let league ← db.catalog.leagues.get? fixture.league
  let sport ← db.catalog.sports.get? league.sport
  return ⟨selection, market, event, homeTeam, awayTeam, league, sport,
    leagueEnabled db casinoGroupId league.key⟩

def findSelections (db : Database) (casinoGroupId : String) (ids : List String) :
    List SelectionRow :=
  (db.catalog.selections.rows.filter fun selection => selection.providerRef ∈ ids).filterMap
    (joinSelection db casinoGroupId)

section Checks

variable (config : EnvConfig)

def checkStake (stakeRaw : String) : Except Failure ℚ := do
  let stake ← newDecimal stakeRaw
  let minStake ← newDecimal config.BET_MIN_STAKE
  let maxStake ← newDecimal config.BET_MAX_STAKE
  if stake < minStake ∨ stake > maxStake then
    throw (.badRequest ("Stake must be between " ++ toFixed 2 minStake ++ " and " ++
      toFixed 2 maxStake))
  else return stake

def legSnapshot (row : SelectionRow) : LegPlacementSnapshot where
  marketType := row.market.type
  marketLine := lineText row.market.line
  homeTeamName := row.homeTeam.name
  awayTeamName := row.awayTeam.name
  eventProviderRef := row.event.providerRef
  sportKey := row.sport.key
  sportName := row.sport.name
  leagueKey := row.league.key
  leagueName := row.league.name

def validateLeg (row : SelectionRow) : Except Failure ValidatedLeg :=
  if !row.offered then throw (.notFound "Selection not available for this casino group")
  else if row.selection.status ≠ .open then
    throw (.badRequest ("Selection " ++ row.selection.name ++ " is not open for betting"))
  else if row.market.status ≠ .open then throw (.badRequest "Market is not open for betting")
  else if row.event.status = .ended ∨ row.event.status = .cancelled ∨
      row.event.status = .suspended then
    throw (.badRequest "Event is not open for betting")
  else return ⟨row.selection.providerRef, row.market.providerRef, row.event.providerRef,
    row.selection.name, row.selection.price, legSnapshot row⟩

/-- The checks before the selections are read, then those on the rows that were found. -/
def checkRequest (selectionIds : List String) (stakeRaw : String) : Except Failure ℚ :=
  if selectionIds.dedup.length ≠ selectionIds.length then
    throw (.badRequest "Duplicate selection ids are not allowed")
  else checkStake config stakeRaw

def validateRows (selectionIds : List String) (stake : ℚ) (rows : List SelectionRow) :
    Except Failure ValidatedBetQuote := do
  if rows.length ≠ selectionIds.length then
    throw (.notFound "One or more selections were not found")
  let legs ← rows.mapM validateLeg
  let combinedOdds := combinedOddsFromPrices (legs.map ValidatedLeg.price)
  let payout := potentialPayout stake combinedOdds
  let maxPayout ← newDecimal config.BET_MAX_PAYOUT
  if payout > maxPayout then
    throw (.badRequest ("Potential payout exceeds maximum of " ++ toFixed 2 maxPayout))
  else return ⟨stake, combinedOdds, payout, legs⟩

/-- The outcome of a placement check when the query returns these rows. -/
def validatePlacement (selectionIds : List String) (stakeRaw : String)
    (rows : List SelectionRow) : Except Failure ValidatedBetQuote := do
  let stake ← checkRequest config selectionIds stakeRaw
  validateRows config selectionIds stake rows

end Checks

section Accepted

variable {config : EnvConfig}

/-- An accepted leg is open on all three levels and offered to the group. -/
theorem validateLeg_ok {row : SelectionRow} {leg : ValidatedLeg}
    (accepted : validateLeg row = .ok leg) :
    row.selection.status = .open ∧ row.market.status = .open ∧
      (row.event.status ≠ .ended ∧ row.event.status ≠ .cancelled ∧
        row.event.status ≠ .suspended) ∧
      leg.selectionName = row.selection.name ∧ leg.snapshot = legSnapshot row := by
  unfold validateLeg at accepted
  split_ifs at accepted with _ selection market event
  obtain rfl := Except.ok.inj accepted
  exact ⟨not_not.mp selection, not_not.mp market, by simpa [not_or] using event, rfl, rfl⟩

theorem checkRequest_ok {selectionIds : List String} {stakeRaw : String} {stake : ℚ}
    (accepted : checkRequest config selectionIds stakeRaw = .ok stake) : selectionIds.Nodup := by
  unfold checkRequest at accepted
  split at accepted
  · cases accepted
  · next same =>
      have dedup : selectionIds.dedup = selectionIds :=
        (List.dedup_sublist selectionIds).eq_of_length (not_not.mp same)
      exact dedup ▸ selectionIds.nodup_dedup

theorem validateRows_ok {selectionIds : List String} {stake : ℚ} {rows : List SelectionRow}
    {quote : ValidatedBetQuote}
    (accepted : validateRows config selectionIds stake rows = .ok quote) :
    rows.length = selectionIds.length ∧ rows.mapM validateLeg = .ok quote.legs := by
  unfold validateRows at accepted
  dsimp only at accepted
  split at accepted
  · obtain ⟨_, impossible, _⟩ := Except.bind_eq_ok.mp accepted
    cases impossible
  · next found =>
      refine ⟨not_not.mp found, ?_⟩
      obtain ⟨legs, passed, accepted⟩ := Except.bind_eq_ok.mp accepted
      obtain ⟨maxPayout, _, accepted⟩ := Except.bind_eq_ok.mp accepted
      split at accepted
      · cases accepted
      · obtain rfl := Except.ok.inj accepted
        exact passed

/-- An accepted request has distinct selections, all found, and every row passed its checks. -/
theorem validatePlacement_ok {selectionIds : List String} {stakeRaw : String}
    {rows : List SelectionRow} {quote : ValidatedBetQuote}
    (accepted : validatePlacement config selectionIds stakeRaw rows = .ok quote) :
    selectionIds.Nodup ∧ rows.length = selectionIds.length ∧
      rows.mapM validateLeg = .ok quote.legs := by
  unfold validatePlacement at accepted
  obtain ⟨stake, request, accepted⟩ := Except.bind_eq_ok.mp accepted
  exact ⟨checkRequest_ok request, validateRows_ok accepted⟩

end Accepted

section Found

variable {db : Database} {casinoGroupId : String}

theorem joinSelection_ok {selection : Selection} {row : SelectionRow}
    (joined : joinSelection db casinoGroupId selection = some row) :
    row.selection = selection ∧ row.market ∈ db.catalog.markets ∧
      row.market.providerRef = selection.market ∧ row.event ∈ db.catalog.events ∧
      row.event.providerRef = row.market.event := by
  unfold joinSelection at joined
  simp only [Option.bind_eq_bind, Option.bind_eq_some_iff] at joined
  obtain ⟨market, market?, event, event?, _, _, _, _, _, _, _, _, _, _, same⟩ := joined
  obtain rfl := Option.some.inj same
  obtain ⟨market, on⟩ := Table.get?_eq_some_iff.mp market?
  obtain ⟨event, of⟩ := Table.get?_eq_some_iff.mp event?
  exact ⟨rfl, market, on, event, of⟩

theorem mem_findSelections {ids : List String} {row : SelectionRow}
    (found : row ∈ findSelections db casinoGroupId ids) :
    ∃ selection ∈ db.catalog.selections, joinSelection db casinoGroupId selection = some row := by
  obtain ⟨selection, kept, joined⟩ := List.mem_filterMap.mp found
  exact ⟨selection, (List.mem_filter.mp kept).1, joined⟩

/-- If as many rows were found as ids requested, no requested selection was left out. -/
theorem findSelections_complete {ids : List String}
    (found : (findSelections db casinoGroupId ids).length = ids.length) {selection : Selection}
    (stored : selection ∈ db.catalog.selections) (requested : selection.providerRef ∈ ids) :
    ∃ row ∈ findSelections db casinoGroupId ids,
      joinSelection db casinoGroupId selection = some row := by
  let wanted := db.catalog.selections.rows.filter fun selection => selection.providerRef ∈ ids
  have keys : (wanted.map Selection.providerRef).Nodup :=
    (List.Sublist.map _ List.filter_sublist).nodup db.catalog.selections.unique
  have inside : wanted.map Selection.providerRef ⊆ ids := by
    intro ref member
    obtain ⟨other, kept, rfl⟩ := List.mem_map.mp member
    simpa using (List.mem_filter.mp kept).2
  have atMost : wanted.length ≤ ids.length := by
    simpa using (keys.subperm inside).length_le
  have joined : (wanted.filterMap (joinSelection db casinoGroupId)).length = wanted.length :=
    le_antisymm (List.length_filterMap_le _ _) (found ▸ atMost)
  have here : selection ∈ wanted := List.mem_filter.mpr ⟨stored, by simpa using requested⟩
  obtain ⟨row, row?⟩ := Option.isSome_iff_exists.mp
    (List.filterMap_length_eq_length.mp joined selection here)
  exact ⟨row, List.mem_filterMap.mpr ⟨selection, here, row?⟩, row?⟩

/-- Bets are taken as long as the event is none of these. -/
def admitsBets (status : EventStatus) : Prop :=
  status ≠ .ended ∧ status ≠ .cancelled ∧ status ≠ .suspended

instance (status : EventStatus) : Decidable (admitsBets status) :=
  inferInstanceAs (Decidable (_ ∧ _))

/-- The selection, its market and its event all admit bets. -/
def Bettable (db : Database) (selection : Selection) : Prop :=
  selection.status = .open ∧ ∃ market ∈ db.catalog.markets,
    market.providerRef = selection.market ∧ market.status = .open ∧
    ∃ event ∈ db.catalog.events, event.providerRef = market.event ∧ admitsBets event.status

instance (db : Database) (selection : Selection) : Decidable (Bettable db selection) :=
  inferInstanceAs (Decidable (selection.status = .open ∧ ∃ market ∈ db.catalog.markets.rows,
    market.providerRef = selection.market ∧ market.status = .open ∧
    ∃ event ∈ db.catalog.events.rows, event.providerRef = market.event ∧ admitsBets event.status))

/-- Every stored selection of an accepted request is open for betting. -/
theorem bettable_of_accepted {config : EnvConfig} {selectionIds : List String}
    {stakeRaw : String} {rows : List SelectionRow} {quote : ValidatedBetQuote}
    (found : rows.Perm (findSelections db casinoGroupId selectionIds))
    (accepted : validatePlacement config selectionIds stakeRaw rows = .ok quote)
    {selection : Selection} (stored : selection ∈ db.catalog.selections)
    (requested : selection.providerRef ∈ selectionIds) : Bettable db selection := by
  obtain ⟨_, all, legs⟩ := validatePlacement_ok accepted
  obtain ⟨row, listed, joined⟩ :=
    findSelections_complete (found.length_eq ▸ all) stored requested
  obtain ⟨leg, passed⟩ := (Except.mapM_eq_ok legs).1 row (found.mem_iff.mpr listed)
  obtain ⟨same, market, on, event, of⟩ := joinSelection_ok joined
  obtain ⟨selectionOpen, marketOpen, admits, _⟩ := validateLeg_ok passed
  exact ⟨same ▸ selectionOpen, row.market, market, on, marketOpen, row.event, event, of, admits⟩

/-- Where an accepted leg comes from. -/
theorem leg_of_accepted {config : EnvConfig} {selectionIds : List String}
    {stakeRaw : String} {rows : List SelectionRow} {quote : ValidatedBetQuote}
    (found : rows.Perm (findSelections db casinoGroupId selectionIds))
    (accepted : validatePlacement config selectionIds stakeRaw rows = .ok quote)
    {leg : ValidatedLeg} (placed : leg ∈ quote.legs) :
    ∃ selection ∈ db.catalog.selections, ∃ market ∈ db.catalog.markets,
      market.providerRef = selection.market ∧ selection.status = .open ∧ market.status = .open ∧
      leg.selectionName = selection.name ∧ leg.snapshot.marketType = market.type ∧
      leg.snapshot.marketLine = lineText market.line := by
  obtain ⟨_, _, legs⟩ := validatePlacement_ok accepted
  obtain ⟨row, listed, passed⟩ := (Except.mapM_eq_ok legs).2 leg placed
  obtain ⟨selection, stored, joined⟩ := mem_findSelections (found.mem_iff.mp listed)
  obtain ⟨rfl, market, on, _, _⟩ := joinSelection_ok joined
  obtain ⟨selectionOpen, marketOpen, _, name, snapshot⟩ := validateLeg_ok passed
  exact ⟨row.selection, stored, row.market, market, on, selectionOpen, marketOpen, name,
    by rw [snapshot]; rfl, by rw [snapshot]; rfl⟩

end Found

end SportsBetting.BetValidation
