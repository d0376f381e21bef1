import SportsBetting.Backoffice.Holds

/-!
# Holds of one tenant and bets of another

A hold is asked for on behalf of one tenant and written to rows that all tenants
share. What it changes for the others depends on what they had on offer.
-/

namespace SportsBetting.Trading

open Async BetValidation Ingestion Numeral

section Requests

/-- The row passes all checks on a leg. -/
def onOffer (row : SelectionRow) : Bool :=
  row.offered && row.selection.status = .open && row.market.status = .open &&
    decide (admitsBets row.event.status)

/-- The leg that a row is quoted as. -/
def quotedLeg (row : SelectionRow) : ValidatedLeg :=
  ⟨row.selection.providerRef, row.market.providerRef, row.event.providerRef, row.selection.name,
    row.selection.price, legSnapshot row⟩

theorem validateLeg_eq_ok {row : SelectionRow} {leg : ValidatedLeg} :
    validateLeg row = .ok leg ↔ onOffer row = true ∧ leg = quotedLeg row := by
  constructor
  · intro accepted
    obtain ⟨selection, market, admits, _⟩ := validateLeg_ok accepted
    unfold validateLeg at accepted
    split_ifs at accepted with offered
    have admits : admitsBets row.event.status := admits
    exact ⟨by simpa [onOffer, selection, market, admits] using offered,
      (Except.ok.inj accepted).symm⟩
  · rintro ⟨offer, rfl⟩
    simp only [onOffer, Bool.and_eq_true, decide_eq_true_eq] at offer
    obtain ⟨⟨⟨offered, selection⟩, market⟩, admits⟩ := offer
    simp [validateLeg, offered, selection, market, admits.1, admits.2.1, admits.2.2, quotedLeg]
    rfl

theorem mapM_validateLeg {rows : List SelectionRow} (all : ∀ row ∈ rows, onOffer row = true) :
    rows.mapM validateLeg = .ok (rows.map quotedLeg) := by
  induction rows with
  | nil => rfl
  | cons row rest ih =>
      have own := validateLeg_eq_ok.mpr ⟨all row List.mem_cons_self, rfl⟩
      rw [List.mapM_cons, own, ih fun other member => all other (List.mem_cons_of_mem _ member)]
      rfl

variable (config : EnvConfig) (db after : Database) (casinoGroupId : String)

/-- The request is accepted for a player of the group. -/
def Accepts (selectionIds : List String) (stakeRaw : String) : Prop :=
  ∃ rows quote, rows.Perm (findSelections db casinoGroupId selectionIds) ∧
    validatePlacement config selectionIds stakeRaw rows = .ok quote

/-- The same requests of the group are accepted, whatever the limits. -/
def Unaffected : Prop :=
  ∀ config selectionIds stakeRaw, Accepts config db casinoGroupId selectionIds stakeRaw ↔
    Accepts config after casinoGroupId selectionIds stakeRaw

variable {config db after casinoGroupId}

/-- The later row is quoted like the row, and on offer if the row is. -/
def StillOffered (row later : SelectionRow) : Prop :=
  quotedLeg later = quotedLeg row ∧ (onOffer row = true → onOffer later = true)

theorem quoted_of_forall₂ {rows later : List SelectionRow}
    (related : List.Forall₂ StillOffered rows later) (offers : ∀ row ∈ rows, onOffer row = true) :
    later.map quotedLeg = rows.map quotedLeg ∧ ∀ row ∈ later, onOffer row = true := by
  induction related with
  | nil => simp
  | cons head _ ih =>
      obtain ⟨own, rest⟩ := List.forall_mem_cons.mp offers
      obtain ⟨quoted, still⟩ := ih rest
      exact ⟨by rw [List.map_cons, List.map_cons, head.1, quoted],
        List.forall_mem_cons.mpr ⟨head.2 own, still⟩⟩

/-- A request stays accepted where its rows stay on offer as they were quoted. -/
theorem Accepts.of_forall₂ {selectionIds : List String} {stakeRaw : String}
    (kept : List.Forall₂ StillOffered
      (findSelections db casinoGroupId selectionIds)
      (findSelections after casinoGroupId selectionIds))
    (accepts : Accepts config db casinoGroupId selectionIds stakeRaw) :
    Accepts config after casinoGroupId selectionIds stakeRaw := by
  obtain ⟨rows, quote, found, accepted⟩ := accepts
  obtain ⟨later, related, found'⟩ := List.perm_comp_forall₂ found kept
  obtain ⟨_, _, legs⟩ := validatePlacement_ok accepted
  have offers : ∀ row ∈ rows, onOffer row = true := by
    intro row member
    obtain ⟨leg, passed⟩ := (Except.mapM_eq_ok legs).1 row member
    exact (validateLeg_eq_ok.mp passed).1
  have same := quoted_of_forall₂ related offers
  refine ⟨later, quote, found', ?_⟩
  rw [← accepted]
  unfold validatePlacement validateRows
  rw [mapM_validateLeg offers, mapM_validateLeg same.2, same.1, related.length_eq]

/-- Only the catalog matters. -/
theorem accepts_congr {selectionIds : List String} {stakeRaw : String}
    (same : after.catalog = db.catalog) :
    Accepts config db casinoGroupId selectionIds stakeRaw ↔
      Accepts config after casinoGroupId selectionIds stakeRaw := by
  unfold Accepts findSelections joinSelection leagueEnabled
  rw [same]

/-- Limits under which a bet of one on the leg passes. -/
def limitsFor (leg : ValidatedLeg) : EnvConfig where
  BET_MIN_STAKE := "1"
  BET_MAX_STAKE := "1"
  BET_MAX_PAYOUT := toFixed 0 ⌈potentialPayout 1 (combinedOddsFromPrices [leg.price])⌉

theorem newDecimal_toFixed (whole : ℤ) : newDecimal (toFixed 0 whole) = .ok (whole : ℚ) := by
  have exact_ := roundHalfUp_exact 0 whole
  have parsed := Numeral.parse_toFixed 0 (whole : ℚ)
  rw [pow_zero, div_one] at exact_ parsed
  rw [newDecimal, parsed, exact_]

theorem validateRows_limitsFor {row : SelectionRow} (offer : onOffer row = true)
    (ref : String) : ∃ quote,
    validateRows (limitsFor (quotedLeg row)) [ref] 1 [row] = .ok quote := by
  have leg := validateLeg_eq_ok.mpr ⟨offer, rfl⟩
  have legs : [row].mapM validateLeg = .ok [quotedLeg row] :=
    mapM_validateLeg (by simpa using offer)
  have enough := Int.le_ceil (potentialPayout 1 (combinedOddsFromPrices [(quotedLeg row).price]))
  refine ⟨⟨1, combinedOddsFromPrices [(quotedLeg row).price],
    potentialPayout 1 (combinedOddsFromPrices [(quotedLeg row).price]), [quotedLeg row]⟩, ?_⟩
  unfold validateRows
  rw [legs]
  simp only [limitsFor, newDecimal_toFixed]
  simp [bind, Except.bind, not_lt.mpr enough]
  rfl

/-- A selection on offer can be bet on. -/
theorem accepts_single {selection : Selection} {row : SelectionRow}
    (stored : selection ∈ db.catalog.selections)
    (joined : joinSelection db casinoGroupId selection = some row) (offer : onOffer row = true) :
    Accepts (limitsFor (quotedLeg row)) db casinoGroupId [selection.providerRef] "1" := by
  have one : newDecimal "1" = .ok 1 := by decide +kernel
  have found : findSelections db casinoGroupId [selection.providerRef] = [row] := by
    have only := Table.filter_key_of_mem stored
    simp only [findSelections, List.mem_singleton, only]
    simp [joined]
  obtain ⟨quote, accepted⟩ := validateRows_limitsFor offer selection.providerRef
  refine ⟨[row], quote, by rw [found], ?_⟩
  have stake : checkRequest (limitsFor (quotedLeg row)) [selection.providerRef] "1" = .ok 1 := by
    simp [checkRequest, checkStake, limitsFor, one, bind, Except.bind]
    rfl
  unfold validatePlacement
  rw [stake]
  exact accepted

/-- Whoever bets on a selection finds it on offer. -/
theorem onOffer_of_accepts {config : EnvConfig} {stakeRaw : String} {selection : Selection}
    {row : SelectionRow} (stored : selection ∈ db.catalog.selections)
    (joined : joinSelection db casinoGroupId selection = some row)
    (accepts : Accepts config db casinoGroupId [selection.providerRef] stakeRaw) :
    onOffer row = true := by
  obtain ⟨rows, quote, found, accepted⟩ := accepts
  obtain ⟨_, all, legs⟩ := validatePlacement_ok accepted
  obtain ⟨row', listed, joined'⟩ :=
    findSelections_complete (found.length_eq ▸ all) stored (by simp)
  obtain rfl := Option.some.inj (joined.symm.trans joined')
  obtain ⟨leg, passed⟩ := (Except.mapM_eq_ok legs).1 row (found.mem_iff.mpr listed)
  exact (validateLeg_eq_ok.mp passed).1

end Requests

section Rows

/-- The rows of the catalog with other statuses; the rest of it is the same. -/
structure Restated (db after : Database) (onEvent : Event → Event) (onMarket : Market → Market)
    (onSelection : Selection → Selection) : Prop where
  events : ∀ ref, after.catalog.events.get? ref = (db.catalog.events.get? ref).map onEvent
  markets : ∀ ref, after.catalog.markets.get? ref = (db.catalog.markets.get? ref).map onMarket
  selections : after.catalog.selections.rows = db.catalog.selections.rows.map onSelection
  event : ∀ event, ∃ status, onEvent event = { event with status }
  market : ∀ market, ∃ status, onMarket market = { market with status }
  selection : ∀ selection, ∃ status, onSelection selection = { selection with status }
  fixtures : after.catalog.fixtures = db.catalog.fixtures
  teams : after.catalog.teams = db.catalog.teams
  leagues : after.catalog.leagues = db.catalog.leagues
  sports : after.catalog.sports = db.catalog.sports
  offering : after.catalog.casinoGroupLeagues = db.catalog.casinoGroupLeagues

variable {db after : Database} {onEvent : Event → Event} {onMarket : Market → Market}
  {onSelection : Selection → Selection} {casinoGroupId : String}

/-- The row with the statuses it has afterwards. -/
def restate (onEvent : Event → Event) (onMarket : Market → Market)
    (onSelection : Selection → Selection) (row : SelectionRow) : SelectionRow :=
  { row with
    selection := onSelection row.selection
    market := onMarket row.market
    event := onEvent row.event }

namespace Restated

variable (restated : Restated db after onEvent onMarket onSelection)

include restated

theorem quotedLeg_restate (row : SelectionRow) :
    quotedLeg (restate onEvent onMarket onSelection row) = quotedLeg row := by
  obtain ⟨_, event⟩ := restated.event row.event
  obtain ⟨_, market⟩ := restated.market row.market
  obtain ⟨_, selection⟩ := restated.selection row.selection
  simp [quotedLeg, restate, legSnapshot, event, market, selection]

theorem joinSelection_restate (selection : Selection) :
    joinSelection after casinoGroupId (onSelection selection) =
      (joinSelection db casinoGroupId selection).map (restate onEvent onMarket onSelection) := by
  have on : (onSelection selection).market = selection.market := by
    obtain ⟨_, same⟩ := restated.selection selection
    rw [same]
  unfold joinSelection
  rw [on, restated.markets, restated.fixtures, restated.teams, restated.leagues, restated.sports]
  cases db.catalog.markets.get? selection.market with
  | none => rfl
  | some market =>
      obtain ⟨_, same⟩ := restated.market market
      have of : (onMarket market).event = market.event := by rw [same]
      simp only [Option.map_some, Option.bind_eq_bind, Option.bind_some]
      rw [of, restated.events]
      cases db.catalog.events.get? market.event with
      | none => rfl
      | some event =>
          obtain ⟨_, same⟩ := restated.event event
          have fixture : (onEvent event).fixture = event.fixture := by rw [same]
          simp only [Option.map_some, Option.bind_some, fixture, leagueEnabled, restated.offering]
          simp only [Option.map_bind, Function.comp_def, Option.pure_def, Option.map_some]
          rfl

theorem findSelections_restate (selectionIds : List String) :
    findSelections after casinoGroupId selectionIds =
      (findSelections db casinoGroupId selectionIds).map
        (restate onEvent onMarket onSelection) := by
  unfold findSelections
  rw [restated.selections, List.filter_map, List.filterMap_map, List.map_filterMap]
  have kept : ((fun selection : Selection => decide (selection.providerRef ∈ selectionIds)) ∘
      onSelection) = fun selection => decide (selection.providerRef ∈ selectionIds) := by
    funext selection
    obtain ⟨_, same⟩ := restated.selection selection
    simp [same]
  rw [kept]
  exact List.filterMap_congr fun selection _ => restated.joinSelection_restate selection

/-- Other statuses affect the requests of a group if and only if they take a selection of
the group off offer, or bring one on offer. -/
theorem unaffected_iff : Unaffected db after casinoGroupId ↔
    ∀ selection ∈ db.catalog.selections, ∀ row, joinSelection db casinoGroupId selection = some row →
      onOffer (restate onEvent onMarket onSelection row) = onOffer row := by
  constructor
  · intro unaffected selection stored row joined
    have stored' : onSelection selection ∈ after.catalog.selections := by
      rw [← Table.mem_rows, restated.selections]
      exact List.mem_map_of_mem stored
    have joined' : joinSelection after casinoGroupId (onSelection selection) =
        some (restate onEvent onMarket onSelection row) := by
      rw [restated.joinSelection_restate, joined, Option.map_some]
    have ref : (onSelection selection).providerRef = selection.providerRef := by
      obtain ⟨_, same⟩ := restated.selection selection
      rw [same]
    rw [Bool.eq_iff_iff]
    constructor
    · intro offer
      have accepts := accepts_single stored' joined' offer
      rw [ref] at accepts
      exact onOffer_of_accepts stored joined ((unaffected _ _ _).mpr accepts)
    · intro offer
      have accepts := (unaffected _ _ _).mp (accepts_single stored joined offer)
      rw [← ref] at accepts
      exact onOffer_of_accepts stored' joined' accepts
  · intro same config selectionIds stakeRaw
    have each : ∀ row ∈ findSelections db casinoGroupId selectionIds,
        onOffer (restate onEvent onMarket onSelection row) = onOffer row := by
      intro row found
      obtain ⟨selection, stored, joined⟩ := mem_findSelections found
      exact same selection stored row joined
    constructor
    · apply Accepts.of_forall₂
      rw [restated.findSelections_restate, List.forall₂_map_right_iff, List.forall₂_same]
      exact fun row found => ⟨restated.quotedLeg_restate row, fun offer => by rwa [each row found]⟩
    · apply Accepts.of_forall₂
      rw [restated.findSelections_restate, List.forall₂_map_left_iff, List.forall₂_same]
      exact fun row found => ⟨(restated.quotedLeg_restate row).symm,
        fun offer => by rwa [each row found] at offer⟩

end Restated

end Rows

section Calls

/-- What trading staff of a tenant ask for. -/
inductive TradingCall
  | suspendEvent (eventId reason : String)
  | suspendMarket (marketId reason : String)
  | resumeMarket (marketId : String)

namespace TradingCall

variable (tenant staffUserId : String) (db : Database)

def program : TradingCall → Service Unit
  | .suspendEvent eventId reason => Trading.suspendEvent tenant eventId reason staffUserId
  | .suspendMarket marketId reason => Trading.suspendMarket tenant marketId reason staffUserId
  | .resumeMarket marketId => Trading.resumeMarket tenant marketId staffUserId

/-- What the call writes. -/
def effect : TradingCall → Database
  | .suspendEvent eventId _ => suspendEventRows db eventId
  | .suspendMarket marketId _ => setMarketRows db marketId .suspended .suspended
  | .resumeMarket marketId => setMarketRows db marketId .open .open

/-- The tenant is offered what it asks for, and its status allows the call. -/
def passes : TradingCall → Prop
  | .suspendEvent eventId _ => ∃ event ∈ db.catalog.events, event.providerRef = eventId ∧
      eventOffered db tenant event = true ∧ ¬ (event.status = .ended ∨ event.status = .cancelled)
  | .suspendMarket marketId _ => ∃ market ∈ db.catalog.markets, market.providerRef = marketId ∧
      ∃ event ∈ db.catalog.events, event.providerRef = market.event ∧
        eventOffered db tenant event = true ∧ ¬ (market.status = .settled ∨ market.status = .void)
  | .resumeMarket marketId => ∃ market ∈ db.catalog.markets, market.providerRef = marketId ∧
      ∃ event ∈ db.catalog.events, event.providerRef = market.event ∧
        eventOffered db tenant event = true ∧ ¬ event.status = .ended

/-- A suspension takes the row off offer; resuming brings on offer what only lacks an open
selection or market. -/
def disturbs (row : SelectionRow) : TradingCall → Bool
  | .suspendEvent eventId _ => row.event.providerRef = eventId && onOffer row
  | .suspendMarket marketId _ => row.market.providerRef = marketId && onOffer row
  | .resumeMarket marketId => row.market.providerRef = marketId && row.offered &&
      decide (admitsBets row.event.status) && !onOffer row

end TradingCall

section Effects

variable (db : Database)

theorem restated_setMarketRows (marketId : String) (marketStatus : MarketStatus)
    (selectionStatus : SelectionStatus) :
    Restated db (setMarketRows db marketId marketStatus selectionStatus) (fun event => event)
      (fun market => if market.providerRef = marketId then { market with status := marketStatus }
        else market)
      (fun selection => if selection.market = marketId then
        { selection with status := selectionStatus } else selection) where
  events ref := by simp [setMarketRows, setSelectionStatus, setMarketStatus]
  markets ref := by
    simp [setMarketRows, setSelectionStatus, setMarketStatus, Table.get?_updateWhere]
  selections := by simp [setMarketRows, setSelectionStatus, setMarketStatus, Table.updateWhere]
  event event := ⟨event.status, rfl⟩
  market market := by
    split
    · exact ⟨_, rfl⟩
    · exact ⟨market.status, rfl⟩
  selection selection := by
    split
    · exact ⟨_, rfl⟩
    · exact ⟨selection.status, rfl⟩
  fixtures := rfl
  teams := rfl
  leagues := rfl
  sports := rfl
  offering := rfl

theorem restated_suspendEventRows (eventId : String) :
    Restated db (suspendEventRows db eventId)
      (fun event => if event.providerRef = eventId then { event with status := .suspended }
        else event)
      (fun market => if market.event = eventId then { market with status := .suspended }
        else market)
      (fun selection => if selectionOfEvent db eventId selection = true then
        { selection with status := .suspended } else selection) where
  events ref := by
    simp [suspendEventRows, setSelectionStatus, setMarketStatus, setEventStatus,
      Table.get?_updateWhere]
  markets ref := by
    simp [suspendEventRows, setSelectionStatus, setMarketStatus, setEventStatus,
      Table.get?_updateWhere]
  selections := by
    simp [suspendEventRows, setSelectionStatus, setMarketStatus, setEventStatus, Table.updateWhere]
  event event := by
    split
    · exact ⟨_, rfl⟩
    · exact ⟨event.status, rfl⟩
  market market := by
    split
    · exact ⟨_, rfl⟩
    · exact ⟨market.status, rfl⟩
  selection selection := by
    split
    · exact ⟨_, rfl⟩
    · exact ⟨selection.status, rfl⟩
  fixtures := rfl
  teams := rfl
  leagues := rfl
  sports := rfl
  offering := rfl

variable {db} {casinoGroupId : String} {row : SelectionRow} {selection : Selection}

theorem selectionOfEvent_of_join (joined : joinSelection db casinoGroupId selection = some row)
    (eventId : String) :
    selectionOfEvent db eventId row.selection = decide (row.event.providerRef = eventId) := by
  obtain ⟨same, market, on, _, of⟩ := joinSelection_ok joined
  have found := Table.get?_of_mem market
  rw [on] at found
  simp [selectionOfEvent, same, found, of]

/-- A call leaves the offer of a row as it is, unless it disturbs it. -/
theorem unaffected_effect_iff (call : TradingCall) :
    Unaffected db (call.effect db) casinoGroupId ↔
      ∀ selection ∈ db.catalog.selections, ∀ row,
        joinSelection db casinoGroupId selection = some row → call.disturbs row = false := by
  cases call with
  | suspendEvent eventId reason =>
      rw [TradingCall.effect, (restated_suspendEventRows db eventId).unaffected_iff]
      refine forall₂_congr fun selection stored => forall₂_congr fun row joined => ?_
      have selections := selectionOfEvent_of_join joined eventId
      have markets := (joinSelection_ok joined).2.2.2.2
      simp only [TradingCall.disturbs, restate, selections, ← markets]
      by_cases hit : row.event.providerRef = eventId
      · simp [hit, onOffer]
      · simp [hit]
  | suspendMarket marketId reason =>
      rw [TradingCall.effect, (restated_setMarketRows db marketId _ _).unaffected_iff]
      refine forall₂_congr fun selection stored => forall₂_congr fun row joined => ?_
      obtain ⟨same, _, on, _⟩ := joinSelection_ok joined
      simp only [TradingCall.disturbs, restate, same, ← on]
      by_cases hit : row.market.providerRef = marketId
      · simp [hit, onOffer]
      · simp [hit, ← same]
  | resumeMarket marketId =>
      rw [TradingCall.effect, (restated_setMarketRows db marketId _ _).unaffected_iff]
      refine forall₂_congr fun selection stored => forall₂_congr fun row joined => ?_
      obtain ⟨same, _, on, _⟩ := joinSelection_ok joined
      simp only [TradingCall.disturbs, restate, same, ← on]
      by_cases hit : row.market.providerRef = marketId
      · by_cases offered : row.offered = true <;>
          by_cases admits : admitsBets row.event.status <;>
          simp [hit, onOffer, offered, admits]
      · simp [hit, ← same]

end Effects

section Runs

variable {tenant staffUserId casinoGroupId : String} {db : Database}

/-- The database after a call: its rows are those from before, or those the call writes. -/
def Wrote (call : TradingCall) (tenant : String) (db after : Database) : Prop :=
  call.passes tenant db ∧ after.catalog = (call.effect db).catalog

def Touched (call : TradingCall) (tenant : String) (db after : Database) : Prop :=
  after.catalog = db.catalog ∨ Wrote call tenant db after

theorem touched_refl (call : TradingCall) : Touched call tenant db db := .inl rfl

/-- From a tenant check on, the call writes and leaves its trace. -/
theorem keeps_wrote (call : TradingCall) (passes : call.passes tenant db) (entry : AuditEntry) :
    Keeps (Touched call tenant db) (fun _ after => Wrote call tenant db after)
      (do write call.effect; recordAudit entry) db := by
  have wrote : Wrote call tenant db (call.effect db) := ⟨passes, rfl⟩
  refine Upholds.bind (Upholds.write (touched_refl call) (.inr wrote)) ?_
  rintro _ after _ rfl
  refine (Upholds.weaken (fun _ held => .inr held) wrote
    (keeps_recordAudit (fun _ _ held => held) entry wrote)).mono ?_
  exact fun _ _ held => held.1

theorem keeps_assertTenantEvent (call : TradingCall) (eventId : String) :
    Keeps (Touched call tenant db) (fun event after => after = db ∧ event ∈ db.catalog.events ∧
      event.providerRef = eventId ∧ eventOffered db tenant event = true)
      (assertTenantEvent tenant eventId) db := by
  refine Upholds.bind (Upholds.read (touched_refl call)) ?_
  rintro event? after kept ⟨rfl, rfl⟩
  cases found : (after.catalog.events.get? eventId).filter
      fun event => eventOffered after tenant event with
  | none => exact Upholds.throw kept
  | some event =>
      obtain ⟨there, offered⟩ := Option.filter_eq_some_iff.mp found
      obtain ⟨member, ref⟩ := Table.get?_eq_some_iff.mp there
      exact Upholds.pure kept ⟨rfl, member, ref, offered⟩

theorem keeps_assertTenantMarket (call : TradingCall) (marketId : String) :
    Keeps (Touched call tenant db) (fun found after => after = db ∧ found.1 ∈ db.catalog.markets ∧
      found.1.providerRef = marketId ∧ found.2 ∈ db.catalog.events ∧
      found.2.providerRef = found.1.event ∧ eventOffered db tenant found.2 = true)
      (assertTenantMarket tenant marketId) db := by
  refine Upholds.bind (Upholds.read (touched_refl call)) ?_
  rintro market? after kept ⟨rfl, rfl⟩
  split
  · exact Upholds.throw kept
  · next found read =>
      simp only [Option.bind_eq_bind, Option.bind_eq_some_iff] at read
      obtain ⟨market, market?, event, event?, read⟩ := read
      split at read
      · next offered =>
          obtain rfl := Option.some.inj read
          obtain ⟨member, ref⟩ := Table.get?_eq_some_iff.mp market?
          obtain ⟨stored, of⟩ := Table.get?_eq_some_iff.mp event?
          exact Upholds.pure kept ⟨rfl, member, ref, stored, of, offered⟩
      · cases read

/-- Wherever it stops, a call has changed nothing or what it writes; where it returned, its
checks passed. -/
theorem keeps_program (call : TradingCall) (tenant staffUserId : String) (db : Database) :
    Keeps (Touched call tenant db) (fun _ after => Wrote call tenant db after)
      (call.program tenant staffUserId) db := by
  cases call with
  | suspendEvent eventId reason =>
      refine Upholds.bind (keeps_assertTenantEvent _ eventId) ?_
      rintro event after kept ⟨rfl, member, ref, offered⟩
      split
      · exact Upholds.throw kept
      · next allowed =>
          exact keeps_wrote (.suspendEvent eventId reason) ⟨event, member, ref, offered, allowed⟩ _
  | suspendMarket marketId reason =>
      refine Upholds.bind (keeps_assertTenantMarket _ marketId) ?_
      rintro ⟨market, event⟩ after kept ⟨rfl, member, ref, stored, of, offered⟩
      dsimp only
      split
      · exact Upholds.throw kept
      · next allowed =>
          exact keeps_wrote (.suspendMarket marketId reason)
            ⟨market, member, ref, event, stored, of, offered, allowed⟩ _
  | resumeMarket marketId =>
      refine Upholds.bind (keeps_assertTenantMarket _ marketId) ?_
      rintro ⟨market, event⟩ after kept ⟨rfl, member, ref, stored, of, offered⟩
      dsimp only
      split
      · exact Upholds.throw kept
      · next allowed =>
          exact keeps_wrote (.resumeMarket marketId)
            ⟨market, member, ref, event, stored, of, offered, allowed⟩ _

end Runs

/-- The call goes through, and the other group has a selection that it disturbs. -/
def TradingCall.Disturbs (call : TradingCall) (tenant other : String) (db : Database) : Prop :=
  call.passes tenant db ∧ ∃ selection ∈ db.catalog.selections, ∃ row,
    joinSelection db other selection = some row ∧ call.disturbs row = true

variable {tenant other staffUserId : String} {call : TradingCall} {db after : Database}

theorem unaffected_congr (same : after.catalog = db.catalog) : Unaffected db after other :=
  fun _ _ _ => accepts_congr same

theorem Unaffected.of_catalog {later : Database} (same : later.catalog = after.catalog)
    (unaffected : Unaffected db after other) : Unaffected db later other :=
  fun config ids stakeRaw => (unaffected config ids stakeRaw).trans (accepts_congr same)

theorem unaffected_of_wrote (wrote : Wrote call tenant db after) :
    Unaffected db after other ↔ ¬ call.Disturbs tenant other db := by
  have effect : Unaffected db after other ↔ Unaffected db (call.effect db) other :=
    ⟨.of_catalog wrote.2.symm, .of_catalog wrote.2⟩
  rw [effect, unaffected_effect_iff, TradingCall.Disturbs]
  constructor
  · rintro none ⟨_, selection, stored, row, joined, disturbed⟩
    rw [none selection stored row joined] at disturbed
    cases disturbed
  · intro undisturbed selection stored row joined
    by_contra disturbed
    exact undisturbed ⟨wrote.1, selection, stored, row, joined, by simpa using disturbed⟩

/-- A call for one tenant leaves the bets of another alone if, and where it goes through
only if, it disturbs nothing that the other has on offer or could have. -/
theorem unaffected_iff_undisturbed (call : TradingCall) (tenant other staffUserId : String)
    (db : Database) (moves : List (Move databaseMachine)) :
    let session : Session databaseMachine := ⟨call.program tenant staffUserId, moves⟩
    (¬ call.Disturbs tenant other db → Unaffected db (session.result db) other) ∧
    (session.Returned db →
      (Unaffected db (session.result db) other ↔ ¬ call.Disturbs tenant other db)) := by
  intro session
  have safe : Keeps (Touched call tenant db) (fun _ after => Wrote call tenant db after)
      session.program db := keeps_program call tenant staffUserId db
  have kept := Upholds.result (touched_refl call) safe
  refine ⟨fun undisturbed => ?_, fun returned => unaffected_of_wrote (kept.2 returned)⟩
  rcases kept.1 with same | wrote
  · exact unaffected_congr same
  · exact (unaffected_of_wrote wrote).mpr undisturbed

end Calls

section Sample

/-- Two tenants that both offer the league of the game. -/
def sharedDatabase : Database :=
  { openDatabase with
    catalog.casinoGroupLeagues :=
      ⟨[⟨"group", "basketball_nba", true, false⟩, ⟨"other", "basketball_nba", true, false⟩],
        by decide⟩ }

def suspendForGroup : Session databaseMachine :=
  ⟨TradingCall.program "group" "staff" (.suspendMarket "game:book:totals" "injury"),
    List.replicate 8 (.run 0 .none)⟩

def suspendedTwice : Session databaseMachine :=
  ⟨TradingCall.program "other" "staff" (.suspendMarket "game:book:totals" "injury"),
    List.replicate 8 (.run 0 .none)⟩

/-- The rows of a bet on over 220.5 by a player of the other tenant. -/
def overForOther (db : Database) : List SelectionRow :=
  findSelections db "other" ["game:book:totals:over:220.5"]

/-- The market that one tenant suspended can be suspended by the other without effect. -/
theorem second_suspension_unaffected :
    Unaffected (suspendForGroup.result sharedDatabase)
      (suspendedTwice.result (suspendForGroup.result sharedDatabase)) "group" := by
  have undisturbed : ∀ selection ∈ (suspendForGroup.result sharedDatabase).catalog.selections.rows,
      ∀ row ∈ (joinSelection (suspendForGroup.result sharedDatabase) "group" selection).toList,
        TradingCall.disturbs row (.suspendMarket "game:book:totals" "injury") = false := by
    decide +kernel
  refine (unaffected_iff_undisturbed (.suspendMarket "game:book:totals" "injury") "other" "group"
    "staff" (suspendForGroup.result sharedDatabase) (List.replicate 8 (.run 0 .none))).1 ?_
  rintro ⟨_, selection, stored, row, joined, disturbed⟩
  rw [undisturbed selection (Table.mem_rows.mpr stored) row (by simp [joined])] at disturbed
  cases disturbed

/-- A hold for one tenant stops the bets of the other tenant's players. -/
theorem other_tenant_affected :
    suspendForGroup.Returned sharedDatabase ∧
    leagueEnabled sharedDatabase "group" "basketball_nba" = true ∧
    leagueEnabled sharedDatabase "other" "basketball_nba" = true ∧
    (validatePlacement limits ["game:book:totals:over:220.5"] "10"
      (overForOther sharedDatabase)).toBool = true ∧
    (validatePlacement limits ["game:book:totals:over:220.5"] "10"
      (overForOther (suspendForGroup.result sharedDatabase))).toBool = false ∧
    ¬ Unaffected sharedDatabase (suspendForGroup.result sharedDatabase) "other" := by
  have before : (validatePlacement limits ["game:book:totals:over:220.5"] "10"
      (overForOther sharedDatabase)).toBool = true := by decide +kernel
  have closed : ∀ row ∈ overForOther (suspendForGroup.result sharedDatabase),
      onOffer row = false := by decide +kernel
  refine ⟨by decide +kernel, by decide +kernel, by decide +kernel, before, by decide +kernel, ?_⟩
  intro unaffected
  have accepts : Accepts limits sharedDatabase "other" ["game:book:totals:over:220.5"] "10" := by
    cases quoted : validatePlacement limits ["game:book:totals:over:220.5"] "10"
        (overForOther sharedDatabase) with
    | error failure => simp [quoted, Except.toBool] at before
    | ok quote => exact ⟨_, quote, List.Perm.refl _, quoted⟩
  obtain ⟨rows, quote, found, accepted⟩ := (unaffected _ _ _).mp accepts
  obtain ⟨_, all, legs⟩ := validatePlacement_ok accepted
  obtain ⟨row, member⟩ := List.exists_mem_of_length_pos (by rw [all]; exact Nat.one_pos)
  obtain ⟨leg, passed⟩ := (Except.mapM_eq_ok legs).1 row member
  have offer := (validateLeg_eq_ok.mp passed).1
  rw [closed row (found.mem_iff.mp member)] at offer
  cases offer

end Sample

end SportsBetting.Trading
