import SportsBetting.Database

/-!
# Trading: suspending and resuming
-/

namespace SportsBetting.Trading

open Async

def tradingEntry (staffUserId casinoGroupId action entityType entityId : String)
    (reason : Option String) : AuditEntry where
  actorType := "staff"
  actorId := staffUserId
  casinoGroupId := casinoGroupId
  action := action
  entityType := entityType
  entityId := entityId
  before := []
  after := []
  reason := reason

section Tenant

def assertTenantEvent (casinoGroupId eventId : String) : Service Event := do
  let event ← read fun db =>
    (db.catalog.events.get? eventId).filter fun event => eventOffered db casinoGroupId event
  match event with
  | none => throw (.notFound "Event not found for this tenant")
  | some event => pure event

/-- The market with its event. -/
def assertTenantMarket (casinoGroupId marketId : String) : Service (Market × Event) := do
  let market ← read fun db => do
    let market ← db.catalog.markets.get? marketId
    let event ← db.catalog.events.get? market.event
    if eventOffered db casinoGroupId event then some (market, event) else none
  match market with
  | none => throw (.notFound "Market not found for this tenant")
  | some market => pure market

end Tenant

section Writes

variable (db : Database)

def setEventStatus (eventId : String) (status : EventStatus) : Database :=
  { db with
    catalog.events := db.catalog.events.updateWhere (fun event => event.providerRef = eventId)
      fun event => { event with status } }

def setMarketStatus (chosen : Market → Bool) (status : MarketStatus) : Database :=
  { db with
    catalog.markets := db.catalog.markets.updateWhere chosen fun market => { market with status } }

def setSelectionStatus (chosen : Selection → Bool) (status : SelectionStatus) : Database :=
  { db with
    catalog.selections := db.catalog.selections.updateWhere chosen
      fun selection => { selection with status } }

/-- The event, its markets and their selections are suspended in one transaction. -/
def suspendEventRows (eventId : String) : Database :=
  setSelectionStatus
    (setMarketStatus (setEventStatus db eventId .suspended) (fun market => market.event = eventId)
      .suspended)
    (selectionOfEvent db eventId) .suspended

def setMarketRows (marketId : String) (marketStatus : MarketStatus)
    (selectionStatus : SelectionStatus) : Database :=
  setSelectionStatus
    (setMarketStatus db (fun market => market.providerRef = marketId) marketStatus)
    (fun selection => selection.market = marketId) selectionStatus

end Writes

def suspendEvent (casinoGroupId eventId reason staffUserId : String) : Service Unit := do
  let event ← assertTenantEvent casinoGroupId eventId
  if event.status = .ended ∨ event.status = .cancelled then
    throw (.badRequest "Cannot suspend an ended or cancelled event")
  else do
    write fun db => suspendEventRows db eventId
    recordAudit (tradingEntry staffUserId casinoGroupId "trading.event_suspended" "Event" eventId
      (some reason))

def suspendMarket (casinoGroupId marketId reason staffUserId : String) : Service Unit := do
  let (market, _) ← assertTenantMarket casinoGroupId marketId
  if market.status = .settled ∨ market.status = .void then
    throw (.badRequest "Cannot suspend a settled or void market")
  else do
    write fun db => setMarketRows db marketId .suspended .suspended
    recordAudit (tradingEntry staffUserId casinoGroupId "trading.market_suspended" "Market" marketId
      (some reason))

def resumeMarket (casinoGroupId marketId staffUserId : String) : Service Unit := do
  let (_, event) ← assertTenantMarket casinoGroupId marketId
  if event.status = .ended then
    throw (.badRequest "Cannot resume market on an ended event")
  else do
    write fun db => setMarketRows db marketId .open .open
    recordAudit (tradingEntry staffUserId casinoGroupId "trading.market_resumed" "Market" marketId
      none)

end SportsBetting.Trading
