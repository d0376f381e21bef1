import SportsBetting.Backoffice.Trading
import SportsBetting.Bets.Validation
import SportsBetting.Ingestion.Trace

/-!
# Trading holds under ingestion

A suspension is meant to stop betting until trading resumes. It is kept in the
status columns that ingestion overwrites, so it lasts until a run finds or
brings everything of a held market open again.
-/

namespace SportsBetting.Trading

open Async BetValidation Ingestion Text

/-- What staff suspended. -/
inductive Hold
  | market (marketId : String)
  | event (eventId : String)

namespace Hold

variable (hold : Hold)

def Covers (marketRef eventRef : String) : Prop :=
  match hold with
  | .market marketId => marketRef = marketId
  | .event eventId => eventRef = eventId

def suspend (casinoGroupId reason staffUserId : String) : Service Unit :=
  match hold with
  | .market marketId => suspendMarket casinoGroupId marketId reason staffUserId
  | .event eventId => suspendEvent casinoGroupId eventId reason staffUserId

/-- No selection of a covered market can be bet on. -/
def Held (db : Database) : Prop :=
  ∀ selection ∈ db.catalog.selections, ∀ market ∈ db.catalog.markets,
    market.providerRef = selection.market → hold.Covers market.providerRef market.event →
      ¬ Bettable db selection

end Hold

section Offers

variable (snapshot : ProviderSnapshot) (db : Database)

def OffersSelection (marketRef : String) : Prop :=
  (∃ selection ∈ db.catalog.selections, selection.market = marketRef ∧ selection.status = .open) ∨
    ∃ listed ∈ snapshot.selections, listed.marketProviderRef = marketRef ∧ listed.status = .open

def OffersMarket (marketRef eventRef : String) : Prop :=
  (∃ market ∈ db.catalog.markets, market.providerRef = marketRef ∧ market.event = eventRef ∧
    market.status = .open) ∨
    ∃ listed ∈ snapshot.markets, listed.providerRef = marketRef ∧
      listed.eventProviderRef = eventRef ∧ listed.status = .open

def OffersEvent (eventRef : String) : Prop :=
  (∃ event ∈ db.catalog.events, event.providerRef = eventRef ∧ admitsBets event.status) ∨
    ∃ listed ∈ snapshot.events, listed.providerRef = eventRef ∧ admitsBets listed.status

/-- The database and the snapshot together have a covered market open, one of
its selections open, and its event not closed. -/
def Hold.Reopens (hold : Hold) : Prop :=
  ∃ marketRef eventRef, hold.Covers marketRef eventRef ∧ OffersSelection snapshot db marketRef ∧
    OffersMarket snapshot db marketRef eventRef ∧ OffersEvent snapshot db eventRef

/-- With no covered market open in the database or the snapshot, the hold stays. -/
theorem Hold.not_reopens {snapshot : ProviderSnapshot} {db : Database} {hold : Hold}
    (stored : ∀ market ∈ db.catalog.markets.rows, market.status ≠ .open)
    (listed : ∀ market ∈ snapshot.markets, market.status ≠ .open) :
    ¬ hold.Reopens snapshot db := by
  rintro ⟨_, _, _, _, ⟨market, present, _, _, isOpen⟩ | ⟨market, present, _, _, isOpen⟩, _⟩
  · exact stored market present isOpen
  · exact listed market present isOpen

end Offers

section Traced

variable {purged : String → Prop} {snapshot : ProviderSnapshot} {db after : Database}
  (traced : Traced purged snapshot db after)

include traced in
theorem offersMarket_of_traced {market : Market} (stored : market ∈ after.catalog.markets)
    (isOpen : market.status = .open) :
    OffersMarket snapshot db market.providerRef market.event := by
  rcases traced.markets market stored with kept | ⟨listed, member, line, _, rfl⟩
  · exact .inl ⟨market, kept.of_open isOpen, rfl, rfl, isOpen⟩
  · exact .inr ⟨listed, member, rfl, rfl, isOpen⟩

include traced in
theorem offersSelection_of_traced {selection : Selection}
    (stored : selection ∈ after.catalog.selections) (isOpen : selection.status = .open) :
    OffersSelection snapshot db selection.market := by
  rcases traced.selection_cases stored with kept | ⟨listed, member, price, rfl⟩
  · exact .inl ⟨selection, kept.of_open isOpen, rfl, isOpen⟩
  · exact .inr ⟨listed, member, rfl, isOpen⟩

include traced in
theorem offersEvent_of_traced {event : Event} (stored : event ∈ after.catalog.events)
    (admits : admitsBets event.status) : OffersEvent snapshot db event.providerRef := by
  rcases traced.events event stored with kept | ⟨listed, member, rfl⟩
  · exact .inl ⟨event, kept, rfl, admits⟩
  · exact .inr ⟨listed, member, rfl, admits⟩

include traced in
/-- A run keeps the hold unless the state and its snapshot reopen it. -/
theorem Hold.held_of_traced {hold : Hold} (closed : ¬ hold.Reopens snapshot db) :
    hold.Held after := by
  rintro selection stored market present on covered
    ⟨selectionOpen, other, otherStored, otherOn, marketOpen, event, eventStored, of, admits⟩
  obtain rfl : other = market := Table.eq_of_key otherStored present (otherOn.trans on.symm)
  apply closed
  refine ⟨other.providerRef, other.event, covered, ?_, ?_, ?_⟩
  · rw [on]
    exact offersSelection_of_traced traced stored selectionOpen
  · exact offersMarket_of_traced traced present marketOpen
  · rw [← of]
    exact offersEvent_of_traced traced eventStored admits

end Traced

section Suspending

variable {hold : Hold} {db : Database}

theorem Hold.Held.of_catalog {after : Database} (held : hold.Held db)
    (same : after.catalog = db.catalog) : hold.Held after := by
  unfold Hold.Held Bettable
  rw [same]
  exact held

/-- After the audit entry the hold is still there. -/
theorem keeps_held_recordAudit (entry : AuditEntry) (held : hold.Held db) :
    Keeps (fun _ => True) (fun _ after => hold.Held after) (recordAudit entry) db :=
  (Upholds.weaken (fun _ _ => trivial) held
    (keeps_recordAudit (fun _ _ held => held.of_catalog rfl) entry held)).mono fun _ _ kept => kept.1

/-- With no covered market open, nothing of the hold can be bet on. -/
theorem Hold.held_of_closed
    (closed : ∀ market ∈ db.catalog.markets, hold.Covers market.providerRef market.event →
      market.status ≠ .open) : hold.Held db := by
  rintro selection _ market present on covered ⟨_, other, stored, otherOn, isOpen, _⟩
  obtain rfl : other = market := Table.eq_of_key stored present (otherOn.trans on.symm)
  exact closed other present covered isOpen

theorem held_setMarketRows (db : Database) (marketId : String) :
    (Hold.market marketId).Held (setMarketRows db marketId .suspended .suspended) := by
  apply Hold.held_of_closed
  intro market stored covered
  dsimp only [setMarketRows, setSelectionStatus, setMarketStatus] at stored
  rcases Table.updateWhere_cases stored with ⟨old, _, _, rfl⟩ | ⟨_, missed⟩
  · exact nofun
  · exact absurd covered (by simpa [Hold.Covers] using missed)

theorem held_suspendEventRows (db : Database) (eventId : String) :
    (Hold.event eventId).Held (suspendEventRows db eventId) := by
  apply Hold.held_of_closed
  intro market stored covered
  dsimp only [suspendEventRows, setSelectionStatus, setMarketStatus, setEventStatus] at stored
  rcases Table.updateWhere_cases stored with ⟨old, _, _, rfl⟩ | ⟨_, missed⟩
  · exact nofun
  · exact absurd covered (by simpa [Hold.Covers] using missed)

/-- A suspension that returns has closed every covered market. -/
theorem keeps_suspend (hold : Hold) (casinoGroupId reason staffUserId : String) (db : Database) :
    Keeps (fun _ => True) (fun _ after => hold.Held after)
      (hold.suspend casinoGroupId reason staffUserId) db := by
  cases hold with
  | market marketId =>
      unfold Hold.suspend suspendMarket
      refine Upholds.bind (Upholds.anything _ _) fun market db _ _ => ?_
      dsimp only
      split
      · exact Upholds.throw trivial
      · refine Upholds.bind (Upholds.write trivial trivial) ?_
        rintro _ after _ rfl
        exact keeps_held_recordAudit _ (held_setMarketRows db marketId)
  | event eventId =>
      unfold Hold.suspend suspendEvent
      refine Upholds.bind (Upholds.anything _ _) fun event db _ _ => ?_
      split
      · exact Upholds.throw trivial
      · refine Upholds.bind (Upholds.write trivial trivial) ?_
        rintro _ after _ rfl
        exact keeps_held_recordAudit _ (held_suspendEventRows db eventId)

end Suspending

/-- **A hold stops betting** through every history of ingest runs none of which
finds or brings all of a covered market open. -/
theorem rejected_while_held {runtime : Runtime} {isOddsApi : Bool} {config : EnvConfig}
    {hold : Hold} {tenant reason staffUserId : String} {moves : List (Move databaseMachine)}
    {db : Database} {sessions : List (Session databaseMachine)}
    (succeeded : Session.Returned ⟨hold.suspend tenant reason staffUserId, moves⟩ db)
    (each : Session.Each (Meets runtime isOddsApi fun _ snapshot db => ¬ hold.Reopens snapshot db)
      sessions (Session.result ⟨hold.suspend tenant reason staffUserId, moves⟩ db))
    {after : Database} (reached : after = Session.runAll sessions
      (Session.result ⟨hold.suspend tenant reason staffUserId, moves⟩ db))
    {casinoGroupId stakeRaw : String} {selectionIds : List String} {rows : List SelectionRow}
    (found : rows.Perm (findSelections after casinoGroupId selectionIds))
    {selection : Selection} (stored : selection ∈ after.catalog.selections)
    {market : Market} (present : market ∈ after.catalog.markets)
    (on : market.providerRef = selection.market)
    (covered : hold.Covers market.providerRef market.event)
    (requested : selection.providerRef ∈ selectionIds) :
    ∃ failure, validatePlacement config selectionIds stakeRaw rows = .error failure := by
  have suspended : hold.Held (Session.result ⟨hold.suspend tenant reason staffUserId, moves⟩ db) :=
    (Upholds.result trivial (keeps_suspend hold tenant reason staffUserId db)).2 succeeded
  have held : hold.Held after := by
    rw [reached]
    apply history_keeps ?_ ?_ suspended each
    · intro db after same held
      unfold Hold.Held Bettable
      rw [same.events, same.markets, same.selections]
      exact held
    · intro _ snapshot db after closed traced _
      exact Hold.held_of_traced traced closed
  cases outcome : validatePlacement config selectionIds stakeRaw rows with
  | error failure => exact ⟨failure, rfl⟩
  | ok quote =>
      exact absurd (bettable_of_accepted found outcome stored requested)
        (held selection stored market present on covered)

section Sample

def totalsHold : Hold := .market "game:book:totals"

def suspendTotals : Session databaseMachine :=
  ⟨totalsHold.suspend "group" "injury" "staff", List.replicate 8 (.run 0 .none)⟩

/-- A live tick that brings the game with these markets. -/
def liveTick (marketKeys : List String) : IngestRun :=
  .live 1 0 (some fun _ => .ok (OddsApi.mapOddsApiToSnapshot asciiRuntime 1
    (totalsFeed (.ofDigits 2205 (-1)) [] marketKeys)))

def afterTick (marketKeys : List String) : Database :=
  Session.runAll [(liveTick marketKeys).session asciiRuntime true 40]
    (suspendTotals.result openDatabase)

/-- What a bet over 220.5 is checked on after the tick. -/
def overTotals (marketKeys : List String) : List SelectionRow :=
  findSelections (afterTick marketKeys) "group" ["game:book:totals:over:220.5"]

def limits : EnvConfig := ⟨"1", "100", "1000"⟩

/-- A tick that brings the game without its totals leaves the hold in place. -/
theorem rejected_after_tick_without_totals :
    ∃ failure, validatePlacement limits ["game:book:totals:over:220.5"] "10" (overTotals ["h2h"]) =
      .error failure := by
  have returned : suspendTotals.Returned openDatabase := by decide +kernel
  have held : Session.Each
      (Meets asciiRuntime true fun _ snapshot db => ¬ totalsHold.Reopens snapshot db)
      [(liveTick ["h2h"]).session asciiRuntime true 40] (suspendTotals.result openDatabase) := by
    refine ⟨⟨liveTick ["h2h"], rfl, ?_⟩, trivial⟩
    rintro snapshot fetched
    obtain rfl := Except.ok.inj fetched
    exact Hold.not_reopens (by decide +kernel) (by decide +kernel)
  have selections : ∃ selection ∈ (afterTick ["h2h"]).catalog.selections.rows,
      selection.providerRef = "game:book:totals:over:220.5" ∧
        selection.market = "game:book:totals" := by
    decide +kernel
  have markets : ∃ market ∈ (afterTick ["h2h"]).catalog.markets.rows,
      market.providerRef = "game:book:totals" := by
    decide +kernel
  obtain ⟨selection, stored, ref, on⟩ := selections
  obtain ⟨market, present, same⟩ := markets
  have reached : afterTick ["h2h"] = Session.runAll [(liveTick ["h2h"]).session asciiRuntime true 40]
      (suspendTotals.result openDatabase) := rfl
  have found : (overTotals ["h2h"]).Perm (findSelections (afterTick ["h2h"]) "group"
      ["game:book:totals:over:220.5"]) := List.Perm.refl _
  exact rejected_while_held returned held reached found (Table.mem_rows.mp stored)
    (Table.mem_rows.mp present) (same.trans on.symm) same (by simp [ref])

/-- A tick that lists the suspended totals as usual puts them back on sale. -/
theorem suspended_totals_reopened :
    suspendTotals.Returned openDatabase ∧
    (∃ row ∈ overTotals ["totals"], row.selection.providerRef = "game:book:totals:over:220.5" ∧
      row.market.providerRef = "game:book:totals") ∧
    (validatePlacement limits ["game:book:totals:over:220.5"] "10"
      (overTotals ["totals"])).toBool = true := by
  decide +kernel

end Sample

end SportsBetting.Trading
