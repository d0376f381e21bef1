import SportsBetting.Ingestion.Stored
import SportsBetting.Ingestion.Totals

/-!
# What is on offer after a run

Ingestion upserts only. So the offer on a game that goes on is what the snapshot
lists as open, together with what an earlier run left open and the snapshot does
not list any more.
-/

namespace SportsBetting.Ingestion

open Async BetValidation Numeral OddsApi Text

/-- The selection is the row of an open selection that the snapshot lists for the event. -/
def ListedOpen (snapshot : ProviderSnapshot) (eventRef : String) (selection : Selection) : Prop :=
  ∃ listed ∈ snapshot.selections, listed.status = .open ∧ WritesSelection listed selection ∧
    ∃ market ∈ snapshot.markets, market.providerRef = listed.marketProviderRef ∧
      market.eventProviderRef = eventRef

/-- The database had the selection open, and the snapshot says nothing about it. Its market was
open as well, or is listed. -/
structure LeftOpen (snapshot : ProviderSnapshot) (db : Database) (eventRef : String)
    (selection : Selection) : Prop where
  stored : selection ∈ db.catalog.selections
  ofEvent : selectionOfEvent db eventRef selection = true
  isOpen : selection.status = .open
  unlisted : ∀ listed ∈ snapshot.selections, listed.providerRef ≠ selection.providerRef
  market : (∃ market ∈ db.catalog.markets, market.providerRef = selection.market ∧
    market.status = .open) ∨ ∃ market ∈ snapshot.markets, market.providerRef = selection.market

section Offer

variable {snapshot : ProviderSnapshot} {db after : Database} {event : NormalizedEvent}
  {selection : Selection}

theorem WritesMarket.eq {listed : NormalizedMarket} {row : Market} (writes : WritesMarket listed row) :
    row.providerRef = listed.providerRef ∧ row.event = listed.eventProviderRef ∧
      row.status = listed.status := by
  obtain ⟨line, _, rfl⟩ := writes
  exact ⟨rfl, rfl, rfl⟩

theorem WritesSelection.eq {listed : NormalizedSelection} {row : Selection}
    (writes : WritesSelection listed row) :
    row.providerRef = listed.providerRef ∧ row.market = listed.marketProviderRef ∧
      row.status = listed.status := by
  obtain ⟨number, price, _, _, rfl⟩ := writes
  exact ⟨rfl, rfl, rfl⟩

/-- A listed price makes one row. -/
theorem WritesSelection.unique {listed : NormalizedSelection} {first second : Selection}
    (one : WritesSelection listed first) (other : WritesSelection listed second) :
    first = second := by
  obtain ⟨number, price, parsed, column, rfl⟩ := one
  obtain ⟨number', price', parsed', column', rfl⟩ := other
  obtain rfl := Except.ok.inj (parsed.symm.trans parsed')
  obtain rfl := Except.ok.inj (column.symm.trans column')
  rfl

/-- A selection of an event belongs to a market that is named after the event. -/
theorem Filed.before_market (filed : Filed db) {eventRef : String}
    (of : selectionOfEvent db eventRef selection = true) : before ':' selection.market = eventRef := by
  obtain ⟨market, present, on, under⟩ := selectionOfEvent_iff.mp of
  rw [← on, filed.markets market present, under]

theorem Filed.selectionOfEvent (filed : Filed db) (stored : selection ∈ db.catalog.selections)
    {eventRef : String} (named : before ':' selection.market = eventRef) :
    selectionOfEvent db eventRef selection = true := by
  obtain ⟨market, present, on⟩ := filed.selections selection stored
  refine selectionOfEvent_iff.mpr ⟨market, present, on, ?_⟩
  rw [← filed.markets market present, on, named]

/-- An event that goes on is stored with a status that admits bets. -/
theorem Stores.admitsBets (stores : Stores snapshot event db after) (coherent : Coherent snapshot)
    (listed : event ∈ snapshot.events) (running : event.status ≠ .ended) :
    ∃ row ∈ after.catalog.events, row.providerRef = event.providerRef ∧
      BetValidation.admitsBets row.status := by
  obtain ⟨_, _, cancelled, suspended⟩ := coherent.events event listed
  exact ⟨eventRow event, stores.stored, rfl, running, cancelled, suspended⟩

theorem Stores.bettable (stores : Stores snapshot event db after) (coherent : Coherent snapshot)
    (listed : event ∈ snapshot.events) (running : event.status ≠ .ended) {market : Market}
    (present : market ∈ after.catalog.markets) (on : market.providerRef = selection.market)
    (under : market.event = event.providerRef) (marketOpen : market.status = .open)
    (selectionOpen : selection.status = .open) :
    selectionOfEvent after event.providerRef selection = true ∧ Bettable after selection := by
  obtain ⟨row, there, same, admits⟩ := stores.admitsBets coherent listed running
  refine ⟨selectionOfEvent_iff.mpr ⟨market, present, on, under⟩, ?_⟩
  exact ⟨selectionOpen, market, present, on, marketOpen, row, there, same.trans under.symm, admits⟩

/-- A market that the snapshot lists for a game that goes on is stored as open. -/
theorem Stores.market_open (stores : Stores snapshot event db after) (coherent : Coherent snapshot)
    (listed : event ∈ snapshot.events) (running : event.status ≠ .ended) {market : NormalizedMarket}
    (member : market ∈ snapshot.markets) (under : market.eventProviderRef = event.providerRef) :
    ∃ row ∈ after.catalog.markets, row.providerRef = market.providerRef ∧
      row.event = event.providerRef ∧ row.status = .open := by
  obtain ⟨base, _, markets, _⟩ := stores.onBase
  obtain ⟨row, present, writes⟩ := markets.written market member
  obtain ⟨ref, of, status⟩ := writes.eq
  obtain ⟨_, other, among, same, graded⟩ := coherent.markets market member
  obtain rfl := coherent.event_eq among listed (same.trans under)
  rw [if_neg running] at graded
  exact ⟨row, present, ref, of.trans under, status.trans graded⟩

/-- What is on offer was listed or left. -/
theorem Stores.offered (stores : Stores snapshot event db after) (coherent : Coherent snapshot)
    (filed : Filed db) (filedAfter : Filed after)
    (stored : selection ∈ after.catalog.selections)
    (of : selectionOfEvent after event.providerRef selection = true)
    (bettable : Bettable after selection) :
    ListedOpen snapshot event.providerRef selection ∨
      LeftOpen snapshot db event.providerRef selection := by
  obtain ⟨base, game, markets, selections⟩ := stores.onBase
  obtain ⟨selectionOpen, market, present, on, marketOpen, _⟩ := bettable
  have named := filedAfter.before_market of
  rcases selections.origin selection stored with ⟨listed, member, writes⟩ | ⟨kept, unlisted⟩
  · refine .inl ⟨listed, member, ?_, writes, ?_⟩
    · rw [← writes.eq.2.2, selectionOpen]
    · obtain ⟨listing, among, same, _⟩ := coherent.selections listed member
      refine ⟨listing, among, same, ?_⟩
      rw [← (coherent.markets listing among).1, same, ← writes.eq.2.1, named]
  · have old := (game.selections selection named).mp kept
    refine .inr ⟨old, filed.selectionOfEvent old named, selectionOpen, unlisted, ?_⟩
    rcases markets.origin market present with ⟨listing, among, writes⟩ | ⟨before, _⟩
    · exact .inr ⟨listing, among, writes.eq.1.symm.trans on⟩
    · exact .inl ⟨market, (game.markets market (on ▸ named)).mp before, on, marketOpen⟩

theorem Stores.of_listedOpen (stores : Stores snapshot event db after)
    (coherent : Coherent snapshot) (listed : event ∈ snapshot.events)
    (running : event.status ≠ .ended)
    (offer : ListedOpen snapshot event.providerRef selection) :
    selection ∈ after.catalog.selections ∧
      selectionOfEvent after event.providerRef selection = true ∧ Bettable after selection := by
  obtain ⟨base, _, _, selections⟩ := stores.onBase
  obtain ⟨item, member, isOpen, writes, market, among, same, under⟩ := offer
  obtain ⟨row, stored, writes'⟩ := selections.written item member
  obtain rfl := writes.unique writes'
  obtain ⟨market', present, on, of, marketOpen⟩ :=
    stores.market_open coherent listed running among under
  have on' : market'.providerRef = selection.market := by rw [on, same, writes.eq.2.1]
  exact ⟨stored, stores.bettable coherent listed running present on' of marketOpen
    (writes.eq.2.2.trans isOpen)⟩

theorem Stores.of_leftOpen (stores : Stores snapshot event db after)
    (coherent : Coherent snapshot) (filed : Filed db) (listed : event ∈ snapshot.events)
    (running : event.status ≠ .ended) (offer : LeftOpen snapshot db event.providerRef selection) :
    selection ∈ after.catalog.selections ∧
      selectionOfEvent after event.providerRef selection = true ∧ Bettable after selection := by
  obtain ⟨base, game, markets, selections⟩ := stores.onBase
  have named := filed.before_market offer.ofEvent
  have kept := selections.kept selection ((game.selections selection named).mpr offer.stored)
    offer.unlisted
  suffices ∃ market ∈ after.catalog.markets, market.providerRef = selection.market ∧
      market.event = event.providerRef ∧ market.status = .open by
    obtain ⟨market, present, on, under, marketOpen⟩ := this
    exact ⟨kept, stores.bettable coherent listed running present on under marketOpen offer.isOpen⟩
  have relisted : ∀ listing ∈ snapshot.markets, listing.providerRef = selection.market →
      ∃ market ∈ after.catalog.markets, market.providerRef = selection.market ∧
        market.event = event.providerRef ∧ market.status = .open := by
    intro listing among on
    have under : listing.eventProviderRef = event.providerRef := by
      rw [← (coherent.markets listing among).1, on, named]
    simpa only [on] using stores.market_open coherent listed running among under
  rcases offer.market with ⟨market, present, on, marketOpen⟩ | ⟨listing, among, on⟩
  · by_cases again : ∃ listing ∈ snapshot.markets, listing.providerRef = market.providerRef
    · obtain ⟨listing, among, same⟩ := again
      exact relisted listing among (same.trans on)
    · refine ⟨market, ?_, on, ?_, marketOpen⟩
      · refine markets.kept market ((game.markets market (on ▸ named)).mpr present) ?_
        exact fun listing among same => again ⟨listing, among, same⟩
      · rw [← filed.markets market present, on, named]
  · exact relisted listing among on

end Offer

/-- **The offer after a run** that returns: from an empty catalog on, after any ingest runs, the
selections of a listed event that goes on which can be bet on are those that the snapshot lists as
open, at its prices, and those that were left open. -/
theorem offer_after_run {runtime : Runtime} {isOddsApi : Bool} {start db after : Database}
    {sessions : List (Session databaseMachine)} {run : IngestRun}
    {moves : List (Move databaseMachine)} {snapshot : ProviderSnapshot} {event : NormalizedEvent}
    (events : ∀ event, event ∉ start.catalog.events)
    (markets : ∀ market, market ∉ start.catalog.markets)
    (selections : ∀ selection, selection ∉ start.catalog.selections)
    (each : Session.Each (Meets runtime isOddsApi fun _ snapshot _ => Mapped snapshot) sessions start)
    (reached : db = Session.runAll sessions start) (applies : run.Applies db snapshot)
    (mapped : Mapped snapshot)
    (returned : Session.Returned ⟨run.program runtime isOddsApi, moves⟩ db)
    (result : after = Session.result ⟨run.program runtime isOddsApi, moves⟩ db)
    (listed : event ∈ snapshot.events) (running : event.status ≠ .ended) (selection : Selection) :
    (selection ∈ after.catalog.selections ∧
        selectionOfEvent after event.providerRef selection = true ∧ Bettable after selection) ↔
      ListedOpen snapshot event.providerRef selection ∨
        LeftOpen snapshot db event.providerRef selection := by
  have empty : Filed start :=
    ⟨fun event stored => absurd stored (events event),
      fun market stored => absurd stored (markets market),
      fun selection stored => absurd stored (selections selection)⟩
  have filed : Filed db := by
    rw [reached]
    refine Session.runAll_preserves ?_ empty each
    rintro db ⟨program, moves⟩ filed ⟨run, same, fed⟩
    obtain rfl : program = run.program runtime isOddsApi := same
    exact filed_result moves fed filed
  have coherent := mapped.coherent
  have fed : FromFeed db run := fun _ fetched => run.applied_eq applies fetched ▸ mapped
  have filedAfter : Filed after := result ▸ filed_result moves fed filed
  have stores : Stores snapshot event db after :=
    result ▸ run_stores moves applies coherent filed listed running returned
  constructor
  · rintro ⟨stored, of, bettable⟩
    exact stores.offered coherent filed filedAfter stored of bettable
  · rintro (offer | offer)
    · exact stores.of_listedOpen coherent listed running offer
    · exact stores.of_leftOpen coherent filed listed running offer

section Sample

theorem mapped_totals (point : Decimal) :
    Mapped (mapOddsApiToSnapshot asciiRuntime 1 (totalsFeed point [] ["totals"])) := by
  refine ⟨_, _, _, ?_, rfl⟩
  intro sportKey _ event listed
  obtain rfl := List.mem_singleton.mp listed
  have plain : ':' ∉ "game".toList := by decide
  exact plain

/-- The totals of the game, before the line moves. -/
def beforeMove : Database := Session.runAll [ingestTotals openTotals] freshDatabase

def afterMove : Database := (ingestTotals movedTotals).result beforeMove

theorem moved_totals_listed : ∃ event ∈ movedTotals.events, event.providerRef = "game" ∧
    event.status ≠ .ended := by
  decide +kernel

/-- What is on offer after the move was listed at the new point, or left at the former one. -/
theorem offer_after_move : ∃ event ∈ movedTotals.events, event.providerRef = "game" ∧
    ∀ selection,
      (selection ∈ afterMove.catalog.selections ∧
          selectionOfEvent afterMove event.providerRef selection = true ∧
          Bettable afterMove selection) ↔
        ListedOpen movedTotals event.providerRef selection ∨
          LeftOpen movedTotals beforeMove event.providerRef selection := by
  obtain ⟨event, listed, named, running⟩ := moved_totals_listed
  have each : Session.Each (Meets asciiRuntime true fun _ snapshot _ => Mapped snapshot)
      [ingestTotals openTotals] freshDatabase := by
    refine ⟨⟨.catalog (.ok openTotals), rfl, ?_⟩, trivial⟩
    intro snapshot fetched
    obtain rfl := Except.ok.inj fetched
    exact mapped_totals _
  have reached : beforeMove = Session.runAll [ingestTotals openTotals] freshDatabase := rfl
  have applies : (IngestRun.catalog (.ok movedTotals)).Applies beforeMove movedTotals := rfl
  have returned : (ingestTotals movedTotals).Returned beforeMove := by decide +kernel
  exact ⟨event, listed, named, offer_after_run (fun event => (Table.mem_empty event).mp)
    (fun market => (Table.mem_empty market).mp) (fun selection => (Table.mem_empty selection).mp)
    each reached applies (mapped_totals _) returned rfl listed running⟩

/-- The over at the former point is still on offer after the line has moved. -/
theorem moved_line_on_offer : ∃ selection ∈ afterMove.catalog.selections.rows,
    selection.providerRef = "game:book:totals:over:220.5" ∧
    selectionOfEvent afterMove "game" selection = true ∧ Bettable afterMove selection ∧
    ¬ ListedOpen movedTotals "game" selection := by
  have offered : ∃ selection ∈ afterMove.catalog.selections.rows,
      selection.providerRef = "game:book:totals:over:220.5" ∧
      selectionOfEvent afterMove "game" selection = true ∧ Bettable afterMove selection ∧
      ∀ listed ∈ movedTotals.selections, listed.providerRef ≠ selection.providerRef := by
    decide +kernel
  obtain ⟨selection, stored, ref, of, bettable, unlisted⟩ := offered
  refine ⟨selection, stored, ref, of, bettable, ?_⟩
  rintro ⟨listed, member, _, writes, _⟩
  exact unlisted listed member writes.eq.1.symm

end Sample

end SportsBetting.Ingestion
