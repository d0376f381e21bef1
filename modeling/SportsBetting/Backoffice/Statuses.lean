import SportsBetting.Async.Eval
import SportsBetting.Backoffice.Ended

/-!
# What trading calls do to statuses

A call writes one status to all the rows that it covers. It reads only some of the
statuses that it overwrites: a suspension those of the event or the market, resuming
that of the event.
-/

namespace SportsBetting.Trading

open Async BetValidation

variable {db after : Database} {tenant staffUserId : String} {market : Market}

section Checks

theorem eval_assertTenantEvent (db : Database) (tenant eventId : String) :
    (∃ event ∈ db.catalog.events, event.providerRef = eventId ∧
        eventOffered db tenant event = true ∧
        (assertTenantEvent tenant eventId).eval db = (.ok event, db)) ∨
      (∀ event ∈ db.catalog.events, event.providerRef = eventId →
          eventOffered db tenant event = false) ∧
        ∃ failure, (assertTenantEvent tenant eventId).eval db = (.error failure, db) := by
  unfold assertTenantEvent read
  rw [Program.eval_read_bind]
  cases found : (db.catalog.events.get? eventId).filter
      fun event => eventOffered db tenant event with
  | none =>
      refine .inr ⟨fun event stored ref => ?_, _, rfl⟩
      have known := Table.get?_of_mem stored
      rw [ref] at known
      rw [known] at found
      simpa using found
  | some event =>
      obtain ⟨known, offered⟩ := Option.filter_eq_some_iff.mp found
      obtain ⟨stored, ref⟩ := Table.get?_eq_some_iff.mp known
      exact .inl ⟨event, stored, ref, offered, rfl⟩

theorem eval_assertTenantMarket (db : Database) (tenant marketId : String) :
    (∃ market ∈ db.catalog.markets, market.providerRef = marketId ∧
        ∃ event ∈ db.catalog.events, event.providerRef = market.event ∧
          eventOffered db tenant event = true ∧
          (assertTenantMarket tenant marketId).eval db = (.ok (market, event), db)) ∨
      (∀ market ∈ db.catalog.markets, market.providerRef = marketId →
          ∀ event ∈ db.catalog.events, event.providerRef = market.event →
            eventOffered db tenant event = false) ∧
        ∃ failure, (assertTenantMarket tenant marketId).eval db = (.error failure, db) := by
  unfold assertTenantMarket read
  rw [Program.eval_read_bind]
  cases known : db.catalog.markets.get? marketId with
  | none =>
      refine .inr ⟨fun market stored ref => ?_, _, rfl⟩
      exact absurd ref (Table.get?_eq_none_iff.mp known market stored)
  | some market =>
      obtain ⟨stored, rfl⟩ := Table.get?_eq_some_iff.mp known
      have only : ∀ other ∈ db.catalog.markets, other.providerRef = market.providerRef →
          other = market := fun other present same => Table.eq_of_key present stored same
      cases held : db.catalog.events.get? market.event with
      | none =>
          refine .inr ⟨fun other present same event there of => ?_, _, by simp [held]; rfl⟩
          rw [only other present same] at of
          exact absurd of (Table.get?_eq_none_iff.mp held event there)
      | some event =>
          obtain ⟨there, of⟩ := Table.get?_eq_some_iff.mp held
          cases offered : eventOffered db tenant event with
          | true =>
              exact .inl ⟨market, stored, rfl, event, there, of, offered, by simp [held, offered]⟩
          | false =>
              refine .inr ⟨fun other present same event' there' of' => ?_, _,
                by simp [held, offered]; rfl⟩
              rw [only other present same] at of'
              rwa [Table.eq_of_key there' there (of'.trans of.symm)]

/-- What is done with a market of the tenant, where nothing blocks it. -/
theorem eval_checkedMarket (db : Database) (tenant marketId : String)
    (blocked : Market → Event → Prop) [∀ market event, Decidable (blocked market event)]
    (refusal : Failure) (rest : Service Unit) :
    let program := assertTenantMarket tenant marketId >>= fun found =>
      if blocked found.1 found.2 then throw refusal else rest
    ((∃ market ∈ db.catalog.markets, market.providerRef = marketId ∧
        ∃ event ∈ db.catalog.events, event.providerRef = market.event ∧
          eventOffered db tenant event = true ∧ ¬ blocked market event) ∧
        program.eval db = rest.eval db) ∨
      (¬ ∃ market ∈ db.catalog.markets, market.providerRef = marketId ∧
        ∃ event ∈ db.catalog.events, event.providerRef = market.event ∧
          eventOffered db tenant event = true ∧ ¬ blocked market event) ∧
        ∃ failure, program.eval db = (.error failure, db) := by
  dsimp only
  rw [Program.eval_bind]
  rcases eval_assertTenantMarket db tenant marketId with
    ⟨market, stored, ref, event, there, of, offered, found⟩ | ⟨missing, failure, refused⟩
  · rw [found]
    dsimp only
    by_cases closed : blocked market event
    · rw [if_pos closed]
      refine .inr ⟨?_, _, rfl⟩
      rintro ⟨other, present, same, event', there', of', _, free⟩
      obtain rfl := Table.eq_of_key present stored (same.trans ref.symm)
      obtain rfl := Table.eq_of_key there' there (of'.trans of.symm)
      exact free closed
    · rw [if_neg closed]
      exact .inl ⟨⟨market, stored, ref, event, there, of, offered, closed⟩, rfl⟩
  · rw [refused]
    refine .inr ⟨?_, _, rfl⟩
    rintro ⟨market, stored, ref, event, there, of, offered, _⟩
    rw [missing market stored ref event there of] at offered
    cases offered

/-- A call that passes its checks writes its rows and leaves its trace; any other is refused. -/
theorem TradingCall.eval_program (call : TradingCall) (tenant staffUserId : String)
    (db : Database) :
    (call.passes tenant db ∧ ∃ entry, (call.program tenant staffUserId).eval db =
        (.ok (), { call.effect db with audit := (call.effect db).audit ++ [entry] })) ∨
      ¬ call.passes tenant db ∧
        ∃ failure, (call.program tenant staffUserId).eval db = (.error failure, db) := by
  cases call with
  | suspendEvent eventId reason =>
      unfold program passes Trading.suspendEvent
      rw [Program.eval_bind]
      rcases eval_assertTenantEvent db tenant eventId with
        ⟨event, stored, ref, offered, found⟩ | ⟨missing, failure, refused⟩
      · rw [found]
        dsimp only
        by_cases past : event.status = .ended ∨ event.status = .cancelled
        · rw [if_pos past]
          refine .inr ⟨?_, _, rfl⟩
          rintro ⟨other, present, same, _, running⟩
          rw [Table.eq_of_key present stored (same.trans ref.symm)] at running
          exact running past
        · rw [if_neg past]
          exact .inl ⟨⟨event, stored, ref, offered, past⟩, _, rfl⟩
      · rw [refused]
        refine .inr ⟨?_, _, rfl⟩
        rintro ⟨event, stored, ref, offered, _⟩
        rw [missing event stored ref] at offered
        cases offered
  | suspendMarket marketId reason =>
      rcases eval_checkedMarket db tenant marketId
          (fun market _ => market.status = .settled ∨ market.status = .void)
          (.badRequest "Cannot suspend a settled or void market") _ with
        ⟨passes, done⟩ | ⟨refused, failure, done⟩
      · exact .inl ⟨passes, _, done⟩
      · exact .inr ⟨refused, failure, done⟩
  | resumeMarket marketId =>
      rcases eval_checkedMarket db tenant marketId (fun _ event => event.status = .ended)
          (.badRequest "Cannot resume market on an ended event") _ with
        ⟨passes, done⟩ | ⟨refused, failure, done⟩
      · exact .inl ⟨passes, _, done⟩
      · exact .inr ⟨refused, failure, done⟩

/-- What is stored after the call. -/
theorem TradingCall.catalog_after (call : TradingCall) (tenant staffUserId : String)
    (db : Database) :
    (call.passes tenant db ∧ ((call.program tenant staffUserId).eval db).2.catalog =
        (call.effect db).catalog) ∨
      ¬ call.passes tenant db ∧ ((call.program tenant staffUserId).eval db).2 = db := by
  rcases call.eval_program tenant staffUserId db with
    ⟨passes, entry, done⟩ | ⟨refused, failure, done⟩
  · exact .inl ⟨passes, by rw [done]⟩
  · exact .inr ⟨refused, by rw [done]⟩

end Checks

section Covered

namespace TradingCall

/-- The markets whose status the call writes, along with those of their selections. -/
def Covers (market : Market) : TradingCall → Prop
  | .suspendEvent eventId _ => market.event = eventId
  | .suspendMarket marketId _ => market.providerRef = marketId
  | .resumeMarket marketId => market.providerRef = marketId

def marketStatus : TradingCall → MarketStatus
  | .resumeMarket _ => .open
  | _ => .suspended

def selectionStatus : TradingCall → SelectionStatus
  | .resumeMarket _ => .open
  | _ => .suspended

end TradingCall

section Rows

variable (onMarket : Market → Market) (onSelection : Selection → Selection)

/-- The statuses of the market and of its selections become these. -/
def Rewrites (market : Market) (marketStatus : MarketStatus) (selectionStatus : SelectionStatus) :
    Prop :=
  (onMarket market).status = marketStatus ∧
    ∀ selection, selection.market = market.providerRef →
      (onSelection selection).status = selectionStatus

/-- The market and its selections stay as they are. -/
def Spares (market : Market) : Prop :=
  onMarket market = market ∧
    ∀ selection, selection.market = market.providerRef → onSelection selection = selection

end Rows

theorem rewrites_setMarketRows (marketId : String) (marketStatus : MarketStatus)
    (selectionStatus : SelectionStatus) (market : Market) :
    let onMarket := fun market : Market =>
      if market.providerRef = marketId then { market with status := marketStatus } else market
    let onSelection := fun selection : Selection =>
      if selection.market = marketId then { selection with status := selectionStatus }
      else selection
    (market.providerRef = marketId →
        Rewrites onMarket onSelection market marketStatus selectionStatus) ∧
      (¬ market.providerRef = marketId → Spares onMarket onSelection market) := by
  intro onMarket onSelection
  constructor
  · intro covered
    constructor
    · exact congrArg Market.status (if_pos covered)
    · intro selection on
      exact congrArg Selection.status (if_pos (on.trans covered))
  · intro spared
    constructor
    · exact if_neg spared
    · intro selection on
      exact if_neg fun same => spared (on.symm.trans same)

/-- The call writes its statuses to a market that it covers and to all selections of that, and
leaves every other market and its selections as they are. -/
theorem restated_effect (call : TradingCall) (db : Database) :
    ∃ onEvent onMarket onSelection, Restated db (call.effect db) onEvent onMarket onSelection ∧
      ∀ market ∈ db.catalog.markets,
        (call.Covers market →
          Rewrites onMarket onSelection market call.marketStatus call.selectionStatus) ∧
        (¬ call.Covers market → Spares onMarket onSelection market) := by
  cases call with
  | suspendEvent eventId reason =>
      refine ⟨_, _, _, restated_suspendEventRows db eventId, fun market stored => ?_⟩
      have member : ∀ selection, selection.market = market.providerRef →
          (selectionOfEvent db eventId selection = true ↔ market.event = eventId) := by
        intro selection on
        have known := Table.get?_of_mem stored
        rw [← on] at known
        simp [selectionOfEvent, known]
      constructor
      · intro covered
        constructor
        · exact congrArg Market.status (if_pos covered)
        · intro selection on
          exact congrArg Selection.status (if_pos ((member selection on).mpr covered))
      · intro spared
        constructor
        · exact if_neg spared
        · intro selection on
          exact if_neg (mt (member selection on).mp spared)
  | suspendMarket marketId reason =>
      exact ⟨_, _, _, restated_setMarketRows db marketId .suspended .suspended,
        fun market _ => rewrites_setMarketRows marketId .suspended .suspended market⟩
  | resumeMarket marketId =>
      exact ⟨_, _, _, restated_setMarketRows db marketId .open .open,
        fun market _ => rewrites_setMarketRows marketId .open .open market⟩

end Covered

section Kept

variable {onEvent onEvent' : Event → Event} {onMarket onMarket' : Market → Market}
  {onSelection onSelection' : Selection → Selection}

/-- The market and every selection of it have the status that they had. -/
structure StatusKept (db after : Database) (market : Market) : Prop where
  own : (after.catalog.markets.get? market.providerRef).map Market.status = some market.status
  selections : ∀ selection ∈ db.catalog.selections, selection.market = market.providerRef →
    (after.catalog.selections.get? selection.providerRef).map Selection.status =
      some selection.status

theorem StatusKept.congr {later : Database} (same : later.catalog = after.catalog) :
    StatusKept db later market ↔ StatusKept db after market := by
  constructor
  · rintro ⟨kept, selections⟩
    rw [same] at kept selections
    exact ⟨kept, selections⟩
  · rintro ⟨kept, selections⟩
    rw [← same] at kept selections
    exact ⟨kept, selections⟩

theorem StatusKept.refl (stored : market ∈ db.catalog.markets) : StatusKept db db market where
  own := by rw [Table.get?_of_mem stored, Option.map_some]
  selections selection present _ := by rw [Table.get?_of_mem present, Option.map_some]

namespace Restated

variable (restated : Restated db after onEvent onMarket onSelection)

include restated

theorem get?_selection {selection : Selection} (stored : selection ∈ db.catalog.selections) :
    after.catalog.selections.get? selection.providerRef = some (onSelection selection) := by
  have present : onSelection selection ∈ after.catalog.selections := by
    rw [← Table.mem_rows, restated.selections]
    exact List.mem_map_of_mem stored
  have ref : (onSelection selection).providerRef = selection.providerRef := by
    obtain ⟨_, same⟩ := restated.selection selection
    rw [same]
  rw [← ref]
  exact Table.get?_of_mem present

theorem statusKept_iff (stored : market ∈ db.catalog.markets) : StatusKept db after market ↔
    (onMarket market).status = market.status ∧
      ∀ selection ∈ db.catalog.selections, selection.market = market.providerRef →
        (onSelection selection).status = selection.status := by
  have row : after.catalog.markets.get? market.providerRef = some (onMarket market) := by
    rw [restated.markets, Table.get?_of_mem stored, Option.map_some]
  constructor
  · rintro ⟨kept, selections⟩
    rw [row] at kept
    refine ⟨Option.some.inj kept, fun selection present on => ?_⟩
    have same := selections selection present on
    rw [restated.get?_selection present] at same
    exact Option.some.inj same
  · rintro ⟨kept, selections⟩
    refine ⟨by rw [row, Option.map_some, kept], fun selection present on => ?_⟩
    rw [restated.get?_selection present, Option.map_some, selections selection present on]

theorem trans {later : Database} (further : Restated after later onEvent' onMarket' onSelection') :
    Restated db later (onEvent' ∘ onEvent) (onMarket' ∘ onMarket) (onSelection' ∘ onSelection) where
  events ref := by rw [further.events, restated.events, Option.map_map]
  markets ref := by rw [further.markets, restated.markets, Option.map_map]
  selections := by rw [further.selections, restated.selections, List.map_map]
  event event := by
    obtain ⟨_, first⟩ := restated.event event
    obtain ⟨status, second⟩ := further.event (onEvent event)
    exact ⟨status, by rw [Function.comp_apply, second, first]⟩
  market market := by
    obtain ⟨_, first⟩ := restated.market market
    obtain ⟨status, second⟩ := further.market (onMarket market)
    exact ⟨status, by rw [Function.comp_apply, second, first]⟩
  selection selection := by
    obtain ⟨_, first⟩ := restated.selection selection
    obtain ⟨status, second⟩ := further.selection (onSelection selection)
    exact ⟨status, by rw [Function.comp_apply, second, first]⟩
  fixtures := further.fixtures.trans restated.fixtures
  teams := further.teams.trans restated.teams
  leagues := further.leagues.trans restated.leagues
  sports := further.sports.trans restated.sports
  offering := further.offering.trans restated.offering

end Restated

/-- A market that is settled or void is closed for good. -/
def Closed (market : Market) : Prop := market.status = .settled ∨ market.status = .void

instance (market : Market) : Decidable (Closed market) := inferInstanceAs (Decidable (_ ∨ _))

instance (call : TradingCall) (market : Market) : Decidable (call.Covers market) := by
  unfold TradingCall.Covers
  split <;> infer_instance

theorem TradingCall.marketStatus_ne (call : TradingCall) (closed : Closed market) :
    call.marketStatus ≠ market.status := by
  rcases closed with settled | void
  · cases call <;> simp [marketStatus, settled]
  · cases call <;> simp [marketStatus, void]

/-- Closed markets and their selections keep their statuses exactly if the call is refused or
covers no closed market. Suspending a market is refused if that is closed; the other two calls
read the status of the event only. -/
theorem closed_kept_iff (call : TradingCall) (tenant staffUserId : String) (db : Database) :
    (∀ market ∈ db.catalog.markets, Closed market →
      StatusKept db ((call.program tenant staffUserId).eval db).2 market) ↔
    ¬ call.passes tenant db ∨ ∀ market ∈ db.catalog.markets, call.Covers market → ¬ Closed market := by
  rcases call.catalog_after tenant staffUserId db with ⟨passes, effect⟩ | ⟨refused, unchanged⟩
  · obtain ⟨onEvent, onMarket, onSelection, restated, each⟩ := restated_effect call db
    rw [or_iff_right (not_not.mpr passes)]
    refine forall₂_congr fun market stored => ?_
    rw [StatusKept.congr effect, restated.statusKept_iff stored]
    constructor
    · intro kept covered closed
      have written := ((each market stored).1 covered).1
      exact call.marketStatus_ne closed (written.symm.trans (kept closed).1)
    · intro apart closed
      obtain ⟨same, selections⟩ := (each market stored).2 fun covered => apart covered closed
      refine ⟨congrArg Market.status same, fun selection _ on => ?_⟩
      exact congrArg Selection.status (selections selection on)
  · rw [unchanged]
    apply iff_of_true
    · exact fun market stored _ => StatusKept.refl stored
    · exact .inl refused

theorem Restated.of_catalog {later : Database}
    (restated : Restated db after onEvent onMarket onSelection)
    (same : later.catalog = after.catalog) : Restated db later onEvent onMarket onSelection where
  events := same ▸ restated.events
  markets := same ▸ restated.markets
  selections := same ▸ restated.selections
  event := restated.event
  market := restated.market
  selection := restated.selection
  fixtures := same ▸ restated.fixtures
  teams := same ▸ restated.teams
  leagues := same ▸ restated.leagues
  sports := same ▸ restated.sports
  offering := same ▸ restated.offering

theorem Restated.eventOffered_eq (restated : Restated db after onEvent onMarket onSelection)
    (tenant : String) (event : Event) :
    eventOffered after tenant (onEvent event) = eventOffered db tenant event := by
  obtain ⟨_, same⟩ := restated.event event
  unfold eventOffered leagueEnabled
  rw [restated.fixtures, restated.offering, same]

section Suspended

variable {tenant : String} {event : Event} (stored : market ∈ db.catalog.markets)
  (there : event ∈ db.catalog.events) (of : event.providerRef = market.event)

include stored there of

/-- The market of an event that is not offered to the tenant can be neither suspended nor resumed. -/
theorem not_passes_of_not_offered (reason : String)
    (offered : eventOffered db tenant event = false) :
    ¬ (TradingCall.suspendMarket market.providerRef reason).passes tenant db ∧
      ¬ (TradingCall.resumeMarket market.providerRef).passes tenant db := by
  have refuses : ∀ other ∈ db.catalog.markets, other.providerRef = market.providerRef →
      ∀ event' ∈ db.catalog.events, event'.providerRef = other.event →
        eventOffered db tenant event' ≠ true := by
    intro other present same event' there' of'
    rw [Table.eq_of_key present stored same] at of'
    rw [Table.eq_of_key there' there (of'.trans of.symm), offered]
    exact Bool.false_ne_true
  constructor
  · rintro ⟨other, present, same, event', there', of', offered', _⟩
    exact refuses other present same event' there' of' offered'
  · rintro ⟨other, present, same, event', there', of', offered', _⟩
    exact refuses other present same event' there' of' offered'

/-- After both calls the market is open, and so are all its selections. -/
theorem suspend_resume_statusKept_iff (reason staffUserId resumedBy : String)
    (isOpen : market.status = .open) (running : event.status ≠ .ended)
    (offered : eventOffered db tenant event = true) :
    StatusKept db ((resumeMarket tenant market.providerRef resumedBy).eval
        ((suspendMarket tenant market.providerRef reason staffUserId).eval db).2).2 market ↔
      ∀ selection ∈ db.catalog.selections,
        selection.market = market.providerRef → selection.status = .open := by
  have suspend := (TradingCall.suspendMarket market.providerRef reason).catalog_after tenant
    staffUserId db
  have resume := (TradingCall.resumeMarket market.providerRef).catalog_after tenant resumedBy
    ((suspendMarket tenant market.providerRef reason staffUserId).eval db).2
  have tradable : ¬ (market.status = .settled ∨ market.status = .void) := by simp [isOpen]
  have allowed : (TradingCall.suspendMarket market.providerRef reason).passes tenant db :=
    ⟨market, stored, rfl, event, there, of, offered, tradable⟩
  have held := (suspend.resolve_right fun refused => refused.1 allowed).2
  have first := (restated_setMarketRows db market.providerRef .suspended .suspended).of_catalog held
  have row := first.markets market.providerRef
  rw [Table.get?_of_mem stored, Option.map_some] at row
  have ref := first.events event.providerRef
  rw [Table.get?_of_mem there, Option.map_some] at ref
  have again : (TradingCall.resumeMarket market.providerRef).passes tenant
      ((suspendMarket tenant market.providerRef reason staffUserId).eval db).2 := by
    refine ⟨_, (Table.get?_eq_some_iff.mp row).1, (Table.get?_eq_some_iff.mp row).2, event,
      (Table.get?_eq_some_iff.mp ref).1, ?_, ?_, running⟩
    · rw [of, if_pos rfl]
    · exact (first.eventOffered_eq tenant event).trans offered
  have released := (resume.resolve_right fun refused => refused.1 again).2
  have both := first.trans ((restated_setMarketRows _ market.providerRef .open .open).of_catalog
    released)
  refine (both.statusKept_iff stored).trans ?_
  simp only [Function.comp_apply, if_true, isOpen, true_and]
  refine forall₂_congr fun selection present => forall_congr' fun on => ?_
  simp [on, eq_comm]

end Suspended

/-- Suspending an open market of a running event and resuming it brings the statuses back that
there were, exactly if the market is not offered to the tenant, which changes nothing, or all
its selections were open: both calls write one status to all of them. -/
theorem suspend_resume_restores_iff (tenant reason staffUserId resumedBy : String)
    {event : Event} (stored : market ∈ db.catalog.markets) (isOpen : market.status = .open)
    (there : event ∈ db.catalog.events) (of : event.providerRef = market.event)
    (running : event.status ≠ .ended) :
    StatusKept db ((resumeMarket tenant market.providerRef resumedBy).eval
        ((suspendMarket tenant market.providerRef reason staffUserId).eval db).2).2 market ↔
      eventOffered db tenant event = false ∨ ∀ selection ∈ db.catalog.selections,
        selection.market = market.providerRef → selection.status = .open := by
  cases offered : eventOffered db tenant event with
  | true =>
      rw [or_iff_right Bool.noConfusion]
      exact suspend_resume_statusKept_iff stored there of reason staffUserId resumedBy isOpen running
        offered
  | false =>
      obtain ⟨noSuspend, noResume⟩ := not_passes_of_not_offered stored there of reason offered
      have unheld : ((suspendMarket tenant market.providerRef reason staffUserId).eval db).2 = db :=
        (((TradingCall.suspendMarket market.providerRef reason).catalog_after tenant staffUserId
          db).resolve_left fun passed => noSuspend passed.1).2
      have unchanged : ((resumeMarket tenant market.providerRef resumedBy).eval db).2 = db :=
        (((TradingCall.resumeMarket market.providerRef).catalog_after tenant resumedBy
          db).resolve_left fun passed => noResume passed.1).2
      rw [unheld, unchanged]
      apply iff_of_true
      · exact StatusKept.refl stored
      · exact .inl rfl

/-- Whether the row is of an offered league is told by its event. -/
theorem offered_of_join {casinoGroupId : String} {selection : Selection} {row : SelectionRow}
    (joined : joinSelection db casinoGroupId selection = some row) :
    row.offered = eventOffered db casinoGroupId row.event := by
  unfold joinSelection at joined
  simp only [Option.bind_eq_bind, Option.bind_eq_some_iff] at joined
  obtain ⟨market, _, event, _, fixture, known, _, _, _, _, league, league?, _, _, same⟩ := joined
  obtain rfl := Option.some.inj same
  simp only [eventOffered, known]
  rw [(Table.get?_eq_some_iff.mp league?).2]

/-- A row of the market after resuming is on offer if its event admits bets. -/
theorem onOffer_resumed {tenant marketId : String}
    (passes : (TradingCall.resumeMarket marketId).passes tenant db) {selection : Selection}
    (on : selection.market = marketId) {row : SelectionRow}
    (joined : joinSelection db tenant selection = some row) :
    onOffer (restate (fun event => event)
      (fun market => if market.providerRef = marketId then { market with status := .open }
        else market)
      (fun selection => if selection.market = marketId then { selection with status := .open }
        else selection) row) = true ↔
      row.event.status ≠ .suspended ∧ row.event.status ≠ .cancelled := by
  obtain ⟨market, stored, rfl, event, there, of, offered, running⟩ := passes
  obtain ⟨rfl, stored', on', there', of'⟩ := joinSelection_ok joined
  have same : row.market = market := Table.eq_of_key stored' stored (on'.trans on)
  have own : row.event = event := Table.eq_of_key there' there (of'.trans (same ▸ of.symm))
  have league : row.offered = true := by rw [offered_of_join joined, own, offered]
  simp only [onOffer, restate, league, same, on, own, if_true, admitsBets, Bool.true_and,
    decide_true, decide_eq_true_eq]
  tauto

/-- After resuming, the selections of the market that the placement query finds pass its checks
exactly if the event is neither suspended nor cancelled: the event is only checked not to have
ended, and stays as it is. -/
theorem resumed_on_offer_iff {tenant marketId staffUserId : String} {db : Database}
    (resumed : ((resumeMarket tenant marketId staffUserId).eval db).1 = .ok ()) :
    (∀ selection ∈ ((resumeMarket tenant marketId staffUserId).eval db).2.catalog.selections.rows,
      selection.market = marketId → ∀ row,
        joinSelection ((resumeMarket tenant marketId staffUserId).eval db).2 tenant selection =
          some row → ∃ leg, validateLeg row = .ok leg) ↔
    ∀ selection ∈ db.catalog.selections.rows, selection.market = marketId → ∀ row,
      joinSelection db tenant selection = some row →
        row.event.status ≠ .suspended ∧ row.event.status ≠ .cancelled := by
  rcases (TradingCall.resumeMarket marketId).eval_program tenant staffUserId db with
    ⟨passes, entry, done⟩ | ⟨_, failure, refused⟩
  · have written : ((resumeMarket tenant marketId staffUserId).eval db).2.catalog =
        (setMarketRows db marketId .open .open).catalog := congrArg (·.2.catalog) done
    have restated := (restated_setMarketRows db marketId .open .open).of_catalog written
    constructor
    · intro all selection stored on row joined
      have later := Table.get?_eq_some_iff.mp (restated.get?_selection stored)
      have joined' := (restated.joinSelection_restate selection).trans (congrArg _ joined)
      obtain ⟨leg, passed⟩ := all _ later.1 (by simp [on]) _ joined'
      exact (onOffer_resumed passes on joined).mp (validateLeg_eq_ok.mp passed).1
    · intro admits selection' stored' on' row' joined'
      obtain ⟨selection, stored, rfl⟩ := restated.mem_selections stored'
      have on : selection.market = marketId := by
        obtain ⟨_, same⟩ := restated.selection selection
        rwa [same] at on'
      rw [restated.joinSelection_restate, Option.map_eq_some_iff] at joined'
      obtain ⟨row, joined, rfl⟩ := joined'
      have offer := (onOffer_resumed passes on joined).mpr (admits selection stored on row joined)
      exact ⟨_, validateLeg_eq_ok.mpr ⟨offer, rfl⟩⟩
  · have refused : (resumeMarket tenant marketId staffUserId).eval db = (.error failure, db) :=
      refused
    rw [refused] at resumed
    cases resumed

end Kept

section Sample

open Ingestion

/-- The ingested game with its totals void. -/
def voidTotals : Database := setMarketRows openDatabase "game:book:totals" .void .void

def resumeTotals : TradingCall := .resumeMarket "game:book:totals"

/-- Staff resumes a void market of a running event, and bets on it are taken again. -/
theorem void_market_reopened :
    (voidTotals.catalog.markets.get? "game:book:totals").map Market.status = some .void ∧
      (((resumeTotals.program "group" "staff").eval voidTotals).2.catalog.markets.get?
        "game:book:totals").map Market.status = some .open ∧
      ¬ ∀ market ∈ voidTotals.catalog.markets, Closed market →
        StatusKept voidTotals ((resumeTotals.program "group" "staff").eval voidTotals).2 market := by
  have closed : (voidTotals.catalog.markets.get? "game:book:totals").map Market.status =
      some .void := by decide +kernel
  have reopened : (((resumeTotals.program "group" "staff").eval voidTotals).2.catalog.markets.get?
      "game:book:totals").map Market.status = some .open := by decide +kernel
  refine ⟨closed, reopened, ?_⟩
  intro kept
  obtain ⟨market, known, void⟩ := Option.map_eq_some_iff.mp closed
  obtain ⟨stored, ref⟩ := Table.get?_eq_some_iff.mp known
  have same := (kept market stored (.inr void)).own
  rw [ref, reopened, void] at same
  cases same

/-- The ingested game with one side of its totals held back by the provider. -/
def overHeldBack : Database :=
  setSelectionStatus openDatabase
    (fun selection => selection.providerRef = "game:book:totals:over:220.5") .suspended

def totals : Market := ⟨"game:book:totals", "game", .total, .open, some (.ofUnits 22050)⟩

/-- What suspending and resuming the totals makes of the store. -/
def suspendAndResume (db : Database) : Database :=
  ((resumeMarket "group" totals.providerRef "staff").eval
    ((suspendMarket "group" totals.providerRef "injury" "staff").eval db).2).2

theorem open_totals_restored :
    StatusKept openDatabase (suspendAndResume openDatabase) totals := by
  have stored : totals ∈ openDatabase.catalog.markets.rows := by decide +kernel
  have event : ∃ event ∈ openDatabase.catalog.events.rows, event.providerRef = totals.event ∧
      event.status ≠ .ended := by decide +kernel
  have allOpen : ∀ selection ∈ openDatabase.catalog.selections.rows,
      selection.market = totals.providerRef → selection.status = .open := by decide +kernel
  obtain ⟨event, there, of, running⟩ := event
  exact (suspend_resume_restores_iff "group" "injury" "staff" "staff" (Table.mem_rows.mp stored)
    rfl (Table.mem_rows.mp there) of running).mpr (.inr allOpen)

/-- The side that was held back comes back open. -/
theorem held_back_side_reopened :
    totals ∈ overHeldBack.catalog.markets.rows ∧
      (overHeldBack.catalog.selections.get? "game:book:totals:over:220.5").map Selection.status =
        some .suspended ∧
      ((suspendAndResume overHeldBack).catalog.selections.get?
        "game:book:totals:over:220.5").map Selection.status = some .open ∧
      ¬ StatusKept overHeldBack (suspendAndResume overHeldBack) totals := by
  have held : (overHeldBack.catalog.selections.get? "game:book:totals:over:220.5").map
      (fun selection => (selection.market, selection.status)) =
        some ("game:book:totals", .suspended) := by decide +kernel
  have reopened : ((suspendAndResume overHeldBack).catalog.selections.get?
      "game:book:totals:over:220.5").map Selection.status = some .open := by decide +kernel
  refine ⟨by decide +kernel, by decide +kernel, reopened, ?_⟩
  intro kept
  obtain ⟨selection, known, same⟩ := Option.map_eq_some_iff.mp held
  obtain ⟨stored, ref⟩ := Table.get?_eq_some_iff.mp known
  obtain ⟨on, suspended⟩ := Prod.mk.inj same
  have unchanged := kept.selections selection stored on
  rw [ref, reopened, suspended] at unchanged
  cases unchanged

def suspendedTotals : Database :=
  ((suspendMarket "group" "game:book:totals" "injury" "staff").eval openDatabase).2

/-- A market that was suspended on its own takes bets after resuming. -/
theorem resumed_totals_on_offer :
    ((resumeMarket "group" "game:book:totals" "staff").eval suspendedTotals).1 = .ok () ∧
      ∀ selection ∈ ((resumeMarket "group" "game:book:totals" "staff").eval
          suspendedTotals).2.catalog.selections.rows,
        selection.market = "game:book:totals" → ∀ row,
          joinSelection ((resumeMarket "group" "game:book:totals" "staff").eval suspendedTotals).2
            "group" selection = some row → ∃ leg, validateLeg row = .ok leg := by
  have resumed : ((resumeMarket "group" "game:book:totals" "staff").eval suspendedTotals).1 =
      .ok () := by decide +kernel
  have running : ∀ selection ∈ suspendedTotals.catalog.selections.rows,
      selection.market = "game:book:totals" →
        ∀ row ∈ joinSelection suspendedTotals "group" selection,
          row.event.status ≠ .suspended ∧ row.event.status ≠ .cancelled := by decide +kernel
  exact ⟨resumed, (resumed_on_offer_iff resumed).mpr running⟩

def suspendedGame : Database :=
  ((suspendEvent "group" "game" "injury" "staff").eval openDatabase).2

/-- After the ingested event was suspended, its market is resumed and takes no bets. -/
theorem resumed_under_suspended_event :
    ((suspendEvent "group" "game" "injury" "staff").eval openDatabase).1 = .ok () ∧
      ((resumeMarket "group" "game:book:totals" "staff").eval suspendedGame).1 = .ok () ∧
      ¬ ∀ selection ∈ ((resumeMarket "group" "game:book:totals" "staff").eval
          suspendedGame).2.catalog.selections.rows,
        selection.market = "game:book:totals" → ∀ row,
          joinSelection ((resumeMarket "group" "game:book:totals" "staff").eval suspendedGame).2
            "group" selection = some row → ∃ leg, validateLeg row = .ok leg := by
  refine ⟨by decide +kernel, by decide +kernel, ?_⟩
  intro all
  have refused : ∃ selection ∈ ((resumeMarket "group" "game:book:totals" "staff").eval
      suspendedGame).2.catalog.selections.rows, selection.market = "game:book:totals" ∧
        ∃ row ∈ joinSelection ((resumeMarket "group" "game:book:totals" "staff").eval
          suspendedGame).2 "group" selection, (validateLeg row).toBool = false := by
    decide +kernel
  obtain ⟨selection, stored, on, row, joined, fails⟩ := refused
  obtain ⟨leg, passed⟩ := all selection stored on row joined
  rw [passed] at fails
  cases fails

end Sample

end SportsBetting.Trading
