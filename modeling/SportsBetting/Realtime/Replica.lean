import SportsBetting.Realtime.Announced

/-!
# What a client makes of the messages

A client of a tenant starts from the data of an event and a market, and applies every
message that it receives. It has the data of the database as long as what is written
is announced to it, or changes nothing that it shows.
-/

namespace SportsBetting.Announced

open Async Ingestion Realtime Trading Numeral

section Client

structure Client where
  casinoGroupId : String
  eventId : String
  marketId : String

/-- Status and scores of the event, price and status of each selection of the market. -/
@[ext] structure Replica where
  event : Option (EventStatus × Option ℤ × Option ℤ)
  selections : String → Option (ℚ × SelectionStatus)

namespace Client

variable (client : Client)

/-- What the client is to show. -/
def shown (db : Database) : Replica where
  event := (db.catalog.events.get? client.eventId).map fun event =>
    (event.status, event.homeScore, event.awayScore)
  selections ref := ((db.catalog.selections.get? ref).filter fun selection =>
    selection.market = client.marketId).map fun selection =>
      (selection.price.value, selection.status)

def rooms : List String :=
  [eventRoom client.casinoGroupId client.eventId, marketRoom client.casinoGroupId client.marketId]

def update (replica : Replica) : Payload → Replica
  | .eventUpdate data =>
      if data.eventId = client.eventId then
        { replica with event := some (data.status, data.homeScore, data.awayScore) }
      else replica
  | .selectionOdds data =>
      if data.marketId = client.marketId then
        { replica with
          selections :=
            Function.update replica.selections data.selectionId (some (data.price, data.status)) }
      else replica

/-- A message is received in the rooms of the client. -/
def apply (replica : Replica) (message : RealtimeBroadcastMessage) : Replica :=
  if message.room ∈ client.rooms then client.update replica message.data else replica

/-- What the client shows after the messages. -/
def replica (start : Database) (sent : List RealtimeBroadcastMessage) : Replica :=
  sent.foldl client.apply (client.shown start)

/-- The selections of the market. -/
def selections (db : Database) : List Selection :=
  db.catalog.selections.rows.filter fun selection => selection.market = client.marketId

/-- None of the fixtures has the event, or a selection of the market. -/
def Spared (fixtures : List String) (db : Database) : Prop :=
  ∀ event ∈ db.catalog.events.rows, event.fixture ∈ fixtures →
    event.providerRef ≠ client.eventId ∧
      ∀ selection ∈ client.selections db, selectionOfEvent db event.providerRef selection = false

/-- The selections of the market that are on the event have the status already. -/
def Have (status : SelectionStatus) (eventId : String) (db : Database) : Prop :=
  ∀ selection ∈ client.selections db, selectionOfEvent db eventId selection = true →
    selection.status = status

/-- An unannounced selection is stored as it is listed. -/
def Stored (selection : NormalizedSelection) (db : Database) : Prop :=
  (selection.marketProviderRef = client.marketId ∨
    ∃ old ∈ client.selections db, old.providerRef = selection.providerRef) →
  selection.marketProviderRef = client.marketId ∧
    ∃ old ∈ client.selections db, old.providerRef = selection.providerRef ∧
      old.status = selection.status ∧ newDecimal selection.price = .ok old.price.value

/-- An announced selection does not leave the market, and its price is stored exactly. -/
def Announceable (selection : NormalizedSelection) (db : Database) : Prop :=
  (selection.marketProviderRef = client.marketId →
    ∀ price ∈ (newDecimal selection.price).toOption, HasDecimals 3 price) ∧
  ∀ old ∈ client.selections db, old.providerRef = selection.providerRef →
    selection.marketProviderRef = client.marketId

/-- What the client hears of, or does not need to hear of. -/
def Follows : {Reply : Type} → GameCall Reply → Feed → Prop
  | _, .other _, _ => True
  | _, .removeFixtures fixtures, feed => client.Spared fixtures feed.db
  | _, .deleteBetsAndFixtures _ fixtures, feed => client.Spared fixtures feed.db
  | _, .upsertEvent _, _ => True
  | _, .publishEventUpdate data, feed => data.eventId = client.eventId →
      client.casinoGroupId ∈ groupIdsForEvent feed.db data.eventId
  | _, .settleSelections eventRef, feed => client.Have .settled eventRef feed.db
  | _, .upsertSelection selection true, feed => client.Announceable selection feed.db
  | _, .upsertSelection selection false, feed => client.Stored selection feed.db
  | _, .publishSelectionOdds data, feed => data.marketId = client.marketId →
      client.casinoGroupId ∈ groupIdsForMarket feed.db data.marketId
  | _, .endEvent event homeScore awayScore, feed => event.providerRef = client.eventId →
      (client.shown feed.db).event = some (.ended, some homeScore, some awayScore)
  | _, .suspendEventRows eventId, feed =>
      (eventId = client.eventId → ∀ event ∈ feed.db.catalog.events.rows,
        event.providerRef = eventId → event.status = .suspended) ∧
      client.Have .suspended eventId feed.db
  | _, .setMarketRows marketId _ selectionStatus, feed => marketId = client.marketId →
      ∀ selection ∈ client.selections feed.db, selection.status = selectionStatus

instance (fixtures : List String) (db : Database) : Decidable (client.Spared fixtures db) := by
  unfold Spared
  infer_instance

instance (status : SelectionStatus) (eventId : String) (db : Database) :
    Decidable (client.Have status eventId db) := by
  unfold Have
  infer_instance

instance (selection : NormalizedSelection) (db : Database) :
    Decidable (client.Stored selection db) := by
  unfold Stored
  infer_instance

instance (selection : NormalizedSelection) (db : Database) :
    Decidable (client.Announceable selection db) := by
  unfold Announceable
  infer_instance

instance {Reply : Type} (call : GameCall Reply) (feed : Feed) :
    Decidable (client.Follows call feed) := by
  cases call with
  | upsertSelection selection announced =>
      cases announced <;> (unfold Follows; infer_instance)
  | _ => unfold Follows; infer_instance

end Client

end Client

section Runs

variable (runtime : Text.Runtime) (isOddsApi : Bool)

/-- Operations one after the other. -/
def runOps (ops : List GameOp) (feed : Feed) : Feed :=
  ops.foldl (fun feed op => ((op.program runtime isOddsApi).solo answer feed).2) feed

/-- The database that the services of the operations leave. -/
def runServices (ops : List GameOp) (db : Database) : Database :=
  ops.foldl (fun db op => ((op.service runtime isOddsApi).eval db).2) db

theorem runOps_db (ops : List GameOp) (feed : Feed) :
    (runOps runtime isOddsApi ops feed).db = runServices runtime isOddsApi ops feed.db := by
  induction ops generalizing feed with
  | nil => rfl
  | cons op ops ih =>
      refine (ih _).trans ?_
      rw [solo_db]
      rfl

/-- In all operations, the client hears of what it needs to hear of. -/
def Followed (client : Client) : List GameOp → Feed → Prop
  | [], _ => True
  | op :: ops, feed => (op.program runtime isOddsApi).Meets answer client.Follows feed ∧
      Followed client ops ((op.program runtime isOddsApi).solo answer feed).2

instance decidableFollowed (client : Client) : (ops : List GameOp) → (feed : Feed) →
    Decidable (Followed runtime isOddsApi client ops feed)
  | [], _ => .isTrue trivial
  | op :: ops, feed =>
      have := decidableFollowed client ops ((op.program runtime isOddsApi).solo answer feed).2
      inferInstanceAs (Decidable (_ ∧ _))

end Runs

section Updates

variable {client : Client} {db after : Database} {replica : Replica}

theorem Client.shown_congr (events : after.catalog.events = db.catalog.events)
    (selections : after.catalog.selections = db.catalog.selections) :
    client.shown after = client.shown db := by
  simp [Client.shown, events, selections]

theorem Client.mem_selections {selection : Selection} :
    selection ∈ client.selections db ↔
      selection ∈ db.catalog.selections ∧ selection.market = client.marketId := by
  simp [Client.selections, Table.mem_rows]

/-- What is not in the market is not shown. -/
theorem Client.shown_of_not_mem {ref : String}
    (absent : ∀ selection ∈ client.selections db, selection.providerRef ≠ ref) :
    (client.shown db).selections ref = none := by
  unfold Client.shown
  dsimp only
  cases found : db.catalog.selections.get? ref with
  | none => rfl
  | some selection =>
      obtain ⟨stored, rfl⟩ := Table.get?_eq_some_iff.mp found
      by_cases own : selection.market = client.marketId
      · exact absurd rfl (absent selection (Client.mem_selections.mpr ⟨stored, own⟩))
      · simp [own]

theorem Client.shown_of_mem {selection : Selection} (member : selection ∈ client.selections db) :
    (client.shown db).selections selection.providerRef =
      some (selection.price.value, selection.status) := by
  obtain ⟨stored, own⟩ := Client.mem_selections.mp member
  simp [Client.shown, Table.get?_of_mem stored, own]

/-- A message that is applied again changes nothing. -/
theorem Client.update_update (replica : Replica) (data : Payload) :
    client.update (client.update replica data) data = client.update replica data := by
  cases data with
  | eventUpdate data =>
      by_cases own : data.eventId = client.eventId
      · simp [Client.update, own]
      · simp [Client.update, own]
  | selectionOdds data =>
      by_cases own : data.marketId = client.marketId
      · simp [Client.update, own]
      · simp [Client.update, own]

theorem Client.apply_copies {data : Payload} {messages : List RealtimeBroadcastMessage}
    (copies : ∀ message ∈ messages, message.data = data) (replica : Replica) :
    messages.foldl client.apply replica =
      if ∃ message ∈ messages, message.room ∈ client.rooms then client.update replica data
      else replica := by
  induction messages generalizing replica with
  | nil => simp
  | cons message messages ih =>
      have same := copies message List.mem_cons_self
      rw [List.foldl_cons, ih fun other member => copies other (List.mem_cons_of_mem _ member)]
      unfold Client.apply
      rw [same]
      by_cases here : message.room ∈ client.rooms
      · simp [here, Client.update_update]
      · simp [here]

/-- The client has a publication, if that reaches the tenant or does not concern the client. -/
theorem Client.apply_broadcasts {data : Payload}
    (heard : client.update replica data = replica ∨
      data.topic.room client.casinoGroupId ∈ client.rooms ∧
        client.casinoGroupId ∈ data.topic.groupIds db) :
    (broadcasts db data).foldl client.apply replica = client.update replica data := by
  have copies : ∀ message ∈ broadcasts db data, message.data = data := by
    intro message member
    obtain ⟨_, _, rfl⟩ := List.mem_map.mp member
    rfl
  rw [Client.apply_copies copies]
  split
  · rfl
  · next missed =>
      rcases heard with same | ⟨inRooms, listed⟩
      · exact same.symm
      · exact absurd ⟨_, List.mem_map_of_mem listed, inRooms⟩ missed

theorem Client.shown_upsertEvent {event : NormalizedEvent}
    (done : upsertEvent db event = .ok after) :
    client.shown after = client.update (client.shown db) (.eventUpdate (eventUpdate event)) := by
  rw [upsertEvent_ok done]
  unfold Client.shown Client.update eventUpdate
  dsimp only
  rw [Table.get?_put]
  by_cases own : event.providerRef = client.eventId
  · rw [if_pos own, if_pos (show (eventRow event).providerRef = client.eventId from own)]
    rfl
  · rw [if_neg own, if_neg (show ¬(eventRow event).providerRef = client.eventId from own)]

theorem Client.shown_put (selection : NormalizedSelection) (price : Numeric 10 3) (ref : String) :
    (client.shown { db with
        catalog.selections := db.catalog.selections.put (selectionRow selection price) }).selections
          ref =
      if selection.providerRef = ref then
        if selection.marketProviderRef = client.marketId then some (price.value, selection.status)
        else none
      else (client.shown db).selections ref := by
  unfold Client.shown
  dsimp only
  rw [Table.get?_put]
  by_cases same : selection.providerRef = ref
  · rw [if_pos same, if_pos (show (selectionRow selection price).providerRef = ref from same)]
    by_cases own : selection.marketProviderRef = client.marketId <;> simp [selectionRow, own]
  · rw [if_neg same, if_neg (show ¬(selectionRow selection price).providerRef = ref from same)]

theorem Client.shown_announced {selection : NormalizedSelection} {price : ℚ}
    (parsed : newDecimal selection.price = .ok price)
    (announceable : client.Announceable selection db)
    (done : upsertSelection db selection = .ok after) :
    client.shown after =
      client.update (client.shown db) (.selectionOdds (selectionOdds selection price)) := by
  obtain ⟨row, ⟨number, column, read, stored, rfl⟩, rfl⟩ := upsertSelection_writes done
  obtain rfl : price = number := Except.ok.inj (parsed.symm.trans read)
  by_cases own : selection.marketProviderRef = client.marketId
  · have exact_ : column.value = price := by
      have decimals := announceable.1 own price (by rw [parsed]; rfl)
      exact (Numeric.store_exact_iff (store_of_toColumn stored)).mpr decimals
    have updated : client.update (client.shown db) (.selectionOdds (selectionOdds selection price)) =
        { client.shown db with
          selections := Function.update (client.shown db).selections selection.providerRef
            (some (price, selection.status)) } := if_pos own
    rw [updated]
    refine Replica.ext rfl (funext fun ref => ?_)
    rw [Client.shown_put]
    by_cases same : selection.providerRef = ref
    · subst same
      simp [own, exact_]
    · simp [same, Function.update_of_ne (Ne.symm same)]
  · have skipped : client.update (client.shown db)
        (.selectionOdds (selectionOdds selection price)) = client.shown db := if_neg own
    rw [skipped]
    refine Replica.ext rfl (funext fun ref => ?_)
    rw [Client.shown_put]
    by_cases same : selection.providerRef = ref
    · subst same
      rw [if_pos rfl, if_neg own]
      exact (Client.shown_of_not_mem fun old member same =>
        own (announceable.2 old member same)).symm
    · rw [if_neg same]

theorem Client.shown_stored {selection : NormalizedSelection}
    (known : client.Stored selection db) (done : upsertSelection db selection = .ok after) :
    client.shown after = client.shown db := by
  obtain ⟨row, ⟨number, column, read, stored, rfl⟩, rfl⟩ := upsertSelection_writes done
  refine Replica.ext rfl (funext fun ref => ?_)
  rw [Client.shown_put]
  by_cases same : selection.providerRef = ref
  · subst same
    rw [if_pos rfl]
    by_cases own : selection.marketProviderRef = client.marketId ∨
        ∃ old ∈ client.selections db, old.providerRef = selection.providerRef
    · obtain ⟨market, old, member, named, status, price⟩ := known own
      have value : column = old.price := by
        have units : toColumn old.price.value = .ok old.price := by
          simp [toColumn, Numeric.store_own]
        rw [Except.ok.inj (read.symm.trans price), units] at stored
        exact (Except.ok.inj stored).symm
      have shows := Client.shown_of_mem member
      rw [named] at shows
      rw [if_pos market, shows, value, status]
    · rw [if_neg fun here => own (.inl here)]
      exact (Client.shown_of_not_mem fun old member named => own (.inr ⟨old, member, named⟩)).symm
  · rw [if_neg same]

end Updates

section Silent

variable {client : Client} {db after : Database}

/-- A change of status that the selections of the market do not need is not shown. -/
theorem Client.shown_statuses (chosen : Selection → Bool) (status : SelectionStatus)
    (have_ : ∀ selection ∈ client.selections db, chosen selection = true →
      selection.status = status) (ref : String) :
    (((db.catalog.selections.updateWhere chosen
      fun selection => { selection with status }).get? ref).filter fun selection =>
        selection.market = client.marketId).map (fun selection =>
          (selection.price.value, selection.status)) = (client.shown db).selections ref := by
  unfold Client.shown
  dsimp only
  rw [Table.get?_updateWhere]
  cases found : db.catalog.selections.get? ref with
  | none => rfl
  | some selection =>
      obtain ⟨stored, rfl⟩ := Table.get?_eq_some_iff.mp found
      rw [Option.map_some]
      by_cases hit : chosen selection = true
      · rw [if_pos hit]
        by_cases own : selection.market = client.marketId
        · obtain rfl := have_ selection (Client.mem_selections.mpr ⟨stored, own⟩) hit
          rfl
        · rw [Option.filter_some_neg (by simpa using own), Option.filter_some_neg (by simpa using own)]
      · rw [if_neg hit]

theorem Client.shown_settleSelections {eventRef : String}
    (settled : client.Have .settled eventRef db) :
    client.shown (settleSelections db eventRef) = client.shown db :=
  Replica.ext rfl (funext (Client.shown_statuses _ .settled settled))

theorem Client.shown_setMarketRows {marketId : String} {marketStatus : MarketStatus}
    {selectionStatus : SelectionStatus} (have_ : marketId = client.marketId →
      ∀ selection ∈ client.selections db, selection.status = selectionStatus) :
    client.shown (setMarketRows db marketId marketStatus selectionStatus) = client.shown db := by
  refine Replica.ext rfl (funext (Client.shown_statuses _ selectionStatus ?_))
  intro selection member hit
  refine have_ ?_ selection member
  rw [← (Client.mem_selections.mp member).2]
  exact (of_decide_eq_true hit).symm

theorem Client.shown_suspendEventRows {eventId : String}
    (suspended : eventId = client.eventId → ∀ event ∈ db.catalog.events.rows,
      event.providerRef = eventId → event.status = .suspended)
    (have_ : client.Have .suspended eventId db) :
    client.shown (suspendEventRows db eventId) = client.shown db := by
  refine Replica.ext ?_ (funext (Client.shown_statuses _ .suspended ?_))
  · unfold Client.shown suspendEventRows setSelectionStatus setMarketStatus setEventStatus
    dsimp only
    rw [Table.get?_updateWhere]
    cases found : db.catalog.events.get? client.eventId with
    | none => rfl
    | some event =>
        obtain ⟨stored, same⟩ := Table.get?_eq_some_iff.mp found
        rw [Option.map_some]
        by_cases hit : event.providerRef = eventId
        · have status := suspended (hit.symm.trans same) event stored hit
          simp [hit, status]
        · simp [hit]
  · intro selection member hit
    have before : selectionOfEvent db eventId selection = true := hit
    exact have_ selection member before

theorem Client.shown_endEvent {event : Event} {homeScore awayScore : ℤ}
    (ended : event.providerRef = client.eventId →
      (client.shown db).event = some (.ended, some homeScore, some awayScore))
    (done : endEvent db event homeScore awayScore = .ok after) :
    client.shown after = client.shown db := by
  unfold endEvent at done
  split at done
  · cases done
  · obtain rfl := Except.ok.inj done
    refine Replica.ext ?_ rfl
    by_cases own : event.providerRef = client.eventId
    · have shows := ended own
      rw [shows]
      unfold Client.shown at shows ⊢
      dsimp only at shows ⊢
      rw [Table.get?_updateWhere]
      cases found : db.catalog.events.get? client.eventId with
      | none =>
          rw [found] at shows
          cases shows
      | some row =>
          obtain ⟨_, same⟩ := Table.get?_eq_some_iff.mp found
          simp [same.trans own.symm]
    · unfold Client.shown
      dsimp only
      rw [Table.get?_updateWhere]
      cases found : db.catalog.events.get? client.eventId with
      | none => rfl
      | some row =>
          obtain ⟨_, same⟩ := Table.get?_eq_some_iff.mp found
          have other : row.providerRef ≠ event.providerRef := fun hit => own (hit.symm.trans same)
          simp [other]

/-- The selection goes with one of the fixtures. -/
def goesWith (fixtures : List String) (db : Database) (selection : Selection) : Bool :=
  match db.catalog.markets.get? selection.market with
  | some market =>
      match db.catalog.events.get? market.event with
      | some event => decide (event.fixture ∈ fixtures)
      | none => false
  | none => false

theorem goesWith_spec {fixtures : List String} {selection : Selection}
    (goes : goesWith fixtures db selection = true) : ∃ event ∈ db.catalog.events,
      event.fixture ∈ fixtures ∧ selectionOfEvent db event.providerRef selection = true := by
  unfold goesWith at goes
  split at goes
  · next market on =>
      split at goes
      · next event at_ =>
          obtain ⟨stored, named⟩ := Table.get?_eq_some_iff.mp at_
          refine ⟨event, stored, of_decide_eq_true goes, ?_⟩
          simp [selectionOfEvent, on, named]
      · cases goes
  · cases goes

theorem Client.shown_cascadeFixtures {fixtures : List String} (ledger : Ledger)
    (spared : client.Spared fixtures db) :
    client.shown { db with ledger, catalog := cascadeFixtures fixtures db.catalog } =
      client.shown db := by
  have events : (cascadeFixtures fixtures db.catalog).events.get? client.eventId =
      (db.catalog.events.get? client.eventId).filter fun event => !decide (event.fixture ∈ fixtures) :=
    Table.get?_deleteWhere ..
  have selections : ∀ ref, (cascadeFixtures fixtures db.catalog).selections.get? ref =
      (db.catalog.selections.get? ref).filter fun selection => !goesWith fixtures db selection :=
    fun ref => Table.get?_deleteWhere ..
  refine Replica.ext ?_ (funext fun ref => ?_)
  · unfold Client.shown
    dsimp only
    rw [events]
    cases found : db.catalog.events.get? client.eventId with
    | none => rfl
    | some event =>
        obtain ⟨stored, same⟩ := Table.get?_eq_some_iff.mp found
        have stays : event.fixture ∉ fixtures := fun gone => (spared event stored gone).1 same
        simp [stays]
  · unfold Client.shown
    dsimp only
    rw [selections]
    cases found : db.catalog.selections.get? ref with
    | none => rfl
    | some selection =>
        obtain ⟨stored, rfl⟩ := Table.get?_eq_some_iff.mp found
        cases goes : goesWith fixtures db selection with
        | false => rw [Option.filter_some_pos (by simp [goes])]
        | true =>
            obtain ⟨event, present, gone, on⟩ := goesWith_spec goes
            have other : selection.market ≠ client.marketId := by
              intro own
              have member : selection ∈ client.selections db :=
                Client.mem_selections.mpr ⟨stored, own⟩
              rw [(spared event present gone).2 selection member] at on
              cases on
            rw [Option.filter_some_neg (by simp [goes]), Option.filter_some_neg (by simp [other])]
            rfl

end Silent

end SportsBetting.Announced
