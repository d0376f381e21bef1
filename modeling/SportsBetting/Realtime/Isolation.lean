import Mathlib.Data.List.Dedup
import SportsBetting.Data.Operations
import SportsBetting.Realtime.Gateway

/-!
# What a socket receives

A payload reaches a socket through a room whose name tells the tenant and the event
or market. The socket is in it by a subscription that was checked, and the message
is there by a publication that was.
-/

namespace SportsBetting.Realtime

open Operations

section Names

/-- Ids are generated without the separator of room names. -/
def Plain (id : String) : Prop := ':' ∉ id.toList

instance (id : String) : Decidable (Plain id) := inferInstanceAs (Decidable (¬ _))

/-- The part before the first separator is determined. -/
theorem separator_unique {first second tail tail' : List Char} (plain : ':' ∉ first)
    (plain' : ':' ∉ second) (same : first ++ ':' :: tail = second ++ ':' :: tail') :
    first = second ∧ tail = tail' := by
  induction first generalizing second with
  | nil =>
      cases second with
      | nil => exact ⟨rfl, (List.cons.inj same).2⟩
      | cons symbol second => exact absurd ((List.cons.inj same).1 ▸ List.mem_cons_self) plain'
  | cons symbol first ih =>
      cases second with
      | nil => exact absurd ((List.cons.inj same).1 ▸ List.mem_cons_self) plain
      | cons other second =>
          obtain ⟨rfl, rest⟩ := List.cons.inj same
          obtain ⟨rfl, rfl⟩ := ih (fun member => plain (List.mem_cons_of_mem _ member))
            (fun member => plain' (List.mem_cons_of_mem _ member)) rest
          exact ⟨rfl, rfl⟩

def Topic.kind : Topic → List Char
  | .event _ => "event:".toList
  | .market _ => "market:".toList

def Topic.id : Topic → String
  | .event id => id
  | .market id => id

theorem Topic.room_toList (casinoGroupId : String) (topic : Topic) :
    (topic.room casinoGroupId).toList = "group:".toList ++
      (casinoGroupId.toList ++ ':' :: (topic.kind ++ topic.id.toList)) := by
  have event : ":event:".toList = ':' :: "event:".toList := by decide
  have market : ":market:".toList = ':' :: "market:".toList := by decide
  cases topic with
  | event id =>
      rw [Topic.room, eventRoom, String.toList_append, String.toList_append, String.toList_append,
        event, List.append_assoc, List.append_assoc]
      rfl
  | market id =>
      rw [Topic.room, marketRoom, String.toList_append, String.toList_append, String.toList_append,
        market, List.append_assoc, List.append_assoc]
      rfl

theorem Topic.tail_injective {first second : Topic}
    (same : first.kind ++ first.id.toList = second.kind ++ second.id.toList) :
    first = second := by
  have differ : ∀ tail tail' : List Char,
      "event:".toList ++ tail ≠ "market:".toList ++ tail' := by simp
  cases first with
  | event id =>
      cases second with
      | event other => exact congrArg _ (String.toList_injective (List.append_cancel_left same))
      | market other => exact absurd same (differ _ _)
  | market id =>
      cases second with
      | event other => exact absurd same.symm (differ _ _)
      | market other => exact congrArg _ (String.toList_injective (List.append_cancel_left same))

/-- No room of one tenant is one of another, and none is for two topics. -/
theorem Topic.room_injective {tenant other : String} (plain : Plain tenant) (plain' : Plain other)
    {first second : Topic} (same : first.room tenant = second.room other) :
    tenant = other ∧ first = second := by
  have texts := congrArg String.toList same
  rw [Topic.room_toList, Topic.room_toList] at texts
  obtain ⟨tenants, tails⟩ := separator_unique plain plain' (List.append_cancel_left texts)
  exact ⟨String.toList_injective tenants, Topic.tail_injective tails⟩

end Names

section Access

variable {db : Database} {casinoGroupId : String} {topic : Topic}

theorem groupIdsForLeague_spec {league : Option String}
    (listed : casinoGroupId ∈ groupIdsForLeague db league) :
    league.any (leagueEnabled db casinoGroupId) = true ∧
      ∃ row ∈ db.catalog.casinoGroupLeagues, row.casinoGroupId = casinoGroupId := by
  cases league with
  | none => cases listed
  | some league =>
      obtain ⟨row, kept, rfl⟩ := List.mem_map.mp (List.mem_dedup.mp listed)
      obtain ⟨stored, chosen⟩ := List.mem_filter.mp kept
      obtain ⟨enabled, rfl⟩ : row.enabled = true ∧ row.league = league := by simpa using chosen
      have found : db.catalog.casinoGroupLeagues.get? (row.casinoGroupId, row.league) = some row :=
        Table.get?_of_mem (Table.mem_rows.mp stored)
      exact ⟨by simp [leagueEnabled, found, enabled], row, stored, rfl⟩

/-- A publication goes to tenants for which the league is enabled. -/
theorem groupIds_spec (listed : casinoGroupId ∈ topic.groupIds db) :
    topic.enabledFor db casinoGroupId = true ∧
      ∃ row ∈ db.catalog.casinoGroupLeagues, row.casinoGroupId = casinoGroupId := by
  cases topic <;> exact groupIdsForLeague_spec listed

def SubscribeDto.topics (body : SubscribeDto) : List Topic :=
  body.eventIds.map .event ++ body.markets.map .market

/-- A subscription joins rooms of what it asks for and what is visible. -/
theorem joined_spec {body : SubscribeDto} {rooms : List String} {message : ServerMessage}
    (granted : joined db casinoGroupId body = some (rooms, message)) :
    (∀ room ∈ rooms, ∃ topic ∈ body.topics, room = topic.room casinoGroupId ∧
      topic.enabledFor db casinoGroupId = true) ∧ ∀ data, message ≠ .update data := by
  unfold joined at granted
  dsimp only at granted
  split at granted
  · cases granted
  · obtain ⟨rfl, rfl⟩ := Prod.mk.inj (Option.some.inj granted)
    refine ⟨fun room member => ?_, fun _ => nofun⟩
    rcases List.mem_append.mp member with event | market
    · obtain ⟨id, visible, rfl⟩ := List.mem_map.mp event
      unfold filterVisibleEventIds at visible
      split at visible
      · cases visible
      · have chosen := (List.mem_filter.mp visible).2
        obtain ⟨asked, enabled⟩ : id ∈ body.eventIds ∧ _ := by simpa using chosen
        exact ⟨.event id, List.mem_append_left _ (List.mem_map_of_mem asked), rfl, enabled⟩
    · obtain ⟨id, visible, rfl⟩ := List.mem_map.mp market
      unfold filterVisibleMarketIds at visible
      split at visible
      · cases visible
      · have chosen := (List.mem_filter.mp visible).2
        obtain ⟨asked, enabled⟩ : id ∈ body.markets ∧ _ := by simpa using chosen
        exact ⟨.market id, List.mem_append_right _ (List.mem_map_of_mem asked), rfl, enabled⟩

end Access

section Trace

variable (verify : String → Option UserContext) (maxPerMinute : ℕ) (start : State)

/-- The payload is published while the league is enabled for the tenant. -/
def Published (casinoGroupId : String) (data : Payload) (state : State) (op : RealtimeOp) : Prop :=
  op = .publish data ∧ data.topic.enabledFor state.db casinoGroupId = true

/-- A socket of the tenant subscribes to the topic while that is visible to the tenant. -/
def Subscribed (socketId casinoGroupId : String) (topic : Topic) (state : State)
    (op : RealtimeOp) : Prop :=
  ∃ body, op = .subscribe socketId body ∧ topic ∈ body.topics ∧
    topic.enabledFor state.db casinoGroupId = true ∧
    ∃ socket ∈ state.sockets, socket.id = socketId ∧
      socket.user.map UserContext.casinoGroupId = some casinoGroupId

/-- Rooms and received payloads of a socket come about by what happened. -/
structure Socket.Traced (ops : List RealtimeOp) (socket : Socket) : Prop where
  plain : ∀ user ∈ socket.user, Plain user.casinoGroupId
  rooms : ∀ room ∈ socket.rooms, ∃ user ∈ socket.user, ∃ topic : Topic,
    room = topic.room user.casinoGroupId ∧
      Happened (step verify maxPerMinute) start ops (Subscribed socket.id user.casinoGroupId topic)
  received : ∀ data, .update data ∈ socket.received → ∃ user ∈ socket.user,
    Happened (step verify maxPerMinute) start ops (Published user.casinoGroupId data) ∧
      Happened (step verify maxPerMinute) start ops
        (Subscribed socket.id user.casinoGroupId data.topic)

structure Traced (ops : List RealtimeOp) (state : State) : Prop where
  groups : ∀ row ∈ state.db.catalog.casinoGroupLeagues, Plain row.casinoGroupId
  sockets : ∀ socket ∈ state.sockets, socket.Traced verify maxPerMinute start ops
  channel : ∀ queue ∈ state.channel, ∀ message ∈ queue, ∃ casinoGroupId, Plain casinoGroupId ∧
    message.room = message.data.topic.room casinoGroupId ∧
      Happened (step verify maxPerMinute) start ops (Published casinoGroupId message.data)

variable {verify maxPerMinute start} {ops : List RealtimeOp} {state : State} {socket : Socket}

theorem Socket.Traced.mono (traced : socket.Traced verify maxPerMinute start ops)
    (op : RealtimeOp) : socket.Traced verify maxPerMinute start (ops ++ [op]) where
  plain := traced.plain
  rooms room member := by
    obtain ⟨user, own, topic, same, happened⟩ := traced.rooms room member
    exact ⟨user, own, topic, same, happened.mono [op]⟩
  received data member := by
    obtain ⟨user, own, published, subscribed⟩ := traced.received data member
    exact ⟨user, own, published.mono [op], subscribed.mono [op]⟩

theorem Socket.Traced.send (traced : socket.Traced verify maxPerMinute start ops)
    {message : ServerMessage} (plain : ∀ data, message ≠ .update data) :
    (socket.send message).Traced verify maxPerMinute start ops where
  plain := traced.plain
  rooms := traced.rooms
  received data member := by
    rcases List.mem_append.mp member with old | new
    · exact traced.received data old
    · exact absurd (List.mem_singleton.mp new).symm (plain data)

/-- Fewer rooms, and nothing received. -/
theorem Socket.Traced.fewer (traced : socket.Traced verify maxPerMinute start ops)
    {after : Socket} (id : after.id = socket.id) (user : after.user = socket.user)
    (rooms : after.rooms ⊆ socket.rooms) (received : after.received = socket.received) :
    after.Traced verify maxPerMinute start ops where
  plain := user ▸ traced.plain
  rooms room member := by
    rw [id, user]
    exact traced.rooms room (rooms member)
  received data member := by
    rw [id, user]
    exact traced.received data (received ▸ member)

theorem Traced.mono (traced : Traced verify maxPerMinute start ops state) (op : RealtimeOp) :
    Traced verify maxPerMinute start (ops ++ [op]) state where
  groups := traced.groups
  sockets socket member := (traced.sockets socket member).mono op
  channel queue member message present := by
    obtain ⟨tenant, plain, room, published⟩ := traced.channel queue member message present
    exact ⟨tenant, plain, room, published.mono [op]⟩

/-- What one handler does to one socket. -/
theorem Traced.onSocket (traced : Traced verify maxPerMinute start ops state) {socketId : String}
    {change : Socket → Socket} {keeps : ∀ socket, (change socket).id = socket.id}
    (changed : ∀ socket ∈ state.sockets, socket.id = socketId →
      (change socket).Traced verify maxPerMinute start ops) :
    Traced verify maxPerMinute start ops (state.onSocket socketId change keeps) where
  groups := traced.groups
  sockets socket member := by
    have member : socket ∈ state.sockets.updateWhere (fun socket => socket.id = socketId)
      change keeps := member
    rcases Table.updateWhere_cases member with ⟨old, present, chosen, rfl⟩ | ⟨present, _⟩
    · exact changed old present (of_decide_eq_true chosen)
    · exact traced.sockets socket present
  channel := traced.channel

theorem tryConsume_snd (appInstance : ℕ) (key : String) (state : State) :
    ∃ buckets, (tryConsume maxPerMinute appInstance key state).2 = { state with buckets } := by
  unfold tryConsume
  dsimp only
  split
  · exact ⟨_, rfl⟩
  · exact ⟨_, rfl⟩

theorem authenticate_ok {token : Option String} {active : Option Bool} {user : UserContext}
    (authenticated : authenticate verify token active = .ok user) :
    ∃ text, verify text = some user := by
  cases token with
  | none => cases authenticated
  | some text =>
      cases verified : verify text with
      | none => simp [authenticate, verified] at authenticated
      | some known =>
          cases active with
          | none => simp [authenticate, verified] at authenticated
          | some active =>
              cases active with
              | false => simp [authenticate, verified] at authenticated
              | true =>
                  obtain rfl : known = user := by simpa [authenticate, verified] using authenticated
                  exact ⟨text, verified⟩

theorem Traced.connect (traced : Traced verify maxPerMinute start ops state)
    (plain : ∀ token user, verify token = some user → Plain user.casinoGroupId) (socketId : String)
    (appInstance : ℕ) (token : Option String) (active : Option Bool) :
    Traced verify maxPerMinute start ops
      (handleConnection verify socketId appInstance token active state) := by
  refine ⟨traced.groups, fun socket member => ?_, traced.channel⟩
  unfold handleConnection at member
  dsimp only at member
  cases inserted : state.sockets.insert?
      (accepted socketId appInstance (authenticate verify token active)) with
  | none =>
      rw [inserted] at member
      exact traced.sockets socket member
  | some sockets =>
      rw [inserted] at member
      rcases ((Table.insert?_spec inserted).2 socket).mp member with old | rfl
      · exact traced.sockets socket old
      · cases authenticated : authenticate verify token active with
        | error message => exact ⟨nofun, nofun, by simp [accepted]⟩
        | ok user =>
            refine ⟨fun known same => ?_, nofun, by simp [accepted]⟩
            rw [← Option.some.inj same]
            obtain ⟨text, verified⟩ := authenticate_ok authenticated
            exact plain text user verified

theorem Traced.subscribe
    (traced : Traced verify maxPerMinute start ops (run (step verify maxPerMinute) start ops))
    (socketId : String) (body : SubscribeDto) :
    Traced verify maxPerMinute start (ops ++ [.subscribe socketId body])
      (handleSubscribe maxPerMinute socketId body (run (step verify maxPerMinute) start ops)) := by
  have later := traced.mono (.subscribe socketId body)
  unfold handleSubscribe
  split
  · exact later
  · next socket found =>
      obtain ⟨stored, connected⟩ := Option.filter_eq_some_iff.mp found
      obtain ⟨present, same⟩ := Table.get?_eq_some_iff.mp stored
      split
      · exact later.onSocket fun other member _ => (later.sockets other member).send fun _ => nofun
      · next user own =>
          obtain ⟨buckets, consumed⟩ : ∃ buckets, (tryConsume maxPerMinute socket.appInstance
              user.casinoGroupId (run (step verify maxPerMinute) start ops)).2 =
                { run (step verify maxPerMinute) start ops with buckets } := tryConsume_snd ..
          dsimp only
          rw [consumed]
          have counted : Traced verify maxPerMinute start (ops ++ [.subscribe socketId body])
              { run (step verify maxPerMinute) start ops with buckets } :=
            ⟨later.groups, later.sockets, later.channel⟩
          split
          · exact counted.onSocket fun other member _ =>
              (counted.sockets other member).send fun _ => nofun
          · split
            · exact counted.onSocket fun other member _ =>
                (counted.sockets other member).send fun _ => nofun
            · next rooms message granted =>
                obtain ⟨visible, plain⟩ := joined_spec granted
                refine counted.onSocket fun other member named => Socket.Traced.send ?_ plain
                obtain rfl : other = socket := Table.eq_of_key member present (named.trans same.symm)
                have traced := counted.sockets other member
                refine ⟨traced.plain, fun room joins => ?_, traced.received⟩
                rcases List.mem_union_iff.mp joins with new | old
                · obtain ⟨topic, asked, rfl, enabled⟩ := visible room new
                  refine ⟨user, own, topic, rfl, Happened.last ?_⟩
                  have tenant : other.user.map UserContext.casinoGroupId =
                      some user.casinoGroupId := by rw [own]; rfl
                  have asks : RealtimeOp.subscribe socketId body = .subscribe other.id body := by
                    rw [named]
                  exact ⟨body, asks, asked, enabled, other, present, rfl, tenant⟩
                · exact traced.rooms room old

theorem Traced.publish
    (traced : Traced verify maxPerMinute start ops (run (step verify maxPerMinute) start ops))
    (data : Payload) : Traced verify maxPerMinute start (ops ++ [.publish data])
      (publish data (run (step verify maxPerMinute) start ops)) := by
  have later := traced.mono (.publish data)
  refine ⟨later.groups, later.sockets, fun queue member message present => ?_⟩
  obtain ⟨old, known, rfl⟩ := List.mem_map.mp member
  rcases List.mem_append.mp present with waiting | new
  · exact later.channel old known message waiting
  · obtain ⟨tenant, listed, rfl⟩ := List.mem_map.mp new
    obtain ⟨enabled, row, stored, rfl⟩ := groupIds_spec listed
    exact ⟨row.casinoGroupId, traced.groups row stored, rfl, Happened.last ⟨rfl, enabled⟩⟩

/-- A message is handed to the sockets of its room, which are in no room of another tenant
or topic. -/
theorem Traced.deliver (traced : Traced verify maxPerMinute start ops state) (appInstance : ℕ) :
    Traced verify maxPerMinute start ops (onMessage appInstance state) := by
  unfold onMessage
  split
  · next message rest found =>
      have present := List.mem_of_getElem? found
      obtain ⟨tenant, plain, room, published⟩ :=
        traced.channel _ present message List.mem_cons_self
      refine ⟨traced.groups, fun socket member => ?_, fun queue member other waits => ?_⟩
      · have member : socket ∈ state.sockets.updateWhere
            (fun socket => socket.connected && socket.rooms.contains message.room)
            (Socket.send (.update message.data)) := member
        rcases Table.updateWhere_cases member with ⟨old, stored, chosen, rfl⟩ | ⟨stored, _⟩
        · have known := traced.sockets old stored
          refine ⟨known.plain, known.rooms, fun data received => ?_⟩
          rcases List.mem_append.mp received with before | new
          · exact known.received data before
          · obtain rfl : data = message.data := by simpa using new
            have inRoom : message.room ∈ old.rooms := by
              simpa using (Bool.and_eq_true_iff.mp chosen).2
            obtain ⟨user, own, topic, same, subscribed⟩ := known.rooms _ inRoom
            obtain ⟨rfl, rfl⟩ :=
              Topic.room_injective plain (known.plain user own) (room.symm.trans same)
            exact ⟨user, own, published, subscribed⟩
        · exact traced.sockets socket stored
      · rcases List.mem_or_eq_of_mem_set member with old | rfl
        · exact traced.channel queue old other waits
        · exact traced.channel _ present other (List.mem_cons_of_mem _ waits)
  · exact traced

/-- The tenants of the operation are named without the separator. -/
def RealtimeOp.Plain : RealtimeOp → Prop
  | .setOffering casinoGroupId _ _ _ => Realtime.Plain casinoGroupId
  | _ => True

theorem Traced.step (plain : ∀ token user, verify token = some user → Plain user.casinoGroupId)
    (traced : Traced verify maxPerMinute start ops (run (step verify maxPerMinute) start ops))
    (op : RealtimeOp) (named : op.Plain) :
    Traced verify maxPerMinute start (ops ++ [op])
      (step verify maxPerMinute (run (step verify maxPerMinute) start ops) op) := by
  have later := traced.mono op
  cases op with
  | connect socketId appInstance token active =>
      exact later.connect plain socketId appInstance token active
  | disconnect socketId =>
      exact later.onSocket fun socket member _ =>
        (later.sockets socket member).fewer rfl rfl (List.nil_subset _) rfl
  | subscribe socketId body => exact traced.subscribe socketId body
  | unsubscribe socketId body =>
      unfold Realtime.step handleUnsubscribe
      dsimp only
      split
      · exact later
      · exact later.onSocket fun socket member _ =>
          (later.sockets socket member).fewer rfl rfl List.filter_sublist.subset rfl
  | setOffering casinoGroupId league enabled locked =>
      refine ⟨fun row stored => ?_, later.sockets, later.channel⟩
      rcases Table.mem_put.mp stored with rfl | ⟨old, _⟩
      · exact named
      · exact later.groups row old
  | publish data => exact traced.publish data
  | deliver appInstance => exact later.deliver appInstance
  | pass milliseconds => exact ⟨later.groups, later.sockets, later.channel⟩

end Trace

section Runs

variable (verify : String → Option UserContext) (maxPerMinute : ℕ) (db : Database) (clock : Time)
  (instances : ℕ)

theorem traced_run (plain : ∀ token user, verify token = some user → Plain user.casinoGroupId)
    (groups : ∀ row ∈ db.catalog.casinoGroupLeagues, Plain row.casinoGroupId)
    {ops : List RealtimeOp} (named : ∀ op ∈ ops, op.Plain) :
    Traced verify maxPerMinute (started db clock instances) ops
      (run (step verify maxPerMinute) (started db clock instances) ops) := by
  have start : Traced verify maxPerMinute (started db clock instances) []
      (started db clock instances) := by
    refine ⟨groups, fun _ never => (nomatch never), fun queue member message waits => ?_⟩
    rw [List.eq_of_mem_replicate member] at waits
    cases waits
  have allowed : ∀ op ∈ ops, op.Plain := named
  exact run_invariant start (fun ops op named traced => traced.step plain op named) allowed

/-- A socket of a tenant receives a payload about an event or market only if that was
published while its league was enabled for the tenant, and only after the socket subscribed
to it while it was visible to the tenant; and no room of one tenant is one of another. -/
theorem received_in_own_tenant
    (plain : ∀ token user, verify token = some user → Plain user.casinoGroupId)
    (groups : ∀ row ∈ db.catalog.casinoGroupLeagues.rows, Plain row.casinoGroupId)
    {ops : List RealtimeOp} (named : ∀ op ∈ ops, op.Plain) :
    (∀ socket ∈ (run (step verify maxPerMinute) (started db clock instances) ops).sockets.rows,
      ∀ user ∈ socket.user, ∀ data, .update data ∈ socket.received →
        Happened (step verify maxPerMinute) (started db clock instances) ops
            (Published user.casinoGroupId data) ∧
          Happened (step verify maxPerMinute) (started db clock instances) ops
            (Subscribed socket.id user.casinoGroupId data.topic)) ∧
    ∀ tenant other (topic topic' : Topic), Plain tenant → Plain other →
      topic.room tenant = topic'.room other → tenant = other ∧ topic = topic' := by
  refine ⟨fun socket stored user own data received => ?_, fun _ _ _ _ plain plain' same =>
    Topic.room_injective plain plain' same⟩
  have traced := (traced_run verify maxPerMinute db clock instances plain groups named).sockets
    socket stored
  obtain ⟨known, same, published, subscribed⟩ := traced.received data received
  obtain rfl : known = user := Option.some.inj (same.symm.trans own)
  exact ⟨published, subscribed⟩

end Runs

section Sample

/-- A live game with one market, in a league that two tenants offer. -/
def liveGame : Database where
  catalog :=
    { sports := .empty, leagues := .empty, teams := .empty
      fixtures := ⟨[⟨"fixture", "nba", "home", "away", 0, .live⟩], by decide⟩
      events := ⟨[⟨"game", "fixture", .live, some 1, some 2, none, none⟩], by decide⟩
      markets := ⟨[⟨"winner", "game", .matchResult, .open, none⟩], by decide⟩
      selections := .empty
      oddsSnapshots := []
      casinoGroups := .empty
      casinoGroupLeagues :=
        ⟨[⟨"acme", "nba", true, false⟩, ⟨"betzone", "nba", true, false⟩], by decide⟩ }
  ledger := .empty
  audit := []

/-- Every token is the name of the tenant of its player. -/
def sessionOf (token : String) : Option UserContext :=
  if Plain token then some ⟨"player", "player", token, "EUR"⟩ else none

def followGame : SubscribeDto := ⟨["game"], some ["winner"], by decide⟩

def scoreUpdate : Payload := .eventUpdate ⟨"game", .live, some 3, some 2, none, none⟩

/-- A player of each tenant connects; one subscribes, and hears of the score. -/
def watching : List RealtimeOp :=
  [.connect "one" 0 (some "acme") (some true), .connect "two" 0 (some "betzone") (some true),
    .subscribe "one" followGame, .publish scoreUpdate, .deliver 0, .deliver 0]

theorem subscriber_receives_score :
    ∃ socket ∈ (run (step sessionOf 60) (started liveGame 0 1) watching).sockets.rows,
      .update scoreUpdate ∈ socket.received ∧
      Happened (step sessionOf 60) (started liveGame 0 1) watching (Published "acme" scoreUpdate) ∧
      Happened (step sessionOf 60) (started liveGame 0 1) watching
        (Subscribed socket.id "acme" scoreUpdate.topic) := by
  have plain : ∀ token user, sessionOf token = some user → Plain user.casinoGroupId := by
    intro token user verified
    unfold sessionOf at verified
    split at verified
    · next plain => rwa [← Option.some.inj verified]
    · cases verified
  have groups : ∀ row ∈ liveGame.catalog.casinoGroupLeagues.rows, Plain row.casinoGroupId := by
    decide
  have named : ∀ op ∈ watching, op.Plain := by
    simp [watching, RealtimeOp.Plain]
  obtain ⟨only, _⟩ := received_in_own_tenant sessionOf 60 liveGame 0 1 plain groups named
  obtain ⟨socket, stored, user, own, tenant, received⟩ : ∃ socket ∈
      (run (step sessionOf 60) (started liveGame 0 1) watching).sockets.rows, ∃ user,
        socket.user = some user ∧ user.casinoGroupId = "acme" ∧
          .update scoreUpdate ∈ socket.received := by
    refine ⟨⟨"one", 0, true, some ⟨"player", "player", "acme", "EUR"⟩,
      ["group:acme:event:game", "group:acme:market:winner"],
      [.connected "acme" "player", .subscribed ["game"] ["winner"], .update scoreUpdate]⟩, ?_,
      ⟨"player", "player", "acme", "EUR"⟩, rfl, rfl, by simp⟩
    decide +kernel
  have both := only socket stored user own scoreUpdate received
  rw [tenant] at both
  exact ⟨socket, stored, received, both⟩

end Sample

end SportsBetting.Realtime
