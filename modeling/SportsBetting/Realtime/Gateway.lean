import SportsBetting.Backoffice.Product

/-!
# The realtime gateway

Sockets join the rooms of events and markets that are visible to their tenant. An
update is published, for each tenant it concerns, on a Redis channel to which every
instance of the app subscribes; an instance emits what it is handed to the room, and
the adapter spreads the emit over the sockets of all instances.
-/

namespace SportsBetting.Realtime

section Rooms

/-- Tenant-scoped room for live event state (scores, clock, status). -/
def eventRoom (casinoGroupId eventId : String) : String :=
  "group:" ++ casinoGroupId ++ ":event:" ++ eventId

/-- Tenant-scoped room for market/selection odds on an event. -/
def marketRoom (casinoGroupId marketId : String) : String :=
  "group:" ++ casinoGroupId ++ ":market:" ++ marketId

/-- What a payload is about. -/
inductive Topic | event (id : String) | market (id : String)
  deriving DecidableEq

def Topic.room (casinoGroupId : String) : Topic → String
  | .event id => eventRoom casinoGroupId id
  | .market id => marketRoom casinoGroupId id

end Rooms

section Access

variable (db : Database)

def leagueOfEvent (eventId : String) : Option String := do
  let event ← db.catalog.events.get? eventId
  let fixture ← db.catalog.fixtures.get? event.fixture
  return fixture.league

def leagueOfMarket (marketId : String) : Option String := do
  let market ← db.catalog.markets.get? marketId
  leagueOfEvent db market.event

def Topic.league : Topic → Option String
  | .event id => leagueOfEvent db id
  | .market id => leagueOfMarket db id

/-- The league of the event or market is enabled for the tenant. -/
def Topic.enabledFor (casinoGroupId : String) (topic : Topic) : Bool :=
  (topic.league db).any (leagueEnabled db casinoGroupId)

def filterVisibleEventIds (casinoGroupId : String) (eventIds : List String) : List String :=
  if eventIds.isEmpty then []
  else
    (db.catalog.events.rows.map Event.providerRef).filter fun id =>
      eventIds.contains id && Topic.enabledFor db casinoGroupId (.event id)

def filterVisibleMarketIds (casinoGroupId : String) (marketIds : List String) : List String :=
  if marketIds.isEmpty then []
  else
    (db.catalog.markets.rows.map Market.providerRef).filter fun id =>
      marketIds.contains id && Topic.enabledFor db casinoGroupId (.market id)

/-- Casino groups for which the league is enabled. -/
def groupIdsForLeague : Option String → List String
  | none => []
  | some league =>
      ((db.catalog.casinoGroupLeagues.rows.filter fun row =>
        row.enabled && row.league = league).map CasinoGroupLeague.casinoGroupId).dedup

def groupIdsForEvent (eventId : String) : List String :=
  groupIdsForLeague db (leagueOfEvent db eventId)

def groupIdsForMarket (marketId : String) : List String :=
  groupIdsForLeague db (leagueOfMarket db marketId)

end Access

section Messages

structure EventUpdatePayload where
  eventId : String
  status : EventStatus
  homeScore : Option ℤ
  awayScore : Option ℤ
  period : Option String
  clock : Option String
  deriving DecidableEq

structure SelectionOddsPayload where
  marketId : String
  selectionId : String
  /-- Sent as a decimal text. -/
  price : ℚ
  status : SelectionStatus
  deriving DecidableEq

inductive Payload
  | eventUpdate (data : EventUpdatePayload)
  | selectionOdds (data : SelectionOddsPayload)
  deriving DecidableEq

def Payload.topic : Payload → Topic
  | .eventUpdate data => .event data.eventId
  | .selectionOdds data => .market data.marketId

structure RealtimeBroadcastMessage where
  room : String
  data : Payload
  deriving DecidableEq

def Topic.groupIds (db : Database) : Topic → List String
  | .event id => groupIdsForEvent db id
  | .market id => groupIdsForMarket db id

/-- The messages of one publication, to the room of each tenant that it concerns. -/
def broadcasts (db : Database) (data : Payload) : List RealtimeBroadcastMessage :=
  (data.topic.groupIds db).map fun casinoGroupId => ⟨data.topic.room casinoGroupId, data⟩

/-- What the server sends to a socket. -/
inductive ServerMessage
  | connected (casinoGroupId userId : String)
  | subscribed (eventIds marketIds : List String)
  | error (message : String)
  | update (data : Payload)
  deriving DecidableEq

end Messages

section State

structure UserContext where
  userId : String
  username : String
  casinoGroupId : String
  currency : String
  deriving DecidableEq

/-- A client's connection to one instance of the app. -/
structure Socket where
  id : String
  appInstance : ℕ
  connected : Bool
  user : Option UserContext
  rooms : List String
  received : List ServerMessage
  deriving DecidableEq

/-- A window of the rate limiter of one instance. -/
structure Bucket where
  appInstance : ℕ
  key : String
  count : ℕ
  resetAt : Time

def Bucket.index (bucket : Bucket) : ℕ × String := (bucket.appInstance, bucket.key)

structure State where
  db : Database
  clock : Time
  sockets : Table Socket Socket.id
  buckets : Table Bucket Bucket.index
  /-- For each instance of the app, the messages that Redis has not handed to it yet. -/
  channel : List (List RealtimeBroadcastMessage)

/-- At most 50 ids of each kind. -/
structure SubscribeDto where
  eventIds : List String
  marketIds : Option (List String)
  sized : eventIds.length ≤ 50 ∧ ∀ ids ∈ marketIds, ids.length ≤ 50

def SubscribeDto.markets (body : SubscribeDto) : List String := body.marketIds.getD []

end State

section Gateway

variable (verify : String → Option UserContext) (maxPerMinute : ℕ)

/-- A fixed window of a minute for each tenant, in each instance. -/
def tryConsume (appInstance : ℕ) (key : String) (state : State) : Bool × State :=
  let known := (state.buckets.get? (appInstance, key)).filter fun bucket =>
    state.clock < bucket.resetAt
  let bucket := known.getD ⟨appInstance, key, 0, state.clock + 60000⟩
  if maxPerMinute ≤ bucket.count then (false, { state with buckets := state.buckets.put bucket })
  else
    (true, { state with buckets := state.buckets.put { bucket with count := bucket.count + 1 } })

def Socket.send (message : ServerMessage) (socket : Socket) : Socket :=
  { socket with received := socket.received ++ [message] }

def Socket.join (rooms : List String) (socket : Socket) : Socket :=
  { socket with rooms := rooms ∪ socket.rooms }

def Socket.leave (rooms : List String) (socket : Socket) : Socket :=
  { socket with rooms := socket.rooms.filter fun room => !rooms.contains room }

def State.onSocket (state : State) (socketId : String) (change : Socket → Socket)
    (keeps : ∀ socket, (change socket).id = socket.id := by intro; rfl) : State :=
  { state with
    sockets := state.sockets.updateWhere (fun socket => socket.id = socketId) change keeps }

/-- Who the socket is for, or why it is rejected. Looking up the tenant may fail. -/
def authenticate (token : Option String) (active : Option Bool) : Except String UserContext :=
  match token with
  | none => .error "Authentication required"
  | some token =>
      match verify token, active with
      | some user, some true => .ok user
      | some _, some false => .error "Unknown or inactive casino group"
      | _, _ => .error "Invalid or expired session"

/-- A rejected socket is told why, and disconnected. -/
def accepted (socketId : String) (appInstance : ℕ) : Except String UserContext → Socket
  | .error message => ⟨socketId, appInstance, false, none, [], [.error message]⟩
  | .ok user =>
      ⟨socketId, appInstance, true, some user, [], [.connected user.casinoGroupId user.userId]⟩

/-- Socket ids are not used twice. -/
def handleConnection (socketId : String) (appInstance : ℕ) (token : Option String)
    (active : Option Bool) (state : State) : State :=
  let socket := accepted socketId appInstance (authenticate verify token active)
  { state with sockets := (state.sockets.insert? socket).getD state.sockets }

def handleDisconnect (socketId : String) (state : State) : State :=
  state.onSocket socketId fun socket => { socket with connected := false, rooms := [] }

/-- The rooms of a subscription, if all of it is available to the tenant. -/
def joined (db : Database) (casinoGroupId : String) (body : SubscribeDto) :
    Option (List String × ServerMessage) :=
  let eventIds := filterVisibleEventIds db casinoGroupId body.eventIds
  let marketIds := filterVisibleMarketIds db casinoGroupId body.markets
  if eventIds.length ≠ body.eventIds.length ∨ body.markets.length ≠ marketIds.length then none
  else some (eventIds.map (eventRoom casinoGroupId) ++ marketIds.map (marketRoom casinoGroupId),
    .subscribed eventIds marketIds)

def handleSubscribe (socketId : String) (body : SubscribeDto) (state : State) : State :=
  match (state.sockets.get? socketId).filter Socket.connected with
  | none => state
  | some socket =>
      match socket.user with
      | none => state.onSocket socketId (Socket.send (.error "Not authenticated"))
      | some user =>
          let (allowed, state) := tryConsume maxPerMinute socket.appInstance user.casinoGroupId state
          if !allowed then
            state.onSocket socketId
              (Socket.send (.error "Subscribe rate limit exceeded for this casino group"))
          else
            match joined state.db user.casinoGroupId body with
            | none => state.onSocket socketId (Socket.send
                (.error "One or more event/market ids are not available for this group"))
            | some (rooms, message) =>
                state.onSocket socketId fun socket => (socket.join rooms).send message

def handleUnsubscribe (socketId : String) (body : SubscribeDto) (state : State) : State :=
  match ((state.sockets.get? socketId).filter Socket.connected).bind Socket.user with
  | none => state
  | some user =>
      state.onSocket socketId (Socket.leave
        (body.eventIds.map (eventRoom user.casinoGroupId) ++
          body.markets.map (marketRoom user.casinoGroupId)))

/-- The adapter hands the message to the sockets of all instances. -/
def emitToRoom (message : RealtimeBroadcastMessage) (state : State) : State :=
  { state with
    sockets := state.sockets.updateWhere
      (fun socket => socket.connected && socket.rooms.contains message.room)
      (Socket.send (.update message.data)) }

/-- Redis takes the message for each instance that subscribes to the channel. -/
def publish (data : Payload) (state : State) : State :=
  { state with channel := state.channel.map (· ++ broadcasts state.db data) }

/-- An instance is handed its next message. -/
def onMessage (appInstance : ℕ) (state : State) : State :=
  match state.channel[appInstance]? with
  | some (message :: rest) =>
      emitToRoom message { state with channel := state.channel.set appInstance rest }
  | _ => state

inductive RealtimeOp
  | connect (socketId : String) (appInstance : ℕ) (token : Option String) (active : Option Bool)
  | disconnect (socketId : String)
  | subscribe (socketId : String) (body : SubscribeDto)
  | unsubscribe (socketId : String) (body : SubscribeDto)
  | setOffering (casinoGroupId league : String) (enabled locked : Bool)
  | publish (data : Payload)
  | deliver (appInstance : ℕ)
  | pass (milliseconds : ℕ)

def step (state : State) : RealtimeOp → State
  | .connect socketId appInstance token active =>
      handleConnection verify socketId appInstance token active state
  | .disconnect socketId => handleDisconnect socketId state
  | .subscribe socketId body => handleSubscribe maxPerMinute socketId body state
  | .unsubscribe socketId body => handleUnsubscribe socketId body state
  | .setOffering casinoGroupId league enabled locked =>
      { state with db := Product.setOffering state.db casinoGroupId league enabled locked }
  | .publish data => Realtime.publish data state
  | .deliver appInstance => onMessage appInstance state
  | .pass milliseconds => { state with clock := state.clock + milliseconds }

/-- A number of instances of the app, before anyone has connected. -/
def started (db : Database) (clock : Time) (instances : ℕ) : State :=
  ⟨db, clock, .empty, .empty, List.replicate instances []⟩

end Gateway

end SportsBetting.Realtime
