import SportsBetting.Realtime.Isolation

/-!
# What a subscription comes to

A subscription is granted as a whole or not at all. The gateway tells that everything
is visible by counting what the access service has found, which finds an id once.
-/

namespace SportsBetting.Realtime

section Counting

variable {Id : Type*} {shown asked : List Id} {visible : Id → Prop}

/-- What is shown once is as much as was asked for if nothing of that is hidden or repeated. -/
theorem length_shown_eq_iff (once : shown.Nodup)
    (shows : ∀ id, id ∈ shown ↔ id ∈ asked ∧ visible id) :
    shown.length = asked.length ↔ (∀ id ∈ asked, visible id) ∧ asked.Nodup := by
  have within : shown.Subperm asked :=
    List.subperm_of_subset once fun id member => ((shows id).mp member).1
  constructor
  · intro same
    have all : shown.Perm asked := within.perm_of_length_le same.ge
    constructor
    · intro id member
      exact ((shows id).mp (all.mem_iff.mpr member)).2
    · exact all.nodup_iff.mp once
  · rintro ⟨all, distinct⟩
    apply List.Perm.length_eq
    apply (List.perm_ext_iff_of_nodup once distinct).mpr
    intro id
    rw [shows, and_iff_left_of_imp (all id)]

end Counting

section Access

variable {db : Database} {casinoGroupId : String} {body : SubscribeDto}

theorem Topic.stored_of_enabledFor_event {id : String}
    (enabled : Topic.enabledFor db casinoGroupId (.event id) = true) :
    id ∈ db.catalog.events.rows.map Event.providerRef := by
  cases stored : db.catalog.events.get? id with
  | none => simp [Topic.enabledFor, Topic.league, leagueOfEvent, stored] at enabled
  | some event =>
      obtain ⟨member, rfl⟩ := Table.get?_eq_some_iff.mp stored
      exact List.mem_map_of_mem member

theorem Topic.stored_of_enabledFor_market {id : String}
    (enabled : Topic.enabledFor db casinoGroupId (.market id) = true) :
    id ∈ db.catalog.markets.rows.map Market.providerRef := by
  cases stored : db.catalog.markets.get? id with
  | none => simp [Topic.enabledFor, Topic.league, leagueOfMarket, stored] at enabled
  | some market =>
      obtain ⟨member, rfl⟩ := Table.get?_eq_some_iff.mp stored
      exact List.mem_map_of_mem member

theorem mem_filterVisibleEventIds {eventIds : List String} {id : String} :
    id ∈ filterVisibleEventIds db casinoGroupId eventIds ↔
      id ∈ eventIds ∧ Topic.enabledFor db casinoGroupId (.event id) = true := by
  unfold filterVisibleEventIds
  split
  · next empty => simp [List.isEmpty_iff.mp empty]
  · rw [List.mem_filter, Bool.and_eq_true, List.contains_iff_mem]
    exact and_iff_right_of_imp fun chosen => Topic.stored_of_enabledFor_event chosen.2

theorem mem_filterVisibleMarketIds {marketIds : List String} {id : String} :
    id ∈ filterVisibleMarketIds db casinoGroupId marketIds ↔
      id ∈ marketIds ∧ Topic.enabledFor db casinoGroupId (.market id) = true := by
  unfold filterVisibleMarketIds
  split
  · next empty => simp [List.isEmpty_iff.mp empty]
  · rw [List.mem_filter, Bool.and_eq_true, List.contains_iff_mem]
    exact and_iff_right_of_imp fun chosen => Topic.stored_of_enabledFor_market chosen.2

theorem nodup_filterVisibleEventIds (eventIds : List String) :
    (filterVisibleEventIds db casinoGroupId eventIds).Nodup := by
  unfold filterVisibleEventIds
  split
  · exact List.nodup_nil
  · exact db.catalog.events.unique.filter _

theorem nodup_filterVisibleMarketIds (marketIds : List String) :
    (filterVisibleMarketIds db casinoGroupId marketIds).Nodup := by
  unfold filterVisibleMarketIds
  split
  · exact List.nodup_nil
  · exact db.catalog.markets.unique.filter _

/-- Everything the subscription asks for is visible to the tenant. -/
def SubscribeDto.AllVisible (db : Database) (casinoGroupId : String) (body : SubscribeDto) : Prop :=
  ∀ topic ∈ body.topics, topic.enabledFor db casinoGroupId = true

/-- The subscription names no event and no market twice. -/
def SubscribeDto.Distinct (body : SubscribeDto) : Prop :=
  body.eventIds.Nodup ∧ body.markets.Nodup

instance (db : Database) (casinoGroupId : String) (body : SubscribeDto) :
    Decidable (body.AllVisible db casinoGroupId) := by
  unfold SubscribeDto.AllVisible
  infer_instance

instance (body : SubscribeDto) : Decidable body.Distinct := by
  unfold SubscribeDto.Distinct
  infer_instance

theorem SubscribeDto.allVisible_iff : body.AllVisible db casinoGroupId ↔
    (∀ id ∈ body.eventIds, Topic.enabledFor db casinoGroupId (.event id) = true) ∧
      ∀ id ∈ body.markets, Topic.enabledFor db casinoGroupId (.market id) = true := by
  simp [SubscribeDto.AllVisible, SubscribeDto.topics, or_imp, forall_and]

/-- The two counts agree for a subscription that is visible and repeats nothing. -/
theorem counts_agree_iff :
    (filterVisibleEventIds db casinoGroupId body.eventIds).length = body.eventIds.length ∧
      body.markets.length = (filterVisibleMarketIds db casinoGroupId body.markets).length ↔
    body.AllVisible db casinoGroupId ∧ body.Distinct := by
  have eventIds : (filterVisibleEventIds db casinoGroupId body.eventIds).Nodup :=
    nodup_filterVisibleEventIds body.eventIds
  have marketIds : (filterVisibleMarketIds db casinoGroupId body.markets).Nodup :=
    nodup_filterVisibleMarketIds body.markets
  have events := length_shown_eq_iff eventIds fun id => mem_filterVisibleEventIds
  have markets := length_shown_eq_iff marketIds fun id => mem_filterVisibleMarketIds
  rw [events, eq_comm, markets, SubscribeDto.allVisible_iff, SubscribeDto.Distinct]
  exact and_and_and_comm

theorem joined_eq_none_iff : joined db casinoGroupId body = none ↔
    ¬ (body.AllVisible db casinoGroupId ∧ body.Distinct) := by
  rw [← counts_agree_iff, joined]
  simp

/-- What is granted are the rooms of all that is asked for. -/
theorem mem_rooms_of_joined {rooms : List String} {message : ServerMessage}
    (granted : joined db casinoGroupId body = some (rooms, message)) {room : String} :
    room ∈ rooms ↔ ∃ topic ∈ body.topics, room = topic.room casinoGroupId := by
  have all : body.AllVisible db casinoGroupId := by
    by_contra hidden
    have refused := joined_eq_none_iff.mpr fun both => hidden both.1
    rw [refused] at granted
    cases granted
  constructor
  · intro member
    obtain ⟨topic, asked, same, _⟩ := (joined_spec granted).1 room member
    exact ⟨topic, asked, same⟩
  · rintro ⟨topic, asked, rfl⟩
    have visible := all topic asked
    unfold joined at granted
    dsimp only at granted
    split at granted
    · cases granted
    · obtain ⟨rfl, _⟩ := Prod.mk.inj (Option.some.inj granted)
      rcases List.mem_append.mp asked with event | market
      · obtain ⟨id, member, rfl⟩ := List.mem_map.mp event
        apply List.mem_append_left
        exact List.mem_map_of_mem (mem_filterVisibleEventIds.mpr ⟨member, visible⟩)
      · obtain ⟨id, member, rfl⟩ := List.mem_map.mp market
        apply List.mem_append_right
        exact List.mem_map_of_mem (mem_filterVisibleMarketIds.mpr ⟨member, visible⟩)

end Access

section Handler

variable {maxPerMinute : ℕ} {socketId : String} {body : SubscribeDto} {state : State}
  {socket : Socket} {user : UserContext}

theorem get?_onSocket {change : Socket → Socket} {keeps : ∀ socket, (change socket).id = socket.id} :
    (state.onSocket socketId change keeps).sockets.get? socketId =
      (state.sockets.get? socketId).map change := by
  unfold State.onSocket
  rw [Table.get?_updateWhere]
  cases known : state.sockets.get? socketId with
  | none => rfl
  | some socket => simp [(Table.get?_eq_some_iff.mp known).2]

/-- What becomes of a socket whose subscription is within the limit. -/
def Socket.answered (db : Database) (casinoGroupId : String) (body : SubscribeDto)
    (socket : Socket) : Socket :=
  match joined db casinoGroupId body with
  | none => socket.send (.error "One or more event/market ids are not available for this group")
  | some (rooms, message) => (socket.join rooms).send message

theorem get?_handleSubscribe (known : state.sockets.get? socketId = some socket)
    (connected : socket.connected = true) (own : socket.user = some user)
    (allowed : (tryConsume maxPerMinute socket.appInstance user.casinoGroupId state).1 = true) :
    (handleSubscribe maxPerMinute socketId body state).sockets.get? socketId =
      some (socket.answered state.db user.casinoGroupId body) := by
  obtain ⟨buckets, consumed⟩ : ∃ buckets, (tryConsume maxPerMinute socket.appInstance
      user.casinoGroupId state).2 = { state with buckets } := tryConsume_snd ..
  have open' : (state.sockets.get? socketId).filter Socket.connected = some socket := by
    rw [known, Option.filter_some_pos connected]
  unfold handleSubscribe Socket.answered
  rw [open']
  dsimp only
  rw [own]
  dsimp only
  rw [allowed, consumed]
  cases joined state.db user.casinoGroupId body with
  | none => exact get?_onSocket.trans (congrArg _ known)
  | some granted => exact get?_onSocket.trans (congrArg _ known)

/-- What a subscription is to come to: all of its rooms, or no room and an error. -/
def AllOrNothing (db : Database) (casinoGroupId : String) (body : SubscribeDto)
    (before after : Socket) : Prop :=
  if body.AllVisible db casinoGroupId then
    (∀ room, room ∈ after.rooms ↔
        (∃ topic ∈ body.topics, room = topic.room casinoGroupId) ∨ room ∈ before.rooms) ∧
      ∃ eventIds marketIds, after.received = before.received ++ [.subscribed eventIds marketIds]
  else after.rooms = before.rooms ∧ ∃ message, after.received = before.received ++ [.error message]

theorem message_of_joined {db : Database} {casinoGroupId : String} {rooms : List String}
    {message : ServerMessage} (granted : joined db casinoGroupId body = some (rooms, message)) :
    ∃ eventIds marketIds, message = .subscribed eventIds marketIds := by
  unfold joined at granted
  dsimp only at granted
  split at granted
  · cases granted
  · obtain ⟨_, rfl⟩ := Prod.mk.inj (Option.some.inj granted)
    exact ⟨_, _, rfl⟩

theorem answered_allOrNothing_iff (db : Database) (casinoGroupId : String) (socket : Socket) :
    AllOrNothing db casinoGroupId body socket (socket.answered db casinoGroupId body) ↔
      ¬ body.AllVisible db casinoGroupId ∨ body.Distinct := by
  unfold AllOrNothing Socket.answered
  by_cases visible : body.AllVisible db casinoGroupId
  · rw [if_pos visible]
    by_cases distinct : body.Distinct
    · cases granted : joined db casinoGroupId body with
      | none => exact absurd ⟨visible, distinct⟩ (joined_eq_none_iff.mp granted)
      | some granting =>
          obtain ⟨rooms, message⟩ := granting
          obtain ⟨eventIds, marketIds, rfl⟩ := message_of_joined granted
          apply iff_of_true
          · constructor
            · intro room
              rw [← mem_rooms_of_joined granted]
              exact List.mem_union_iff
            · exact ⟨eventIds, marketIds, rfl⟩
          · exact .inr distinct
    · rw [joined_eq_none_iff.mpr fun both => distinct both.2]
      apply iff_of_false
      · rintro ⟨_, eventIds, marketIds, told⟩
        cases List.append_cancel_left told
      · exact not_or.mpr ⟨not_not.mpr visible, distinct⟩
  · rw [if_neg visible, joined_eq_none_iff.mpr fun both => visible both.1]
    exact iff_of_true ⟨rfl, _, rfl⟩ (.inl visible)

/-- The call joins all rooms it is to join, or none and reports an error, if something is not
visible to the tenant or nothing is named twice: the ids found are counted against the ids
asked for, and an id that is named twice is found once. -/
theorem subscribe_allOrNothing_iff (known : state.sockets.get? socketId = some socket)
    (connected : socket.connected = true) (own : socket.user = some user)
    (allowed : (tryConsume maxPerMinute socket.appInstance user.casinoGroupId state).1 = true) :
    (∃ after, (handleSubscribe maxPerMinute socketId body state).sockets.get? socketId =
        some after ∧ AllOrNothing state.db user.casinoGroupId body socket after) ↔
      ¬ body.AllVisible state.db user.casinoGroupId ∨ body.Distinct := by
  rw [get?_handleSubscribe known connected own allowed,
    ← answered_allOrNothing_iff state.db user.casinoGroupId socket]
  simp

/-- A connected player of a tenant. -/
def newcomer : Socket :=
  ⟨"one", 0, true, some ⟨"player", "player", "acme", "EUR"⟩, [], []⟩

def lobby : State := { started liveGame 0 1 with sockets := ⟨[newcomer], by decide⟩ }

theorem subscribe_once :
    ∃ after, (handleSubscribe 60 "one" followGame lobby).sockets.get? "one" = some after ∧
      AllOrNothing liveGame "acme" followGame newcomer after := by
  have known : lobby.sockets.get? "one" = some newcomer := by decide
  have allowed : (tryConsume 60 newcomer.appInstance "acme" lobby).1 = true := by decide
  have distinct : followGame.Distinct := by decide
  exact (subscribe_allOrNothing_iff known rfl rfl allowed).mpr (.inr distinct)

def followTwice : SubscribeDto := ⟨["game", "game"], none, by decide⟩

/-- A visible event that is named twice is reported as not available. -/
theorem subscribe_twice :
    followTwice.AllVisible liveGame "acme" ∧
      ((handleSubscribe 60 "one" followTwice lobby).sockets.get? "one").map
          (fun after => (after.rooms, after.received)) =
        some ([], [.error "One or more event/market ids are not available for this group"]) ∧
      ¬ ∃ after, (handleSubscribe 60 "one" followTwice lobby).sockets.get? "one" = some after ∧
        AllOrNothing liveGame "acme" followTwice newcomer after := by
  have visible : followTwice.AllVisible liveGame "acme" := by decide
  have answer : ((handleSubscribe 60 "one" followTwice lobby).sockets.get? "one").map
      (fun after => (after.rooms, after.received)) =
        some ([], [.error "One or more event/market ids are not available for this group"]) := by
    decide
  refine ⟨visible, answer, ?_⟩
  rintro ⟨after, known, all⟩
  rw [known] at answer
  obtain ⟨_, told⟩ := Prod.mk.inj (Option.some.inj answer)
  rw [AllOrNothing, if_pos visible, told] at all
  obtain ⟨_, _, _, subscribed⟩ := all
  simp [newcomer] at subscribed

end Handler

end SportsBetting.Realtime
