import Mathlib.Data.Finset.Card
import Mathlib.Data.Finset.Range
import Mathlib.Data.List.Infix
import Mathlib.Logic.Function.Basic
import SportsBetting.Realtime.Isolation

/-!
# How often a message arrives

Redis hands a published message to each instance of the app, and each instance has the
adapter spread it over the sockets of all instances.
-/

namespace SportsBetting.Realtime

open Operations

section Watch

/-- A run in which messages are numbered as they are published, and a socket is watched. -/
structure Watch where
  state : State
  log : List RealtimeBroadcastMessage
  /-- How many messages an instance has been handed. -/
  handed : ℕ → ℕ
  /-- The numbers of the messages that were sent to the socket. -/
  receipts : List ℕ

/-- The socket is connected, and in the room. -/
def State.hears (socketId room : String) (state : State) : Bool :=
  (state.sockets.get? socketId).any fun socket => socket.connected && socket.rooms.contains room

def ServerMessage.update? : ServerMessage → Option Payload
  | .update data => some data
  | _ => none

/-- The payloads that the socket has received. -/
def State.updates (socketId : String) (state : State) : List Payload :=
  (state.sockets.get? socketId).elim [] fun socket =>
    socket.received.filterMap ServerMessage.update?

variable (verify : String → Option UserContext) (maxPerMinute : ℕ) (socketId : String)

def Watch.note (watch : Watch) : RealtimeOp → Watch
  | .publish data => { watch with log := watch.log ++ broadcasts watch.state.db data }
  | .deliver appInstance =>
      match watch.state.channel[appInstance]? with
      | some (message :: _) =>
          let number := watch.handed appInstance
          { watch with
            handed := Function.update watch.handed appInstance (number + 1)
            receipts :=
              if watch.state.hears socketId message.room then watch.receipts ++ [number]
              else watch.receipts }
      | _ => watch
  | _ => watch

def watchStep (watch : Watch) (op : RealtimeOp) : Watch :=
  { watch.note socketId op with state := step verify maxPerMinute watch.state op }

def watched (db : Database) (clock : Time) (instances : ℕ) : Watch :=
  ⟨started db clock instances, [], fun _ => 0, []⟩

variable {verify maxPerMinute socketId} {watch : Watch} {instances : ℕ}

/-- The run that is watched is the run itself. -/
theorem watch_state (start : Watch) (ops : List RealtimeOp) :
    (run (watchStep verify maxPerMinute socketId) start ops).state =
      run (step verify maxPerMinute) start.state ops := by
  induction ops using List.reverseRecOn with
  | nil => rfl
  | append_singleton ops op ih =>
      rw [run_concat, run_concat, ← ih]
      rfl

/-- An instance is handed the next message, if one waits for it. -/
theorem watchStep_deliver (watch : Watch) (appInstance : ℕ) :
    watchStep verify maxPerMinute socketId watch (.deliver appInstance) = watch ∨
    ∃ message rest, watch.state.channel[appInstance]? = some (message :: rest) ∧
      watchStep verify maxPerMinute socketId watch (.deliver appInstance) =
        { state := emitToRoom message
            { watch.state with channel := watch.state.channel.set appInstance rest }
          log := watch.log
          handed := Function.update watch.handed appInstance (watch.handed appInstance + 1)
          receipts :=
            if watch.state.hears socketId message.room
            then watch.receipts ++ [watch.handed appInstance]
            else watch.receipts } := by
  cases found : watch.state.channel[appInstance]? with
  | none => exact .inl (by simp [watchStep, step, onMessage, Watch.note, found])
  | some queue =>
      cases queue with
      | nil => exact .inl (by simp [watchStep, step, onMessage, Watch.note, found])
      | cons message rest =>
          exact .inr ⟨message, rest, rfl, by
            simp [watchStep, step, onMessage, Watch.note, found]⟩

end Watch

section Numbered

variable {verify : String → Option UserContext} {maxPerMinute : ℕ} {socketId : String}
  {watch : Watch} {instances : ℕ}

/-- What waits for an instance is what it has not been handed of the log. -/
structure Watch.Numbered (instances : ℕ) (watch : Watch) : Prop where
  length : watch.state.channel.length = instances
  handed : ∀ appInstance < instances, watch.handed appInstance ≤ watch.log.length
  waiting : ∀ appInstance < instances, watch.state.channel[appInstance]? =
    some (watch.log.drop (watch.handed appInstance))

theorem watched_numbered (db : Database) (clock : Time) (instances : ℕ) :
    (watched db clock instances).Numbered instances where
  length := by simp [watched, started]
  handed _ _ := Nat.zero_le _
  waiting appInstance known := by simp [watched, started, known]

/-- The next message of an instance is the one with its number. -/
theorem Watch.Numbered.next (numbered : watch.Numbered instances) {appInstance : ℕ}
    {message : RealtimeBroadcastMessage} {rest : List RealtimeBroadcastMessage}
    (found : watch.state.channel[appInstance]? = some (message :: rest)) :
    appInstance < instances ∧ watch.log[watch.handed appInstance]? = some message ∧
      rest = watch.log.drop (watch.handed appInstance + 1) := by
  have known : appInstance < instances :=
    numbered.length ▸ (List.getElem?_eq_some_iff.mp found).1
  have waits : watch.log.drop (watch.handed appInstance) = message :: rest :=
    Option.some.inj ((numbered.waiting appInstance known).symm.trans found)
  refine ⟨known, ?_, ?_⟩
  · rw [← List.head?_drop, waits]
    rfl
  · rw [← List.tail_drop, waits]
    rfl

theorem channel_handleSubscribe (body : SubscribeDto) (state : State) :
    (handleSubscribe maxPerMinute socketId body state).channel = state.channel := by
  unfold handleSubscribe
  split
  · rfl
  · next socket _ =>
      split
      · rfl
      · next user _ =>
          obtain ⟨buckets, consumed⟩ : ∃ buckets, (tryConsume maxPerMinute socket.appInstance
            user.casinoGroupId state).2 = { state with buckets } := tryConsume_snd ..
          dsimp only
          rw [consumed]
          split
          · rfl
          · split <;> rfl

theorem channel_handleUnsubscribe (body : SubscribeDto) (state : State) :
    (handleUnsubscribe socketId body state).channel = state.channel := by
  unfold handleUnsubscribe
  split <;> rfl

theorem Watch.Numbered.same (numbered : watch.Numbered instances) {state : State}
    (channel : state.channel = watch.state.channel) :
    Watch.Numbered instances { watch with state } where
  length := by rw [channel, numbered.length]
  handed := numbered.handed
  waiting appInstance known := by rw [channel, numbered.waiting appInstance known]

theorem Watch.Numbered.publish (numbered : watch.Numbered instances) (data : Payload) :
    (watchStep verify maxPerMinute socketId watch (.publish data)).Numbered instances where
  length := by
    have mapped : (watchStep verify maxPerMinute socketId watch (.publish data)).state.channel =
      watch.state.channel.map (· ++ broadcasts watch.state.db data) := rfl
    rw [mapped, List.length_map, numbered.length]
  handed appInstance known := by
    have handed := numbered.handed appInstance known
    have longer : (watchStep verify maxPerMinute socketId watch (.publish data)).log =
      watch.log ++ broadcasts watch.state.db data := rfl
    rw [longer, List.length_append]
    exact Nat.le_add_right_of_le handed
  waiting appInstance known := by
    have mapped : (watchStep verify maxPerMinute socketId watch (.publish data)).state.channel =
      watch.state.channel.map (· ++ broadcasts watch.state.db data) := rfl
    have longer : (watchStep verify maxPerMinute socketId watch (.publish data)).log =
      watch.log ++ broadcasts watch.state.db data := rfl
    have same : (watchStep verify maxPerMinute socketId watch (.publish data)).handed =
      watch.handed := rfl
    rw [mapped, longer, same, List.getElem?_map, numbered.waiting appInstance known,
      List.drop_append_of_le_length (numbered.handed appInstance known)]
    rfl

theorem Watch.Numbered.deliver (numbered : watch.Numbered instances) (appInstance : ℕ) :
    (watchStep verify maxPerMinute socketId watch (.deliver appInstance)).Numbered instances := by
  rcases watchStep_deliver watch appInstance with nothing | ⟨message, rest, found, next⟩
  · rw [nothing]
    exact numbered
  · rw [next]
    obtain ⟨_, listed, remains⟩ := numbered.next found
    refine ⟨by simp [emitToRoom, numbered.length], fun other present => ?_, fun other present => ?_⟩
    · dsimp only
      by_cases same : other = appInstance
      · subst same
        rw [Function.update_self]
        exact (List.getElem?_eq_some_iff.mp listed).1
      · rw [Function.update_of_ne same]
        exact numbered.handed other present
    · dsimp only [emitToRoom]
      by_cases same : other = appInstance
      · subst same
        rw [Function.update_self, List.getElem?_set_self (numbered.length ▸ present), remains]
      · rw [Function.update_of_ne same, List.getElem?_set_ne (Ne.symm same)]
        exact numbered.waiting other present

theorem Watch.Numbered.step (numbered : watch.Numbered instances) (op : RealtimeOp) :
    (watchStep verify maxPerMinute socketId watch op).Numbered instances := by
  cases op with
  | publish data => exact numbered.publish data
  | deliver appInstance => exact numbered.deliver appInstance
  | connect => exact numbered.same rfl
  | disconnect => exact numbered.same rfl
  | subscribe _ body => exact numbered.same (channel_handleSubscribe body _)
  | unsubscribe _ body => exact numbered.same (channel_handleUnsubscribe body _)
  | setOffering => exact numbered.same rfl
  | pass => exact numbered.same rfl

theorem numbered_run (db : Database) (clock : Time) (instances : ℕ) (ops : List RealtimeOp) :
    (run (watchStep verify maxPerMinute socketId) (watched db clock instances) ops).Numbered
      instances := by
  induction ops using List.reverseRecOn with
  | nil => exact watched_numbered db clock instances
  | append_singleton ops op ih =>
      rw [run_concat]
      exact ih.step op

end Numbered

section Heard

variable {verify : String → Option UserContext} {maxPerMinute : ℕ} {socketId : String}
  {watch : Watch} {instances : ℕ}

/-- A handler that sends no payload leaves those that a socket has received. -/
theorem State.updates_onSocket (state : State) {other : String} {change : Socket → Socket}
    {keeps : ∀ socket, (change socket).id = socket.id}
    (silent : ∀ socket, (change socket).received.filterMap ServerMessage.update? =
      socket.received.filterMap ServerMessage.update?) :
    (state.onSocket other change keeps).updates socketId = state.updates socketId := by
  unfold State.updates State.onSocket
  dsimp only
  rw [Table.get?_updateWhere]
  cases state.sockets.get? socketId with
  | none => rfl
  | some socket =>
      rw [Option.map_some, Option.elim_some, Option.elim_some]
      split
      · exact silent socket
      · rfl

theorem Socket.send_silent {message : ServerMessage} (silent : message.update? = none)
    (socket : Socket) : (socket.send message).received.filterMap ServerMessage.update? =
      socket.received.filterMap ServerMessage.update? := by
  simp [Socket.send, List.filterMap_append, silent]

theorem updates_handleConnection (other : String) (appInstance : ℕ) (token : Option String)
    (active : Option Bool) (state : State) :
    (handleConnection verify other appInstance token active state).updates socketId =
      state.updates socketId := by
  unfold handleConnection State.updates
  dsimp only
  cases inserted : state.sockets.insert?
      (accepted other appInstance (authenticate verify token active)) with
  | none => rfl
  | some sockets =>
      rw [Option.getD_some, Table.get?_of_insert? inserted]
      split
      · next same =>
          have fresh : state.sockets.get? socketId = none := by
            rw [Table.get?_eq_none_iff, ← same]
            exact (Table.insert?_spec inserted).1
          rw [fresh]
          cases authenticate verify token active <;> rfl
      · rfl

theorem updates_handleSubscribe (other : String) (body : SubscribeDto) (state : State) :
    (handleSubscribe maxPerMinute other body state).updates socketId = state.updates socketId := by
  unfold handleSubscribe
  split
  · rfl
  · next socket _ =>
      split
      · exact state.updates_onSocket (Socket.send_silent rfl)
      · next user _ =>
          obtain ⟨buckets, consumed⟩ : ∃ buckets, (tryConsume maxPerMinute socket.appInstance
            user.casinoGroupId state).2 = { state with buckets } := tryConsume_snd ..
          dsimp only
          rw [consumed]
          split
          · exact State.updates_onSocket { state with buckets } (Socket.send_silent rfl)
          · split
            · exact State.updates_onSocket { state with buckets } (Socket.send_silent rfl)
            · next rooms message granted =>
                have silent : message.update? = none := by
                  have plain := (joined_spec granted).2
                  cases message with
                  | update data => exact absurd rfl (plain data)
                  | _ => rfl
                exact State.updates_onSocket { state with buckets } fun socket =>
                  (Socket.send_silent silent (socket.join rooms)).trans rfl

theorem updates_handleUnsubscribe (other : String) (body : SubscribeDto) (state : State) :
    (handleUnsubscribe other body state).updates socketId = state.updates socketId := by
  unfold handleUnsubscribe
  split
  · rfl
  · exact state.updates_onSocket fun _ => rfl

variable (socketId) in
theorem State.updates_emitToRoom (message : RealtimeBroadcastMessage) (state : State) :
    (emitToRoom message state).updates socketId =
      if state.hears socketId message.room then state.updates socketId ++ [message.data]
      else state.updates socketId := by
  have known : (emitToRoom message state).sockets.get? socketId =
      (state.sockets.get? socketId).map fun socket =>
        if socket.connected && socket.rooms.contains message.room
        then socket.send (.update message.data) else socket :=
    Table.get?_updateWhere _ _ (Socket.send (.update message.data)) (fun _ => rfl) _
  unfold State.updates State.hears
  rw [known]
  cases state.sockets.get? socketId with
  | none => rfl
  | some socket =>
      rw [Option.map_some, Option.elim_some, Option.elim_some, Option.any_some]
      split
      · simp [Socket.send, List.filterMap_append, ServerMessage.update?]
      · rfl

/-- The socket has received the messages that were sent to it. -/
structure Watch.Heard (socketId : String) (watch : Watch) : Prop where
  numbers : ∀ number ∈ watch.receipts, number < watch.log.length
  updates : (watch.state.updates socketId).map some =
    watch.receipts.map fun number => watch.log[number]?.map RealtimeBroadcastMessage.data

theorem Watch.Heard.same (heard : watch.Heard socketId) {state : State}
    (updates : state.updates socketId = watch.state.updates socketId) :
    Watch.Heard socketId { watch with state } where
  numbers := heard.numbers
  updates := by rw [updates, heard.updates]

theorem Watch.Heard.publish (heard : watch.Heard socketId) (data : Payload) :
    (watchStep verify maxPerMinute socketId watch (.publish data)).Heard socketId where
  numbers number received := by
    have known := heard.numbers number received
    have longer : (watchStep verify maxPerMinute socketId watch (.publish data)).log =
      watch.log ++ broadcasts watch.state.db data := rfl
    rw [longer, List.length_append]
    exact Nat.lt_add_right _ known
  updates := by
    refine heard.updates.trans (List.map_congr_left fun number received => ?_)
    have longer : (watchStep verify maxPerMinute socketId watch (.publish data)).log =
      watch.log ++ broadcasts watch.state.db data := rfl
    rw [longer, List.getElem?_append_left (heard.numbers number received)]

theorem Watch.Heard.deliver (heard : watch.Heard socketId) (numbered : watch.Numbered instances)
    (appInstance : ℕ) :
    (watchStep verify maxPerMinute socketId watch (.deliver appInstance)).Heard socketId := by
  rcases watchStep_deliver watch appInstance with nothing | ⟨message, rest, found, next⟩
  · rw [nothing]
    exact heard
  · rw [next]
    obtain ⟨_, listed, _⟩ := numbered.next found
    have sent := State.updates_emitToRoom socketId message
      { watch.state with channel := watch.state.channel.set appInstance rest }
    have hears : State.hears socketId message.room
      { watch.state with channel := watch.state.channel.set appInstance rest } =
        watch.state.hears socketId message.room := rfl
    have before : State.updates socketId
      { watch.state with channel := watch.state.channel.set appInstance rest } =
        watch.state.updates socketId := rfl
    rw [hears, before] at sent
    refine ⟨fun number received => ?_, ?_⟩
    · dsimp only at received
      split at received
      · rcases List.mem_append.mp received with old | new
        · exact heard.numbers number old
        · rw [List.mem_singleton.mp new]
          exact (List.getElem?_eq_some_iff.mp listed).1
      · exact heard.numbers number received
    · dsimp only
      rw [sent]
      split
      · rw [List.map_append, List.map_append, heard.updates, List.map_singleton,
          List.map_singleton, listed, Option.map_some]
      · exact heard.updates

theorem Watch.Heard.step (heard : watch.Heard socketId) (numbered : watch.Numbered instances)
    (op : RealtimeOp) : (watchStep verify maxPerMinute socketId watch op).Heard socketId := by
  cases op with
  | publish data => exact heard.publish data
  | deliver appInstance => exact heard.deliver numbered appInstance
  | connect => exact heard.same (updates_handleConnection ..)
  | disconnect => exact heard.same (State.updates_onSocket _ fun _ => rfl)
  | subscribe => exact heard.same (updates_handleSubscribe ..)
  | unsubscribe => exact heard.same (updates_handleUnsubscribe ..)
  | setOffering => exact heard.same rfl
  | pass => exact heard.same rfl

theorem heard_run (db : Database) (clock : Time) (instances : ℕ) (ops : List RealtimeOp) :
    (run (watchStep verify maxPerMinute socketId) (watched db clock instances) ops).Heard
      socketId := by
  induction ops using List.reverseRecOn with
  | nil => exact ⟨fun _ never => (nomatch never), rfl⟩
  | append_singleton ops op ih =>
      rw [run_concat]
      exact ih.step (numbered_run db clock instances ops) op

end Heard

section Copies

variable (verify : String → Option UserContext) (maxPerMinute : ℕ) (socketId : String)
  (instances number : ℕ) (db : Database) (clock : Time)

/-- How many instances have been handed the message. -/
def Watch.copies (watch : Watch) : ℕ :=
  ((Finset.range instances).filter fun appInstance => number < watch.handed appInstance).card

/-- While an instance has yet to be handed the message, the socket is in its room. -/
def Watch.Listening (watch : Watch) : Prop :=
  ∀ message ∈ watch.log[number]?, (∃ appInstance < instances, watch.handed appInstance ≤ number) →
    watch.state.hears socketId message.room = true

/-- The socket is in the room of the message from its publication on. -/
def Listens (ops : List RealtimeOp) : Prop :=
  ∀ earlier ∈ ops.inits, Watch.Listening socketId instances number
    (run (watchStep verify maxPerMinute socketId) (watched db clock instances) earlier)

instance (watch : Watch) : Decidable (watch.Listening socketId instances number) := by
  unfold Watch.Listening
  infer_instance

instance (ops : List RealtimeOp) :
    Decidable (Listens verify maxPerMinute socketId instances number db clock ops) := by
  unfold Listens
  infer_instance

variable {verify maxPerMinute socketId instances number db clock} {watch : Watch}

/-- An instance that is handed the message has one more copy of it sent. -/
theorem Watch.copies_handed {appInstance : ℕ} (known : appInstance < instances)
    (handed : ℕ → ℕ) (next : watch.handed appInstance = number)
    (after : handed = Function.update watch.handed appInstance (number + 1)) :
    Watch.copies instances number { watch with handed } = watch.copies instances number + 1 := by
  unfold Watch.copies
  have more : (Finset.range instances).filter (fun other => number < handed other) =
      insert appInstance ((Finset.range instances).filter fun other =>
        number < watch.handed other) := by
    ext other
    simp only [Finset.mem_filter, Finset.mem_insert, Finset.mem_range, after]
    by_cases same : other = appInstance
    · subst same
      simp [known]
    · simp [same]
  rw [more, Finset.card_insert_of_notMem]
  simp [next]

theorem Watch.copies_other {appInstance : ℕ} (handed : ℕ → ℕ)
    (next : watch.handed appInstance ≠ number)
    (after : handed = Function.update watch.handed appInstance (watch.handed appInstance + 1)) :
    Watch.copies instances number { watch with handed } = watch.copies instances number := by
  unfold Watch.copies
  congr 1
  refine Finset.filter_congr fun other _ => ?_
  dsimp only
  rw [after]
  by_cases same : other = appInstance
  · subst same
    rw [Function.update_self]
    omega
  · rw [Function.update_of_ne same]

/-- The socket is sent one copy for each instance that is handed the message. -/
theorem count_step (numbered : watch.Numbered instances)
    (listening : watch.Listening socketId instances number)
    (counted : watch.receipts.count number = watch.copies instances number) (op : RealtimeOp) :
    (watchStep verify maxPerMinute socketId watch op).receipts.count number =
      (watchStep verify maxPerMinute socketId watch op).copies instances number := by
  cases op with
  | deliver appInstance =>
      rcases watchStep_deliver watch appInstance with nothing | ⟨message, rest, found, next⟩
      · rw [nothing]
        exact counted
      · rw [next]
        obtain ⟨known, listed, _⟩ := numbered.next found
        dsimp only
        by_cases hit : watch.handed appInstance = number
        · have hears := listening message (hit ▸ listed) ⟨appInstance, known, hit.le⟩
          rw [if_pos hears, List.count_append, counted, hit, List.count_singleton_self]
          exact (Watch.copies_handed known _ hit rfl).symm
        · have copies : Watch.copies instances number { watch with
              handed := Function.update watch.handed appInstance (watch.handed appInstance + 1) } =
            watch.copies instances number := Watch.copies_other _ hit rfl
          refine Eq.trans ?_ (counted.trans copies.symm)
          split
          · rw [List.count_append, List.count_singleton, if_neg (by simpa using hit), Nat.add_zero]
          · rfl
  | _ => exact counted

theorem count_run {ops : List RealtimeOp}
    (listens : Listens verify maxPerMinute socketId instances number db clock ops) :
    (run (watchStep verify maxPerMinute socketId) (watched db clock instances) ops).receipts.count
        number =
      (run (watchStep verify maxPerMinute socketId) (watched db clock instances) ops).copies
        instances number := by
  induction ops using List.reverseRecOn with
  | nil => simp [watched, Watch.copies]
  | append_singleton ops op ih =>
      have sooner : Listens verify maxPerMinute socketId instances number db clock ops :=
        fun earlier first => listens earlier
          ((List.mem_inits _ _).mpr (((List.mem_inits _ _).mp first).trans (List.prefix_append ops [op])))
      have now := listens ops ((List.mem_inits _ _).mpr (List.prefix_append ops [op]))
      rw [run_concat]
      exact count_step (numbered_run db clock instances ops) now (ih sooner) op

/-- Once each instance has been handed a message, a socket that has been in its room since the
publication was sent it once if, and only if, there is one instance: it is sent a copy of it
for each of them. What the socket was sent is what it has received. -/
theorem received_once_iff {ops : List RealtimeOp}
    (listens : Listens verify maxPerMinute socketId instances number db clock ops)
    (handed : ∀ appInstance < instances, number <
      (run (watchStep verify maxPerMinute socketId) (watched db clock instances) ops).handed
        appInstance) :
    ((run (watchStep verify maxPerMinute socketId) (watched db clock instances) ops).receipts.count
        number = 1 ↔ instances = 1) ∧
      ((run (step verify maxPerMinute) (started db clock instances) ops).updates socketId).map
          some =
        (run (watchStep verify maxPerMinute socketId) (watched db clock instances) ops).receipts.map
          fun number =>
            ((run (watchStep verify maxPerMinute socketId) (watched db clock instances) ops).log[
              number]?).map RealtimeBroadcastMessage.data := by
  constructor
  · have all : (Finset.range instances).filter (fun appInstance => number <
        (run (watchStep verify maxPerMinute socketId) (watched db clock instances) ops).handed
          appInstance) = Finset.range instances :=
      Finset.filter_true_of_mem fun appInstance known => handed appInstance
        (Finset.mem_range.mp known)
    rw [count_run listens, Watch.copies, all, Finset.card_range]
  · have heard := (heard_run db clock instances ops : Watch.Heard socketId
      (run (watchStep verify maxPerMinute socketId) (watched db clock instances) ops)).updates
    rw [watch_state] at heard
    exact heard

/-- A player of a tenant follows a game, the score is published, and each instance is handed
the message. -/
def following (instances : ℕ) : List RealtimeOp :=
  [.connect "one" 0 (some "acme") (some true), .subscribe "one" followGame, .publish scoreUpdate] ++
    (List.range instances).map .deliver

theorem score_arrives_once :
    (run (watchStep sessionOf 60 "one") (watched liveGame 0 1) (following 1)).receipts.count 0
      = 1 := by
  have listens : Listens sessionOf 60 "one" 1 0 liveGame 0 (following 1) := by decide +kernel
  have handed : ∀ appInstance < 1, 0 <
    (run (watchStep sessionOf 60 "one") (watched liveGame 0 1) (following 1)).handed
      appInstance := by decide +kernel
  exact (received_once_iff listens handed).1.mpr rfl

/-- With two instances the player is told of the score twice. -/
theorem score_arrives_twice :
    Listens sessionOf 60 "one" 2 0 liveGame 0 (following 2) ∧
      (run (watchStep sessionOf 60 "one") (watched liveGame 0 2) (following 2)).log.count
        ⟨"group:acme:event:game", scoreUpdate⟩ = 1 ∧
      (run (watchStep sessionOf 60 "one") (watched liveGame 0 2) (following 2)).receipts.count 0
        ≠ 1 ∧
      (run (step sessionOf 60) (started liveGame 0 2) (following 2)).updates "one" =
        [scoreUpdate, scoreUpdate] := by
  decide +kernel

end Copies

end SportsBetting.Realtime
