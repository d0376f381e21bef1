import SportsBetting.Async.Query
import SportsBetting.Data.Operations
import SportsBetting.Schema
import Mathlib.Logic.Function.Basic

/-!
# The lock of live ingestion

A live tick ingests once it has set the lock, which expires by itself. Nobody renews it,
and nobody looks at it while a tick goes on.
-/

namespace SportsBetting.IngestionScheduler

open Async

structure EnvConfig where
  INGEST_LIVE_ENABLED : Bool
  INGEST_LIVE_INTERVAL_SECONDS : ℕ

def INGEST_LIVE_LOCK_KEY : String := "ingest:live:lock"

section Ticks

inductive TickCall : Type → Type
  | isPaused : TickCall Bool
  | hasLiveGames : TickCall Bool
  /-- `SET key EX ttl NX`: whether the key was set. -/
  | set (key : String) (ttlSeconds : ℕ) : TickCall Bool
  /-- Answered when the ingestion is over. -/
  | ingestLiveTick : TickCall Unit

abbrev Ticking := Program TickCall Failure

def tryAcquire (key : String) (ttlSeconds : ℕ) : Ticking Bool :=
  Program.call (.set key ttlSeconds)

variable (config : EnvConfig)

def lockTtl : ℕ := max (config.INGEST_LIVE_INTERVAL_SECONDS - 5) 10

/-- A failed ingestion is logged. -/
def runLiveTick : Ticking Unit :=
  if !config.INGEST_LIVE_ENABLED then return ()
  else do
    let paused ← Program.call .isPaused
    if paused then return ()
    else do
      let live ← Program.call .hasLiveGames
      if !live then return ()
      else do
        let acquired ← tryAcquire INGEST_LIVE_LOCK_KEY (lockTtl config)
        if !acquired then return ()
        else (Program.call .ingestLiveTick).handle fun _ => return ()

end Ticks

section Cluster

/-- What remains of a tick, and when it has set the lock. -/
structure Tick where
  rest : Ticking Unit
  acquiredAt : Option Time

/-- Keys of Redis with the time they expire at, and the ticks of all instances. Times are in
milliseconds. -/
structure Cluster where
  clock : Time
  redis : String → Option Time
  ticks : List Tick

structure Choice where
  fault : Fault
  paused : Bool
  live : Bool

/-- Whether a key can be set. -/
def Cluster.isFree (cluster : Cluster) (key : String) : Bool :=
  match cluster.redis key with
  | none => true
  | some expiry => expiry ≤ cluster.clock

def Cluster.setKey (cluster : Cluster) (key : String) (ttlSeconds : ℕ) : String → Option Time :=
  if cluster.isFree key then
    Function.update cluster.redis key (some (cluster.clock + 1000 * ttlSeconds))
  else cluster.redis

def replied {Reply : Type} (fault : Fault) (reply : Reply) : Except Failure Reply :=
  match fault with
  | .none => .ok reply
  | _ => .error (.error "Connection is closed.")

def TickCall.answer (choice : Choice) (cluster : Cluster) {Reply : Type} :
    TickCall Reply → Except Failure Reply × (String → Option Time)
  | .isPaused => (replied choice.fault choice.paused, cluster.redis)
  | .hasLiveGames => (replied choice.fault choice.live, cluster.redis)
  | .set key ttlSeconds =>
      if choice.fault = .refused then (replied choice.fault false, cluster.redis)
      else (replied choice.fault (cluster.isFree key), cluster.setKey key ttlSeconds)
  | .ingestLiveTick => (replied choice.fault (), cluster.redis)

/-- The reply says that the lock was set. -/
def TickCall.acquires {Reply : Type} : TickCall Reply → Except Failure Reply → Bool
  | .set _ _, .ok acquired => acquired
  | _, _ => false

def TickCall.isIngest {Reply : Type} : TickCall Reply → Bool
  | .ingestLiveTick => true
  | _ => false

inductive Op
  /-- An instance starts a tick, by its timer or by its watch. -/
  | begin
  | pass (milliseconds : ℕ)
  /-- The call that a tick awaits is answered. -/
  | answer (index : ℕ) (choice : Choice)

variable (config : EnvConfig)

def Cluster.answer (cluster : Cluster) (index : ℕ) (choice : Choice) : Cluster :=
  match cluster.ticks[index]? with
  | some ⟨.await call next, acquiredAt⟩ =>
      let (reply, redis) := call.answer choice cluster
      let acquiredAt := if call.acquires reply then some cluster.clock else acquiredAt
      { cluster with redis, ticks := cluster.ticks.set index ⟨next reply, acquiredAt⟩ }
  | _ => cluster

def Cluster.step (cluster : Cluster) : Op → Cluster
  | .begin => { cluster with ticks := cluster.ticks ++ [⟨runLiveTick config, none⟩] }
  | .pass milliseconds => { cluster with clock := cluster.clock + milliseconds }
  | .answer index choice => cluster.answer index choice

/-- No tick was started, and Redis holds any keys. -/
def Cluster.idle (clock : Time) (redis : String → Option Time) : Cluster := ⟨clock, redis, []⟩

/-- The tick is inside of `ingestLiveTick`. -/
def Tick.ingesting (tick : Tick) : Bool :=
  match tick.rest with
  | .await call _ => call.isIngest
  | .done _ => false

def Cluster.Ingesting (cluster : Cluster) (index : ℕ) : Prop :=
  ∃ tick, cluster.ticks[index]? = some tick ∧ tick.ingesting = true

def Cluster.AtMostOne (cluster : Cluster) : Prop :=
  ∀ first second, cluster.Ingesting first → cluster.Ingesting second → first = second

/-- No ingestion goes on for as long as the lock lasts. -/
def InTime (cluster : Cluster) : Op → Prop
  | .pass milliseconds => ∀ tick ∈ cluster.ticks, tick.ingesting = true →
      ∀ time ∈ tick.acquiredAt, cluster.clock + milliseconds < time + 1000 * lockTtl config
  | _ => True

end Cluster

section Exclusion

variable {config : EnvConfig} {cluster : Cluster} {tick : Tick}

/-- A call that a tick may make before it has set the lock. -/
def TickCall.Checks (config : EnvConfig) {Reply : Type} : TickCall Reply → Prop
  | .set key ttlSeconds => key = INGEST_LIVE_LOCK_KEY ∧ ttlSeconds = lockTtl config
  | .ingestLiveTick => False
  | _ => True

/-- Nothing is ingested before the lock was set, and nothing else is done afterwards. -/
def AcquiresFirst (config : EnvConfig) : Ticking Unit → Prop
  | .done _ => True
  | .await call next => call.Checks config ∧ ∀ reply,
      if call.acquires reply then (next reply).CallsOnly fun call => call.isIngest = true
      else AcquiresFirst config (next reply)

theorem acquiresFirst_runLiveTick (config : EnvConfig) :
    AcquiresFirst config (runLiveTick config) := by
  unfold runLiveTick
  split
  · trivial
  · refine ⟨trivial, fun paused => ?_⟩
    cases paused with
    | error failure => trivial
    | ok paused =>
        cases paused with
        | true => trivial
        | false =>
            refine ⟨trivial, fun live => ?_⟩
            cases live with
            | error failure => trivial
            | ok live =>
                cases live with
                | false => trivial
                | true =>
                    refine ⟨⟨rfl, rfl⟩, fun acquired => ?_⟩
                    cases acquired with
                    | error failure => trivial
                    | ok acquired =>
                        cases acquired with
                        | false => trivial
                        | true =>
                            refine ⟨rfl, fun past => ?_⟩
                            cases past <;> trivial

/-- A tick that goes on has the lock. -/
def Sound (config : EnvConfig) (cluster : Cluster) (tick : Tick) : Prop :=
  match tick.acquiredAt with
  | none => AcquiresFirst config tick.rest
  | some time => (tick.rest.CallsOnly fun call => call.isIngest = true) ∧
      (tick.ingesting = true →
        cluster.redis INGEST_LIVE_LOCK_KEY = some (time + 1000 * lockTtl config) ∧
          cluster.clock < time + 1000 * lockTtl config)

structure Exclusive (config : EnvConfig) (cluster : Cluster) : Prop where
  sound : ∀ tick ∈ cluster.ticks, Sound config cluster tick
  one : cluster.AtMostOne

theorem not_ingesting_of_acquiresFirst (first : AcquiresFirst config tick.rest) :
    tick.ingesting = false := by
  unfold Tick.ingesting
  cases same : tick.rest with
  | done outcome => rfl
  | await call next =>
      rw [same] at first
      cases call with
      | ingestLiveTick => exact first.1.elim
      | isPaused | hasLiveGames | set => rfl

/-- The time at which a tick that goes on has set the lock. -/
theorem Sound.acquiredAt (sound : Sound config cluster tick) (ingesting : tick.ingesting = true) :
    ∃ time, tick.acquiredAt = some time ∧
      cluster.redis INGEST_LIVE_LOCK_KEY = some (time + 1000 * lockTtl config) ∧
      cluster.clock < time + 1000 * lockTtl config := by
  unfold Sound at sound
  cases acquired : tick.acquiredAt with
  | none =>
      rw [acquired] at sound
      rw [not_ingesting_of_acquiresFirst sound] at ingesting
      cases ingesting
  | some time =>
      rw [acquired] at sound
      exact ⟨time, rfl, sound.2 ingesting⟩

/-- While a tick goes on, the lock can not be set. -/
theorem Sound.held (sound : Sound config cluster tick) (ingesting : tick.ingesting = true) :
    cluster.isFree INGEST_LIVE_LOCK_KEY = false := by
  obtain ⟨time, _, locked, intime⟩ := sound.acquiredAt ingesting
  unfold Cluster.isFree
  simp only [locked, decide_eq_false_iff_not]
  exact not_le.mpr intime

/-- What is said of a tick that does not go on says nothing of Redis. -/
theorem Sound.of_still {other : Cluster} (sound : Sound config cluster tick)
    (still : tick.ingesting = false) : Sound config other tick := by
  unfold Sound at sound ⊢
  cases acquired : tick.acquiredAt with
  | none =>
      rw [acquired] at sound
      exact sound
  | some time =>
      rw [acquired] at sound
      exact ⟨sound.1, fun ingesting => by simp [still] at ingesting⟩

theorem sound_congr (cluster other : Cluster) (clock : other.clock = cluster.clock)
    (redis : other.redis INGEST_LIVE_LOCK_KEY = cluster.redis INGEST_LIVE_LOCK_KEY) :
    Sound config other tick ↔ Sound config cluster tick := by
  unfold Sound
  rw [clock, redis]

def Still (cluster : Cluster) : Prop := ∀ tick ∈ cluster.ticks, tick.ingesting = false

/-- A tick takes the place of what it was before its call was answered. -/
theorem Exclusive.replace (exclusive : Exclusive config cluster) {index : ℕ} {before after : Tick}
    {redis : String → Option Time} (there : cluster.ticks[index]? = some before)
    (lock : redis INGEST_LIVE_LOCK_KEY = cluster.redis INGEST_LIVE_LOCK_KEY ∨ Still cluster)
    (goes : after.ingesting = true → before.ingesting = true ∨ Still cluster)
    (sound : Sound config { cluster with redis } after) :
    Exclusive config { cluster with redis, ticks := cluster.ticks.set index after } := by
  have inside : index < cluster.ticks.length := (List.getElem?_eq_some_iff.mp there).1
  constructor
  · intro tick member
    rcases List.mem_or_eq_of_mem_set member with old | rfl
    · rcases lock with same | still
      · exact (sound_congr cluster { cluster with redis } rfl same).mpr
          (exclusive.sound tick old)
      · exact (exclusive.sound tick old).of_still (still tick old)
    · exact sound
  · have origin : ∀ other, Cluster.Ingesting
        { cluster with redis, ticks := cluster.ticks.set index after } other →
        cluster.Ingesting other ∨ other = index ∧ Still cluster := by
      rintro other ⟨tick, found, ingesting⟩
      dsimp only at found
      by_cases here : other = index
      · subst here
        rw [List.getElem?_set_self inside] at found
        obtain rfl := Option.some.inj found
        exact (goes ingesting).imp (fun was => ⟨before, there, was⟩) fun still => ⟨rfl, still⟩
      · rw [List.getElem?_set_ne (Ne.symm here)] at found
        exact .inl ⟨tick, found, ingesting⟩
    have none_of_still : Still cluster → ∀ other, ¬ cluster.Ingesting other := by
      rintro still other ⟨tick, found, ingesting⟩
      rw [still tick (List.mem_of_getElem? found)] at ingesting
      cases ingesting
    intro first second one two
    rcases origin first one with was | ⟨here, still⟩
    · rcases origin second two with was' | ⟨_, still⟩
      · exact exclusive.one first second was was'
      · exact absurd was (none_of_still still first)
    · rcases origin second two with was' | ⟨here', _⟩
      · exact absurd was' (none_of_still still second)
      · rw [here, here']

theorem Exclusive.still_of_free (exclusive : Exclusive config cluster)
    (free : cluster.isFree INGEST_LIVE_LOCK_KEY = true) : Still cluster := by
  intro tick member
  by_contra goes
  have held := (exclusive.sound tick member).held (by simpa using goes)
  rw [held] at free
  cases free

theorem Exclusive.begin (exclusive : Exclusive config cluster) :
    Exclusive config (cluster.step config .begin) := by
  have first := acquiresFirst_runLiveTick config
  constructor
  · intro tick member
    rcases List.mem_append.mp member with old | new
    · exact (sound_congr cluster _ rfl rfl).mpr (exclusive.sound tick old)
    · obtain rfl := List.mem_singleton.mp new
      exact first
  · have origin : ∀ index, (cluster.step config .begin).Ingesting index →
        cluster.Ingesting index := by
      rintro index ⟨tick, found, ingesting⟩
      dsimp only [Cluster.step] at found
      by_cases inside : index < cluster.ticks.length
      · rw [List.getElem?_append_left inside] at found
        exact ⟨tick, found, ingesting⟩
      · rw [List.getElem?_append_right (by omega)] at found
        obtain rfl := List.mem_singleton.mp (List.mem_of_getElem? found)
        have still : Tick.ingesting ⟨runLiveTick config, none⟩ = false :=
          not_ingesting_of_acquiresFirst first
        rw [still] at ingesting
        cases ingesting
    exact fun one two goes goes' => exclusive.one one two (origin one goes) (origin two goes')

theorem Exclusive.pass (exclusive : Exclusive config cluster) {milliseconds : ℕ}
    (inTime : InTime config cluster (.pass milliseconds)) :
    Exclusive config (cluster.step config (.pass milliseconds)) := by
  refine ⟨fun tick member => ?_, exclusive.one⟩
  have sound := exclusive.sound tick member
  by_cases goes : tick.ingesting = true
  · obtain ⟨time, acquired, locked, _⟩ := sound.acquiredAt goes
    have later := inTime tick member goes time acquired
    unfold Sound at sound ⊢
    rw [acquired] at sound ⊢
    exact ⟨sound.1, fun _ => ⟨locked, later⟩⟩
  · exact sound.of_still (by simpa using goes)

/-- A tick that has not set the lock goes on without it. -/
theorem Exclusive.replace_unlocked (exclusive : Exclusive config cluster) {index : ℕ}
    {before : Tick} {redis : String → Option Time} {rest : Ticking Unit}
    (there : cluster.ticks[index]? = some before)
    (lock : redis INGEST_LIVE_LOCK_KEY = cluster.redis INGEST_LIVE_LOCK_KEY ∨ Still cluster)
    (first : AcquiresFirst config rest) :
    Exclusive config { cluster with redis, ticks := cluster.ticks.set index ⟨rest, none⟩ } := by
  refine exclusive.replace there lock (fun ingesting => ?_) first
  have still : Tick.ingesting ⟨rest, none⟩ = false := not_ingesting_of_acquiresFirst first
  rw [still] at ingesting
  cases ingesting

theorem answer_eq {index : ℕ} {Reply : Type} {call : TickCall Reply}
    {next : Except Failure Reply → Ticking Unit} {acquiredAt : Option Time} {choice : Choice}
    {reply : Except Failure Reply} {redis : String → Option Time}
    (there : cluster.ticks[index]? = some ⟨.await call next, acquiredAt⟩)
    (answered : call.answer choice cluster = (reply, redis)) :
    cluster.answer index choice = { cluster with
      redis
      ticks := cluster.ticks.set index
        ⟨next reply, if call.acquires reply then some cluster.clock else acquiredAt⟩ } := by
  unfold Cluster.answer
  rw [there]
  dsimp only
  rw [answered]

/-- A tick that may not yet ingest, and what it asks for. -/
theorem Exclusive.answer_checks (exclusive : Exclusive config cluster) {index : ℕ} {Reply : Type}
    {call : TickCall Reply} {next : Except Failure Reply → Ticking Unit} (choice : Choice)
    (there : cluster.ticks[index]? = some ⟨.await call next, none⟩)
    (first : AcquiresFirst config (.await call next)) :
    Exclusive config (cluster.answer index choice) := by
  obtain ⟨checks, goes_on⟩ := first
  cases call with
  | ingestLiveTick => exact checks.elim
  | isPaused =>
      rw [answer_eq there rfl]
      exact exclusive.replace_unlocked there (.inl rfl) (goes_on (replied _ _))
  | hasLiveGames =>
      rw [answer_eq there rfl]
      exact exclusive.replace_unlocked there (.inl rfl) (goes_on (replied _ _))
  | set key ttlSeconds =>
      obtain ⟨rfl, rfl⟩ := checks
      cases free : cluster.isFree INGEST_LIVE_LOCK_KEY with
      | false =>
          have kept : (TickCall.set INGEST_LIVE_LOCK_KEY (lockTtl config)).answer choice cluster =
              (replied choice.fault false, cluster.redis) := by
            simp [TickCall.answer, Cluster.setKey, free]
          rw [answer_eq there kept]
          have later : AcquiresFirst config (next (replied choice.fault false)) := by
            have goes := goes_on (replied choice.fault false)
            cases fault : choice.fault <;> rw [fault] at goes <;> exact goes
          have unset : (TickCall.set INGEST_LIVE_LOCK_KEY (lockTtl config)).acquires
              (replied choice.fault false) = false := by
            cases choice.fault <;> rfl
          rw [unset]
          exact exclusive.replace_unlocked there (.inl rfl) later
      | true =>
          have still := exclusive.still_of_free free
          cases fault : choice.fault with
          | refused =>
              have kept : (TickCall.set INGEST_LIVE_LOCK_KEY (lockTtl config)).answer choice
                  cluster = (replied .refused false, cluster.redis) := by
                simp [TickCall.answer, fault]
              rw [answer_eq there kept]
              exact exclusive.replace_unlocked there (.inl rfl) (goes_on (replied .refused false))
          | unacknowledged =>
              have unheard : (TickCall.set INGEST_LIVE_LOCK_KEY (lockTtl config)).answer choice
                  cluster = (replied .unacknowledged true,
                    cluster.setKey INGEST_LIVE_LOCK_KEY (lockTtl config)) := by
                simp [TickCall.answer, fault, free]
              rw [answer_eq there unheard]
              exact exclusive.replace_unlocked there (.inr still)
                (goes_on (replied .unacknowledged true))
          | none =>
              have set : (TickCall.set INGEST_LIVE_LOCK_KEY (lockTtl config)).answer choice
                  cluster = (.ok true, cluster.setKey INGEST_LIVE_LOCK_KEY (lockTtl config)) := by
                simp [TickCall.answer, fault, free, replied]
              have lasts : (10 : ℤ) ≤ (lockTtl config : ℤ) := by exact_mod_cast le_max_right _ 10
              rw [answer_eq there set]
              -- the tick goes on with the lock, and no other does
              refine exclusive.replace there (.inr still) (fun _ => .inr still)
                ⟨goes_on (.ok true), fun _ => ⟨?_, ?_⟩⟩
              · simp [Cluster.setKey, free]
              · dsimp only
                linarith

theorem Exclusive.answer (exclusive : Exclusive config cluster) (index : ℕ) (choice : Choice) :
    Exclusive config (cluster.answer index choice) := by
  cases there : cluster.ticks[index]? with
  | none =>
      unfold Cluster.answer
      rw [there]
      exact exclusive
  | some tick =>
      obtain ⟨rest, acquiredAt⟩ := tick
      cases rest with
      | done outcome =>
          unfold Cluster.answer
          rw [there]
          exact exclusive
      | await call next =>
          have sound := exclusive.sound _ (List.mem_of_getElem? there)
          cases acquiredAt with
          | none => exact exclusive.answer_checks choice there sound
          | some time =>
              cases call with
              | isPaused | hasLiveGames | set => cases sound.1.1
              | ingestLiveTick =>
                  rw [answer_eq there rfl]
                  refine exclusive.replace there (.inl rfl) (fun _ => .inl rfl) ?_
                  exact ⟨sound.1.2 _, fun _ => sound.2 rfl⟩

theorem Exclusive.step (exclusive : Exclusive config cluster) {op : Op}
    (inTime : InTime config cluster op) : Exclusive config (cluster.step config op) := by
  cases op with
  | begin => exact exclusive.begin
  | pass milliseconds => exact exclusive.pass inTime
  | answer index choice => exact exclusive.answer index choice

end Exclusion

section Run

variable {config : EnvConfig} {clock : Time} {redis : String → Option Time} {ops : List Op}

/-- In the whole run no ingestion goes on for as long as the lock lasts. -/
def AllInTime (config : EnvConfig) (cluster : Cluster) : List Op → Prop
  | [] => True
  | op :: rest => InTime config cluster op ∧ AllInTime config (cluster.step config op) rest

instance (cluster : Cluster) (op : Op) : Decidable (InTime config cluster op) := by
  cases op <;> (unfold InTime; infer_instance)

instance decidableAllInTime (cluster : Cluster) : (ops : List Op) →
    Decidable (AllInTime config cluster ops)
  | [] => .isTrue trivial
  | op :: rest =>
      have := decidableAllInTime (cluster.step config op) rest
      inferInstanceAs (Decidable (_ ∧ _))

theorem exclusive_idle : Exclusive config (.idle clock redis) := by
  constructor
  · intro tick member
    cases member
  · rintro first second ⟨tick, found, _⟩
    cases found

theorem Exclusive.run {cluster : Cluster} (exclusive : Exclusive config cluster)
    (inTime : AllInTime config cluster ops) :
    Exclusive config (Operations.run (Cluster.step config) cluster ops) := by
  induction ops generalizing cluster with
  | nil => exact exclusive
  | cons op rest ih => exact ih (exclusive.step inTime.1) inTime.2

/-- Whatever the instances do, and whenever they do it: as long as each ingestion is over before
its lock expires, no two go on at the same time. -/
theorem one_live_tick (inTime : AllInTime config (.idle clock redis) ops) :
    (Operations.run (Cluster.step config) (.idle clock redis) ops).AtMostOne :=
  (exclusive_idle.run inTime).one

/-- Two instances, with a tick every minute. -/
def eachMinute : EnvConfig := ⟨true, 60⟩

/-- A tick comes to its ingestion, if it can set the lock. -/
def goesOn (index : ℕ) : List Op :=
  .begin :: List.replicate 3 (.answer index ⟨.none, false, true⟩)

/-- The first ingestion is over when the second instance starts a tick. -/
def swiftTicks : List Op :=
  goesOn 0 ++ [.pass 30000, .answer 0 ⟨.none, false, true⟩, .pass 30000] ++ goesOn 1

/-- The first ingestion goes on for more than a minute. -/
def slowTicks : List Op := goesOn 0 ++ [.pass 60000] ++ goesOn 1

theorem swiftTicks_one :
    (Operations.run (Cluster.step eachMinute) (.idle 0 fun _ => none) swiftTicks).AtMostOne ∧
      (Operations.run (Cluster.step eachMinute) (.idle 0 fun _ => none) swiftTicks).Ingesting 1 :=
  ⟨one_live_tick (by decide +kernel), ⟨_, rfl, rfl⟩⟩

theorem slowTicks_overlap :
    ¬ (Operations.run (Cluster.step eachMinute) (.idle 0 fun _ => none) slowTicks).AtMostOne := by
  intro one
  have same := one 0 1 ⟨_, rfl, rfl⟩ ⟨_, rfl, rfl⟩
  cases same

end Run

end SportsBetting.IngestionScheduler
