import SportsBetting.Async.Program
import SportsBetting.Data.Operations
import SportsBetting.Data.Text
import SportsBetting.Schema

/-!
# Pausing ingestion when the quota is low

One key of Redis says until when the Odds API is not to be asked. It is set and looked up by
all instances, and whoever finds that its time is over deletes it.
-/

namespace SportsBetting.IngestQuotaService

open Async Operations

structure EnvConfig where
  INGEST_ODDS_API_REMAINING_MIN : ℕ
  INGEST_ODDS_API_PAUSE_MINUTES : ℕ

section Programs

/-- Reading the clock, and the calls about the key `ingest:odds-api:paused-until`. Only numbers
are stored under it. -/
inductive QuotaCall : Type → Type
  | now : QuotaCall Time
  | get : QuotaCall (Option Time)
  | set (pausedUntil : Time) (ttlSeconds : ℕ) : QuotaCall Unit
  | del : QuotaCall Unit

abbrev Quota := Program QuotaCall Failure

/-- What is done about a time that was found. -/
def checkUntil (pausedUntil : Time) : Quota Bool := do
  let now ← Program.call .now
  if pausedUntil ≤ now then
    Program.call .del
    return false
  else return true

def isPaused : Quota Bool := do
  let raw ← Program.call .get
  match raw with
  | none => return false
  | some pausedUntil => checkUntil pausedUntil

/-- A later time that is stored already is left alone. -/
def pauseUntil (pausedUntil : Time) (minutes : ℕ) : Quota Unit := do
  let existing ← Program.call .get
  let existingUntil := existing.getD 0
  if existingUntil > pausedUntil then return ()
  else Program.call (.set pausedUntil (minutes * 60))

def pauseForMinutes (minutes : ℕ) : Quota Unit := do
  let now ← Program.call .now
  pauseUntil (now + minutes * 60000) minutes

variable (config : EnvConfig)

/-- The header is `x-requests-remaining`. -/
def recordQuotaHeaders (remainingRaw : Option String) : Quota Unit :=
  match remainingRaw with
  | none => return ()
  | some remainingRaw =>
      match Text.toNumber remainingRaw with
      | none => return ()
      | some remaining =>
          if remaining ≥ config.INGEST_ODDS_API_REMAINING_MIN then return ()
          else pauseForMinutes config.INGEST_ODDS_API_PAUSE_MINUTES

def pauseForAuthFailure : Quota Unit := pauseForMinutes config.INGEST_ODDS_API_PAUSE_MINUTES

end Programs

section Cluster

/-- What is stored, and when it expires. -/
structure Entry where
  pausedUntil : Time
  expiry : Time
  deriving DecidableEq

/-- An `isPaused` that goes on, the pauses that were on when it started, and when it ended. -/
structure Check where
  rest : Quota Bool
  promised : List Time
  endedAt : Option Time

/-- A call that may pause, and when it read the clock. -/
structure Trigger where
  rest : Quota Unit
  readAt : Option Time

/-- The key of Redis and the calls of all instances. The promises are the ends of the pauses whose
triggers have completed. -/
structure Cluster where
  clock : Time
  redis : Option Entry
  checks : List Check
  triggers : List Trigger
  promises : List Time

inductive Op
  | isPaused
  | recordQuotaHeaders (remainingRaw : Option String)
  | pauseForAuthFailure
  | pass (milliseconds : ℕ)
  /-- Redis drops the key, once it may. -/
  | expire
  /-- The call that a check awaits is answered. -/
  | answerCheck (index : ℕ)
  | answerTrigger (index : ℕ)

def QuotaCall.answer (clock : Time) (redis : Option Entry) {Reply : Type} :
    QuotaCall Reply → Reply × Option Entry
  | .now => (clock, redis)
  | .get => (redis.map Entry.pausedUntil, redis)
  | .set pausedUntil ttlSeconds => ((), some ⟨pausedUntil, clock + 1000 * ttlSeconds⟩)
  | .del => ((), none)

def QuotaCall.readsClock {Reply : Type} : QuotaCall Reply → Bool
  | .now => true
  | _ => false

def QuotaCall.deletes {Reply : Type} : QuotaCall Reply → Bool
  | .del => true
  | _ => false

def QuotaCall.sets {Reply : Type} : QuotaCall Reply → Option Time
  | .set pausedUntil _ => some pausedUntil
  | _ => none

/-- The check goes on, or has ended. -/
def Check.goOn (check : Check) (clock : Time) (rest : Quota Bool) : Check :=
  match rest with
  | .done outcome => ⟨.done outcome, check.promised, some clock⟩
  | .await call next => ⟨.await call next, check.promised, check.endedAt⟩

/-- The check once its call is answered, and what is stored then. -/
def Check.answered (check : Check) (clock : Time) (redis : Option Entry) : Check × Option Entry :=
  match check.rest with
  | .done _ => (check, redis)
  | .await call next =>
      let (reply, redis) := call.answer clock redis
      (check.goOn clock (next (.ok reply)), redis)

def Trigger.answered (trigger : Trigger) (clock : Time) (redis : Option Entry) :
    Trigger × Option Entry :=
  match trigger.rest with
  | .done _ => (trigger, redis)
  | .await call next =>
      let (reply, redis) := call.answer clock redis
      (⟨next (.ok reply), if call.readsClock then some clock else trigger.readAt⟩, redis)

def Check.deletes (check : Check) : Bool :=
  match check.rest with
  | .done _ => false
  | .await call _ => call.deletes

def Trigger.isDone (trigger : Trigger) : Bool :=
  match trigger.rest with
  | .done _ => true
  | .await _ _ => false

/-- The time that the trigger is about to store. -/
def Trigger.sets (trigger : Trigger) : Option Time :=
  match trigger.rest with
  | .done _ => none
  | .await call _ => call.sets

variable (config : EnvConfig)

/-- The end of the pause, for a trigger that has completed. -/
def Trigger.promise (trigger : Trigger) : Option Time :=
  match trigger.rest with
  | .done (.ok _) => trigger.readAt.map (· + config.INGEST_ODDS_API_PAUSE_MINUTES * 60000)
  | _ => none

def Cluster.answerCheck (cluster : Cluster) (index : ℕ) : Cluster :=
  match cluster.checks[index]? with
  | none => cluster
  | some check =>
      let (check, redis) := check.answered cluster.clock cluster.redis
      { cluster with redis, checks := cluster.checks.set index check }

def Cluster.answerTrigger (cluster : Cluster) (index : ℕ) : Cluster :=
  match cluster.triggers[index]? with
  | none => cluster
  | some trigger =>
      if trigger.isDone then cluster
      else
        let (trigger, redis) := trigger.answered cluster.clock cluster.redis
        { cluster with
          redis
          triggers := cluster.triggers.set index trigger
          promises := cluster.promises ++ (trigger.promise config).toList }

def Cluster.trigger (cluster : Cluster) (program : Quota Unit) : Cluster :=
  { cluster with triggers := cluster.triggers ++ [⟨program, none⟩] }

def Cluster.step (cluster : Cluster) : Op → Cluster
  | .isPaused =>
      { cluster with checks := cluster.checks ++ [⟨isPaused, cluster.promises, none⟩] }
  | .recordQuotaHeaders remainingRaw =>
      cluster.trigger (IngestQuotaService.recordQuotaHeaders config remainingRaw)
  | .pauseForAuthFailure => cluster.trigger (IngestQuotaService.pauseForAuthFailure config)
  | .pass milliseconds => { cluster with clock := cluster.clock + milliseconds }
  | .expire =>
      { cluster with redis := cluster.redis.filter fun entry => cluster.clock < entry.expiry }
  | .answerCheck index => cluster.answerCheck index
  | .answerTrigger index => cluster.answerTrigger config index

def Cluster.idle (clock : ℕ) : Cluster := ⟨clock, none, [], [], []⟩

/-- A check that ends while a pause is on that was on when the check started finds it. -/
def Cluster.StaysPaused (cluster : Cluster) : Prop :=
  ∀ check ∈ cluster.checks, ∀ outcome time, check.rest = .done outcome →
    check.endedAt = some time → ∀ promise ∈ check.promised, time < promise → outcome = .ok true

/-- While a pause is on, the key is not deleted, and no earlier time is stored. -/
def Careful (cluster : Cluster) : Op → Prop
  | .answerCheck index => ∀ check ∈ cluster.checks[index]?, check.deletes = true →
      ∀ promise ∈ cluster.promises, promise ≤ cluster.clock
  | .answerTrigger index => ∀ trigger ∈ cluster.triggers[index]?, ∀ pausedUntil ∈ trigger.sets,
      ∀ promise ∈ cluster.promises, promise ≤ cluster.clock ∨ promise ≤ pausedUntil
  | _ => True

end Cluster

section Stages

variable {clock later : Time} {redis : Option Entry} {minutes : ℕ} {check : Check}
  {trigger : Trigger}

/-- What is stored says that the pause is on, if it still is. -/
def Kept (clock : Time) (redis : Option Entry) (promise : Time) : Prop :=
  promise ≤ clock ∨ ∃ entry ∈ redis, promise ≤ entry.pausedUntil

/-- How far a check has come, and what it knows of the pauses that were on when it started. -/
inductive Check.Stage (clock : Time) : Check → Prop
  | looks (promised) : Stage clock ⟨isPaused, promised, none⟩
  | compares {promised} (pausedUntil)
      (kept : ∀ promise ∈ promised, promise ≤ clock ∨ promise ≤ pausedUntil) :
      Stage clock ⟨checkUntil pausedUntil, promised, none⟩
  | deletes {promised} (past : ∀ promise ∈ promised, promise ≤ clock) :
      Stage clock ⟨(do Program.call .del; return false), promised, none⟩
  | ended {promised outcome time}
      (told : ∀ promise ∈ promised, time < promise → outcome = .ok true) :
      Stage clock ⟨.done outcome, promised, some time⟩

inductive Trigger.Stage (minutes : ℕ) (clock : Time) : Trigger → Prop
  | reads : Stage minutes clock ⟨pauseForMinutes minutes, none⟩
  | looks {time} (started : 0 ≤ time) (before : time ≤ clock) :
      Stage minutes clock ⟨pauseUntil (time + minutes * 60000) minutes, some time⟩
  | stores {time} (before : time ≤ clock) :
      Stage minutes clock
        ⟨Program.call (.set (time + minutes * 60000) (minutes * 60)), some time⟩
  | ended (readAt) : Stage minutes clock ⟨.done (.ok ()), readAt⟩

theorem Check.Stage.mono (stage : check.Stage clock) (passed : clock ≤ later) :
    check.Stage later := by
  cases stage with
  | looks promised => exact .looks promised
  | compares pausedUntil kept =>
      exact .compares pausedUntil fun promise own => (kept promise own).imp_left (le_trans · passed)
  | deletes past => exact .deletes fun promise own => (past promise own).trans passed
  | ended told => exact .ended told

theorem Trigger.Stage.mono (stage : trigger.Stage minutes clock) (passed : clock ≤ later) :
    trigger.Stage minutes later := by
  cases stage with
  | reads => exact .reads
  | looks started before => exact .looks started (before.trans passed)
  | stores before => exact .stores (before.trans passed)
  | ended readAt => exact .ended readAt

/-- The check deletes the key where the time is over. -/
theorem answered_checkUntil (clock : Time) (redis : Option Entry) (pausedUntil : Time)
    (promised : List Time) :
    Check.answered ⟨checkUntil pausedUntil, promised, none⟩ clock redis =
      (if pausedUntil ≤ clock then ⟨(do Program.call .del; return false), promised, none⟩
        else ⟨.done (.ok true), promised, some clock⟩, redis) := by
  unfold checkUntil Check.answered
  by_cases past : pausedUntil ≤ clock
  · simp [Program.call, QuotaCall.answer, past, Check.goOn]
  · simp [Program.call, QuotaCall.answer, past, Check.goOn]

/-- A check leaves what is stored as it is, or deletes it. -/
theorem Check.Stage.answered (stage : check.Stage clock)
    (kept : ∀ promise ∈ check.promised, Kept clock redis promise) :
    (check.answered clock redis).1.Stage clock ∧
      (check.answered clock redis).1.promised = check.promised ∧
      ((check.answered clock redis).2 = redis ∨
        check.deletes = true ∧ (check.answered clock redis).2 = none) := by
  cases stage with
  | looks promised =>
      cases redis with
      | none =>
          have past : ∀ promise ∈ promised, promise ≤ clock := fun promise own =>
            (kept promise own).resolve_right (by simp)
          exact ⟨.ended fun promise own on => absurd (past promise own) (not_le.mpr on), rfl,
            .inl rfl⟩
      | some entry =>
          refine ⟨.compares entry.pausedUntil fun promise own => ?_, rfl, .inl rfl⟩
          exact (kept promise own).imp_right (by simp)
  | compares pausedUntil found =>
      rw [answered_checkUntil]
      by_cases past : pausedUntil ≤ clock
      · rw [if_pos past]
        exact ⟨.deletes fun promise own => (found promise own).elim id (le_trans · past), rfl,
          .inl rfl⟩
      · rw [if_neg past]
        exact ⟨.ended fun _ _ _ => rfl, rfl, .inl rfl⟩
  | deletes past =>
      exact ⟨.ended fun promise own on => absurd (past promise own) (not_le.mpr on), rfl,
        .inr ⟨rfl, rfl⟩⟩
  | ended told => exact ⟨.ended told, rfl, .inl rfl⟩

/-- A trigger leaves what is stored as it is, or stores the end of its pause; once it has
completed, what is stored lasts until then. -/
theorem Trigger.Stage.answered {config : EnvConfig}
    (stage : trigger.Stage config.INGEST_ODDS_API_PAUSE_MINUTES clock)
    (ongoing : trigger.isDone = false) (started : 0 ≤ clock) :
    (trigger.answered clock redis).1.Stage config.INGEST_ODDS_API_PAUSE_MINUTES clock ∧
      (∀ promise ∈ (trigger.answered clock redis).1.promise config,
        Kept clock (trigger.answered clock redis).2 promise) ∧
      ((trigger.answered clock redis).2 = redis ∨
        ∃ entry, entry.pausedUntil ≤ entry.expiry ∧ trigger.sets = some entry.pausedUntil ∧
          (trigger.answered clock redis).2 = some entry) := by
  cases stage with
  | reads =>
      exact ⟨.looks started le_rfl, by simp [Trigger.answered, pauseForMinutes, Trigger.promise,
        pauseUntil, Program.call], .inl rfl⟩
  | looks nonneg before =>
      rename_i time
      have found : Trigger.answered
          ⟨pauseUntil (time + config.INGEST_ODDS_API_PAUSE_MINUTES * 60000)
            config.INGEST_ODDS_API_PAUSE_MINUTES, some time⟩ clock redis =
          (⟨if (redis.map Entry.pausedUntil).getD 0 >
              time + config.INGEST_ODDS_API_PAUSE_MINUTES * 60000 then .done (.ok ())
            else Program.call (.set (time + config.INGEST_ODDS_API_PAUSE_MINUTES * 60000)
              (config.INGEST_ODDS_API_PAUSE_MINUTES * 60)), some time⟩, redis) := rfl
      rw [found]
      by_cases later : (redis.map Entry.pausedUntil).getD 0 >
          time + config.INGEST_ODDS_API_PAUSE_MINUTES * 60000
      · rw [if_pos later]
        refine ⟨.ended (some time), fun promise own => ?_, .inl rfl⟩
        obtain rfl : time + config.INGEST_ODDS_API_PAUSE_MINUTES * 60000 = promise := by
          simpa [Trigger.promise] using own
        right
        cases redis with
        | none =>
            have minutes : (0 : ℤ) ≤ config.INGEST_ODDS_API_PAUSE_MINUTES := Int.natCast_nonneg _
            simp only [Option.map_none, Option.getD_none] at later
            linarith
        | some entry => exact ⟨entry, rfl, later.le⟩
      · rw [if_neg later]
        exact ⟨.stores before, by simp [Trigger.promise, Program.call], .inl rfl⟩
  | stores before =>
      rename_i time
      refine ⟨.ended _, fun promise own => ?_, .inr ⟨_, ?_, rfl, rfl⟩⟩
      · obtain rfl : time + config.INGEST_ODDS_API_PAUSE_MINUTES * 60000 = promise := by
          simpa [Trigger.promise, Trigger.answered, Program.call, QuotaCall.readsClock] using own
        exact .inr ⟨_, rfl, le_rfl⟩
      · push_cast
        linarith
  | ended readAt => cases ongoing

theorem recordQuotaHeaders_cases (config : EnvConfig) (remainingRaw : Option String) :
    recordQuotaHeaders config remainingRaw = .done (.ok ()) ∨
      recordQuotaHeaders config remainingRaw =
        pauseForMinutes config.INGEST_ODDS_API_PAUSE_MINUTES := by
  unfold recordQuotaHeaders
  split
  · exact .inl rfl
  · split
    · exact .inl rfl
    · split
      · exact .inl rfl
      · exact .inr rfl

end Stages

section Run

variable {config : EnvConfig} {cluster : Cluster}

structure Cluster.Sound (config : EnvConfig) (cluster : Cluster) : Prop where
  started : 0 ≤ cluster.clock
  lasting : ∀ entry ∈ cluster.redis, entry.pausedUntil ≤ entry.expiry
  kept : ∀ promise ∈ cluster.promises, Kept cluster.clock cluster.redis promise
  checks : ∀ check ∈ cluster.checks, check.Stage cluster.clock ∧ check.promised ⊆ cluster.promises
  triggers : ∀ trigger ∈ cluster.triggers,
    trigger.Stage config.INGEST_ODDS_API_PAUSE_MINUTES cluster.clock

theorem sound_idle (clock : ℕ) : (Cluster.idle clock).Sound config := by
  constructor
  case started => exact Int.natCast_nonneg clock
  case lasting => simp [Cluster.idle]
  case kept => simp [Cluster.idle]
  case checks => simp [Cluster.idle]
  case triggers => simp [Cluster.idle]

theorem Cluster.Sound.check (sound : cluster.Sound config) :
    (cluster.step config .isPaused).Sound config := by
  refine { sound with checks := ?_ }
  intro check member
  rcases List.mem_append.mp member with old | new
  · exact sound.checks check old
  · obtain rfl := List.mem_singleton.mp new
    exact ⟨.looks cluster.promises, fun _ => id⟩

theorem Cluster.Sound.trigger (sound : cluster.Sound config) {program : Quota Unit}
    (pauses : program = .done (.ok ()) ∨
      program = pauseForMinutes config.INGEST_ODDS_API_PAUSE_MINUTES) :
    (cluster.trigger program).Sound config := by
  refine { sound with triggers := ?_ }
  intro trigger member
  rcases List.mem_append.mp member with old | new
  · exact sound.triggers trigger old
  · obtain rfl := List.mem_singleton.mp new
    rcases pauses with rfl | rfl
    · exact .ended none
    · exact .reads

theorem Cluster.Sound.pass (sound : cluster.Sound config) (milliseconds : ℕ) :
    (cluster.step config (.pass milliseconds)).Sound config := by
  have passed : cluster.clock ≤ cluster.clock + milliseconds :=
    le_add_of_nonneg_right (Int.natCast_nonneg milliseconds)
  constructor
  case started => exact sound.started.trans passed
  case lasting => exact sound.lasting
  case kept => exact fun promise own => (sound.kept promise own).imp_left (le_trans · passed)
  case checks =>
    intro check member
    exact ⟨(sound.checks check member).1.mono passed, (sound.checks check member).2⟩
  case triggers => exact fun trigger member => (sound.triggers trigger member).mono passed

/-- The key outlasts the pauses that it stands for. -/
theorem Cluster.Sound.expire (sound : cluster.Sound config) :
    (cluster.step config .expire).Sound config := by
  refine { sound with lasting := ?_, kept := ?_ }
  · intro entry stored
    exact sound.lasting entry ((Option.mem_filter_iff.mp stored).1)
  · intro promise own
    rcases sound.kept promise own with past | ⟨entry, stored, later⟩
    · exact .inl past
    · by_cases gone : cluster.clock < entry.expiry
      · exact .inr ⟨entry, Option.mem_filter_iff.mpr ⟨stored, by simpa using gone⟩, later⟩
      · have lasts := sound.lasting entry stored
        exact .inl ((later.trans lasts).trans (not_lt.mp gone))

theorem Cluster.Sound.answerCheck (sound : cluster.Sound config) {index : ℕ}
    (careful : Careful cluster (.answerCheck index)) :
    (cluster.step config (.answerCheck index)).Sound config := by
  dsimp only [Cluster.step, Cluster.answerCheck]
  cases there : cluster.checks[index]? with
  | none => exact sound
  | some check =>
      obtain ⟨stage, promised⟩ := sound.checks check (List.mem_of_getElem? there)
      obtain ⟨stage, same, stored⟩ := stage.answered fun promise own =>
        sound.kept promise (promised own)
      dsimp only
      constructor
      case started => exact sound.started
      case lasting =>
        rcases stored with kept | ⟨_, gone⟩
        · rw [kept]
          exact sound.lasting
        · rw [gone]
          simp
      case kept =>
        intro promise own
        rcases stored with kept | ⟨deletes, _⟩
        · rw [kept]
          exact sound.kept promise own
        · exact .inl (careful check there deletes promise own)
      case checks =>
        intro other member
        rcases List.mem_or_eq_of_mem_set member with old | rfl
        · exact sound.checks other old
        · rw [same]
          exact ⟨stage, promised⟩
      case triggers => exact sound.triggers

theorem Cluster.Sound.answerTrigger (sound : cluster.Sound config) {index : ℕ}
    (careful : Careful cluster (.answerTrigger index)) :
    (cluster.step config (.answerTrigger index)).Sound config := by
  dsimp only [Cluster.step, Cluster.answerTrigger]
  cases there : cluster.triggers[index]? with
  | none => exact sound
  | some trigger =>
      dsimp only
      cases ended : trigger.isDone with
      | true => exact sound
      | false =>
          have before := sound.triggers trigger (List.mem_of_getElem? there)
          obtain ⟨stage, promised, stored⟩ := before.answered ended sound.started
          rw [if_neg Bool.false_ne_true]
          constructor
          case started => exact sound.started
          case lasting =>
            rcases stored with kept | ⟨entry, lasts, _, stored⟩
            · rw [kept]
              exact sound.lasting
            · rw [stored]
              simpa using lasts
          case kept =>
            intro promise own
            rcases List.mem_append.mp own with old | new
            · rcases stored with kept | ⟨entry, _, sets, stored⟩
              · rw [kept]
                exact sound.kept promise old
              · rw [stored]
                exact (careful trigger there _ sets promise old).imp_right fun later =>
                  ⟨entry, rfl, later⟩
            · exact promised promise (Option.mem_toList.mp new)
          case checks =>
            intro check member
            obtain ⟨stage, known⟩ := sound.checks check member
            exact ⟨stage, fun _ own => List.mem_append_left _ (known own)⟩
          case triggers =>
            intro other member
            rcases List.mem_or_eq_of_mem_set member with old | rfl
            · exact sound.triggers other old
            · exact stage

theorem Cluster.Sound.step (sound : cluster.Sound config) {op : Op} (careful : Careful cluster op) :
    (cluster.step config op).Sound config := by
  cases op with
  | isPaused => exact sound.check
  | recordQuotaHeaders remainingRaw => exact sound.trigger (recordQuotaHeaders_cases _ _)
  | pauseForAuthFailure => exact sound.trigger (.inr rfl)
  | pass milliseconds => exact sound.pass milliseconds
  | expire => exact sound.expire
  | answerCheck index => exact sound.answerCheck careful
  | answerTrigger index => exact sound.answerTrigger careful

theorem Cluster.Sound.run (sound : cluster.Sound config) {ops : List Op}
    (careful : Each (Cluster.step config) Careful cluster ops) :
    (Operations.run (Cluster.step config) cluster ops).Sound config := by
  induction ops generalizing cluster with
  | nil => exact sound
  | cons op rest ih => exact ih (sound.step careful.1) careful.2

theorem Cluster.Sound.staysPaused (sound : cluster.Sound config) : cluster.StaysPaused := by
  intro check member outcome time ended endedAt promise own on
  cases (sound.checks check member).1 with
  | looks promised => cases ended
  | compares pausedUntil kept => cases ended
  | deletes past => cases ended
  | ended told =>
      obtain rfl := Option.some.inj endedAt
      have outcomes := told promise own on
      rw [← outcomes]
      cases ended
      rfl

/-- As long as no check deletes the key, and no trigger stores an earlier time, while a pause is
on: every check that starts and ends in a pause finds it. -/
theorem stays_paused {clock : ℕ} {ops : List Op}
    (careful : Each (Cluster.step config) Careful (.idle clock) ops) :
    (Operations.run (Cluster.step config) (.idle clock) ops).StaysPaused :=
  ((sound_idle clock).run careful).staysPaused

/-- The newest check is answered. -/
theorem answerCheck_last (clock : Time) (redis : Option Entry) (checks : List Check) (check : Check)
    (triggers : List Trigger) (promises : List Time) :
    Cluster.answerCheck ⟨clock, redis, checks ++ [check], triggers, promises⟩ checks.length =
      ⟨clock, (check.answered clock redis).2, checks ++ [(check.answered clock redis).1], triggers,
        promises⟩ := by
  simp [Cluster.answerCheck]

/-- A check that ended in a pause without finding it. -/
theorem not_staysPaused {check : Check} {time promise : Time} (member : check ∈ cluster.checks)
    (rest : check.rest = .done (.ok false)) (endedAt : check.endedAt = some time)
    (own : promise ∈ check.promised) (on : time < promise) : ¬ cluster.StaysPaused := by
  intro stays
  cases stays check member _ time rest endedAt promise own on

theorem unpaused_of_deleted (config : EnvConfig) {promise : Time} (deleted : cluster.redis = none)
    (own : promise ∈ cluster.promises) (on : cluster.clock < promise) :
    ∃ ops, ¬ (Operations.run (Cluster.step config) cluster ops).StaysPaused := by
  obtain ⟨clock, redis, checks, triggers, promises⟩ := cluster
  obtain rfl : redis = none := deleted
  refine ⟨[.isPaused, .answerCheck checks.length], ?_⟩
  have looks : Operations.run (Cluster.step config) ⟨clock, none, checks, triggers, promises⟩
      [.isPaused, .answerCheck checks.length] =
      ⟨clock, none, checks ++ [⟨.done (.ok false), promises, some clock⟩], triggers, promises⟩ :=
    answerCheck_last clock none checks ⟨isPaused, promises, none⟩ triggers promises
  rw [looks]
  exact not_staysPaused (List.mem_append_right _ List.mem_cons_self) rfl rfl own on

/-- Once the time that is stored is over, a check deletes the key. -/
theorem unpaused_of_stored (config : EnvConfig) {promise : Time} {entry : Entry}
    (stored : cluster.redis = some entry) (before : entry.pausedUntil < promise)
    (own : promise ∈ cluster.promises) (on : cluster.clock < promise) :
    ∃ ops, ¬ (Operations.run (Cluster.step config) cluster ops).StaysPaused := by
  obtain ⟨clock, redis, checks, triggers, promises⟩ := cluster
  obtain rfl : redis = some entry := stored
  let wait := (entry.pausedUntil - clock).toNat
  let later := clock + wait
  have past : entry.pausedUntil ≤ later := by
    have enough := Int.self_le_toNat (entry.pausedUntil - clock)
    linarith
  have still : later < promise := by
    rcases le_total entry.pausedUntil clock with gone | ahead
    · have none : wait = 0 := Int.toNat_of_nonpos (by linarith)
      simpa [later, none] using on
    · have due : (wait : ℤ) = entry.pausedUntil - clock := Int.toNat_of_nonneg (by linarith)
      have same : later = entry.pausedUntil := by
        linarith
      rwa [same]
  have looks := answerCheck_last later (some entry) checks ⟨isPaused, promises, none⟩ triggers
    promises
  have compares := answerCheck_last later (some entry) checks
    ⟨checkUntil entry.pausedUntil, promises, none⟩ triggers promises
  rw [answered_checkUntil, if_pos past] at compares
  have deletes := answerCheck_last later (some entry) checks
    ⟨(do Program.call .del; return false), promises, none⟩ triggers promises
  refine ⟨[.pass wait, .isPaused, .answerCheck checks.length, .answerCheck checks.length,
    .answerCheck checks.length], ?_⟩
  have runs : Operations.run (Cluster.step config) ⟨clock, some entry, checks, triggers, promises⟩
      [.pass wait, .isPaused, .answerCheck checks.length, .answerCheck checks.length,
        .answerCheck checks.length] =
      ⟨later, none, checks ++ [⟨.done (.ok false), promises, some later⟩], triggers, promises⟩ := by
    refine Eq.trans ?_ deletes
    refine congrArg (Cluster.answerCheck · checks.length) (Eq.trans ?_ compares)
    exact congrArg (Cluster.answerCheck · checks.length) looks
  rw [runs]
  exact not_staysPaused (List.mem_append_right _ List.mem_cons_self) rfl rfl own still

theorem Check.answered_of_deletes {check : Check} {clock : Time} {redis : Option Entry}
    (deletes : check.deletes = true) : (check.answered clock redis).2 = none := by
  obtain ⟨rest, promised, endedAt⟩ := check
  cases rest with
  | done outcome => cases deletes
  | await call next =>
      cases call with
      | del => rfl
      | now | get | set => cases deletes

theorem Trigger.answered_of_sets {trigger : Trigger} {clock pausedUntil : Time}
    {redis : Option Entry} (sets : trigger.sets = some pausedUntil) :
    trigger.isDone = false ∧
      ∃ expiry, (trigger.answered clock redis).2 = some ⟨pausedUntil, expiry⟩ := by
  obtain ⟨rest, readAt⟩ := trigger
  cases rest with
  | done outcome => cases sets
  | await call next =>
      cases call with
      | set stored ttlSeconds =>
          obtain rfl := Option.some.inj sets
          exact ⟨rfl, clock + 1000 * ttlSeconds, rfl⟩
      | now | get | del => cases sets

/-- A step that is not careful makes a check miss the pause, if one looks. -/
theorem exists_unpaused (config : EnvConfig) {op : Op} (careless : ¬ Careful cluster op) :
    ∃ more, ¬ (Operations.run (Cluster.step config) (cluster.step config op) more).StaysPaused := by
  cases op with
  | isPaused | recordQuotaHeaders | pauseForAuthFailure | pass | expire =>
      exact absurd trivial careless
  | answerCheck index =>
      unfold Careful at careless
      push Not at careless
      obtain ⟨check, there, deletes, promise, own, on⟩ := careless
      have after : cluster.step config (.answerCheck index) = { cluster with
          redis := none
          checks := cluster.checks.set index (check.answered cluster.clock cluster.redis).1 } := by
        rw [← Check.answered_of_deletes deletes]
        dsimp only [Cluster.step, Cluster.answerCheck]
        rw [there]
      rw [after]
      exact unpaused_of_deleted config rfl own on
  | answerTrigger index =>
      unfold Careful at careless
      push Not at careless
      obtain ⟨trigger, there, pausedUntil, sets, promise, own, on, before⟩ := careless
      obtain ⟨ongoing, expiry, stored⟩ := Trigger.answered_of_sets sets
      have after : cluster.step config (.answerTrigger index) = { cluster with
          redis := some ⟨pausedUntil, expiry⟩
          triggers := cluster.triggers.set index
            (trigger.answered cluster.clock cluster.redis).1
          promises := cluster.promises ++
            ((trigger.answered cluster.clock cluster.redis).1.promise config).toList } := by
        rw [← stored]
        dsimp only [Cluster.step, Cluster.answerTrigger]
        rw [there]
        dsimp only
        rw [ongoing, if_neg Bool.false_ne_true]
      rw [after]
      exact unpaused_of_stored config rfl before (List.mem_append_left _ own) on

instance (cluster : Cluster) (op : Op) : Decidable (Careful cluster op) := by
  cases op <;> (unfold Careful; infer_instance)

def halfHour : EnvConfig := ⟨20, 30⟩

/-- A trigger reads the clock, looks the key up and stores its time. -/
def pauses (trigger : Op) (index : ℕ) : List Op := trigger :: List.replicate 3 (.answerTrigger index)

/-- A check within the pause, and one after it, which deletes the key. -/
def quietPause : List Op :=
  pauses .pauseForAuthFailure 0 ++
    [.pass 60000, .isPaused, .answerCheck 0, .answerCheck 0, .pass 1740000, .isPaused,
      .answerCheck 1, .answerCheck 1, .answerCheck 1]

theorem quietPause_stays :
    (Operations.run (Cluster.step halfHour) (.idle 0) quietPause).StaysPaused ∧
      (Operations.run (Cluster.step halfHour) (.idle 0) quietPause).checks =
        [⟨.done (.ok true), [1800000], some 60000⟩, ⟨.done (.ok false), [1800000], some 1800000⟩] :=
  ⟨stays_paused (by decide +kernel), rfl⟩

/-- A check finds that a pause is over, and deletes the key once the next pause is stored. -/
def deletedPause : List Op :=
  [.pauseForAuthFailure, .answerTrigger 0, .answerTrigger 0, .pass 10, .answerTrigger 0,
      .pass 1799995, .isPaused, .answerCheck 0, .answerCheck 0] ++
    pauses .pauseForAuthFailure 1 ++ [.answerCheck 0, .isPaused, .answerCheck 1]

/-- Two triggers find nothing stored; the one that read the clock first is the last to store. -/
def overwrittenPause : List Op :=
  [.pauseForAuthFailure, .answerTrigger 0, .answerTrigger 0, .pass 1000] ++
    pauses .pauseForAuthFailure 1 ++
    [.answerTrigger 0, .pass 1799000, .isPaused, .answerCheck 0, .answerCheck 0, .answerCheck 0]

theorem pauses_lost :
    ¬ (Operations.run (Cluster.step halfHour) (.idle 0) deletedPause).StaysPaused ∧
      ¬ (Operations.run (Cluster.step halfHour) (.idle 0) overwrittenPause).StaysPaused := by
  constructor
  · intro stays
    have finds : (Operations.run (Cluster.step halfHour) (.idle 0) deletedPause).checks[1]? =
        some ⟨.done (.ok false), [1800000, 3600005], some 1800005⟩ := rfl
    cases stays _ (List.mem_of_getElem? finds) _ _ rfl rfl 3600005 (by simp) (by norm_num)
  · intro stays
    have finds : (Operations.run (Cluster.step halfHour) (.idle 0) overwrittenPause).checks[0]? =
        some ⟨.done (.ok false), [1801000, 1800000], some 1800000⟩ := rfl
    cases stays _ (List.mem_of_getElem? finds) _ _ rfl rfl 1801000 (by simp) (by norm_num)

end Run

end SportsBetting.IngestQuotaService
