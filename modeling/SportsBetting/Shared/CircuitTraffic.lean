import SportsBetting.Data.Operations
import SportsBetting.Shared.CircuitHistory
import Mathlib.Tactic.Linarith

/-!
# Calls that overlap

Any number of calls are in flight at a time and settle in any order. The circuit
protects the upstream as long as no call starts during a trial and none that
started before the circuit opened settles before it is closed again, unless it
fails while the circuit is open.
-/

namespace SportsBetting

open Operations

/-- A call in flight. It is a trial if the circuit was not closed as it started. -/
structure Running (Call : Type) where
  call : Call
  trial : Bool
  /-- How often the circuit had opened before. -/
  openings : ℕ
  deriving DecidableEq

/-- A breaker and the calls that it let through. -/
structure Traffic (Call : Type) where
  breaker : CircuitBreaker
  now : Time
  inFlight : List (Running Call)
  /-- When the circuit opened, latest first. -/
  openings : List Time
  deriving DecidableEq

inductive Action (Call Reply : Type)
  | start (call : Call)
  | settle (index : ℕ) (reply : Reply)

/-- Something happens some milliseconds after what happened last. -/
structure Occurrence (Call Reply : Type) where
  elapsed : ℕ
  action : Action Call Reply

namespace Traffic

variable {Call Reply : Type}

/-- No call has been made. -/
def idle (now : Time) : Traffic Call := ⟨.fresh, now, [], []⟩

def trials (traffic : Traffic Call) : ℕ := traffic.inFlight.countP Running.trial

/-- The breaker has let the call through. -/
def start (traffic : Traffic Call) (now : Time) (call : Call) (running : CircuitBreaker) :
    Traffic Call :=
  { traffic with
    now
    breaker := running
    inFlight := traffic.inFlight ++
      [⟨call, traffic.breaker.state ≠ .closed, traffic.openings.length⟩] }

/-- A call in flight has ended, with this breaker. -/
def settle (traffic : Traffic Call) (now : Time) (index : ℕ) (after : CircuitBreaker) :
    Traffic Call where
  breaker := after
  now
  inFlight := traffic.inFlight.eraseIdx index
  openings :=
    if traffic.breaker.state ≠ .open ∧ after.state = .open then now :: traffic.openings
    else traffic.openings

variable (options : CircuitBreakerOptions) (returns : Call → Reply → Bool)

/-- The breaker after a call has returned or failed. -/
def settled (traffic : Traffic Call) (now : Time) (call : Call) (reply : Reply) : CircuitBreaker :=
  if returns call reply then traffic.breaker.onSuccess else traffic.breaker.onFailure options now

def step (traffic : Traffic Call) (occurrence : Occurrence Call Reply) : Traffic Call :=
  let now := traffic.now + occurrence.elapsed
  match occurrence.action with
  | .start call =>
      match traffic.breaker.enter options now with
      | none => { traffic with now }
      | some running => traffic.start now call running
  | .settle index reply =>
      match traffic.inFlight[index]? with
      | none => { traffic with now }
      | some running =>
          traffic.settle now index (traffic.settled options returns now running.call reply)

/-- The call started before the circuit last opened. -/
def Early (traffic : Traffic Call) (running : Running Call) : Prop :=
  running.openings < traffic.openings.length

/-- What the circuit breaker is for: nothing starts until the circuit has been open for the
cooldown, at most one trial is in flight, and only that decides whether the circuit closes. -/
structure Guarded (traffic : Traffic Call) (occurrence : Occurrence Call Reply) : Prop where
  cools : ∀ call, occurrence.action = .start call →
    (traffic.breaker.enter options (traffic.now + occurrence.elapsed)).isSome →
      ∀ opened ∈ traffic.openings, options.cooldownMs ≤ traffic.now + occurrence.elapsed - opened
  alone : (traffic.step options returns occurrence).trials ≤ 1
  steady : ∀ index reply, occurrence.action = .settle index reply →
    ∀ running, traffic.inFlight[index]? = some running → traffic.Early running →
      traffic.breaker.state ≠ .closed →
        (traffic.step options returns occurrence).breaker.state = traffic.breaker.state

/-- No call starts during a trial, and none that started before the circuit opened settles
before it is closed again, unless it fails while the circuit is open. -/
def Disciplined (traffic : Traffic Call) (occurrence : Occurrence Call Reply) : Prop :=
  match occurrence.action with
  | .start _ => traffic.breaker.state ≠ .halfOpen
  | .settle index reply => ∀ running, traffic.inFlight[index]? = some running →
      traffic.Early running → traffic.breaker.state = .closed ∨
        traffic.breaker.state = .open ∧ returns running.call reply = false

section Steps

variable {options returns} {traffic : Traffic Call} {elapsed index : ℕ} {call : Call} {reply : Reply}
  {running : Running Call}

theorem step_refused
    (refused : traffic.breaker.enter options (traffic.now + elapsed) = none) :
    traffic.step options returns ⟨elapsed, .start call⟩ =
      { traffic with now := traffic.now + elapsed } := by
  rw [step]
  simp only [refused]

theorem step_start {after : CircuitBreaker}
    (entered : traffic.breaker.enter options (traffic.now + elapsed) = some after) :
    traffic.step options returns ⟨elapsed, .start call⟩ =
      traffic.start (traffic.now + elapsed) call after := by
  rw [step]
  simp only [entered]

theorem step_gone (gone : traffic.inFlight[index]? = none) :
    traffic.step options returns ⟨elapsed, .settle index reply⟩ =
      { traffic with now := traffic.now + elapsed } := by
  rw [step]
  simp only [gone]

theorem step_settle (flying : traffic.inFlight[index]? = some running) :
    traffic.step options returns ⟨elapsed, .settle index reply⟩ =
      traffic.settle (traffic.now + elapsed) index
        (traffic.settled options returns (traffic.now + elapsed) running.call reply) := by
  rw [step]
  simp only [flying]

theorem trials_start (now : Time) (call : Call) (after : CircuitBreaker) :
    (traffic.start now call after).trials =
      traffic.trials + if traffic.breaker.state = .closed then 0 else 1 := by
  by_cases closed : traffic.breaker.state = .closed <;> simp [trials, start, closed]

/-- What is in flight after a call has settled. -/
theorem trials_settle (now : Time) (after : CircuitBreaker)
    (flying : traffic.inFlight[index]? = some running) :
    traffic.trials = (traffic.settle now index after).trials + if running.trial then 1 else 0 := by
  obtain ⟨bound, rfl⟩ := List.getElem?_eq_some_iff.mp flying
  have rest := List.getElem_cons_eraseIdx_perm bound
  rw [trials, ← rest.countP_eq, List.countP_cons]
  rfl

theorem mem_of_mem_settle {now : Time} {after : CircuitBreaker} {other : Running Call}
    (member : other ∈ (traffic.settle now index after).inFlight) : other ∈ traffic.inFlight :=
  List.mem_of_mem_eraseIdx member

end Steps

section Discipline

variable {options returns} {traffic : Traffic Call} {elapsed index : ℕ} {call : Call} {reply : Reply}
  {running : Running Call} {occurrence : Occurrence Call Reply}

variable (options) in
/-- What discipline keeps: a trial is in flight exactly while the circuit is half open, and
while it is not closed, all other calls in flight are early. -/
structure Calm (traffic : Traffic Call) : Prop where
  past : ∀ opened ∈ traffic.openings, opened ≤ traffic.now
  cooling : traffic.breaker.state = .open →
    ∀ opened ∈ traffic.openings, opened ≤ traffic.breaker.openedAt
  cooled : traffic.breaker.state ≠ .open →
    ∀ opened ∈ traffic.openings, options.cooldownMs ≤ traffic.now - opened
  counted : ∀ running ∈ traffic.inFlight, running.openings ≤ traffic.openings.length
  early : traffic.breaker.state ≠ .closed →
    ∀ running ∈ traffic.inFlight, running.trial = false → traffic.Early running
  trial : traffic.trials = if traffic.breaker.state = .halfOpen then 1 else 0

theorem Calm.idle (now : Time) : Calm options (idle now : Traffic Call) where
  past := nofun
  cooling := nofun
  cooled _ := nofun
  counted := nofun
  early _ := nofun
  trial := rfl

theorem Calm.pass (calm : Calm options traffic) (elapsed : ℕ) :
    Calm options { traffic with now := traffic.now + elapsed } where
  past opened member := (calm.past opened member).trans (Int.le_add_of_nonneg_right (by simp))
  cooling := calm.cooling
  cooled shut opened member := by
    have before := calm.cooled shut opened member
    have later : (0 : Time) ≤ elapsed := Int.natCast_nonneg elapsed
    dsimp only
    linarith
  counted := calm.counted
  early := calm.early
  trial := calm.trial

/-- No call is let through before the circuit has been open for the cooldown. -/
theorem Calm.cools (calm : Calm options traffic) {after : CircuitBreaker}
    (entered : traffic.breaker.enter options (traffic.now + elapsed) = some after) :
    ∀ opened ∈ traffic.openings, options.cooldownMs ≤ traffic.now + elapsed - opened := by
  intro opened member
  by_cases shut : traffic.breaker.state = .open
  · have admitted : ¬ traffic.breaker.Refuses options (traffic.now + elapsed) := by
      simp [CircuitBreaker.Refuses, entered]
    rw [CircuitBreaker.refuses_iff] at admitted
    have waited := not_lt.mp (not_and.mp admitted shut)
    have earlier := calm.cooling shut opened member
    linarith
  · exact (calm.pass elapsed).cooled shut opened member

theorem Calm.start (calm : Calm options traffic) {after : CircuitBreaker}
    (entered : traffic.breaker.enter options (traffic.now + elapsed) = some after)
    (disciplined : traffic.breaker.state ≠ .halfOpen) :
    Calm options (traffic.start (traffic.now + elapsed) call after) := by
  have moved := calm.pass elapsed
  have cools := calm.cools entered
  rcases CircuitBreaker.enter_eq disciplined entered with ⟨closed, rfl⟩ | ⟨shut, rfl⟩
  · refine ⟨moved.past, moved.cooling, moved.cooled, ?_, ?_, ?_⟩
    · intro running member
      rcases List.mem_append.mp member with old | new
      · exact calm.counted running old
      · rw [List.mem_singleton.mp new]
        exact le_refl _
    · exact fun ajar => absurd closed ajar
    · rw [trials_start, if_pos closed, calm.trial]
      rfl
  · refine ⟨moved.past, nofun, fun _ => cools, ?_, ?_, ?_⟩
    · intro running member
      rcases List.mem_append.mp member with old | new
      · exact calm.counted running old
      · rw [List.mem_singleton.mp new]
        exact le_refl _
    · intro _ running member plain
      rcases List.mem_append.mp member with old | new
      · exact calm.early (by simp [shut]) running old plain
      · rw [List.mem_singleton.mp new] at plain
        simp [shut] at plain
    · rw [trials_start, calm.trial]
      simp [Traffic.start, shut]

section Settle

variable {after : CircuitBreaker}

/-- The circuit opens. -/
theorem Calm.opens (calm : Calm options traffic) (shut : traffic.breaker.state ≠ .open)
    (opened : after.state = .open) (since : after.openedAt = traffic.now + elapsed)
    (none : (traffic.settle (traffic.now + elapsed) index after).trials = 0) :
    Calm options (traffic.settle (traffic.now + elapsed) index after) := by
  have openings : (traffic.settle (traffic.now + elapsed) index after).openings =
      (traffic.now + elapsed) :: traffic.openings := if_pos ⟨shut, opened⟩
  have past : ∀ opened ∈ (traffic.now + elapsed) :: traffic.openings,
      opened ≤ traffic.now + elapsed := by
    intro opened member
    rcases List.mem_cons.mp member with rfl | old
    · exact le_refl _
    · exact (calm.pass elapsed).past opened old
  have counted : ∀ running ∈ (traffic.settle (traffic.now + elapsed) index after).inFlight,
      running.openings < traffic.openings.length + 1 := fun running member =>
    Nat.lt_succ_of_le (calm.counted running (mem_of_mem_settle member))
  refine ⟨?_, ?_, fun other => absurd opened other, ?_, ?_, ?_⟩
  · rw [openings]
    exact past
  · rw [openings]
    exact fun _ opened member => (past opened member).trans_eq since.symm
  · rw [openings]
    exact fun running member => (counted running member).le
  · intro _ running member _
    rw [Early, openings]
    exact counted running member
  · rw [none, if_neg]
    simp [Traffic.settle, opened]

/-- The circuit closes, or stays closed. -/
theorem Calm.closes (calm : Calm options traffic) (shut : traffic.breaker.state ≠ .open)
    (closed : after.state = .closed)
    (none : (traffic.settle (traffic.now + elapsed) index after).trials = 0) :
    Calm options (traffic.settle (traffic.now + elapsed) index after) := by
  have passes : after.state ≠ .open := by simp [closed]
  have openings : (traffic.settle (traffic.now + elapsed) index after).openings =
      traffic.openings := if_neg fun both => passes both.2
  have moved := calm.pass elapsed
  refine ⟨?_, fun opened => absurd opened passes, ?_, ?_, ?_, ?_⟩
  · rw [openings]
    exact moved.past
  · rw [openings]
    exact fun _ => moved.cooled shut
  · rw [openings]
    exact fun running member => calm.counted running (mem_of_mem_settle member)
  · exact fun ajar => absurd closed ajar
  · rw [none, if_neg]
    simp [Traffic.settle, closed]

/-- The circuit stays open. -/
theorem Calm.stays (calm : Calm options traffic) (shut : traffic.breaker.state = .open)
    (opened : after.state = .open)
    (since : after.openedAt = traffic.now + elapsed ∨ after.openedAt = traffic.breaker.openedAt)
    (none : (traffic.settle (traffic.now + elapsed) index after).trials = 0) :
    Calm options (traffic.settle (traffic.now + elapsed) index after) := by
  have openings : (traffic.settle (traffic.now + elapsed) index after).openings =
      traffic.openings := if_neg fun both => both.1 shut
  have past := (calm.pass elapsed).past
  refine ⟨?_, ?_, fun other => absurd opened other, ?_, ?_, ?_⟩
  · rw [openings]
    exact past
  · rw [openings]
    intro _ opened member
    rcases since with now | kept
    · exact (past opened member).trans_eq now.symm
    · exact (calm.cooling shut opened member).trans_eq kept.symm
  · rw [openings]
    exact fun running member => calm.counted running (mem_of_mem_settle member)
  · intro _ running member plain
    rw [Early, openings]
    exact calm.early (by simp [shut]) running (mem_of_mem_settle member) plain
  · rw [none, if_neg]
    simp [Traffic.settle, opened]

variable (options) in
theorem settled_returns {now : Time} (returned : returns call reply = true) :
    traffic.settled options returns now call reply = traffic.breaker.onSuccess := if_pos returned

variable (options traffic elapsed) in
theorem settled_fails (failed : returns call reply = false) :
    traffic.settled options returns (traffic.now + elapsed) call reply =
        ⟨.open, traffic.breaker.failures + 1, traffic.now + elapsed⟩ ∨
      traffic.breaker.state ≠ .halfOpen ∧
        traffic.settled options returns (traffic.now + elapsed) call reply =
          { traffic.breaker with failures := traffic.breaker.failures + 1 } := by
  rw [settled, if_neg (by simp [failed]), CircuitBreaker.onFailure]
  dsimp only
  split
  · exact .inl rfl
  · next spared => exact .inr ⟨fun half => spared (.inl half), rfl⟩

theorem Calm.settle (calm : Calm options traffic)
    (flying : traffic.inFlight[index]? = some running)
    (disciplined : traffic.Early running → traffic.breaker.state = .closed ∨
      traffic.breaker.state = .open ∧ returns running.call reply = false)
    (ended : traffic.settled options returns (traffic.now + elapsed) running.call reply = after) :
    Calm options (traffic.settle (traffic.now + elapsed) index after) := by
  have member : running ∈ traffic.inFlight := List.mem_of_getElem? flying
  have trials := trials_settle (traffic.now + elapsed) after flying
  rw [calm.trial] at trials
  cases state : traffic.breaker.state with
  | closed =>
      have shut : traffic.breaker.state ≠ .open := by simp [state]
      have none : (traffic.settle (traffic.now + elapsed) index after).trials = 0 := by
        rw [state, if_neg (by decide)] at trials
        exact (Nat.add_eq_zero_iff.mp trials.symm).1
      cases outcome : returns running.call reply with
      | true =>
          rw [settled_returns _ outcome] at ended
          exact calm.closes shut (congrArg CircuitBreaker.state ended).symm none
      | false =>
          rcases settled_fails options traffic elapsed outcome with opened | ⟨_, counted⟩
          · rw [ended] at opened
            exact calm.opens shut (congrArg CircuitBreaker.state opened)
              (congrArg CircuitBreaker.openedAt opened) none
          · rw [ended] at counted
            exact calm.closes shut ((congrArg CircuitBreaker.state counted).trans state) none
  | «open» =>
      rw [state, if_neg (by decide)] at trials
      have plain : running.trial = false := by
        cases trial : running.trial with
        | false => rfl
        | true => simp [trial] at trials
      have none := (Nat.add_eq_zero_iff.mp trials.symm).1
      have failed : returns running.call reply = false := by
        have early := calm.early (by simp [state]) running member plain
        simpa [state] using disciplined early
      rcases settled_fails options traffic elapsed failed with opened | ⟨_, counted⟩
      · rw [ended] at opened
        exact calm.stays state (congrArg CircuitBreaker.state opened)
          (.inl (congrArg CircuitBreaker.openedAt opened)) none
      · rw [ended] at counted
        have since : after.openedAt = traffic.breaker.openedAt := by rw [counted]
        exact calm.stays state ((congrArg CircuitBreaker.state counted).trans state) (.inr since) none
  | halfOpen =>
      have shut : traffic.breaker.state ≠ .open := by simp [state]
      have trial : running.trial = true := by
        cases trial : running.trial with
        | true => rfl
        | false =>
            have early := calm.early (by simp [state]) running member trial
            simpa [state] using disciplined early
      have none : (traffic.settle (traffic.now + elapsed) index after).trials = 0 := by
        rw [state, if_pos rfl, trial, if_pos rfl] at trials
        omega
      cases outcome : returns running.call reply with
      | true =>
          rw [settled_returns _ outcome] at ended
          exact calm.closes shut (congrArg CircuitBreaker.state ended).symm none
      | false =>
          rcases settled_fails options traffic elapsed outcome with opened | ⟨other, _⟩
          · rw [ended] at opened
            exact calm.opens shut (congrArg CircuitBreaker.state opened)
              (congrArg CircuitBreaker.openedAt opened) none
          · exact absurd state other

end Settle

theorem Calm.step (calm : Calm options traffic) (disciplined : Disciplined returns traffic occurrence) :
    Calm options (traffic.step options returns occurrence) := by
  obtain ⟨elapsed, action⟩ := occurrence
  cases action with
  | start call =>
      cases entered : traffic.breaker.enter options (traffic.now + elapsed) with
      | none =>
          rw [step_refused entered]
          exact calm.pass elapsed
      | some after =>
          rw [step_start entered]
          exact calm.start entered disciplined
  | settle index reply =>
      cases flying : traffic.inFlight[index]? with
      | none =>
          rw [step_gone flying]
          exact calm.pass elapsed
      | some running =>
          rw [step_settle flying]
          exact calm.settle flying (disciplined running flying) rfl

theorem Calm.trials_le (calm : Calm options traffic) : traffic.trials ≤ 1 := by
  rw [calm.trial]
  split <;> decide

/-- An early call leaves the circuit as it is exactly if it fails while that is open. -/
theorem settled_state_iff (ajar : traffic.breaker.state ≠ .closed) :
    (traffic.settled options returns (traffic.now + elapsed) call reply).state =
        traffic.breaker.state ↔
      traffic.breaker.state = .open ∧ returns call reply = false := by
  cases outcome : returns call reply with
  | true =>
      rw [settled_returns _ outcome]
      simpa [CircuitBreaker.onSuccess] using ajar.symm
  | false =>
      rcases settled_fails options traffic elapsed outcome with opened | ⟨other, counted⟩
      · simp [opened, eq_comm]
      · have shut : traffic.breaker.state = .open := by
          by_contra spared
          exact ajar ((CircuitBreaker.closed_iff_not_open other).mpr spared)
        simp [counted, shut]

theorem Calm.guarded_iff (calm : Calm options traffic) :
    Guarded options returns traffic occurrence ↔ Disciplined returns traffic occurrence := by
  obtain ⟨elapsed, action⟩ := occurrence
  constructor
  · intro guarded
    cases action with
    | start call =>
        intro half
        have entered : traffic.breaker.enter options (traffic.now + elapsed) =
            some traffic.breaker := by
          rw [CircuitBreaker.enter, half]
        have alone := guarded.alone
        rw [step_start entered, trials_start, calm.trial, half] at alone
        exact absurd alone (by decide)
    | settle index reply =>
        intro running flying early
        by_cases closed : traffic.breaker.state = .closed
        · exact .inl closed
        · have steady := guarded.steady index reply rfl running flying early closed
          rw [step_settle flying] at steady
          exact .inr ((settled_state_iff closed).mp steady)
  · intro disciplined
    refine ⟨?_, (calm.step disciplined).trials_le, ?_⟩
    · intro call started entered
      obtain ⟨after, entered⟩ := Option.isSome_iff_exists.mp entered
      exact calm.cools entered
    · intro index reply settles running flying early ajar
      obtain rfl : action = .settle index reply := settles
      rw [step_settle flying]
      exact (settled_state_iff ajar).mpr ((disciplined running flying early).resolve_left ajar)

/-- Whatever calls overlap, and in whatever order they settle: the circuit does what it is for
throughout exactly if every start and every end is disciplined. -/
theorem guarded_iff_disciplined (options : CircuitBreakerOptions) (returns : Call → Reply → Bool)
    (now : Time) (occurrences : List (Occurrence Call Reply)) :
    Each (step options returns) (Guarded options returns) (idle now) occurrences ↔
      Each (step options returns) (Disciplined returns) (idle now) occurrences := by
  have keeps : ∀ traffic occurrence, Calm options traffic →
      Disciplined returns traffic occurrence → Calm options (step options returns traffic occurrence) :=
    fun _ _ calm => calm.step
  rw [each_congr keeps (fun _ _ calm => calm.guarded_iff.symm) (Calm.idle now)]

end Discipline

section Sample

/-- So many calls start at once. -/
def starts (count : ℕ) : List (Occurrence Unit Bool) := List.replicate count ⟨0, .start ()⟩

/-- The first of the calls in flight fail, a millisecond later. -/
def failures (count : ℕ) : List (Occurrence Unit Bool) :=
  List.replicate count ⟨1, .settle 0 false⟩

def replied : Unit → Bool → Bool := fun _ reply => reply

/-- Five of six calls fail, the sixth returns, and another one starts. -/
def lateSuccess : List (Occurrence Unit Bool) :=
  starts 6 ++ failures 5 ++ [⟨1, .settle 0 true⟩] ++ [⟨1, .start ()⟩]

/-- Five calls fail, and after the cooldown two start. -/
def twoTrials : List (Occurrence Unit Bool) :=
  starts 5 ++ failures 5 ++ [⟨10000, .start ()⟩] ++ [⟨1, .start ()⟩]

theorem late_success_reopens_traffic :
    ¬ Each (step ⟨5, 10000⟩ replied) (Guarded ⟨5, 10000⟩ replied) (idle 0) lateSuccess ∧
    ¬ Each (step ⟨5, 10000⟩ replied) (Guarded ⟨5, 10000⟩ replied) (idle 0) twoTrials := by
  constructor
  · intro each
    have guarded := (each_append.mp each).2.1
    have cooled := guarded.cools () rfl (by decide +kernel) 5 (by decide +kernel)
    exact absurd cooled (by decide +kernel)
  · intro each
    have guarded := (each_append.mp each).2.1
    exact absurd guarded.alone (by decide +kernel)

end Sample

end Traffic

end SportsBetting
