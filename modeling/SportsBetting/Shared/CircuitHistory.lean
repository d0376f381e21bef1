import SportsBetting.Shared.CircuitBreaker

/-!
# A circuit breaker and its past

Calls that do not overlap. What was observed of them since the last success
determines whether the circuit is closed, and when the next call fails fast.
-/

namespace SportsBetting.CircuitBreaker

/-- When a call starts, when it settles if it runs, and whether it then returns. -/
structure Call where
  startedAt : Time
  settledAt : Time
  returns : Bool

/-- A call that was made, with the breaker before it, and after it if it ran. -/
structure Attempt extends Call where
  before : CircuitBreaker
  after : Option CircuitBreaker

def attempt (options : CircuitBreakerOptions) (breaker : CircuitBreaker) (call : Call) : Attempt :=
  ⟨call, breaker, breaker.execute options call.startedAt call.settledAt call.returns⟩

namespace Attempt

variable (made : Attempt)

/-- The breaker that a call leaves. -/
def result : CircuitBreaker := made.after.getD made.before

/-- The function of the call was run. -/
def Ran : Prop := made.after.isSome

def Succeeded : Prop := made.Ran ∧ made.returns = true

def Failed : Prop := made.Ran ∧ made.returns = false

/-- It ran although the circuit was open. -/
def Trial : Prop := made.Ran ∧ made.before.state = .open

/-- It ran and left the circuit open. -/
def Opens : Prop := made.Ran ∧ made.result.state = .open

instance : Decidable made.Ran := inferInstanceAs (Decidable (_ = _))

instance : Decidable made.Succeeded := inferInstanceAs (Decidable (_ ∧ _))

instance : Decidable made.Failed := inferInstanceAs (Decidable (_ ∧ _))

instance : Decidable made.Trial := inferInstanceAs (Decidable (_ ∧ _))

instance : Decidable made.Opens := inferInstanceAs (Decidable (_ ∧ _))

end Attempt

/-- The calls that were made, latest first, and the breaker that they leave. -/
def history (options : CircuitBreakerOptions) (calls : List Call) :
    List Attempt × CircuitBreaker :=
  calls.foldl (fun past call =>
    let made := attempt options past.2 call
    (made :: past.1, made.result)) ([], fresh)

theorem history_append (options : CircuitBreakerOptions) (calls : List Call) (call : Call) :
    history options (calls ++ [call]) =
      (attempt options (history options calls).2 call :: (history options calls).1,
        (attempt options (history options calls).2 call).result) := by
  rw [history, List.foldl_append]
  rfl

section Past

variable {made : Attempt} (past : List Attempt)

def sinceSuccess : List Attempt :=
  past.takeWhile fun made => ¬ made.Succeeded

/-- The run of failures since the last success, or the start. -/
def failureRun : ℕ := (sinceSuccess past).countP fun made => made.Failed

def TrialFailed : Prop :=
  ∃ made ∈ sinceSuccess past, made.Trial ∧ made.Failed

/-- When the circuit last opened. -/
def lastOpened : Option Time :=
  (past.find? fun made => made.Opens).map fun made => made.settledAt

theorem sinceSuccess_succeeded (succeeded : made.Succeeded) : sinceSuccess (made :: past) = [] := by
  simp [sinceSuccess, succeeded]

theorem sinceSuccess_other (other : ¬ made.Succeeded) :
    sinceSuccess (made :: past) = made :: sinceSuccess past := by
  simp [sinceSuccess, other]

theorem failureRun_succeeded (succeeded : made.Succeeded) : failureRun (made :: past) = 0 := by
  rw [failureRun, sinceSuccess_succeeded past succeeded]
  rfl

theorem failureRun_failed (failed : made.Failed) :
    failureRun (made :: past) = failureRun past + 1 := by
  have other : ¬ made.Succeeded := fun succeeded =>
    Bool.false_ne_true (failed.2.symm.trans succeeded.2)
  rw [failureRun, sinceSuccess_other past other, List.countP_cons_of_pos (by simpa using failed)]
  rfl

theorem failureRun_refused (refused : ¬ made.Ran) : failureRun (made :: past) = failureRun past := by
  rw [failureRun, sinceSuccess_other past fun succeeded => refused succeeded.1,
    List.countP_cons_of_neg (by simpa using fun failed => refused failed.1)]
  rfl

variable {past}

theorem not_trialFailed_succeeded (succeeded : made.Succeeded) : ¬ TrialFailed (made :: past) := by
  simp [TrialFailed, sinceSuccess_succeeded past succeeded]

theorem trialFailed_other (other : ¬ made.Succeeded) :
    TrialFailed (made :: past) ↔ made.Trial ∧ made.Failed ∨ TrialFailed past := by
  simp [TrialFailed, sinceSuccess_other past other]

theorem lastOpened_opens (opens : made.Opens) : lastOpened (made :: past) = some made.settledAt := by
  rw [lastOpened, List.find?_cons_of_pos (by simpa using opens)]
  rfl

theorem lastOpened_other (other : ¬ made.Opens) : lastOpened (made :: past) = lastOpened past := by
  rw [lastOpened, List.find?_cons_of_neg (by simpa using other)]
  rfl

end Past

section Step

variable {options : CircuitBreakerOptions} {breaker : CircuitBreaker} {call : Call}

/-- All that a call can do to a breaker that no other call is using. -/
inductive Attempted (options : CircuitBreakerOptions) (made : Attempt) : Prop
  | refused : ¬ made.Ran → made.result = made.before → Attempted options made
  | succeeded : made.Succeeded → made.result = made.before.onSuccess → Attempted options made
  | opened : made.Failed →
      made.before.state = .open ∨ options.failureThreshold ≤ made.before.failures + 1 →
      made.result = ⟨.open, made.before.failures + 1, made.settledAt⟩ → Attempted options made
  | counted : made.Failed → made.before.state = .closed →
      made.before.failures + 1 < options.failureThreshold →
      made.result = { made.before with failures := made.before.failures + 1 } →
      Attempted options made

/-- The breaker while a call runs. -/
theorem enter_eq {running : CircuitBreaker} {now : Time} (between : breaker.state ≠ .halfOpen)
    (entered : breaker.enter options now = some running) :
    breaker.state = .closed ∧ running = breaker ∨
      breaker.state = .open ∧ running = { breaker with state := .halfOpen } := by
  cases state : breaker.state with
  | closed =>
      rw [enter, state] at entered
      exact .inl ⟨rfl, (Option.some.inj entered).symm⟩
  | «open» =>
      rw [enter, state] at entered
      dsimp only at entered
      split at entered
      · cases entered
      · exact .inr ⟨rfl, (Option.some.inj entered).symm⟩
  | halfOpen => exact absurd state between

variable (options call) in
theorem attempted (between : breaker.state ≠ .halfOpen) :
    Attempted options (attempt options breaker call) := by
  cases entered : breaker.enter options call.startedAt with
  | none =>
      have ended : (attempt options breaker call).after = none := by
        simp [attempt, execute, entered]
      apply Attempted.refused
      · simp [Attempt.Ran, ended]
      · rw [Attempt.result, ended]
        rfl
  | some running =>
      have begun := enter_eq between entered
      cases returns : call.returns with
      | true =>
          have ended : (attempt options breaker call).after = some running.onSuccess := by
            simp [attempt, execute, entered, returns]
          apply Attempted.succeeded ⟨by simp [Attempt.Ran, ended], returns⟩
          rw [Attempt.result, ended]
          rcases begun with ⟨_, same⟩ | ⟨_, same⟩ <;> rw [same] <;> rfl
      | false =>
          have ended : (attempt options breaker call).after =
              some (running.onFailure options call.settledAt) := by
            simp [attempt, execute, entered, returns]
          have failed : (attempt options breaker call).Failed :=
            ⟨by simp [Attempt.Ran, ended], returns⟩
          rcases begun with ⟨closed, same⟩ | ⟨opened, same⟩
          · by_cases reached : options.failureThreshold ≤ breaker.failures + 1
            · apply Attempted.opened failed (.inr reached)
              rw [Attempt.result, ended, same, Option.getD_some, onFailure, if_pos (.inr reached)]
              rfl
            · apply Attempted.counted failed closed (Nat.lt_of_not_le reached)
              rw [Attempt.result, ended, same, Option.getD_some, onFailure, if_neg ?_]
              · rfl
              · rw [closed]
                simpa using reached
          · apply Attempted.opened failed (.inl opened)
            rw [Attempt.result, ended, same, Option.getD_some, onFailure, if_pos (.inl rfl)]
            rfl

/-- What the breaker holds, in terms of the calls that were made. -/
structure Remembers (options : CircuitBreakerOptions) (past : List Attempt)
    (breaker : CircuitBreaker) : Prop where
  between : breaker.state ≠ .halfOpen
  counts : breaker.failures = failureRun past
  opens : breaker.state = .open ↔ options.failureThreshold ≤ failureRun past
  trials : TrialFailed past → options.failureThreshold ≤ failureRun past
  openedAt : breaker.state = .open → lastOpened past = some breaker.openedAt

variable {past : List Attempt}

theorem Remembers.start (positive : 1 ≤ options.failureThreshold) : Remembers options [] fresh where
  between := nofun
  counts := rfl
  opens := ⟨nofun, fun reached => absurd (positive.trans reached) (by decide)⟩
  trials failed := by simp [TrialFailed, sinceSuccess] at failed
  openedAt := nofun

theorem Remembers.step (positive : 1 ≤ options.failureThreshold)
    (remembers : Remembers options past breaker) :
    Remembers options (attempt options breaker call :: past)
      (attempt options breaker call).result := by
  have before : (attempt options breaker call).before = breaker := rfl
  cases attempted options call remembers.between with
  | refused idle same =>
      have run := failureRun_refused past idle
      have other : ¬ (attempt options breaker call).Succeeded := fun succeeded => idle succeeded.1
      have shut : ¬ (attempt options breaker call).Opens := fun opens => idle opens.1
      rw [same, before]
      refine ⟨remembers.between, ?_, ?_, ?_, ?_⟩
      · rw [run, remembers.counts]
      · rw [run, remembers.opens]
      · rw [run, trialFailed_other other]
        exact fun failed => remembers.trials (failed.resolve_left fun trial => idle trial.1.1)
      · rw [lastOpened_other shut]
        exact remembers.openedAt
  | succeeded succeeded same =>
      have run := failureRun_succeeded past succeeded
      rw [same, before]
      refine ⟨nofun, run.symm, ⟨nofun, ?_⟩, ?_, nofun⟩
      · rw [run]
        exact fun reached => absurd (positive.trans reached) (by decide)
      · exact fun failed => absurd failed (not_trialFailed_succeeded succeeded)
  | opened failed cause same =>
      have run := failureRun_failed past failed
      have reached : options.failureThreshold ≤
          failureRun (attempt options breaker call :: past) := by
        rw [run, ← remembers.counts]
        rw [before] at cause
        rcases cause with opened | reached
        · exact (remembers.counts ▸ remembers.opens.mp opened).trans (Nat.le_succ _)
        · exact reached
      have opens : (attempt options breaker call).Opens := ⟨failed.1, by rw [same]⟩
      rw [same, before]
      refine ⟨nofun, ?_, ⟨fun _ => reached, fun _ => rfl⟩, fun _ => reached, fun _ => ?_⟩
      · rw [run, remembers.counts]
      · rw [lastOpened_opens opens]
  | counted failed closed below same =>
      have run := failureRun_failed past failed
      rw [before] at closed below
      have few : ¬ options.failureThreshold ≤
          failureRun (attempt options breaker call :: past) := by
        rw [run, ← remembers.counts]
        exact Nat.not_le.mpr below
      have other : ¬ (attempt options breaker call).Succeeded := fun succeeded =>
        Bool.false_ne_true (failed.2.symm.trans succeeded.2)
      rw [same, before]
      refine ⟨remembers.between, ?_, ?_, ?_, ?_⟩
      · rw [run, remembers.counts]
      · simp [closed, few]
      · rw [trialFailed_other other]
        rintro (⟨trial, _⟩ | trial)
        · rw [Attempt.Trial, before, closed] at trial
          exact absurd trial.2 nofun
        · rw [run]
          exact (remembers.trials trial).trans (Nat.le_succ _)
      · exact fun opened => absurd (closed.symm.trans opened) nofun

theorem remembers_history (positive : 1 ≤ options.failureThreshold) (calls : List Call) :
    Remembers options (history options calls).1 (history options calls).2 := by
  induction calls using List.reverseRecOn with
  | nil => exact .start positive
  | append_singleton calls call ih =>
      rw [history_append]
      exact ih.step positive

/-- Between the calls that try it out, a circuit is closed or open. -/
theorem closed_iff_not_open (between : breaker.state ≠ .halfOpen) :
    breaker.state = .closed ↔ breaker.state ≠ .open := by
  cases state : breaker.state with
  | closed => exact iff_of_true rfl nofun
  | «open» => exact iff_of_false nofun fun shut => shut rfl
  | halfOpen => exact absurd state between

theorem Remembers.closed_iff (remembers : Remembers options past breaker) :
    breaker.state = .closed ↔
      failureRun past < options.failureThreshold ∧ ¬ TrialFailed past := by
  rw [closed_iff_not_open remembers.between, ne_eq, remembers.opens, Nat.not_le]
  constructor
  · exact fun few => ⟨few, fun failed => Nat.not_le.mpr few (remembers.trials failed)⟩
  · exact And.left

theorem Remembers.opens_iff (remembers : Remembers options past breaker) :
    (attempt options breaker call).Opens ↔
      (attempt options breaker call).Failed ∧
        ((attempt options breaker call).Trial ∨ failureRun past < options.failureThreshold ∧
          failureRun (attempt options breaker call :: past) = options.failureThreshold) := by
  have before : (attempt options breaker call).before = breaker := rfl
  constructor
  · intro opens
    cases attempted options call remembers.between with
    | refused idle _ => exact absurd opens.1 idle
    | succeeded _ same =>
        rw [Attempt.Opens, same] at opens
        exact absurd opens.2 nofun
    | counted _ closed _ same =>
        rw [Attempt.Opens, same] at opens
        exact absurd (closed.symm.trans opens.2) nofun
    | opened failed cause _ =>
        refine ⟨failed, ?_⟩
        rw [before] at cause
        rw [failureRun_failed past failed, ← remembers.counts]
        by_cases opened : breaker.state = .open
        · exact .inl ⟨failed.1, opened⟩
        · have few := remembers.opens.not.mp opened
          rw [← remembers.counts] at few
          have reached := cause.resolve_left opened
          right
          omega
  · rintro ⟨failed, cause⟩
    cases attempted options call remembers.between with
    | refused idle _ => exact absurd failed.1 idle
    | succeeded succeeded _ =>
        exact absurd (failed.2.symm.trans succeeded.2) Bool.false_ne_true
    | opened _ _ same => exact ⟨failed.1, by rw [same]⟩
    | counted _ closed below _ =>
        rw [before] at closed below
        rcases cause with trial | ⟨_, reached⟩
        · exact absurd (closed.symm.trans trial.2) nofun
        · rw [failureRun_failed past failed, ← remembers.counts] at reached
          omega

/-- A call that runs leaves the circuit closed while it does, if it was. -/
theorem enter_closed {running : CircuitBreaker} {now : Time} (between : breaker.state ≠ .halfOpen)
    (entered : breaker.enter options now = some running) :
    running.state = .closed ↔ breaker.state = .closed := by
  rcases enter_eq between entered with ⟨_, same⟩ | ⟨opened, same⟩
  · rw [same]
  · simp [same, opened]

theorem Remembers.ran_iff (remembers : Remembers options past breaker) :
    ¬ (attempt options breaker call).Ran ↔ breaker.state = .open ∧
      ∃ opened, lastOpened past = some opened ∧ call.startedAt - opened < options.cooldownMs := by
  have refuses : ¬ (attempt options breaker call).Ran ↔
      breaker.Refuses options call.startedAt := by
    rw [← execute_eq_none_iff, Attempt.Ran, Bool.not_eq_true, Option.isSome_eq_false_iff,
      Option.isNone_iff_eq_none]
    rfl
  rw [refuses, refuses_iff]
  apply and_congr_right
  intro opened
  simp [remembers.openedAt opened]

/-- Whatever calls were made before, and whenever: the circuit is closed, also while a call
runs, exactly if the run of failures is short and no trial has failed; a call opens it exactly
if it fails and is a trial or completes the run; it fails fast exactly for a cooldown after
the last opening; and a success closes the circuit. -/
theorem circuit_follows_history (options : CircuitBreakerOptions)
    (positive : 1 ≤ options.failureThreshold) (calls : List Call) (call : Call) :
    let past := (history options calls).1
    let breaker := (history options calls).2
    let made := attempt options breaker call
    (breaker.state = .closed ↔
      failureRun past < options.failureThreshold ∧ ¬ TrialFailed past) ∧
    (∀ running, breaker.enter options call.startedAt = some running →
      (running.state = .closed ↔
        failureRun past < options.failureThreshold ∧ ¬ TrialFailed past)) ∧
    (made.Opens ↔ made.Failed ∧ (made.Trial ∨
      failureRun past < options.failureThreshold ∧
        failureRun (made :: past) = options.failureThreshold)) ∧
    (¬ made.Ran ↔ breaker.state = .open ∧
      ∃ opened, lastOpened past = some opened ∧ call.startedAt - opened < options.cooldownMs) ∧
    (made.Succeeded → made.result.state = .closed ∧ made.result.failures = 0) := by
  have remembers := remembers_history positive calls
  refine ⟨remembers.closed_iff, ?_, remembers.opens_iff, remembers.ran_iff, ?_⟩
  · intro running entered
    exact (enter_closed remembers.between entered).trans remembers.closed_iff
  · intro succeeded
    cases attempted options call remembers.between with
    | refused idle _ => exact absurd succeeded.1 idle
    | succeeded _ same => simp [same, onSuccess]
    | opened failed _ _ => exact absurd (failed.2.symm.trans succeeded.2) Bool.false_ne_true
    | counted failed _ _ _ => exact absurd (failed.2.symm.trans succeeded.2) Bool.false_ne_true

/-- Two failures, and then a call within the cooldown. -/
theorem third_call_fails_fast :
    ¬ (attempt ⟨2, 1000⟩ (history ⟨2, 1000⟩ [⟨0, 10, false⟩, ⟨20, 30, false⟩]).2
      ⟨1029, 1040, true⟩).Ran := by
  have fast := circuit_follows_history ⟨2, 1000⟩ (by decide) [⟨0, 10, false⟩, ⟨20, 30, false⟩]
    ⟨1029, 1040, true⟩
  exact fast.2.2.2.1.mpr ⟨by decide, 30, by decide, by decide⟩

end Step

end SportsBetting.CircuitBreaker
