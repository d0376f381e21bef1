import SportsBetting.Schema

/-!
# A circuit breaker

It opens on consecutive failures, and on a failed trial, and fails fast for a
cooldown. A call that runs takes from one time to another.
-/

namespace SportsBetting

structure CircuitBreakerOptions where
  /-- Consecutive failures before the circuit opens. -/
  failureThreshold : ℕ
  /-- How long the circuit stays open before a half-open trial (ms). -/
  cooldownMs : ℕ

inductive CircuitState | closed | open | halfOpen
  deriving DecidableEq

structure CircuitBreaker where
  state : CircuitState
  failures : ℕ
  openedAt : Time
  deriving DecidableEq

namespace CircuitBreaker

def fresh : CircuitBreaker := ⟨.closed, 0, 0⟩

variable (options : CircuitBreakerOptions) (breaker : CircuitBreaker)

/-- The breaker as a call starts; none where that fails fast. -/
def enter (now : Time) : Option CircuitBreaker :=
  match breaker.state with
  | .open =>
      if now - breaker.openedAt < options.cooldownMs then none
      else some { breaker with state := .halfOpen }
  | _ => some breaker

def onSuccess : CircuitBreaker := { breaker with failures := 0, state := .closed }

def onFailure (now : Time) : CircuitBreaker :=
  let failures := breaker.failures + 1
  if breaker.state = .halfOpen ∨ options.failureThreshold ≤ failures then ⟨.open, failures, now⟩
  else { breaker with failures }

/-- The breaker after a call that returns or fails; none where that fails fast. -/
def execute (startedAt endedAt : Time) (returns : Bool) : Option CircuitBreaker :=
  (breaker.enter options startedAt).map fun running =>
    if returns then running.onSuccess else running.onFailure options endedAt

/-- The circuit is open, and will be for a while. -/
def Refuses (now : Time) : Prop := breaker.enter options now = none

instance (now : Time) : Decidable (breaker.Refuses options now) :=
  inferInstanceAs (Decidable (_ = none))

variable {options breaker} {now startedAt endedAt : Time} {returns : Bool}

theorem execute_eq_none_iff : breaker.execute options startedAt endedAt returns = none ↔
    breaker.Refuses options startedAt := by
  simp [execute, Refuses]

theorem refuses_iff : breaker.Refuses options now ↔
    breaker.state = .open ∧ now - breaker.openedAt < options.cooldownMs := by
  cases state : breaker.state <;> simp [Refuses, enter, state]

variable (breaker now) in
/-- A failure opens the circuit at once, or counts towards the threshold. -/
theorem onFailure_cases (cools : 0 < options.cooldownMs) :
    (breaker.onFailure options now).Refuses options now ∨
      (breaker.onFailure options now).failures = breaker.failures + 1 ∧
        breaker.failures + 1 < options.failureThreshold := by
  unfold onFailure
  dsimp only
  split
  · left
    rw [refuses_iff]
    exact ⟨rfl, by simpa using cools⟩
  · next spared =>
      right
      exact ⟨rfl, by omega⟩

/-- So many calls that fail as soon as they start. -/
def failing (options : CircuitBreakerOptions) (now : Time) : ℕ → CircuitBreaker → CircuitBreaker
  | 0, breaker => breaker
  | count + 1, breaker =>
      failing options now count ((breaker.execute options now now false).getD breaker)

theorem Refuses.failing (refuses : breaker.Refuses options now) (count : ℕ) :
    (failing options now count breaker).Refuses options now := by
  induction count with
  | zero => exact refuses
  | succ count ih =>
      rwa [CircuitBreaker.failing, execute_eq_none_iff.mpr refuses]

/-- As many failures as the threshold open the circuit, whatever came before. -/
theorem refuses_of_failing (cools : 0 < options.cooldownMs) {count : ℕ}
    (enough : options.failureThreshold ≤ breaker.failures + count) (asked : 0 < count) :
    (failing options now count breaker).Refuses options now := by
  induction count generalizing breaker with
  | zero => omega
  | succ count ih =>
      rw [failing]
      cases ran : breaker.execute options now now false with
      | none => exact (execute_eq_none_iff.mp ran).failing count
      | some after =>
          obtain ⟨running, entered, rfl⟩ := Option.map_eq_some_iff.mp ran
          have same : running.failures = breaker.failures := by
            unfold enter at entered
            split at entered
            · split at entered
              · cases entered
              · rw [← Option.some.inj entered]
            · rw [← Option.some.inj entered]
          rw [Option.getD_some, if_neg Bool.false_ne_true]
          rcases onFailure_cases running now cools with opened | ⟨counted, below⟩
          · exact opened.failing count
          · refine ih ?_ ?_ <;> omega

end CircuitBreaker

end SportsBetting
