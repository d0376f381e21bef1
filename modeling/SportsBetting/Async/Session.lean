import SportsBetting.Async.RelyGuarantee

/-!
# Sessions that run one after the other

A session is a program and the moves it gets; it may end, fail, or stop at any
call. While it runs nothing else does, so what it knows of the state stays true.
-/

namespace Async

universe u

variable {Call : Type → Type u} {Failure : Type}

structure Session (machine : Machine Call Failure) where
  program : Program Call Failure Unit
  moves : List (Move machine)

namespace Session

variable {machine : Machine Call Failure}

/-- The state in which a session stops. -/
def result (session : Session machine) (state : machine.State) : machine.State :=
  (Config.run ⟨state, [session.program]⟩ session.moves).state

/-- The session has run to its end, without a failure. -/
def Returned (session : Session machine) (state : machine.State) : Prop :=
  (Config.run ⟨state, [session.program]⟩ session.moves).pool.map Program.outcome =
    [some (.ok ())]

instance [DecidableEq Failure] (session : Session machine) (state : machine.State) :
    Decidable (session.Returned state) :=
  inferInstanceAs (Decidable (_ = _))

def runAll (sessions : List (Session machine)) (state : machine.State) : machine.State :=
  sessions.foldl (fun state session => session.result state) state

/-- Every session satisfies a condition in the state where it starts. -/
def Each (condition : machine.State → Session machine → Prop) :
    List (Session machine) → machine.State → Prop
  | [], _ => True
  | session :: rest, state => condition state session ∧ Each condition rest (session.result state)

/-- An invariant that every session keeps holds after any number of them. -/
theorem runAll_preserves {condition : machine.State → Session machine → Prop}
    {invariant : machine.State → Prop}
    (keeps : ∀ state session, invariant state → condition state session →
      invariant (session.result state)) {sessions : List (Session machine)}
    {state : machine.State} (start : invariant state) (each : Each condition sessions state) :
    invariant (runAll sessions state) := by
  induction sessions generalizing state with
  | nil => exact start
  | cons session rest ih => exact ih (keeps state session start each.1) each.2

theorem each_append {condition : machine.State → Session machine → Prop}
    {first second : List (Session machine)} {state : machine.State} :
    Each condition (first ++ second) state ↔
      Each condition first state ∧ Each condition second (runAll first state) := by
  induction first generalizing state with
  | nil => simp [Each, runAll]
  | cons session rest ih => simp [Each, runAll, ih, and_assoc]

end Session

section Sequence

variable {machine : Machine Call Failure} {α : Type}

/-- A move of the first part of a sequence is the same whatever follows. -/
theorem Config.step_bind {first : Program Call Failure α} (move : Move machine)
    (state : machine.State) (pending : ∀ value, first ≠ .done (.ok value)) :
    ∃ after rest, ∀ next : α → Program Call Failure Unit,
      Config.step ⟨state, [first >>= next]⟩ move = ⟨after, [rest >>= next]⟩ := by
  cases move with
  | occur event => exact ⟨machine.occur event state, first, fun _ => rfl⟩
  | run index choice =>
      cases first with
      | done outcome =>
          cases outcome with
          | ok value => exact absurd rfl (pending value)
          | error failure =>
              refine ⟨state, .done (.error failure), fun next => ?_⟩
              cases index <;> rfl
      | await request rest =>
          cases index with
          | zero =>
              let answer := machine.perform choice request state
              exact ⟨answer.2, rest answer.1, fun _ => rfl⟩
          | succ index => exact ⟨state, .await request rest, fun _ => rfl⟩

/-- Where the first part of a sequence has returned, the run of the sequence has come to
its second part. -/
theorem Session.run_bind {first : Program Call Failure α} (next : α → Program Call Failure Unit)
    {moves : List (Move machine)} {state : machine.State}
    (returned : (Session.mk first.void moves).Returned state) :
    ∃ earlier later value, moves = earlier ++ later ∧
      (Session.mk first.void earlier).Returned state ∧
      Config.run ⟨state, [first >>= next]⟩ earlier =
        ⟨(Session.mk first.void earlier).result state, [next value]⟩ := by
  unfold Session.Returned Session.result at *
  by_cases ended : ∃ value, first = .done (.ok value)
  · obtain ⟨value, rfl⟩ := ended
    exact ⟨[], moves, value, rfl, rfl, rfl⟩
  · induction moves generalizing first state with
    | nil =>
        cases first with
        | await request rest => simp [Program.void, Program.outcome] at returned
        | done outcome =>
            cases outcome with
            | error failure => simp [Program.void, Program.outcome] at returned
            | ok value => exact absurd ⟨value, rfl⟩ ended
    | cons move moves ih =>
        obtain ⟨after, rest, stepped⟩ :=
          Config.step_bind move state fun value same => ended ⟨value, same⟩
        have voided := stepped fun _ => pure ()
        simp only [Program.void, Config.run_cons, voided] at returned
        have later : ∃ earlier later value, moves = earlier ++ later ∧
            (Config.run ⟨after, [rest.void]⟩ earlier).pool.map Program.outcome =
              [some (.ok ())] ∧
            Config.run ⟨after, [rest >>= next]⟩ earlier =
              ⟨(Config.run ⟨after, [rest.void]⟩ earlier).state, [next value]⟩ := by
          by_cases now : ∃ value, rest = .done (.ok value)
          · obtain ⟨value, rfl⟩ := now
            exact ⟨[], moves, value, rfl, rfl, rfl⟩
          · exact ih returned now
        obtain ⟨earlier, later, value, rfl, done, same⟩ := later
        refine ⟨move :: earlier, later, value, rfl, ?_, ?_⟩
        · simpa only [Program.void, Config.run_cons, voided] using done
        · simpa only [Program.void, Config.run_cons, voided, stepped next] using same

end Sequence

end Async
