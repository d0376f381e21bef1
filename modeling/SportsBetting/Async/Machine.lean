import SportsBetting.Async.Program
import Mathlib.Data.List.Basic

/-!
# Interleaved programs on one shared state

A machine answers calls. How a call is answered may depend on a choice (a
fresh identifier, a lost reply, a failed query), and the state may change by
itself through events. A configuration is a state with a pool of programs; a
schedule is any list of moves, so a program that is never moved again stands
for a crashed one.
-/

namespace Async

universe u

structure Machine (Call : Type → Type u) (Failure : Type) where
  State : Type
  Choice : Type
  Event : Type
  perform : {Reply : Type} → Choice → Call Reply → State → Except Failure Reply × State
  occur : Event → State → State

variable {Call : Type → Type u} {Failure : Type}

inductive Move (machine : Machine Call Failure) where
  | run (index : Nat) (choice : machine.Choice)
  | occur (event : machine.Event)

structure Config (machine : Machine Call Failure) where
  state : machine.State
  pool : List (Program Call Failure Unit)

/-- A condition on the calls of a run: the configuration before the call, the
choice that answers it, and the call. -/
abbrev Guard (machine : Machine Call Failure) :=
  {Reply : Type} → Config machine → machine.Choice → Call Reply → Prop

namespace Config

variable {machine : Machine Call Failure}

/-- One move. Moving a program that has ended changes nothing. -/
def step (config : Config machine) : Move machine → Config machine
  | .run index choice =>
      match config.pool[index]? with
      | some (.await request next) =>
          let answer := machine.perform choice request config.state
          ⟨answer.2, config.pool.set index (next answer.1)⟩
      | _ => config
  | .occur event => ⟨machine.occur event config.state, config.pool⟩

def run (config : Config machine) (moves : List (Move machine)) : Config machine :=
  moves.foldl step config

@[simp] theorem run_nil (config : Config machine) : config.run [] = config := rfl

@[simp] theorem run_cons (config : Config machine) (move : Move machine)
    (moves : List (Move machine)) : config.run (move :: moves) = (config.step move).run moves := rfl

theorem run_append (config : Config machine) (first second : List (Move machine)) :
    config.run (first ++ second) = (config.run first).run second := by
  simp [run]

/-- The call a move issues satisfies the guard. -/
def Permits (guard : Guard machine) (config : Config machine) : Move machine → Prop
  | .run index choice =>
      match config.pool[index]? with
      | some (.await request _) => guard config choice request
      | _ => True
  | .occur _ => True

/-- Every call of the schedule satisfies the guard where it is issued. -/
def Follows (guard : Guard machine) : Config machine → List (Move machine) → Prop
  | _, [] => True
  | config, move :: moves => config.Permits guard move ∧ (config.step move).Follows guard moves

instance (guard : Guard machine) [∀ config choice {Reply : Type} (request : Call Reply),
      Decidable (guard config choice request)] (config : Config machine) (move : Move machine) :
    Decidable (config.Permits guard move) :=
  match move with
  | .run index choice =>
      match waiting : config.pool[index]? with
      | some (.await request _) =>
          decidable_of_iff (guard config choice request) (by simp only [Permits, waiting])
      | some (.done _) => .isTrue (by simp only [Permits, waiting])
      | none => .isTrue (by simp only [Permits, waiting])
  | .occur _ => .isTrue trivial

instance decidableFollows (guard : Guard machine) [∀ config choice {Reply : Type}
      (request : Call Reply), Decidable (guard config choice request)] :
    (config : Config machine) → (moves : List (Move machine)) →
      Decidable (config.Follows guard moves)
  | _, [] => .isTrue trivial
  | config, move :: moves =>
      have := decidableFollows guard (config.step move) moves
      inferInstanceAs (Decidable (_ ∧ _))

theorem follows_append (guard : Guard machine) (config : Config machine)
    (first second : List (Move machine)) :
    config.Follows guard (first ++ second) ↔
      config.Follows guard first ∧ (config.run first).Follows guard second := by
  induction first generalizing config with
  | nil => simp [Follows]
  | cons move moves ih => simp [Follows, ih, and_assoc]

/-- A schedule that follows a guard follows every weaker one. -/
theorem Follows.mono {guard weaker : Guard machine}
    (implied : ∀ (config : Config machine) choice {Reply : Type} (request : Call Reply),
      guard config choice request → weaker config choice request)
    {config : Config machine} {moves : List (Move machine)} (followed : config.Follows guard moves) :
    config.Follows weaker moves := by
  induction moves generalizing config with
  | nil => trivial
  | cons move moves ih =>
      refine ⟨?_, ih followed.2⟩
      have permitted := followed.1
      cases move with
      | occur event => trivial
      | run index choice =>
          simp only [Permits] at permitted ⊢
          split at permitted
          · exact implied config choice _ permitted
          · trivial

/-- The guard that admits every call. -/
def unguarded : Guard machine := fun _ _ _ => True

theorem follows_unguarded (config : Config machine) (moves : List (Move machine)) :
    config.Follows unguarded moves := by
  induction moves generalizing config with
  | nil => trivial
  | cons move moves ih =>
      refine ⟨?_, ih _⟩
      cases move with
      | occur event => trivial
      | run index choice =>
          simp only [Permits]
          split <;> trivial

/-- A schedule is followed if each of its moves is permitted after those before it. -/
theorem follows_of_prefixes (guard : Guard machine) {config : Config machine}
    {moves : List (Move machine)} (each : ∀ earlier move later,
      moves = earlier ++ move :: later → (config.run earlier).Permits guard move) :
    config.Follows guard moves := by
  induction moves generalizing config with
  | nil => trivial
  | cons move moves ih =>
      refine ⟨each [] move moves rfl, ih fun earlier next later same => ?_⟩
      exact each (move :: earlier) next later (by rw [same]; rfl)

/-- The run passes through the state. -/
def Passes (config : Config machine) (moves : List (Move machine)) (state : machine.State) : Prop :=
  ∃ earlier later, moves = earlier ++ later ∧ (config.run earlier).state = state

/-- Every call of a run is answered in a state that the run passes through. -/
theorem follows_passes (config : Config machine) (moves : List (Move machine)) :
    config.Follows (fun before _ _ => config.Passes moves before.state) moves := by
  apply follows_of_prefixes
  intro earlier move later same
  cases move with
  | occur event => trivial
  | run index choice =>
      simp only [Permits]
      split
      · exact ⟨earlier, _, same, rfl⟩
      · trivial

/-- What a running move does: the program at `index` issues its next call. -/
theorem step_run {config : Config machine} {index : Nat} {choice : machine.Choice}
    {Reply : Type} {request : Call Reply}
    {next : Except Failure Reply → Program Call Failure Unit}
    (waiting : config.pool[index]? = some (.await request next)) :
    config.step (.run index choice) =
      ⟨(machine.perform choice request config.state).2,
        config.pool.set index (next (machine.perform choice request config.state).1)⟩ := by
  simp only [step, waiting]

theorem permits_run {guard : Guard machine} {config : Config machine} {index : Nat}
    {choice : machine.Choice} {Reply : Type} {request : Call Reply}
    {next : Except Failure Reply → Program Call Failure Unit}
    (waiting : config.pool[index]? = some (.await request next)) :
    config.Permits guard (.run index choice) ↔ guard config choice request := by
  simp only [Permits, waiting]

/-- The program has ended without a failure. -/
def Returned (config : Config machine) (index : Nat) : Prop :=
  config.pool[index]? = some (.done (.ok ()))

instance (config : Config machine) (index : Nat) :
    Decidable (config.Returned index) :=
  match found : config.pool[index]? with
  | some (.done (.ok ())) => .isTrue found
  | some (.done (.error _)) => .isFalse (by simp [Returned, found])
  | some (.await _ _) => .isFalse (by simp [Returned, found])
  | none => .isFalse (by simp [Returned, found])

/-- A property that every permitted move preserves holds after every permitted schedule. -/
theorem run_preserves (guard : Guard machine) (holds : Config machine → Prop)
    (preserved : ∀ config move, holds config → config.Permits guard move →
      holds (config.step move))
    {config : Config machine} {moves : List (Move machine)}
    (start : holds config) (followed : config.Follows guard moves) :
    holds (config.run moves) := by
  induction moves generalizing config with
  | nil => exact start
  | cons move moves ih => exact ih (preserved config move start followed.1) followed.2

/-- What holds at the end of a run and not at its start has come about in one of its moves. -/
theorem exists_turn (holds : Config machine → Prop) {config : Config machine}
    {moves : List (Move machine)} (before : ¬ holds config) (after : holds (config.run moves)) :
    ∃ earlier move later, moves = earlier ++ move :: later ∧ ¬ holds (config.run earlier) ∧
      holds ((config.run earlier).step move) := by
  induction moves generalizing config with
  | nil => exact absurd after before
  | cons move moves ih =>
      by_cases turned : holds (config.step move)
      · exact ⟨[], move, moves, rfl, before, turned⟩
      · obtain ⟨earlier, turn, later, rfl, still, now⟩ := ih turned after
        exact ⟨move :: earlier, turn, later, rfl, still, now⟩

/-- A move either leaves the configuration as it is, lets one waiting program
issue its call, or is an event. -/
theorem step_cases (config : Config machine) (move : Move machine) :
    config.step move = config ∨
    (∃ index choice, ∃ (Reply : Type) (request : Call Reply),
      ∃ next : Except Failure Reply → Program Call Failure Unit,
      move = .run index choice ∧ config.pool[index]? = some (.await request next)) ∨
    ∃ event, move = .occur event := by
  cases move with
  | occur event => exact .inr (.inr ⟨event, rfl⟩)
  | run index choice =>
      cases waiting : config.pool[index]? with
      | none => exact .inl (by simp only [step, waiting])
      | some program =>
          cases program with
          | done outcome => exact .inl (by simp only [step, waiting])
          | await request next =>
              exact .inr (.inl ⟨index, choice, _, request, next, rfl, waiting⟩)

/-- Programs only ever issue calls of the class they were built from. -/
theorem callsOnly_step {allowed : {Reply : Type} → Call Reply → Prop} {config : Config machine}
    (pool : ∀ program ∈ config.pool, program.CallsOnly allowed) (move : Move machine) :
    ∀ program ∈ (config.step move).pool, program.CallsOnly allowed := by
  rcases config.step_cases move with same | ⟨index, choice, _, request, next, rfl, waiting⟩ |
    ⟨_, rfl⟩
  · rwa [same]
  · rw [step_run waiting]
    intro program member
    rcases List.mem_or_eq_of_mem_set member with old | rfl
    · exact pool program old
    · exact (pool _ (List.mem_of_getElem? waiting)).2 _
  · exact pool

theorem callsOnly_run {allowed : {Reply : Type} → Call Reply → Prop} {config : Config machine}
    (pool : ∀ program ∈ config.pool, program.CallsOnly allowed) (moves : List (Move machine)) :
    ∀ program ∈ (config.run moves).pool, program.CallsOnly allowed := by
  induction moves generalizing config with
  | nil => exact pool
  | cons move moves ih => exact ih (callsOnly_step pool move)

/-- An invariant of the state that every allowed and permitted call keeps, and
every event, holds after every permitted schedule of programs that issue
allowed calls only. -/
theorem state_invariant {allowed : {Reply : Type} → Call Reply → Prop} (guard : Guard machine)
    (invariant : machine.State → Prop)
    (call : ∀ (config : Config machine) (choice : machine.Choice) {Reply : Type}
      (request : Call Reply), allowed request → guard config choice request →
      invariant config.state → invariant (machine.perform choice request config.state).2)
    (event : ∀ event state, invariant state → invariant (machine.occur event state))
    {config : Config machine} {moves : List (Move machine)}
    (pool : ∀ program ∈ config.pool, program.CallsOnly allowed)
    (start : invariant config.state) (followed : config.Follows guard moves) :
    invariant (config.run moves).state := by
  suffices both : (∀ program ∈ (config.run moves).pool, program.CallsOnly allowed) ∧
      invariant (config.run moves).state from both.2
  refine run_preserves guard
    (fun config => (∀ program ∈ config.pool, program.CallsOnly allowed) ∧ invariant config.state)
    ?_ ⟨pool, start⟩ followed
  intro config move holds permitted
  refine ⟨callsOnly_step holds.1 move, ?_⟩
  rcases config.step_cases move with same | ⟨index, choice, _, request, next, rfl, waiting⟩ |
    ⟨happened, rfl⟩
  · rw [same]
    exact holds.2
  · rw [step_run waiting]
    exact call config choice request (holds.1 _ (List.mem_of_getElem? waiting)).1
      ((permits_run waiting).mp permitted) holds.2
  · exact event happened config.state holds.2

/-- If allowed calls keep the invariant exactly where the guard admits them, a
run follows the guard if and only if the invariant holds in every state that it
passes through. -/
theorem follows_iff_invariant {allowed : {Reply : Type} → Call Reply → Prop} (guard : Guard machine)
    (invariant : machine.State → Prop)
    (call : ∀ (config : Config machine) (choice : machine.Choice) {Reply : Type}
      (request : Call Reply), allowed request → invariant config.state →
      (invariant (machine.perform choice request config.state).2 ↔ guard config choice request))
    (event : ∀ event state, invariant state → invariant (machine.occur event state))
    {config : Config machine} {moves : List (Move machine)}
    (pool : ∀ program ∈ config.pool, program.CallsOnly allowed)
    (start : invariant config.state) :
    config.Follows guard moves ↔ ∀ state, config.Passes moves state → invariant state := by
  constructor
  · rintro followed _ ⟨earlier, later, rfl, rfl⟩
    refine state_invariant guard invariant ?_ event pool start
      ((follows_append guard config earlier later).mp followed).1
    intro config choice Reply request allows admitted sound
    exact (call config choice request allows sound).mpr admitted
  · intro kept
    apply follows_of_prefixes
    intro earlier move later same
    have before : invariant (config.run earlier).state :=
      kept _ ⟨earlier, move :: later, same, rfl⟩
    have after : invariant ((config.run earlier).step move).state := by
      refine kept _ ⟨earlier ++ [move], later, by simp [same], ?_⟩
      rw [run_append, run_cons, run_nil]
    cases move with
    | occur happened => trivial
    | run index choice =>
        simp only [Permits]
        split
        · next request next waiting =>
            have allows := (callsOnly_run pool earlier _ (List.mem_of_getElem? waiting)).1
            rw [step_run waiting] at after
            exact (call _ choice request allows before).mp after
        · trivial

end Config

end Async
