import SportsBetting.Async.Machine

/-!
# The history of one program in a run

A program depends on the others only through the answers to its own calls. Its
history lists the states and choices in which these were answered, and what is
left of it is found by answering again.
-/

namespace Async

universe u

variable {Call : Type → Type u} {Failure α β : Type} {machine : Machine Call Failure}

namespace Program

/-- What is left of the program when its calls are answered in these states. -/
def after (machine : Machine Call Failure) :
    Program Call Failure α → List (machine.State × machine.Choice) → Program Call Failure α
  | program, [] => program
  | .await request next, (state, choice) :: rest =>
      (next (machine.perform choice request state).1).after machine rest
  | .done outcome, _ :: _ => .done outcome

@[simp] theorem after_nil (program : Program Call Failure α) :
    program.after machine [] = program := by
  cases program <;> rfl

@[simp] theorem after_done (outcome : Except Failure α)
    (history : List (machine.State × machine.Choice)) :
    (Program.done outcome : Program Call Failure α).after machine history = .done outcome := by
  cases history <;> rfl

@[simp] theorem after_await {Reply : Type} (request : Call Reply)
    (next : Except Failure Reply → Program Call Failure α) (state : machine.State)
    (choice : machine.Choice) (rest : List (machine.State × machine.Choice)) :
    (Program.await request next).after machine ((state, choice) :: rest) =
      (next (machine.perform choice request state).1).after machine rest := rfl

theorem after_append (program : Program Call Failure α)
    (first second : List (machine.State × machine.Choice)) :
    program.after machine (first ++ second) = (program.after machine first).after machine second := by
  induction first generalizing program with
  | nil => simp
  | cons answered first ih =>
      cases program with
      | done outcome => simp
      | await request next => exact ih _

theorem CallsOnly.after {allowed : {Reply : Type} → Call Reply → Prop}
    {program : Program Call Failure α} (only : program.CallsOnly allowed)
    (machine : Machine Call Failure) (history : List (machine.State × machine.Choice)) :
    (program.after machine history).CallsOnly allowed := by
  induction history generalizing program with
  | nil => simpa using only
  | cons answered history ih =>
      cases program with
      | done outcome => trivial
      | await request next => exact ih (only.2 _)

/-- A sequence whose first call was answered goes on with the reply, or has failed. -/
theorem after_call_bind {Reply : Type} (request : Call Reply) (next : Reply → Program Call Failure β)
    (state : machine.State) (choice : machine.Choice)
    (rest : List (machine.State × machine.Choice)) :
    (Program.call request >>= next).after machine ((state, choice) :: rest) =
      match (machine.perform choice request state).1 with
      | .ok value => (next value).after machine rest
      | .error failure => .done (.error failure) := by
  rw [call, bind_await, after_await]
  cases (machine.perform choice request state).1 with
  | ok value => rfl
  | error failure => simp

end Program

namespace Config

variable {moves : List (Move machine)}

/-- The states and choices in which the calls of a program are answered. -/
def answered (config : Config machine) (index : Nat) :
    List (Move machine) → List (machine.State × machine.Choice)
  | [] => []
  | .run other choice :: moves =>
      (if other = index then [(config.state, choice)] else []) ++
        (config.step (.run other choice)).answered index moves
  | .occur event :: moves => (config.step (.occur event)).answered index moves

theorem answered_append (config : Config machine) (index : Nat) (first second : List (Move machine)) :
    config.answered index (first ++ second) =
      config.answered index first ++ (config.run first).answered index second := by
  induction first generalizing config with
  | nil => rfl
  | cons move first ih =>
      cases move with
      | run other choice =>
          rw [List.cons_append, answered, answered, ih, List.append_assoc]
          rfl
      | occur event => exact ih _

/-- The history of a program determines what is left of it. -/
theorem pool_run (config : Config machine) (moves : List (Move machine)) (index : Nat) :
    (config.run moves).pool[index]? =
      config.pool[index]?.map fun program => program.after machine (config.answered index moves) := by
  induction moves generalizing config with
  | nil => simp [answered]
  | cons move moves ih =>
      rw [run_cons, ih]
      cases move with
      | occur event => rfl
      | run other choice =>
          simp only [answered]
          cases waiting : config.pool[other]? with
          | none =>
              have same : config.step (.run other choice) = config := by simp only [step, waiting]
              rw [same]
              by_cases here : other = index
              · subst here
                simp [waiting]
              · simp [here]
          | some program =>
              cases program with
              | done outcome =>
                  have same : config.step (.run other choice) = config := by
                    simp only [step, waiting]
                  rw [same]
                  by_cases here : other = index
                  · subst here
                    simp [waiting]
                  · simp [here]
              | await request next =>
                  rw [step_run waiting]
                  by_cases here : other = index
                  · subst here
                    have bound := (List.getElem?_eq_some_iff.mp waiting).1
                    rw [List.getElem?_set_self bound, waiting]
                    simp
                  · simp [List.getElem?_set_ne here, here]

/-- The point of the run where an entry of the history was recorded. -/
theorem exists_answered {config : Config machine} {index position : Nat} {state : machine.State}
    {choice : machine.Choice} (recorded : (config.answered index moves)[position]? =
      some (state, choice)) :
    ∃ before rest, moves = before ++ .run index choice :: rest ∧
      (config.run before).state = state ∧ (config.answered index before).length = position := by
  induction moves generalizing config position with
  | nil => simp [answered] at recorded
  | cons move moves ih =>
      cases move with
      | occur event =>
          obtain ⟨before, rest, rfl, same, size⟩ := ih recorded
          exact ⟨.occur event :: before, rest, rfl, same, size⟩
      | run other picked =>
          rw [answered] at recorded
          by_cases here : other = index
          · subst here
            rw [if_pos rfl, List.singleton_append] at recorded
            cases position with
            | zero =>
                obtain ⟨rfl, rfl⟩ := Prod.mk.inj (Option.some.inj recorded)
                exact ⟨[], moves, rfl, rfl, rfl⟩
            | succ position =>
                obtain ⟨before, rest, rfl, same, size⟩ := ih recorded
                refine ⟨.run other picked :: before, rest, rfl, same, ?_⟩
                simp [answered, size]
          · rw [if_neg here, List.nil_append] at recorded
            obtain ⟨before, rest, rfl, same, size⟩ := ih recorded
            refine ⟨.run other picked :: before, rest, rfl, same, ?_⟩
            simp [answered, here, size]

theorem length_answered_mono (config : Config machine) (index : Nat)
    (first second : List (Move machine)) :
    (config.answered index first).length ≤ (config.answered index (first ++ second)).length := by
  rw [answered_append, List.length_append]
  omega

end Config

end Async
