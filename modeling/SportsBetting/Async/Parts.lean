import SportsBetting.Async.History

/-!
# The parts of a program in its history

A program comes to its parts one after the other. Where a part has ended, its own calls are a
stretch of the history of the whole program.
-/

namespace Async

universe u

variable {Call : Type → Type u} {Failure α β γ : Type}

namespace Program

section Sequel

/-- Go on with the outcome of a program, be it a value or a failure. -/
def sequel : Program Call Failure α → (Except Failure α → Program Call Failure β) →
    Program Call Failure β
  | .done outcome, next => next outcome
  | .await request rest, next => .await request fun reply => (rest reply).sequel next

/-- The program that goes on with a value only. -/
def onValue (next : α → Program Call Failure β) : Except Failure α → Program Call Failure β
  | .ok value => next value
  | .error failure => .done (.error failure)

/-- The program that goes on with a failure only. -/
def onFailure (handler : Failure → Program Call Failure α) :
    Except Failure α → Program Call Failure α
  | .ok value => .done (.ok value)
  | .error failure => handler failure

theorem bind_eq_sequel (program : Program Call Failure α) (next : α → Program Call Failure β) :
    program >>= next = program.sequel (onValue next) := by
  induction program with
  | done outcome => cases outcome <;> rfl
  | await request rest ih => simp only [bind_await, sequel, ih]

theorem handle_eq_sequel (program : Program Call Failure α)
    (handler : Failure → Program Call Failure α) :
    program.handle handler = program.sequel (onFailure handler) := by
  induction program with
  | done outcome => cases outcome <;> rfl
  | await request rest ih => simp only [handle, sequel, ih]

theorem sequel_done (program : Program Call Failure α) : program.sequel .done = program := by
  induction program with
  | done outcome => rfl
  | await request rest ih => simp only [sequel, ih]

theorem sequel_sequel (program : Program Call Failure α)
    (first : Except Failure α → Program Call Failure β)
    (second : Except Failure β → Program Call Failure γ) :
    (program.sequel first).sequel second = program.sequel fun outcome => (first outcome).sequel second := by
  induction program with
  | done outcome => rfl
  | await request rest ih => simp only [sequel, ih]

end Sequel

section Ends

variable (machine : Machine Call Failure)

/-- Answered just in these states, the program comes to this outcome. -/
def Ends : Program Call Failure α → List (machine.State × machine.Choice) → Except Failure α → Prop
  | .done ended, [], outcome => ended = outcome
  | .await request next, (state, choice) :: history, outcome =>
      (next (machine.perform choice request state).1).Ends history outcome
  | .done _, _ :: _, _ => False
  | .await _ _, [], _ => False

/-- The program has a call to wait for. -/
def Waits : Program Call Failure α → Prop
  | .done _ => False
  | .await _ _ => True

/-- With this history, the program waits for the answer of the call. -/
def Awaits {Reply : Type} (program : Program Call Failure α)
    (history : List (machine.State × machine.Choice)) (request : Call Reply) : Prop :=
  ∃ next, program.after machine history = .await request next

/-- With this history, the program has come to a part of it. -/
def Reaches (program : Program Call Failure β) (history : List (machine.State × machine.Choice))
    (part : Program Call Failure α) : Prop :=
  ∃ next, program.after machine history = part.sequel next

/-- In the course of this history, the program has run the part, whose own calls were answered
in these states, to the value. -/
def Ran (program : Program Call Failure β) (history : List (machine.State × machine.Choice))
    (part : Program Call Failure α) (own : List (machine.State × machine.Choice)) (value : α) : Prop :=
  ∃ before later, history = before ++ own ++ later ∧ program.Reaches machine before part ∧
    part.Ends machine own (.ok value)

variable {machine} {first second own history : List (machine.State × machine.Choice)}

theorem after_sequel_of_ends {program : Program Call Failure α} {outcome : Except Failure α}
    (ended : program.Ends machine first outcome) (next : Except Failure α → Program Call Failure β)
    (rest : List (machine.State × machine.Choice)) :
    (program.sequel next).after machine (first ++ rest) = (next outcome).after machine rest := by
  induction program generalizing first with
  | done finished =>
      cases first with
      | nil =>
          obtain rfl : finished = outcome := ended
          rfl
      | cons => exact ended.elim
  | await request continuation ih =>
      cases first with
      | nil => exact ended.elim
      | cons answered first => exact ih _ ended

theorem after_sequel_of_awaits {Reply : Type} {request : Call Reply} {program : Program Call Failure α}
    (awaits : program.Awaits machine history request)
    (next : Except Failure α → Program Call Failure β) :
    (program.sequel next).after machine history = (program.after machine history).sequel next := by
  induction history generalizing program with
  | nil => simp
  | cons answered history ih =>
      cases program with
      | done outcome =>
          obtain ⟨_, same⟩ := awaits
          cases same
      | await request continuation => exact ih awaits

/-- A sequence that waits does so in its first part, or after it has ended. -/
theorem awaits_sequel {Reply : Type} {request : Call Reply} {program : Program Call Failure α}
    {next : Except Failure α → Program Call Failure β}
    (awaits : (program.sequel next).Awaits machine history request) :
    program.Awaits machine history request ∨ ∃ own later outcome, history = own ++ later ∧
      program.Ends machine own outcome ∧ (next outcome).Awaits machine later request := by
  induction program generalizing history with
  | done outcome => exact .inr ⟨[], history, outcome, rfl, rfl, awaits⟩
  | await asked continuation ih =>
      cases history with
      | nil =>
          obtain ⟨_, same⟩ := awaits
          simp only [sequel, after_nil] at same
          cases same
          exact .inl ⟨continuation, rfl⟩
      | cons answered history =>
          rcases ih _ awaits with still | ⟨own, later, outcome, rfl, ended, waits⟩
          · exact .inl still
          · exact .inr ⟨answered :: own, later, outcome, rfl, ended, waits⟩

theorem ends_sequel {program : Program Call Failure α}
    {next : Except Failure α → Program Call Failure β} {result : Except Failure β}
    (ended : (program.sequel next).Ends machine history result) :
    ∃ own later outcome, history = own ++ later ∧ program.Ends machine own outcome ∧
      (next outcome).Ends machine later result := by
  induction program generalizing history with
  | done outcome => exact ⟨[], history, outcome, rfl, rfl, ended⟩
  | await request continuation ih =>
      cases history with
      | nil => exact ended.elim
      | cons answered history =>
          obtain ⟨own, later, outcome, rfl, finished, rest⟩ := ih _ ended
          exact ⟨answered :: own, later, outcome, rfl, finished, rest⟩

end Ends

section Rules

variable {machine : Machine Call Failure} {history : List (machine.State × machine.Choice)}
  {Reply : Type} {request : Call Reply}

theorem awaits_bind {program : Program Call Failure α} {next : α → Program Call Failure β}
    (awaits : (program >>= next).Awaits machine history request) :
    program.Awaits machine history request ∨ ∃ own later value, history = own ++ later ∧
      program.Ends machine own (.ok value) ∧ (next value).Awaits machine later request := by
  rw [bind_eq_sequel] at awaits
  rcases awaits_sequel awaits with still | ⟨own, later, outcome, split, ended, waits⟩
  · exact .inl still
  · cases outcome with
    | ok value => exact .inr ⟨own, later, value, split, ended, waits⟩
    | error failure =>
        obtain ⟨_, same⟩ := waits
        rw [onValue, after_done] at same
        cases same

theorem ends_bind {program : Program Call Failure α} {next : α → Program Call Failure β} {result : β}
    (ended : (program >>= next).Ends machine history (.ok result)) :
    ∃ own later value, history = own ++ later ∧ program.Ends machine own (.ok value) ∧
      (next value).Ends machine later (.ok result) := by
  rw [bind_eq_sequel] at ended
  obtain ⟨own, later, outcome, split, finished, rest⟩ := ends_sequel ended
  cases outcome with
  | ok value => exact ⟨own, later, value, split, finished, rest⟩
  | error failure =>
      cases later with
      | nil => cases rest
      | cons => exact rest.elim

theorem ends_call {answer : Reply}
    (ended : (call request : Program Call Failure Reply).Ends machine history (.ok answer)) :
    ∃ answered, history = [answered] ∧ (machine.perform answered.2 request answered.1).1 = .ok answer := by
  match history with
  | [] => exact ended.elim
  | [answered] => exact ⟨answered, rfl, ended⟩
  | _ :: _ :: _ => exact ended.elim

theorem awaits_call {asked : Call Reply}
    (awaits : (call asked : Program Call Failure Reply).Awaits machine history request) :
    asked = request := by
  obtain ⟨_, same⟩ := awaits
  cases history with
  | nil =>
      cases same
      rfl
  | cons answered history =>
      rw [call, after_await, after_done] at same
      cases same

theorem CallsOnly.awaited {allowed : {Reply : Type} → Call Reply → Prop}
    {program : Program Call Failure α} (only : program.CallsOnly allowed)
    (awaits : program.Awaits machine history request) : allowed request := by
  obtain ⟨next, same⟩ := awaits
  have left := only.after machine history
  rw [same] at left
  exact left.1

theorem Awaits.waits {program : Program Call Failure α}
    (awaits : program.Awaits machine history request) : program.Waits := by
  cases program with
  | done outcome =>
      obtain ⟨_, same⟩ := awaits
      rw [after_done] at same
      cases same
  | await request next => trivial

theorem Reaches.refl (program : Program Call Failure α) : program.Reaches machine [] program :=
  ⟨.done, by rw [after_nil, sequel_done]⟩

/-- A part of a part is a part, as long as it waits. -/
theorem Reaches.trans {whole : Program Call Failure γ} {middle : Program Call Failure β}
    {part : Program Call Failure α} {first second : List (machine.State × machine.Choice)}
    (outer : whole.Reaches machine first middle) (inner : middle.Reaches machine second part)
    (waits : part.Waits) : whole.Reaches machine (first ++ second) part := by
  obtain ⟨next, outer⟩ := outer
  obtain ⟨next', inner⟩ := inner
  refine ⟨fun outcome => (next' outcome).sequel next, ?_⟩
  cases part with
  | done outcome => exact waits.elim
  | await request continuation =>
      have awaits : middle.Awaits machine second request :=
        ⟨fun reply => (continuation reply).sequel next', inner⟩
      rw [after_append, outer, after_sequel_of_awaits awaits, inner, sequel_sequel]

theorem Reaches.bind_first (program : Program Call Failure α) (next : α → Program Call Failure β) :
    (program >>= next).Reaches machine [] program :=
  ⟨onValue next, by rw [after_nil, bind_eq_sequel]⟩

theorem Reaches.bind_second {program : Program Call Failure α}
    {own : List (machine.State × machine.Choice)} {value : α}
    (ended : program.Ends machine own (.ok value)) (next : α → Program Call Failure β) :
    (program >>= next).Reaches machine own (next value) := by
  refine ⟨.done, ?_⟩
  have after := after_sequel_of_ends ended (onValue next) []
  rw [List.append_nil] at after
  rw [bind_eq_sequel, after, after_nil, sequel_done]
  rfl

theorem Reaches.handle_first (program : Program Call Failure α)
    (handler : Failure → Program Call Failure α) :
    (program.handle handler).Reaches machine [] program :=
  ⟨onFailure handler, by rw [after_nil, handle_eq_sequel]⟩

/-- What a part has run, the whole has run. -/
theorem Ran.within {whole : Program Call Failure γ} {middle : Program Call Failure β}
    {part : Program Call Failure α} {first second own : List (machine.State × machine.Choice)}
    {value : α} (outer : whole.Reaches machine first middle) (waits : part.Waits)
    (ran : middle.Ran machine second part own value) :
    whole.Ran machine (first ++ second) part own value := by
  obtain ⟨before, later, rfl, inner, ended⟩ := ran
  exact ⟨first ++ before, later, by simp, outer.trans inner waits, ended⟩

theorem Ran.extend {whole : Program Call Failure β} {part : Program Call Failure α}
    {own : List (machine.State × machine.Choice)} {value : α}
    (ran : whole.Ran machine history part own value) (more : List (machine.State × machine.Choice)) :
    whole.Ran machine (history ++ more) part own value := by
  obtain ⟨before, later, rfl, inner, ended⟩ := ran
  exact ⟨before, later ++ more, by simp, inner, ended⟩

theorem Ran.of_ends {part : Program Call Failure α} {own : List (machine.State × machine.Choice)}
    {value : α} (ended : part.Ends machine own (.ok value)) : part.Ran machine own part own value :=
  ⟨[], [], by simp, .refl part, ended⟩

/-- A loop that waits does so in its body. -/
theorem awaits_foldlM {ι : Type} {body : β → ι → Program Call Failure β} {items : List ι} {value : β}
    (awaits : (items.foldlM body value).Awaits machine history request) :
    ∃ item ∈ items, ∃ value' later, (body value' item).Awaits machine later request := by
  induction items generalizing value history with
  | nil => exact awaits.waits.elim
  | cons item rest ih =>
      rw [List.foldlM_cons] at awaits
      rcases awaits_bind awaits with still | ⟨_, _, _, _, _, waits⟩
      · exact ⟨item, List.mem_cons_self, value, history, still⟩
      · obtain ⟨other, member, waits⟩ := ih waits
        exact ⟨other, List.mem_cons_of_mem _ member, waits⟩

end Rules

end Program

namespace Config

variable {machine : Machine Call Failure}

/-- The program waits for the answer of the call. -/
def Awaits {Reply : Type} (config : Config machine) (index : Nat) (request : Call Reply) : Prop :=
  ∃ next, config.pool[index]? = some (.await request next)

/-- What a program waits for in a run, it waits for with its history. -/
theorem awaits_iff {Reply : Type} {start : Config machine} {index : Nat} {request : Call Reply}
    {program : Program Call Failure Unit} (initial : start.pool[index]? = some program)
    (moves : List (Move machine)) :
    (start.run moves).Awaits index request ↔
      program.Awaits machine (start.answered index moves) request := by
  simp only [Awaits, Program.Awaits, pool_run, initial, Option.map_some, Option.some.injEq]

end Config

end Async
