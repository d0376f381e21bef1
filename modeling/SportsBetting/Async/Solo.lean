import SportsBetting.Async.Eval
import SportsBetting.Async.Joint

/-!
# Programs that run alone

What a program comes to when nothing else happens between its calls.
-/

namespace Async

universe u v

/-- How calls are answered, and what becomes of the state. -/
abbrev Answers (Call : Type → Type u) (Failure State : Type) :=
  {Reply : Type} → Call Reply → State → Except Failure Reply × State

variable {Call : Type → Type u} {Failure State α β : Type}

namespace Program

section Solo

variable (answer : Answers Call Failure State)
  (guard : {Reply : Type} → Call Reply → State → Prop)

/-- The outcome, and the state that the program leaves. -/
def solo : Program Call Failure α → State → Except Failure α × State
  | .done outcome, state => (outcome, state)
  | .await call next, state => (next (answer call state).1).solo (answer call state).2

/-- Every call satisfies the guard in the state in which the program issues it. -/
def Meets : Program Call Failure α → State → Prop
  | .done _, _ => True
  | .await call next, state =>
      guard call state ∧ (next (answer call state).1).Meets (answer call state).2

instance decidableMeets [∀ {Reply : Type} (call : Call Reply) state, Decidable (guard call state)] :
    (program : Program Call Failure α) → (state : State) → Decidable (program.Meets answer guard state)
  | .done _, _ => .isTrue trivial
  | .await call next, state =>
      have := decidableMeets (next (answer call state).1) (answer call state).2
      inferInstanceAs (Decidable (_ ∧ _))

/-- A program of queries runs alone by their meaning. -/
theorem eval_eq_solo {Store : Type} (program : Program (Query Store Failure) Failure α)
    (store : Store) : program.eval store = program.solo (fun query => query) store := by
  induction program generalizing store with
  | done outcome => rfl
  | await query next ih => exact ih _ _

variable {answer}

/-- What follows runs on from what the program returned. -/
theorem solo_bind_ok {program : Program Call Failure α} {state after : State} {value : α}
    (returned : program.solo answer state = (.ok value, after))
    (next : α → Program Call Failure β) :
    (program >>= next).solo answer state = (next value).solo answer after := by
  induction program generalizing state with
  | done outcome =>
      obtain ⟨rfl, rfl⟩ := Prod.mk.inj returned
      rfl
  | await request rest ih => exact ih _ returned

/-- A failure ends the program. -/
theorem solo_bind_error {program : Program Call Failure α} {state after : State} {failure : Failure}
    (failed : program.solo answer state = (.error failure, after))
    (next : α → Program Call Failure β) :
    (program >>= next).solo answer state = (.error failure, after) := by
  induction program generalizing state with
  | done outcome =>
      obtain ⟨rfl, rfl⟩ := Prod.mk.inj failed
      rfl
  | await request rest ih => exact ih _ failed

theorem solo_handle_ok {program : Program Call Failure α} {state after : State} {value : α}
    (returned : program.solo answer state = (.ok value, after))
    (handler : Failure → Program Call Failure α) :
    (program.handle handler).solo answer state = (.ok value, after) := by
  induction program generalizing state with
  | done outcome =>
      obtain ⟨rfl, rfl⟩ := Prod.mk.inj returned
      rfl
  | await request rest ih => exact ih _ returned

theorem solo_handle_error {program : Program Call Failure α} {state after : State}
    {failure : Failure} (failed : program.solo answer state = (.error failure, after))
    (handler : Failure → Program Call Failure α) :
    (program.handle handler).solo answer state = (handler failure).solo answer after := by
  induction program generalizing state with
  | done outcome =>
      obtain ⟨rfl, rfl⟩ := Prod.mk.inj failed
      rfl
  | await request rest ih => exact ih _ failed

/-- Only a program that returns is followed by another. -/
theorem solo_bind_returns {program : Program Call Failure α} {next : α → Program Call Failure β}
    {state : State} {result : β} (returned : ((program >>= next).solo answer state).1 = .ok result) :
    ∃ value after, program.solo answer state = (.ok value, after) := by
  induction program generalizing state with
  | done outcome =>
      cases outcome with
      | error failure => cases returned
      | ok value => exact ⟨value, state, rfl⟩
  | await request rest ih => exact ih _ returned

/-- The calls of what follows are met as well, in the state that it starts from. -/
theorem Meets.of_bind {program : Program Call Failure α} {next : α → Program Call Failure β}
    {state : State} (meets : (program >>= next).Meets answer guard state) :
    program.Meets answer guard state ∧ ∀ value after,
      program.solo answer state = (.ok value, after) → (next value).Meets answer guard after := by
  induction program generalizing state with
  | done outcome =>
      refine ⟨trivial, fun value after returned => ?_⟩
      obtain ⟨rfl, rfl⟩ := Prod.mk.inj returned
      exact meets
  | await request rest ih =>
      obtain ⟨first, remaining⟩ := ih _ meets.2
      exact ⟨⟨meets.1, first⟩, remaining⟩

/-- Calls of a class that keeps a fact keep it one after the other. -/
theorem solo_keeps {allowed : {Reply : Type} → Call Reply → Prop} {fact : State → Prop}
    (keeps : ∀ {Reply : Type} (request : Call Reply) state, allowed request → fact state →
      fact (answer request state).2)
    {program : Program Call Failure α} (only : program.CallsOnly allowed) {state : State}
    (start : fact state) : fact (program.solo answer state).2 := by
  induction program generalizing state with
  | done outcome => exact start
  | await request rest ih => exact ih _ (only.2 _) (keeps request state only.1 start)

end Solo

section Success

variable (answer : Answers Call Failure State)

/-- The program returns a value. -/
def Succeeds (program : Program Call Failure α) (state : State) : Prop :=
  ∃ value after, program.solo answer state = (.ok value, after)

variable {answer}

theorem Succeeds.pure (value : α) (state : State) :
    (Pure.pure value : Program Call Failure α).Succeeds answer state :=
  ⟨value, state, rfl⟩

theorem Succeeds.bind {program : Program Call Failure α} {next : α → Program Call Failure β}
    {state : State} (first : program.Succeeds answer state)
    (rest : ∀ value after, program.solo answer state = (.ok value, after) →
      (next value).Succeeds answer after) : (program >>= next).Succeeds answer state := by
  obtain ⟨value, after, returned⟩ := first
  obtain ⟨result, last, finished⟩ := rest value after returned
  exact ⟨result, last, (solo_bind_ok returned next).trans finished⟩

/-- Where the handler succeeds, it does not matter whether the program does. -/
theorem Succeeds.handle {program : Program Call Failure α} {handler : Failure → Program Call Failure α}
    {state : State} (caught : ∀ failure after, program.solo answer state = (.error failure, after) →
      (handler failure).Succeeds answer after) : (program.handle handler).Succeeds answer state := by
  cases ran : program.solo answer state with
  | mk outcome after =>
      cases outcome with
      | ok value => exact ⟨value, after, solo_handle_ok ran handler⟩
      | error failure =>
          obtain ⟨value, last, handled⟩ := caught failure after ran
          exact ⟨value, last, (solo_handle_error ran handler).trans handled⟩

/-- A loop succeeds if each round does from where the rounds before have led. -/
theorem Succeeds.foldlM {ι : Type} {body : β → ι → Program Call Failure β}
    (holds : List ι → State → Prop) (each : ∀ item rest value state, holds (item :: rest) state →
      (body value item).Succeeds answer state ∧
        ∀ result after, (body value item).solo answer state = (.ok result, after) → holds rest after)
    {items : List ι} {value : β} {state : State} (start : holds items state) :
    (items.foldlM body value).Succeeds answer state := by
  induction items generalizing value state with
  | nil => exact .pure value state
  | cons item rest ih =>
      obtain ⟨first, later⟩ := each item rest value state start
      rw [List.foldlM_cons]
      exact first.bind fun result after ran => ih (later result after ran)

end Success

section Passing

/-- The program throws nothing itself and catches nothing: it fails where a call fails. -/
def Passes : Program Call Failure α → Prop
  | .done outcome => ∃ value, outcome = .ok value
  | .await _ next => ∀ reply, (next (.ok reply)).Passes

theorem Passes.pure (value : α) : (Pure.pure value : Program Call Failure α).Passes := ⟨value, rfl⟩

theorem Passes.call (request : Call α) : (Program.call request : Program Call Failure α).Passes :=
  fun reply => ⟨reply, rfl⟩

theorem Passes.bind {program : Program Call Failure α} {next : α → Program Call Failure β}
    (first : program.Passes) (rest : ∀ value, (next value).Passes) :
    (program >>= next).Passes := by
  induction program with
  | done outcome =>
      obtain ⟨value, rfl⟩ := first
      exact rest value
  | await request remaining ih => exact fun reply => ih _ (first reply)

theorem Passes.foldlM {ι : Type} {step : β → ι → Program Call Failure β}
    (each : ∀ value item, (step value item).Passes) (items : List ι) (value : β) :
    (items.foldlM step value).Passes := by
  induction items generalizing value with
  | nil => exact Passes.pure value
  | cons item items ih => exact (each value item).bind ih

/-- Where no call fails, the program returns. -/
theorem Passes.returns {answer : Answers Call Failure State}
    {guard : {Reply : Type} → Call Reply → State → Prop}
    (answered : ∀ {Reply : Type} (request : Call Reply) state, guard request state →
      ∃ reply, (answer request state).1 = .ok reply)
    {program : Program Call Failure α} (passes : program.Passes) {state : State}
    (meets : program.Meets answer guard state) :
    ∃ value after, program.solo answer state = (.ok value, after) := by
  induction program generalizing state with
  | done outcome =>
      obtain ⟨value, rfl⟩ := passes
      exact ⟨value, state, rfl⟩
  | await request next ih =>
      obtain ⟨reply, same⟩ := answered request state meets.1
      exact ih _ (same ▸ passes reply) meets.2

end Passing

section Calls

variable {Call' : Type → Type v}

variable (translate : {Reply : Type} → Call Reply → Call' Reply)

/-- Where each translated call is answered alike in what is seen of the state, so is the
program. -/
theorem solo_mapCalls {State' : Type} {answer : Answers Call Failure State}
    {answer' : Answers Call' Failure State'} (view : State → State')
    (alike : ∀ {Reply : Type} (request : Call Reply) state,
      answer' (translate request) (view state) =
        ((answer request state).1, view (answer request state).2))
    (program : Program Call Failure α) (state : State) :
    (program.mapCalls translate).solo answer' (view state) =
      ((program.solo answer state).1, view (program.solo answer state).2) := by
  induction program generalizing state with
  | done outcome => rfl
  | await request next ih =>
      unfold Program.mapCalls solo
      rw [alike]
      exact ih _ _

theorem Meets.of_mapCalls {State' : Type} {answer : Answers Call Failure State}
    {answer' : Answers Call' Failure State'} {guard : {Reply : Type} → Call Reply → State → Prop}
    {guard' : {Reply : Type} → Call' Reply → State' → Prop} (view : State → State')
    (alike : ∀ {Reply : Type} (request : Call Reply) state,
      answer' (translate request) (view state) =
        ((answer request state).1, view (answer request state).2))
    (guards : ∀ {Reply : Type} (request : Call Reply) state,
      guard' (translate request) (view state) → guard request state)
    {program : Program Call Failure α} {state : State}
    (meets : (program.mapCalls translate).Meets answer' guard' (view state)) :
    program.Meets answer guard state := by
  induction program generalizing state with
  | done outcome => trivial
  | await request next ih =>
      unfold Program.mapCalls Meets at meets
      rw [alike] at meets
      exact ⟨guards request state meets.1, ih _ meets.2⟩

end Calls

end Program

section Alone

variable (answer : Answers Call Failure State)
  (guard : {Reply : Type} → Call Reply → State → Prop)

def Machine.alone : Machine Call Failure where
  State := State
  Choice := Unit
  Event := Empty
  perform _ := answer
  occur event := nomatch event

/-- Nothing happens while the program waits, and its calls satisfy the guard. -/
def Contract.alone : Contract (Machine.alone answer) where
  invariant _ := True
  rely _ before after := after = before
  proper _ _ := True
  admits state _ request := guard request state

/-- What a program leads to from a state if its calls satisfy the guard. -/
abbrev Leads (post : Except Failure α → State → Prop) (program : Program Call Failure α)
    (state : State) : Prop :=
  (Contract.alone answer guard).Safe post program state

variable {answer guard} {post : Except Failure α → State → Prop}

theorem Leads.call {request : Call α} {state : State}
    (each : guard request state → post (answer request state).1 (answer request state).2) :
    Leads answer guard post (Program.call request) state := by
  refine Contract.Safe.call ?_
  rintro later rfl _
  exact ⟨trivial, fun _ admitted => each admitted⟩

/-- Calls of a class that keeps a fact may follow each other in any way. -/
theorem Leads.of_callsOnly {allowed : {Reply : Type} → Call Reply → Prop} {fact : State → Prop}
    (keeps : ∀ {Reply : Type} (request : Call Reply) state, allowed request → fact state →
      fact (answer request state).2)
    {program : Program Call Failure α} (only : program.CallsOnly allowed) {state : State}
    (start : fact state) : Leads answer guard (fun _ after => fact after) program state := by
  have waits : ∀ {Reply : Type} (request : Call Reply) {before after : State},
      (Contract.alone answer guard).rely request before after → fact before → fact after := by
    rintro Reply request before after rfl held
    exact held
  exact Contract.Safe.of_callsOnly waits (fun _ _ _ => trivial)
    (fun request _ state allows held => keeps request state allows held) only start

theorem Leads.result {program : Program Call Failure α} {state : State}
    (leads : Leads answer guard post program state) (meets : program.Meets answer guard state) :
    post (program.solo answer state).1 (program.solo answer state).2 := by
  induction program generalizing state with
  | done outcome => exact leads
  | await request next ih =>
      obtain ⟨_, rest⟩ := leads state rfl trivial
      exact ih _ (rest () meets.1) meets.2

end Alone

end Async
