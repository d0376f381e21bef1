import Mathlib.Logic.Basic

/-!
# Programs that await calls

A program is a tree of awaited calls. The code between two calls runs without
interruption, so it has no node of its own. Every call is answered by a reply
or by a failure, which `bind` propagates and `handle` catches.
-/

namespace Async

universe u

/-- What remains to be done: a final outcome, or a call and what follows its reply. -/
inductive Program (Call : Type → Type u) (Failure Result : Type) : Type (max 1 u) where
  | done (outcome : Except Failure Result)
  | await {Reply : Type} (call : Call Reply)
      (next : Except Failure Reply → Program Call Failure Result)

namespace Program

variable {Call : Type → Type u} {Failure α β γ : Type}

/-- Await one call and return its reply. -/
def call (request : Call α) : Program Call Failure α := .await request .done

protected def bind : Program Call Failure α → (α → Program Call Failure β) →
    Program Call Failure β
  | .done (.ok value), next => next value
  | .done (.error failure), _ => .done (.error failure)
  | .await request rest, next => .await request fun reply => (rest reply).bind next

/-- Run the handler where the program fails. -/
def handle : Program Call Failure α → (Failure → Program Call Failure α) →
    Program Call Failure α
  | .done (.ok value), _ => .done (.ok value)
  | .done (.error failure), handler => handler failure
  | .await request rest, handler => .await request fun reply => (rest reply).handle handler

instance : Monad (Program Call Failure) where
  pure value := .done (.ok value)
  bind := Program.bind

instance : MonadExceptOf Failure (Program Call Failure) where
  throw failure := .done (.error failure)
  tryCatch := handle

@[simp] theorem pure_eq (value : α) :
    (pure value : Program Call Failure α) = .done (.ok value) := rfl

@[simp] theorem throw_eq (failure : Failure) :
    (throw failure : Program Call Failure α) = .done (.error failure) := rfl

@[simp] theorem bind_ok (value : α) (next : α → Program Call Failure β) :
    (Program.done (.ok value) >>= next) = next value := rfl

@[simp] theorem bind_error (failure : Failure) (next : α → Program Call Failure β) :
    (Program.done (.error failure) >>= next) = .done (.error failure) := rfl

@[simp] theorem bind_await {Reply : Type} (request : Call Reply)
    (rest : Except Failure Reply → Program Call Failure α) (next : α → Program Call Failure β) :
    (Program.await request rest >>= next) = .await request fun reply => rest reply >>= next := rfl

@[simp] theorem handle_ok (value : α) (handler : Failure → Program Call Failure α) :
    handle (.done (.ok value)) handler = .done (.ok value) := rfl

@[simp] theorem handle_error (failure : Failure) (handler : Failure → Program Call Failure α) :
    handle (.done (.error failure)) handler = handler failure := rfl

private theorem bind_done (program : Program Call Failure α) :
    program.bind (fun value => .done (.ok value)) = program := by
  induction program with
  | done outcome => cases outcome <;> rfl
  | await request rest ih => simp only [Program.bind, ih]

private theorem bind_bind (program : Program Call Failure α)
    (first : α → Program Call Failure β) (second : β → Program Call Failure γ) :
    (program.bind first).bind second = program.bind fun value => (first value).bind second := by
  induction program with
  | done outcome => cases outcome <;> rfl
  | await request rest ih => simp only [Program.bind, ih]

instance : LawfulMonad (Program Call Failure) :=
  LawfulMonad.mk' _ bind_done (fun _ _ => rfl) bind_bind

/-- Forget the result, so that programs of different results share one pool. -/
def void (program : Program Call Failure α) : Program Call Failure Unit :=
  program >>= fun _ => pure ()

/-- The outcome of a program that has ended. -/
def outcome : Program Call Failure α → Option (Except Failure α)
  | .done outcome => some outcome
  | .await _ _ => none

theorem eq_done_of_outcome {program : Program Call Failure α} {ended : Except Failure α}
    (same : program.outcome = some ended) : program = .done ended := by
  cases program with
  | done outcome => rw [Option.some.inj same]
  | await request next => cases same

/-- Every call the program can issue, whatever the replies, is allowed. -/
def CallsOnly (allowed : {Reply : Type} → Call Reply → Prop) : Program Call Failure α → Prop
  | .done _ => True
  | .await request next => allowed request ∧ ∀ reply, (next reply).CallsOnly allowed

section CallsOnly

variable {allowed : {Reply : Type} → Call Reply → Prop}

@[simp] theorem callsOnly_done (outcome : Except Failure α) :
    (Program.done outcome : Program Call Failure α).CallsOnly allowed := trivial

@[simp] theorem callsOnly_call (request : Call α) :
    (call request : Program Call Failure α).CallsOnly allowed ↔ allowed request := by
  simp [call, CallsOnly]

theorem CallsOnly.bind {program : Program Call Failure α} {next : α → Program Call Failure β}
    (first : program.CallsOnly allowed) (rest : ∀ value, (next value).CallsOnly allowed) :
    (program >>= next).CallsOnly allowed := by
  induction program with
  | done outcome =>
      cases outcome with
      | error failure => trivial
      | ok value => exact rest value
  | await request continuation ih => exact ⟨first.1, fun reply => ih reply (first.2 reply)⟩

theorem CallsOnly.handle {program : Program Call Failure α}
    {handler : Failure → Program Call Failure α} (body : program.CallsOnly allowed)
    (caught : ∀ failure, (handler failure).CallsOnly allowed) :
    (program.handle handler).CallsOnly allowed := by
  induction program with
  | done outcome =>
      cases outcome with
      | error failure => exact caught failure
      | ok value => trivial
  | await request continuation ih => exact ⟨body.1, fun reply => ih reply (body.2 reply)⟩

theorem CallsOnly.foldlM {ι : Type} {step : β → ι → Program Call Failure β}
    (each : ∀ value item, (step value item).CallsOnly allowed) (items : List ι) (value : β) :
    (items.foldlM step value).CallsOnly allowed := by
  induction items generalizing value with
  | nil => trivial
  | cons item items ih => exact CallsOnly.bind (each value item) ih

theorem CallsOnly.forM {ι : Type} {body : ι → Program Call Failure PUnit}
    (each : ∀ item, (body item).CallsOnly allowed) (items : List ι) :
    (items.forM body).CallsOnly allowed := by
  induction items with
  | nil => trivial
  | cons item items ih => exact CallsOnly.bind (each item) fun _ => ih

theorem callsOnly_trivial (program : Program Call Failure α) :
    program.CallsOnly fun _ => True := by
  induction program with
  | done outcome => trivial
  | await request next ih => exact ⟨trivial, ih⟩

theorem CallsOnly.void {program : Program Call Failure α} (body : program.CallsOnly allowed) :
    program.void.CallsOnly allowed :=
  body.bind fun _ => trivial

theorem CallsOnly.mono {wider : {Reply : Type} → Call Reply → Prop}
    (sub : ∀ {Reply : Type} (request : Call Reply), allowed request → wider request)
    {program : Program Call Failure α} (body : program.CallsOnly allowed) :
    program.CallsOnly wider := by
  induction program with
  | done outcome => trivial
  | await request continuation ih =>
      exact ⟨sub request body.1, fun reply => ih reply (body.2 reply)⟩

end CallsOnly

end Program

end Async
