import SportsBetting.Async.Query

/-!
# The outcome of a program of queries

What a program comes to when it runs alone and no query meets a fault.
-/

namespace Async

variable {Store Failure Reply α β : Type}

namespace Program

/-- The outcome, and the store that the program leaves. -/
def eval : Program (Query Store Failure) Failure α → Store → Except Failure α × Store
  | .done outcome, store => (outcome, store)
  | .await query next, store => (next (query store).1).eval (query store).2

@[simp] theorem eval_done (outcome : Except Failure α) (store : Store) :
    (Program.done outcome : Program (Query Store Failure) Failure α).eval store =
      (outcome, store) := rfl

theorem eval_bind (program : Program (Query Store Failure) Failure α)
    (next : α → Program (Query Store Failure) Failure β) (store : Store) :
    (program >>= next).eval store =
      match program.eval store with
      | (.ok value, after) => (next value).eval after
      | (.error failure, after) => (.error failure, after) := by
  induction program generalizing store with
  | done outcome => cases outcome <;> rfl
  | await query continuation ih => exact ih _ _

@[simp] theorem eval_read (view : Store → α) (store : Store) :
    (call (Query.read view) : Program (Query Store Failure) Failure α).eval store =
      (.ok (view store), store) := rfl

/-- After a read the program goes on with what is stored. -/
@[simp] theorem eval_read_bind (view : Store → α)
    (next : α → Program (Query Store Failure) Failure β) (store : Store) :
    (call (Query.read view) >>= next).eval store = (next (view store)).eval store := rfl

@[simp] theorem eval_write_bind (change : Store → Store)
    (next : Unit → Program (Query Store Failure) Failure β) (store : Store) :
    (call (Query.write change) >>= next).eval store = (next ()).eval (change store) := rfl

theorem eval_void (program : Program (Query Store Failure) Failure α) (store : Store) :
    program.void.eval store =
      match program.eval store with
      | (.ok _, after) => (.ok (), after)
      | (.error failure, after) => (.error failure, after) := by
  rw [void, eval_bind]
  rfl

theorem eval_attempt (change : Store → Except Failure Store) (store : Store) :
    (call (Query.attempt change) : Program (Query Store Failure) Failure Unit).eval store =
      match change store with
      | .ok after => (.ok (), after)
      | .error failure => (.error failure, store) := rfl

theorem eval_attempt_bind_ok {change : Store → Except Failure Store} {store after : Store}
    (done : change store = .ok after) (next : Unit → Program (Query Store Failure) Failure β) :
    (call (Query.attempt change) >>= next).eval store = (next ()).eval after := by
  rw [eval_bind, eval_attempt, done]

theorem eval_attempt_bind_error {change : Store → Except Failure Store} {store : Store}
    {failure : Failure} (rejected : change store = .error failure)
    (next : Unit → Program (Query Store Failure) Failure β) :
    (call (Query.attempt change) >>= next).eval store = (.error failure, store) := by
  rw [eval_bind, eval_attempt, rejected]

/-- How many queries the program makes. -/
def queries : Program (Query Store Failure) Failure α → Store → ℕ
  | .done _, _ => 0
  | .await query next, store => (next (query store).1).queries (query store).2 + 1

/-- A session without faults that is long enough comes to this outcome. -/
theorem run_eval {lost : Failure} (program : Program (Query Store Failure) Failure Unit)
    (store : Store) :
    (⟨store, [program]⟩ : Config (Query.machine Store lost)).run
        (List.replicate (program.queries store) (.run 0 Fault.none)) =
      ⟨(program.eval store).2, [.done (program.eval store).1]⟩ := by
  induction program generalizing store with
  | done outcome => rfl
  | await query next ih => exact ih _ _

end Program

end Async
