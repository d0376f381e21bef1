import SportsBetting.Async.Eval

/-!
# Running commands again

A run performs its commands one after the other and stops at the first that is rejected. If
no command undoes an earlier one, a second run finds all of them done and stops where the
first one did.
-/

namespace Async.Replay

variable {Store Failure Command : Type}

section Commands

variable (perform : Command → Store → Except Failure Store)

/-- The outcome, and the store that is left. A rejected command changes nothing. -/
def run : List Command → Store → Except Failure Unit × Store
  | [], store => (.ok (), store)
  | command :: rest, store =>
      match perform command store with
      | .ok after => run rest after
      | .error failure => (.error failure, store)

variable {perform}

theorem run_ok {command : Command} {store after : Store} (done : perform command store = .ok after)
    (rest : List Command) : run perform (command :: rest) store = run perform rest after := by
  rw [run, done]

theorem run_error {command : Command} {store : Store} {failure : Failure}
    (rejected : perform command store = .error failure) (rest : List Command) :
    run perform (command :: rest) store = (.error failure, store) := by
  rw [run, rejected]

theorem run_append (first second : List Command) (store : Store) :
    run perform (first ++ second) store =
      match run perform first store with
      | (.ok _, after) => run perform second after
      | (.error failure, after) => (.error failure, after) := by
  induction first generalizing store with
  | nil => rfl
  | cons command rest ih =>
      rw [List.cons_append]
      cases done : perform command store with
      | ok after => rw [run_ok done, run_ok done, ih]
      | error failure => rw [run_error done, run_error done]

/-- What every command keeps, the run keeps, wherever it stops. -/
theorem run_preserves {invariant : Store → Prop} {commands : List Command} {store : Store}
    (keeps : ∀ command ∈ commands, ∀ store after, invariant store →
      perform command store = .ok after → invariant after)
    (start : invariant store) : invariant (run perform commands store).2 := by
  induction commands generalizing store with
  | nil => exact start
  | cons command rest ih =>
      cases done : perform command store with
      | error failure =>
          rw [run_error done]
          exact start
      | ok after =>
          rw [run_ok done]
          apply ih
          · exact fun later member => keeps later (List.mem_cons_of_mem _ member)
          · exact keeps command List.mem_cons_self store after start done

end Commands

section Again

/-- Every command is finished once it is performed, later commands leave it finished, and a
finished command changes nothing that counts. -/
structure Repeatable (perform : Command → Store → Except Failure Store)
    (same : Store → Store → Prop) (sound : Store → Prop) (finished : Command → Store → Prop)
    (commands : List Command) : Prop where
  trans : ∀ first second third, same first second → same second third → same first third
  keeps : ∀ command ∈ commands, ∀ store after, sound store → perform command store = .ok after →
    sound after
  finishes : ∀ command ∈ commands, ∀ store after, sound store →
    perform command store = .ok after → finished command after
  stays : commands.Pairwise fun command later => ∀ store after, sound store →
    finished command store → perform later store = .ok after → finished command after
  again : ∀ command ∈ commands, ∀ store other, finished command store → same store other →
    ∃ after, perform command other = .ok after ∧ same other after
  fails : ∀ command ∈ commands, ∀ store other failure, perform command store = .error failure →
    same store other → perform command other = .error failure

variable {perform : Command → Store → Except Failure Store} {same : Store → Store → Prop}
  {sound : Store → Prop} {finished : Command → Store → Prop} {commands : List Command}
  {store : Store}

theorem Repeatable.tail {command : Command}
    (repeatable : Repeatable perform same sound finished (command :: commands)) :
    Repeatable perform same sound finished commands where
  trans := repeatable.trans
  keeps later member := repeatable.keeps later (List.mem_cons_of_mem _ member)
  finishes later member := repeatable.finishes later (List.mem_cons_of_mem _ member)
  stays := repeatable.stays.of_cons
  again later member := repeatable.again later (List.mem_cons_of_mem _ member)
  fails later member := repeatable.fails later (List.mem_cons_of_mem _ member)

/-- What the first command has finished is finished where the run stops. -/
theorem Repeatable.finished_run {command : Command}
    (repeatable : Repeatable perform same sound finished (command :: commands))
    (start : sound store) (done : finished command store) :
    finished command (run perform commands store).2 := by
  have stays := (List.pairwise_cons.mp repeatable.stays).1
  have each : ∀ later ∈ commands, ∀ store after, sound store ∧ finished command store →
      perform later store = .ok after → sound after ∧ finished command after := by
    rintro later member store after ⟨held, done⟩ performed
    exact ⟨repeatable.tail.keeps later member store after held performed,
      stays later member store after held done performed⟩
  exact (run_preserves each ⟨start, done⟩).2

/-- **Running the commands again** has the same outcome and leaves the same store. -/
theorem run_again (repeatable : Repeatable perform same sound finished commands)
    (start : sound store) {other : Store} (alike : same (run perform commands store).2 other) :
    (run perform commands other).1 = (run perform commands store).1 ∧
      same (run perform commands store).2 (run perform commands other).2 := by
  induction commands generalizing store other with
  | nil => exact ⟨rfl, alike⟩
  | cons command rest ih =>
      cases done : perform command store with
      | error failure =>
          rw [run_error done] at alike ⊢
          have rejected := repeatable.fails command List.mem_cons_self store other failure done alike
          rw [run_error rejected]
          exact ⟨rfl, alike⟩
      | ok after =>
          rw [run_ok done] at alike ⊢
          have kept := repeatable.keeps command List.mem_cons_self store after start done
          have finished := repeatable.finished_run kept
            (repeatable.finishes command List.mem_cons_self store after start done)
          obtain ⟨next, performed, unchanged⟩ :=
            repeatable.again command List.mem_cons_self _ other finished alike
          rw [run_ok performed]
          exact ih repeatable.tail kept (repeatable.trans _ _ _ alike unchanged)

end Again

section Performing

variable {α β ι : Type} (perform : Command → Store → Except Failure Store)

/-- Run alone and without faults, the program comes to what the commands come to. -/
def Performs (program : Program (Query Store Failure) Failure α) (commands : List Command)
    (store : Store) : Prop :=
  program.void.eval store = run perform commands store

variable {perform} {store : Store}

theorem Performs.pure (value : α) :
    Performs perform (Pure.pure value : Program (Query Store Failure) Failure α) [] store := rfl

theorem Performs.skip {command : Command} (idle : perform command store = .ok store) (value : α) :
    Performs perform (Pure.pure value : Program (Query Store Failure) Failure α) [command] store := by
  unfold Performs
  rw [run_ok idle]
  rfl

theorem Performs.attempt {command : Command} {change : Store → Except Failure Store}
    (does : perform command store = change store) :
    Performs perform (Program.call (Query.attempt change)) [command] store := by
  unfold Performs
  rw [run, does, Program.eval_void, Program.eval_attempt]
  cases change store with
  | ok after => rfl
  | error failure => rfl

theorem Performs.write {command : Command} {change : Store → Store}
    (does : perform command store = .ok (change store)) :
    Performs perform (Program.call (Query.write change)) [command] store := by
  unfold Performs
  rw [run_ok does]
  rfl

theorem Performs.read {Reply : Type} {view : Store → Reply} {commands : List Command}
    {next : Reply → Program (Query Store Failure) Failure α}
    (rest : Performs perform (next (view store)) commands store) :
    Performs perform (Program.call (Query.read view) >>= next) commands store := rest

theorem Performs.bind {program : Program (Query Store Failure) Failure α}
    {next : α → Program (Query Store Failure) Failure β} {first second : List Command}
    (before : Performs perform program first store)
    (rest : ∀ value after, run perform first store = (.ok (), after) →
      Performs perform (next value) second after) :
    Performs perform (program >>= next) (first ++ second) store := by
  unfold Performs at before ⊢
  rw [Program.eval_void] at before ⊢
  rw [run_append, Program.eval_bind]
  cases evaluated : program.eval store with
  | mk outcome after =>
      rw [evaluated] at before
      cases outcome with
      | error failure => rw [← before]
      | ok value =>
          have reached : Performs perform (next value) second after := rest value after before.symm
          rw [← before]
          dsimp only
          rw [← reached, Program.eval_void]

/-- The store that the program leaves. -/
theorem Performs.store_eq {program : Program (Query Store Failure) Failure α}
    {commands : List Command} (performs : Performs perform program commands store) :
    (program.eval store).2 = (run perform commands store).2 := by
  unfold Performs at performs
  rw [← performs, Program.eval_void]
  cases program.eval store with
  | mk outcome after =>
      cases outcome with
      | ok value => rfl
      | error failure => rfl

/-- A program after which only its result is put together. -/
theorem Performs.map {program : Program (Query Store Failure) Failure α} {commands : List Command}
    (performs : Performs perform program commands store) (result : α → β) :
    Performs perform (program >>= fun value => Pure.pure (result value)) commands store := by
  rw [← List.append_nil commands]
  apply performs.bind
  exact fun value _ _ => Performs.pure (result value)

theorem perform_of_run {command : Command} {store after : Store}
    (done : run perform [command] store = (.ok (), after)) : perform command store = .ok after := by
  cases performed : perform command store with
  | error failure =>
      rw [run_error performed] at done
      cases done
  | ok next =>
      rw [run_ok performed] at done
      obtain ⟨_, rfl⟩ := Prod.mk.inj done
      rfl

section Loops

variable {command : ι → Command} (holds : List ι → Store → Prop)
  (onward : ∀ item rest store after, holds (item :: rest) store →
    perform (command item) store = .ok after → holds rest after)

include onward

/-- A loop whose body performs one command for each item. `holds` says what is known while
`rest` is left. -/
theorem Performs.foldlM {body : β → ι → Program (Query Store Failure) Failure β}
    (each : ∀ item rest value store, holds (item :: rest) store →
      Performs perform (body value item) [command item] store)
    {items : List ι} (start : holds items store) (value : β) :
    Performs perform (items.foldlM body value) (items.map command) store := by
  induction items generalizing store value with
  | nil => exact Performs.pure value
  | cons item rest ih =>
      rw [List.foldlM_cons, List.map_cons, ← List.singleton_append]
      apply Performs.bind (each item rest value store start)
      intro value after done
      exact ih (onward item rest store after start (perform_of_run done)) value

theorem Performs.forM {body : ι → Program (Query Store Failure) Failure PUnit}
    (each : ∀ item rest store, holds (item :: rest) store →
      Performs perform (body item) [command item] store)
    {items : List ι} (start : holds items store) :
    Performs perform (items.forM body) (items.map command) store := by
  induction items generalizing store with
  | nil => exact Performs.pure PUnit.unit
  | cons item rest ih =>
      change Performs perform (body item >>= fun _ => rest.forM body)
        ([command item] ++ rest.map command) store
      apply Performs.bind (each item rest store start)
      intro _ after done
      exact ih (onward item rest store after start (perform_of_run done))

end Loops

end Performing

end Async.Replay
