import SportsBetting.Async.Session

/-!
# Programs of store queries

Here a call is its own meaning: a query that answers and changes a store. A
query may also be refused, or be carried out with its reply lost; both look the
same to the program.
-/

namespace Async

def Query (Store Failure Reply : Type) : Type := Store → Except Failure Reply × Store

inductive Fault | none | refused | unacknowledged
  deriving DecidableEq

namespace Query

variable {Store Failure Reply : Type}

def read (view : Store → Reply) : Query Store Failure Reply := fun store => (.ok (view store), store)

def write (change : Store → Store) : Query Store Failure Unit := fun store => (.ok (), change store)

/-- A write that may be rejected, and then changes nothing. -/
def attempt (change : Store → Except Failure Store) : Query Store Failure Unit := fun store =>
  match change store with
  | .ok after => (.ok (), after)
  | .error failure => (.error failure, store)

/-- A transaction with a reply; where it is rejected, it changes nothing. -/
def transaction (change : Store → Except Failure (Reply × Store)) : Query Store Failure Reply :=
  fun store =>
    match change store with
    | .ok (reply, after) => (.ok reply, after)
    | .error failure => (.error failure, store)

/-- The machine of one store, with the failure that a program sees on a fault. -/
@[reducible] def machine (Store : Type) {Failure : Type} (lost : Failure) :
    Machine (Query Store Failure) Failure where
  State := Store
  Choice := Fault
  Event := Empty
  perform fault query store :=
    match fault with
    | .none => query store
    | .refused => (.error lost, store)
    | .unacknowledged => (.error lost, (query store).2)
  occur event := nomatch event

end Query

section Upholds

variable {Store Failure α β Reply : Type} {lost : Failure} {invariant : Store → Prop}

/-- While the program runs alone, nothing else changes the store. -/
def Query.alone (lost : Failure) (invariant : Store → Prop) :
    Contract (Query.machine Store lost) where
  invariant := invariant
  rely _ before after := after = before
  proper query store := invariant (query store).2
  admits _ _ _ := True

theorem Query.alone_stable (lost : Failure) (invariant : Store → Prop) :
    (Query.alone lost invariant).Stable where
  refl _ _ := rfl
  trans _ _ _ _ first second := second.trans first
  keeps _ fault _ sound kept _ := by
    cases fault with
    | none => exact kept
    | refused => exact sound
    | unacknowledged => exact kept
  sound event := nomatch event
  event _ event := nomatch event

/-- Run alone to any point, the program keeps the invariant; where it returns,
its result satisfies `post`. -/
def Upholds (lost : Failure) (invariant : Store → Prop) (post : α → Store → Prop)
    (program : Program (Query Store Failure) Failure α) (store : Store) : Prop :=
  (Query.alone lost invariant).Safe
    (fun outcome after => invariant after ∧ ∀ value, outcome = .ok value → post value after)
    program store

namespace Upholds

theorem pure {post : α → Store → Prop} {value : α} {store : Store} (sound : invariant store)
    (result : post value store) : Upholds lost invariant post (Pure.pure value) store :=
  ⟨sound, fun _ same => Except.ok.inj same ▸ result⟩

theorem throw {post : α → Store → Prop} {failure : Failure} {store : Store}
    (sound : invariant store) :
    Upholds lost invariant post (MonadExceptOf.throw failure) store :=
  ⟨sound, fun _ impossible => nomatch impossible⟩

theorem mono {post wider : α → Store → Prop} (sub : ∀ value store, post value store →
      wider value store) {program : Program (Query Store Failure) Failure α} {store : Store}
    (safe : Upholds lost invariant post program store) :
    Upholds lost invariant wider program store :=
  Contract.Safe.mono (fun _ _ held => ⟨held.1, fun value same => sub _ _ (held.2 value same)⟩) safe

theorem bind {middle : α → Store → Prop} {post : β → Store → Prop}
    {program : Program (Query Store Failure) Failure α}
    {next : α → Program (Query Store Failure) Failure β} {store : Store}
    (first : Upholds lost invariant middle program store)
    (rest : ∀ value after, invariant after → middle value after →
      Upholds lost invariant post (next value) after) :
    Upholds lost invariant post (program >>= next) store :=
  Contract.Safe.bind first (fun value after held => rest value after held.1 (held.2 value rfl))
    (fun _ _ held => ⟨held.1, fun _ impossible => nomatch impossible⟩)

/-- One query, refused, carried out, or carried out without acknowledgement. -/
theorem call {post : Reply → Store → Prop} {query : Query Store Failure Reply} {store : Store}
    (sound : invariant store) (kept : invariant (query store).2)
    (reply : ∀ value, (query store).1 = .ok value → post value (query store).2) :
    Upholds lost invariant post (Program.call query) store := by
  refine Contract.Safe.call ?_
  rintro later rfl _
  refine ⟨kept, fun fault _ => ?_⟩
  cases fault with
  | none => exact ⟨kept, reply⟩
  | refused => exact ⟨sound, fun _ impossible => nomatch impossible⟩
  | unacknowledged => exact ⟨kept, fun _ impossible => nomatch impossible⟩

/-- Nothing is asked of the program. -/
theorem anything (program : Program (Query Store Failure) Failure α) (store : Store) :
    Upholds lost (fun _ => True) (fun _ _ => True) program store := by
  induction program generalizing store with
  | done outcome => exact ⟨trivial, fun _ _ => trivial⟩
  | await request next ih => exact fun _ _ _ => ⟨trivial, fun _ _ => ih _ _⟩

/-- Queries that keep the invariant wherever it holds may follow each other in any way. -/
theorem of_callsOnly {allowed : {Reply : Type} → Query Store Failure Reply → Prop}
    (kept : ∀ {Reply : Type} (query : Query Store Failure Reply) store, allowed query →
      invariant store → invariant (query store).2)
    {program : Program (Query Store Failure) Failure α} (only : program.CallsOnly allowed)
    {store : Store} (sound : invariant store) :
    Upholds lost invariant (fun _ _ => True) program store := by
  induction program generalizing store with
  | done outcome => exact ⟨sound, fun _ _ => trivial⟩
  | await query next ih =>
      rintro later rfl _
      have after := kept query later only.1 sound
      refine ⟨after, fun fault _ => ih _ (only.2 _) ?_⟩
      exact (Query.alone_stable lost invariant).keeps query fault later sound after trivial

theorem void {post : Store → Prop} {program : Program (Query Store Failure) Failure α}
    {store : Store} (safe : Upholds lost invariant (fun _ after => post after) program store) :
    Upholds lost invariant (fun _ after => post after) program.void store :=
  bind safe fun _ _ kept done => pure kept done

theorem read {view : Store → Reply} {store : Store} (sound : invariant store) :
    Upholds lost invariant (fun value after => after = store ∧ value = view store)
      (Program.call (Query.read view)) store :=
  call sound sound fun _ same => ⟨rfl, (Except.ok.inj same).symm⟩

theorem write {change : Store → Store} {store : Store} (sound : invariant store)
    (kept : invariant (change store)) :
    Upholds lost invariant (fun _ after => after = change store)
      (Program.call (Query.write change)) store :=
  call sound kept fun _ _ => rfl

theorem attempt {change : Store → Except Failure Store} {store : Store} (sound : invariant store)
    (kept : ∀ after, change store = .ok after → invariant after) :
    Upholds lost invariant (fun _ after => change store = .ok after)
      (Program.call (Query.attempt change)) store := by
  cases changed : change store with
  | error failure =>
      refine call sound ?_ ?_
      · simpa [Query.attempt, changed] using sound
      · intro value impossible
        simp [Query.attempt, changed] at impossible
  | ok after =>
      refine call sound ?_ ?_
      · simpa [Query.attempt, changed] using kept after changed
      · simp [Query.attempt, changed]

theorem transaction {change : Store → Except Failure (Reply × Store)} {store : Store}
    (sound : invariant store)
    (kept : ∀ reply after, change store = .ok (reply, after) → invariant after) :
    Upholds lost invariant (fun reply after => change store = .ok (reply, after))
      (Program.call (Query.transaction change)) store := by
  cases changed : change store with
  | error failure =>
      refine call sound ?_ ?_
      · simpa [Query.transaction, changed] using sound
      · intro value impossible
        simp [Query.transaction, changed] at impossible
  | ok result =>
      refine call sound ?_ ?_
      · simpa [Query.transaction, changed] using kept result.1 result.2 changed
      · simp [Query.transaction, changed]

theorem handle {middle post : α → Store → Prop}
    {program : Program (Query Store Failure) Failure α}
    {handler : Failure → Program (Query Store Failure) Failure α} {store : Store}
    (body : Upholds lost invariant middle program store)
    (returned : ∀ value after, middle value after → post value after)
    (caught : ∀ failure after, invariant after →
      Upholds lost invariant post (handler failure) after) :
    Upholds lost invariant post (program.handle handler) store :=
  Contract.Safe.handle _ body
    (fun value _ held => ⟨held.1, fun _ same => Except.ok.inj same ▸ returned _ _ (held.2 value rfl)⟩)
    (fun failure _ held => caught failure _ held.1)

/-- A loop over a list, with what holds before the remaining items. -/
theorem foldlM {ι : Type} (holds : List ι → β → Store → Prop)
    {body : β → ι → Program (Query Store Failure) Failure β}
    (each : ∀ item rest value store, invariant store → holds (item :: rest) value store →
      Upholds lost invariant (holds rest) (body value item) store)
    {items : List ι} {value : β} {store : Store} (sound : invariant store)
    (start : holds items value store) :
    Upholds lost invariant (holds []) (items.foldlM body value) store := by
  induction items generalizing value store with
  | nil => exact pure sound start
  | cons item rest ih =>
      exact bind (each item rest value store sound start) fun _ _ kept held => ih kept held

/-- A loop for its effect only. -/
theorem forM {ι : Type} (holds : List ι → Store → Prop)
    {body : ι → Program (Query Store Failure) Failure PUnit}
    (each : ∀ item rest store, invariant store → holds (item :: rest) store →
      Upholds lost invariant (fun _ after => holds rest after) (body item) store)
    {items : List ι} {store : Store} (sound : invariant store) (start : holds items store) :
    Upholds lost invariant (fun _ after => holds [] after) (items.forM body) store := by
  induction items generalizing store with
  | nil => exact pure sound start
  | cons item rest ih =>
      exact bind (each item rest store sound start) fun _ _ kept held => ih kept held

/-- A stronger invariant may carry a part of the program. -/
theorem weaken {stronger : Store → Prop} {post : α → Store → Prop}
    (implied : ∀ store, stronger store → invariant store)
    {program : Program (Query Store Failure) Failure α} {store : Store} (start : stronger store)
    (safe : Upholds lost stronger post program store) :
    Upholds lost invariant (fun value after => stronger after ∧ post value after) program store := by
  induction program generalizing store with
  | done outcome =>
      exact ⟨implied _ safe.1, fun value same => ⟨safe.1, safe.2 value same⟩⟩
  | await request next ih =>
      rintro later rfl _
      obtain ⟨kept, rest⟩ := safe later rfl start
      refine ⟨implied _ kept, fun fault _ => ih _ ?_ (rest fault trivial)⟩
      exact (Query.alone_stable lost stronger).keeps request fault later start kept trivial

private theorem follows (config : Config (Query.machine Store lost)) (moves) :
    config.Follows (Query.alone lost invariant).guard moves := by
  induction moves generalizing config with
  | nil => trivial
  | cons move moves ih =>
      refine ⟨?_, ih _⟩
      cases move with
      | occur event => trivial
      | run index choice =>
          simp only [Config.Permits]
          split <;> trivial

/-- Wherever the session stops, the invariant holds; where it returned, its
result satisfies `post`. -/
theorem result {session : Session (Query.machine Store lost)} {store : Store}
    {post : Unit → Store → Prop} (sound : invariant store)
    (safe : Upholds lost invariant post session.program store) :
    invariant (session.result store) ∧
      (session.Returned store → post () (session.result store)) := by
  obtain ⟨rest, left, kept, _, still⟩ := Contract.Safe.alone (Query.alone_stable lost invariant)
    (fun _ => True) (fun _ _ _ _ _ _ _ => trivial) (fun _ _ _ => trivial)
    (fun _ _ event => nomatch event) sound trivial safe (follows _ _)
  refine ⟨kept, fun returned => ?_⟩
  unfold Session.Returned at returned
  rw [left] at returned
  obtain rfl : rest = .done (.ok ()) :=
    Program.eq_done_of_outcome (by simpa using returned)
  exact still.2 () rfl

end Upholds

end Upholds

end Async
