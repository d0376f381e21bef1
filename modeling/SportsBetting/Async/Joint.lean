import SportsBetting.Async.Query

/-!
# Queries beside the calls of a machine

Where the state of a machine holds a store, programs of queries can run among
the programs of the machine, each with its own kind of calls.
-/

namespace Async

universe u v

inductive Joint (Call : Type → Type u) (Other : Type → Type v) (Reply : Type) : Type (max u v) where
  | own (call : Call Reply)
  | other (call : Other Reply)

namespace Program

variable {Call : Type → Type u} {Wider : Type → Type v} {Failure α β : Type}

/-- The same program, with its calls embedded among others. -/
def mapCalls (embed : {Reply : Type} → Call Reply → Wider Reply) :
    Program Call Failure α → Program Wider Failure α
  | .done outcome => .done outcome
  | .await request next => .await (embed request) fun reply => (next reply).mapCalls embed

variable {embed : {Reply : Type} → Call Reply → Wider Reply}

@[simp] theorem mapCalls_done (outcome : Except Failure α) :
    (Program.done outcome : Program Call Failure α).mapCalls embed = .done outcome := rfl

@[simp] theorem mapCalls_call (request : Call α) :
    (call request : Program Call Failure α).mapCalls embed = call (embed request) := rfl

@[simp] theorem mapCalls_bind (program : Program Call Failure α)
    (next : α → Program Call Failure β) : (program >>= next).mapCalls embed =
      program.mapCalls embed >>= fun value => (next value).mapCalls embed := by
  induction program with
  | done outcome => cases outcome <;> rfl
  | await request continuation ih =>
      simp only [bind_await, mapCalls, ih]

@[simp] theorem mapCalls_handle (program : Program Call Failure α)
    (handler : Failure → Program Call Failure α) : (program.handle handler).mapCalls embed =
      (program.mapCalls embed).handle fun failure => (handler failure).mapCalls embed := by
  induction program with
  | done outcome => cases outcome <;> rfl
  | await request continuation ih =>
      simp only [handle, mapCalls, ih]

@[simp] theorem mapCalls_forM {ι : Type} (body : ι → Program Call Failure PUnit)
    (items : List ι) :
    (items.forM body).mapCalls embed = items.forM fun item => (body item).mapCalls embed := by
  induction items with
  | nil => rfl
  | cons item items ih =>
      refine (mapCalls_bind (body item) fun _ => items.forM body).trans ?_
      rw [ih]
      rfl

@[simp] theorem mapCalls_foldlM {ι : Type} (body : β → ι → Program Call Failure β)
    (items : List ι) (value : β) :
    (items.foldlM body value).mapCalls embed =
      items.foldlM (fun value item => (body value item).mapCalls embed) value := by
  induction items generalizing value with
  | nil => rfl
  | cons item items ih => simp only [List.foldlM_cons, mapCalls_bind, ih]

/-- Calls that are translated back are those from before. -/
theorem mapCalls_mapCalls (back : {Reply : Type} → Wider Reply → Call Reply)
    (same : ∀ {Reply : Type} (request : Call Reply), back (embed request) = request)
    (program : Program Call Failure α) :
    (program.mapCalls embed).mapCalls back = program := by
  induction program with
  | done outcome => rfl
  | await request next ih => simp only [mapCalls, same, ih]

theorem CallsOnly.mapCalls {allowed : {Reply : Type} → Call Reply → Prop}
    {wider : {Reply : Type} → Wider Reply → Prop}
    (sub : ∀ {Reply : Type} (request : Call Reply), allowed request → wider (embed request))
    {program : Program Call Failure α} (only : program.CallsOnly allowed) :
    (program.mapCalls embed).CallsOnly wider := by
  induction program with
  | done outcome => trivial
  | await request next ih => exact ⟨sub request only.1, fun reply => ih reply (only.2 reply)⟩

end Program

section Machine

variable {Call : Type → Type u} {Failure Store : Type}

/-- Where a machine keeps a store, and which faults its queries meet. -/
structure Keeping (machine : Machine Call Failure) (Store : Type) where
  store : machine.State → Store
  update : machine.State → Store → machine.State
  fault : machine.Choice → Fault

/-- The machine, open to programs of queries on its store. -/
@[reducible] def Machine.withQueries (machine : Machine Call Failure)
    (keeping : Keeping machine Store) (lost : Failure) :
    Machine (Joint Call (Query Store Failure)) Failure where
  State := machine.State
  Choice := machine.Choice
  Event := machine.Event
  perform choice request state :=
    match request with
    | .own call => machine.perform choice call state
    | .other query =>
        let answer := (Query.machine Store lost).perform (keeping.fault choice) query
          (keeping.store state)
        (answer.1, keeping.update state answer.2)
  occur := machine.occur

end Machine

section Server

variable {Call : Type → Type u} {Failure Store : Type}

/-- Calls and queries on one state, each with its own meaning. -/
structure Server (Call : Type → Type u) (Failure Store : Type) where
  State : Type
  Event : Type
  run : {Reply : Type} → Call Reply → State → Except Failure Reply × State
  store : State → Store
  update : State → Store → State
  occur : Event → State → State
  /-- What a request that meets a fault is answered with. -/
  lost : Failure

namespace Server

variable (server : Server Call Failure Store) {Reply : Type}

/-- A request that meets no fault. -/
@[reducible] def answer (request : Joint Call (Query Store Failure) Reply) (state : server.State) :
    Except Failure Reply × server.State :=
  match request with
  | .own call => server.run call state
  | .other query =>
      let answer := query (server.store state)
      (answer.1, server.update state answer.2)

/-- A request may be refused, or carried out with its reply lost. -/
@[reducible] def machine : Machine (Joint Call (Query Store Failure)) Failure where
  State := server.State
  Choice := Fault
  Event := server.Event
  perform fault request state :=
    match fault with
    | .none => server.answer request state
    | .refused => (.error server.lost, state)
    | .unacknowledged => (.error server.lost, (server.answer request state).2)
  occur := server.occur

variable {server}

variable (server) in
/-- A request is carried out, or leaves everything as it is. -/
theorem perform_cases (fault : Fault) (request : Joint Call (Query Store Failure) Reply)
    (state : server.State) :
    (server.machine.perform fault request state).2 = state ∨ fault ≠ .refused ∧
      (server.machine.perform fault request state).2 = (server.answer request state).2 := by
  cases fault with
  | refused => exact .inl rfl
  | none => exact .inr ⟨by simp, rfl⟩
  | unacknowledged => exact .inr ⟨by simp, rfl⟩

variable (server) in
/-- A request that returns has met no fault. -/
theorem perform_ok {fault : Fault} {request : Joint Call (Query Store Failure) Reply}
    {state : server.State} {value : Reply}
    (returned : (server.machine.perform fault request state).1 = .ok value) :
    server.machine.perform fault request state = server.answer request state := by
  cases fault with
  | none => rfl
  | refused => cases returned
  | unacknowledged => cases returned

end Server

end Server

end Async
