import SportsBetting.Async.Machine

/-!
# Rely and guarantee for interleaved programs

A contract names an invariant of the state, what a program may rely on while
it waits for the answer of a call, what it promises of the calls it issues, and
which answers are admitted. `Safe` follows one program through all its calls. A
pool of safe programs keeps the invariant as long as no call disturbs what
another program that waits relies on.
-/

namespace Async

universe u

variable {Call : Type → Type u} {Failure : Type}

structure Contract (machine : Machine Call Failure) where
  invariant : machine.State → Prop
  rely : {Reply : Type} → Call Reply → machine.State → machine.State → Prop
  /-- What holds of a call in the state it is issued in. -/
  proper : {Reply : Type} → Call Reply → machine.State → Prop
  admits : {Reply : Type} → machine.State → machine.Choice → Call Reply → Prop

namespace Contract

variable {machine : Machine Call Failure} (contract : Contract machine) {α β : Type}

/-- The calls of a configuration are admitted in its state. -/
def guard : Guard machine := fun config choice request =>
  contract.admits config.state choice request

/-- Whatever the others do while it waits, every call of the program is proper,
and its outcome satisfies `post` in the state where it ends. -/
def Safe (post : Except Failure α → machine.State → Prop) :
    Program Call Failure α → machine.State → Prop
  | .done outcome, state => post outcome state
  | .await request next, state =>
      ∀ later, contract.rely request state later → contract.invariant later →
        contract.proper request later ∧
        ∀ choice, contract.admits later choice request →
          let answer := machine.perform choice request later
          Safe post (next answer.1) answer.2

section Rules

variable {contract}

theorem Safe.done {post : Except Failure α → machine.State → Prop}
    {outcome : Except Failure α} {state : machine.State} (ended : post outcome state) :
    contract.Safe post (.done outcome) state := ended

theorem Safe.mono {post wider : Except Failure α → machine.State → Prop}
    (sub : ∀ outcome state, post outcome state → wider outcome state)
    {program : Program Call Failure α} {state : machine.State}
    (safe : contract.Safe post program state) : contract.Safe wider program state := by
  induction program generalizing state with
  | done outcome => exact sub outcome state safe
  | await request next ih =>
      intro later waited sound
      obtain ⟨proper, rest⟩ := safe later waited sound
      exact ⟨proper, fun choice admitted => ih _ (rest choice admitted)⟩

theorem Safe.bind {middle : Except Failure α → machine.State → Prop}
    {post : Except Failure β → machine.State → Prop} {program : Program Call Failure α}
    {next : α → Program Call Failure β} {state : machine.State}
    (first : contract.Safe middle program state)
    (rest : ∀ value state, middle (.ok value) state → contract.Safe post (next value) state)
    (failed : ∀ failure state, middle (.error failure) state → post (.error failure) state) :
    contract.Safe post (program >>= next) state := by
  induction program generalizing state with
  | done outcome =>
      cases outcome with
      | error failure => exact failed failure state first
      | ok value => exact rest value state first
  | await request continuation ih =>
      intro later waited sound
      obtain ⟨proper, tail⟩ := first later waited sound
      exact ⟨proper, fun choice admitted => ih _ (tail choice admitted)⟩

theorem Safe.handle (middle : Except Failure α → machine.State → Prop)
    {post : Except Failure α → machine.State → Prop} {program : Program Call Failure α} {handler : Failure → Program Call Failure α}
    {state : machine.State} (body : contract.Safe middle program state)
    (returned : ∀ value state, middle (.ok value) state → post (.ok value) state)
    (caught : ∀ failure state, middle (.error failure) state →
      contract.Safe post (handler failure) state) :
    contract.Safe post (program.handle handler) state := by
  induction program generalizing state with
  | done outcome =>
      cases outcome with
      | error failure => exact caught failure state body
      | ok value => exact returned value state body
  | await request continuation ih =>
      intro later waited sound
      obtain ⟨proper, tail⟩ := body later waited sound
      exact ⟨proper, fun choice admitted => ih _ (tail choice admitted)⟩

/-- One awaited call. -/
theorem Safe.call {post : Except Failure α → machine.State → Prop} {request : Call α}
    {state : machine.State}
    (each : ∀ later, contract.rely request state later → contract.invariant later →
      contract.proper request later ∧ ∀ choice, contract.admits later choice request →
        post (machine.perform choice request later).1 (machine.perform choice request later).2) :
    contract.Safe post (Program.call request) state := each

/-- A loop whose body keeps `holds` from item to item. -/
theorem Safe.foldlM {ι : Type} (holds : List ι → β → machine.State → Prop)
    {post : Except Failure β → machine.State → Prop} {body : β → ι → Program Call Failure β}
    (each : ∀ item rest value state, holds (item :: rest) value state →
      contract.Safe (fun outcome after =>
        match outcome with
        | .ok value => holds rest value after
        | .error failure => post (.error failure) after) (body value item) state)
    (finished : ∀ value state, holds [] value state → post (.ok value) state)
    {items : List ι} {value : β} {state : machine.State} (start : holds items value state) :
    contract.Safe post (items.foldlM body value) state := by
  induction items generalizing value state with
  | nil => exact finished value state start
  | cons item rest ih =>
      apply Safe.bind (each item rest value state start)
      · intro value state held
        exact ih held
      · intro failure state held
        exact held

/-- A loop for its effect only, whose body keeps `holds`. -/
theorem Safe.forM {ι : Type} {holds : machine.State → Prop}
    {post : Except Failure PUnit → machine.State → Prop} {body : ι → Program Call Failure PUnit}
    (each : ∀ item state, holds state → contract.Safe (fun outcome after =>
      match outcome with
      | .ok _ => holds after
      | .error failure => post (.error failure) after) (body item) state)
    (finished : ∀ state, holds state → post (.ok ⟨⟩) state) {items : List ι}
    {state : machine.State} (start : holds state) : contract.Safe post (items.forM body) state := by
  induction items generalizing state with
  | nil => exact finished state start
  | cons item rest ih =>
      apply Safe.bind (each item state start)
      · intro _ state held
        exact ih held
      · intro failure state held
        exact held

/-- A fact that neither the others nor proper calls destroy still holds where the program ends. -/
theorem Safe.frame {post : Except Failure α → machine.State → Prop} {fact : machine.State → Prop}
    (waits : ∀ {Reply : Type} (request : Call Reply) {before after},
      contract.rely request before after → fact before → fact after)
    (calls : ∀ {Reply : Type} (request : Call Reply) choice state, contract.invariant state →
      contract.proper request state → contract.admits state choice request → fact state →
        fact (machine.perform choice request state).2)
    {program : Program Call Failure α} {state : machine.State} (start : fact state)
    (safe : contract.Safe post program state) :
    contract.Safe (fun outcome after => post outcome after ∧ fact after) program state := by
  induction program generalizing state with
  | done outcome => exact ⟨safe, start⟩
  | await request next ih =>
      intro later waited sound
      obtain ⟨proper, rest⟩ := safe later waited sound
      refine ⟨proper, fun choice admitted => ih _ ?_ (rest choice admitted)⟩
      exact calls request choice later sound proper admitted (waits request waited start)

variable (contract) in
/-- A fact that outlasts the waiting and all proper calls. -/
structure Lasting (fact : machine.State → Prop) : Prop where
  waits : ∀ {Reply : Type} (request : Call Reply) {before after},
    contract.rely request before after → fact before → fact after
  calls : ∀ {Reply : Type} (request : Call Reply) choice state, contract.proper request state →
    fact state → fact (machine.perform choice request state).2

theorem Lasting.trivial : contract.Lasting fun _ => True :=
  ⟨fun _ _ _ _ _ => True.intro, fun _ _ _ _ _ => True.intro⟩

theorem Lasting.all {ι : Type} {fact : ι → machine.State → Prop} {items : List ι}
    (lasting : ∀ item, contract.Lasting (fact item)) :
    contract.Lasting fun state => ∀ item ∈ items, fact item state where
  waits request _ _ waited held item member := (lasting item).waits request waited (held item member)
  calls request choice state proper held item member :=
    (lasting item).calls request choice state proper (held item member)

theorem Safe.lasting {post : Except Failure α → machine.State → Prop} {fact : machine.State → Prop}
    {program : Program Call Failure α} {state : machine.State} (lasting : contract.Lasting fact)
    (start : fact state) (safe : contract.Safe post program state) :
    contract.Safe (fun outcome after => post outcome after ∧ fact after) program state :=
  Safe.frame lasting.waits (fun request choice state _ proper _ => lasting.calls request choice state proper)
    start safe

/-- A program of calls that are always proper keeps what neither the others nor these
calls destroy. -/
theorem Safe.of_callsOnly {allowed : {Reply : Type} → Call Reply → Prop}
    {fact : machine.State → Prop}
    (waits : ∀ {Reply : Type} (request : Call Reply) {before after},
      contract.rely request before after → fact before → fact after)
    (proper : ∀ {Reply : Type} (request : Call Reply) state, allowed request →
      contract.proper request state)
    (calls : ∀ {Reply : Type} (request : Call Reply) choice state, allowed request →
      fact state → fact (machine.perform choice request state).2)
    {program : Program Call Failure α} (only : program.CallsOnly allowed) {state : machine.State}
    (start : fact state) : contract.Safe (fun _ after => fact after) program state := by
  induction program generalizing state with
  | done outcome => exact start
  | await request next ih =>
      intro later waited _
      refine ⟨proper request later only.1, fun choice _ => ih _ (only.2 _) ?_⟩
      exact calls request choice later only.1 (waits request waited start)

/-- A program of which nothing but safety is asked. -/
abbrev Runs (program : Program Call Failure α) (state : machine.State) : Prop :=
  contract.Safe (fun _ _ => True) program state

theorem Runs.bind {middle : Except Failure α → machine.State → Prop}
    {program : Program Call Failure α} {next : α → Program Call Failure β}
    {state : machine.State} (first : contract.Safe middle program state)
    (rest : ∀ value state, middle (.ok value) state → contract.Runs (next value) state) :
    contract.Runs (program >>= next) state :=
  Safe.bind first rest fun _ _ _ => trivial

/-- What follows needs nothing from what came first. -/
theorem Runs.seq {program : Program Call Failure α} {next : α → Program Call Failure β}
    {state : machine.State} (first : contract.Runs program state)
    (rest : ∀ value state, contract.Runs (next value) state) :
    contract.Runs (program >>= next) state :=
  Runs.bind first fun value state _ => rest value state

/-- What follows needs only a fact that lasts. -/
theorem Runs.carry {program : Program Call Failure α} {next : α → Program Call Failure β}
    {fact : machine.State → Prop} {state : machine.State} (lasting : contract.Lasting fact)
    (start : fact state) (first : contract.Runs program state)
    (rest : ∀ value state, fact state → contract.Runs (next value) state) :
    contract.Runs (program >>= next) state :=
  Runs.bind (Safe.lasting lasting start first) fun value state held => rest value state held.2

theorem Runs.handle {program : Program Call Failure α} {handler : Failure → Program Call Failure α}
    {state : machine.State} (body : contract.Runs program state)
    (caught : ∀ failure state, contract.Runs (handler failure) state) :
    contract.Runs (program.handle handler) state :=
  Safe.handle (fun _ _ => True) body (fun _ _ _ => trivial) fun failure state _ =>
    caught failure state

theorem Runs.void {program : Program Call Failure α} {state : machine.State}
    (safe : contract.Runs program state) : contract.Runs program.void state :=
  Safe.bind safe (fun _ _ _ => trivial) fun _ _ _ => trivial

theorem Runs.foldlM {ι : Type} {body : β → ι → Program Call Failure β}
    (each : ∀ value item state, contract.Runs (body value item) state) (items : List ι) (value : β)
    (state : machine.State) : contract.Runs (items.foldlM body value) state := by
  induction items generalizing value state with
  | nil => trivial
  | cons item rest ih => exact Runs.bind (each value item state) fun value state _ => ih value state

theorem Safe.runs {post : Except Failure α → machine.State → Prop}
    {program : Program Call Failure α} {state : machine.State}
    (safe : contract.Safe post program state) : contract.Runs program state :=
  Safe.mono (fun _ _ _ => trivial) safe

/-- The rule of consequence: a contract that expects more of the others, and asks less of
the program. -/
structure Entails (contract wider : Contract machine) : Prop where
  rely : ∀ {Reply : Type} (request : Call Reply) {before after},
    wider.rely request before after → contract.rely request before after
  invariant : ∀ {state}, wider.invariant state → contract.invariant state
  proper : ∀ {Reply : Type} (request : Call Reply) {state},
    contract.proper request state → wider.proper request state
  admits : ∀ {Reply : Type} (request : Call Reply) {choice state},
    wider.admits state choice request → contract.admits state choice request

theorem Safe.entails {wider : Contract machine} (entails : contract.Entails wider)
    {post : Except Failure α → machine.State → Prop} {program : Program Call Failure α}
    {state : machine.State} (safe : contract.Safe post program state) :
    wider.Safe post program state := by
  induction program generalizing state with
  | done outcome => exact safe
  | await request next ih =>
      intro later waited sound
      obtain ⟨proper, rest⟩ := safe later (entails.rely request waited) (entails.invariant sound)
      exact ⟨entails.proper request proper, fun choice admitted =>
        ih _ (rest choice (entails.admits request admitted))⟩

variable (contract) in
/-- Both contracts at once. -/
@[reducible] def both (other : Contract machine) : Contract machine where
  invariant state := contract.invariant state ∧ other.invariant state
  rely request before after :=
    contract.rely request before after ∧ other.rely request before after
  proper request state := contract.proper request state ∧ other.proper request state
  admits state choice request := contract.admits state choice request ∧
    other.admits state choice request

/-- A program that is safe under either contract is safe under both. -/
theorem Safe.both {other : Contract machine} {post post' : Except Failure α → machine.State → Prop}
    {program : Program Call Failure α} {state : machine.State}
    (first : contract.Safe post program state) (second : other.Safe post' program state) :
    (contract.both other).Safe (fun outcome after => post outcome after ∧ post' outcome after)
      program state := by
  induction program generalizing state with
  | done outcome => exact ⟨first, second⟩
  | await request next ih =>
      intro later waited sound
      obtain ⟨proper, rest⟩ := first later waited.1 sound.1
      obtain ⟨proper', rest'⟩ := second later waited.2 sound.2
      refine ⟨⟨proper, proper'⟩, fun choice admitted => ?_⟩
      exact ih _ (rest choice admitted.1) (rest' choice admitted.2)

theorem Runs.both {other : Contract machine} {program : Program Call Failure α}
    {state : machine.State} (first : contract.Runs program state)
    (second : other.Runs program state) : (contract.both other).Runs program state :=
  Safe.mono (fun _ _ _ => trivial) (Safe.both first second)

end Rules

/-- What makes a contract sound. For every call, the rely is a preorder that events
respect, and proper calls and events keep the invariant. -/
structure Stable : Prop where
  refl : ∀ {Reply : Type} (request : Call Reply) state, contract.rely request state state
  trans : ∀ {Reply : Type} (request : Call Reply) {first second third},
    contract.rely request first second → contract.rely request second third →
      contract.rely request first third
  keeps : ∀ {Reply : Type} (request : Call Reply) choice state, contract.invariant state →
    contract.proper request state → contract.admits state choice request →
      contract.invariant (machine.perform choice request state).2
  sound : ∀ event state, contract.invariant state →
    contract.invariant (machine.occur event state)
  event : ∀ {Reply : Type} (request : Call Reply) event state, contract.invariant state →
    contract.rely request state (machine.occur event state)

variable {contract} in
theorem Stable.both {other : Contract machine} (first : contract.Stable) (second : other.Stable) :
    (contract.both other).Stable where
  refl request state := ⟨first.refl request state, second.refl request state⟩
  trans request _ _ _ earlier later :=
    ⟨first.trans request earlier.1 later.1, second.trans request earlier.2 later.2⟩
  keeps request choice state sound proper admitted :=
    ⟨first.keeps request choice state sound.1 proper.1 admitted.1,
      second.keeps request choice state sound.2 proper.2 admitted.2⟩
  sound event state held := ⟨first.sound event state held.1, second.sound event state held.2⟩
  event request event state held :=
    ⟨first.event request event state held.1, second.event request event state held.2⟩

/-- Nothing that the program relies on changes from the first state to the second. -/
def Undisturbed (program : Program Call Failure α) (first second : machine.State) : Prop :=
  match program with
  | .done _ => True
  | .await request _ => contract.rely request first second

/-- What a run of safe programs keeps. -/
structure Healthy (config : Config machine) : Prop where
  sound : contract.invariant config.state
  safe : ∀ program ∈ config.pool, contract.Runs program config.state

section Parallel

variable {contract}

/-- A program that waits may be resumed in any state its rely allows. -/
theorem Safe.later (stable : contract.Stable) {program : Program Call Failure α}
    {state after : machine.State} (safe : contract.Runs program state)
    (waited : contract.Undisturbed program state after) : contract.Runs program after := by
  cases program with
  | done outcome => trivial
  | await request next => exact fun later more => safe later (stable.trans request waited more)

/-- The call of a safe program is proper in the state it is issued in. -/
theorem Healthy.proper (stable : contract.Stable) {config : Config machine}
    (healthy : contract.Healthy config) {index : Nat} {Reply : Type} {request : Call Reply}
    {next : Except Failure Reply → Program Call Failure Unit}
    (waiting : config.pool[index]? = some (.await request next)) :
    contract.proper request config.state :=
  (healthy.safe _ (List.mem_of_getElem? waiting) config.state (stable.refl request _)
    healthy.sound).1

/-- An event keeps every program safe. -/
theorem Healthy.event (stable : contract.Stable) {config : Config machine}
    (healthy : contract.Healthy config) (event : machine.Event) :
    contract.Healthy (config.step (.occur event)) := by
  refine ⟨stable.sound event _ healthy.sound, fun program member => ?_⟩
  apply (healthy.safe program member).later stable
  cases program with
  | done outcome => trivial
  | await request next => exact stable.event request event _ healthy.sound

variable (contract) in
/-- Under the guard, calls are admitted, and none disturbs another program. -/
structure Protects (guard : Guard machine) : Prop where
  admits : ∀ (config : Config machine) choice {Reply : Type} (request : Call Reply),
    guard config choice request → contract.admits config.state choice request
  others : ∀ (config : Config machine) (index : Nat) choice {Reply : Type} (request : Call Reply)
    (next : Except Failure Reply → Program Call Failure Unit),
    config.pool[index]? = some (.await request next) → guard config choice request →
    contract.invariant config.state → contract.proper request config.state →
    ∀ (other : Nat) program, other ≠ index → config.pool[other]? = some program →
      contract.Undisturbed program config.state (machine.perform choice request config.state).2

/-- The parallel rule for one move. -/
theorem Healthy.step (stable : contract.Stable) {guard : Guard machine}
    (protects : contract.Protects guard) {config : Config machine} {move : Move machine}
    (healthy : contract.Healthy config) (permitted : config.Permits guard move) :
    contract.Healthy (config.step move) := by
  rcases config.step_cases move with same | ⟨index, choice, _, request, next, rfl, waiting⟩ |
    ⟨event, rfl⟩
  · rwa [same]
  · have guarded := (Config.permits_run waiting).mp permitted
    have admitted := protects.admits config choice request guarded
    obtain ⟨proper, own⟩ := healthy.safe _ (List.mem_of_getElem? waiting) config.state
      (stable.refl request _) healthy.sound
    rw [Config.step_run waiting]
    refine ⟨stable.keeps request choice _ healthy.sound proper admitted, fun program member => ?_⟩
    obtain ⟨other, found⟩ := List.mem_iff_getElem?.mp member
    by_cases same : other = index
    · subst same
      have bound := (List.getElem?_eq_some_iff.mp waiting).1
      rw [List.getElem?_set_self bound] at found
      rw [← Option.some.inj found]
      exact own choice admitted
    · rw [List.getElem?_set_ne (Ne.symm same)] at found
      exact (healthy.safe program (List.mem_of_getElem? found)).later stable
        (protects.others config index choice request next waiting guarded healthy.sound proper other
          program same found)
  · exact healthy.event stable event

/-- The parallel rule: a pool of safe programs keeps the invariant in every
run under a guard that protects them from each other. -/
theorem Healthy.run (stable : contract.Stable) {guard : Guard machine}
    (protects : contract.Protects guard) {config : Config machine}
    {moves : List (Move machine)} (start : contract.Healthy config)
    (followed : config.Follows guard moves) : contract.Healthy (config.run moves) :=
  Config.run_preserves guard contract.Healthy
    (fun _ _ healthy permitted => healthy.step stable protects permitted) start followed

/-- A guard of the state alone protects programs whose rely is the same for all calls. -/
theorem Protects.of_proper
    (others : ∀ {Reply : Type} (request : Call Reply) choice state, contract.invariant state →
      contract.proper request state → contract.admits state choice request →
      ∀ {Other : Type} (waits : Call Other),
        contract.rely waits state (machine.perform choice request state).2) :
    contract.Protects contract.guard where
  admits _ _ _ _ admitted := admitted
  others config _ choice _ request _ _ admitted sound proper _ program _ _ := by
    cases program with
    | done outcome => trivial
    | await waits next => exact others request choice config.state sound proper admitted waits

/-- A further invariant that proper calls and events keep holds in every run
of a pool of safe programs. -/
theorem Healthy.run_invariant (stable : contract.Stable) {guard : Guard machine}
    (protects : contract.Protects guard) (holds : machine.State → Prop)
    (call : ∀ (config : Config machine) choice {Reply : Type} (request : Call Reply),
      contract.invariant config.state → contract.proper request config.state →
      guard config choice request → holds config.state →
        holds (machine.perform choice request config.state).2)
    (event : ∀ event state, holds state → holds (machine.occur event state))
    {config : Config machine} {moves : List (Move machine)} (start : contract.Healthy config)
    (first : holds config.state) (followed : config.Follows guard moves) :
    contract.Healthy (config.run moves) ∧ holds (config.run moves).state := by
  refine Config.run_preserves guard
    (fun config => contract.Healthy config ∧ holds config.state) ?_ ⟨start, first⟩ followed
  intro config move both permitted
  refine ⟨both.1.step stable protects permitted, ?_⟩
  rcases config.step_cases move with same | ⟨index, choice, _, request, next, rfl, waiting⟩ |
    ⟨happened, rfl⟩
  · rw [same]
    exact both.2
  · rw [Config.step_run waiting]
    exact call config choice request both.1.sound (both.1.proper stable waiting)
      ((Config.permits_run waiting).mp permitted) both.2
  · exact event happened _ both.2

/-- From any point of a run on, the state changes as a relation that proper
calls and events respect. -/
theorem Healthy.run_relates (stable : contract.Stable) {guard : Guard machine}
    (protects : contract.Protects guard) (relation : machine.State → machine.State → Prop)
    (refl : ∀ state, relation state state)
    (trans : ∀ {first second third}, relation first second → relation second third →
      relation first third)
    (call : ∀ {Reply : Type} (request : Call Reply) choice state, contract.invariant state →
      contract.proper request state → contract.admits state choice request →
        relation state (machine.perform choice request state).2)
    (event : ∀ event state, contract.invariant state → relation state (machine.occur event state))
    {config : Config machine} {moves : List (Move machine)} (start : contract.Healthy config)
    (followed : config.Follows guard moves) : relation config.state (config.run moves).state := by
  induction moves generalizing config with
  | nil => exact refl _
  | cons move moves ih =>
      refine trans ?_ (ih (start.step stable protects followed.1) followed.2)
      rcases config.step_cases move with same | ⟨index, choice, _, request, _, rfl, waiting⟩ |
        ⟨happened, rfl⟩
      · rw [same]
        exact refl _
      · have guarded := (Config.permits_run waiting).mp followed.1
        rw [Config.step_run waiting]
        exact call request choice _ start.sound (start.proper stable waiting)
          (protects.admits config choice request guarded)
      · exact event happened _ start.sound

variable (contract) in
/-- All programs are safe, and the outcome of one satisfies `post` from then on. -/
structure Concludes (post : Except Failure Unit → machine.State → Prop) (index : Nat)
    (config : Config machine) : Prop where
  healthy : contract.Healthy config
  safe : ∀ program, config.pool[index]? = some program → contract.Safe post program config.state

/-- The rule for the outcome of one program among others that are safe. -/
theorem Concludes.step {post : Except Failure Unit → machine.State → Prop}
    (stable : contract.Stable) {guard : Guard machine} (protects : contract.Protects guard)
    (lasts : ∀ (config : Config machine) choice {Reply : Type} (request : Call Reply) outcome,
      guard config choice request → contract.invariant config.state →
      contract.proper request config.state → post outcome config.state →
        post outcome (machine.perform choice request config.state).2)
    (event : ∀ event state outcome, contract.invariant state → post outcome state →
      post outcome (machine.occur event state))
    {index : Nat} {config : Config machine} {move : Move machine}
    (concludes : contract.Concludes post index config) (permitted : config.Permits guard move) :
    contract.Concludes post index (config.step move) := by
  refine ⟨concludes.healthy.step stable protects permitted, ?_⟩
  rcases config.step_cases move with same | ⟨moved, choice, _, request, next, rfl, waiting⟩ |
    ⟨happened, rfl⟩
  · rw [same]
    exact concludes.safe
  · have guarded := (Config.permits_run waiting).mp permitted
    have sound := concludes.healthy.sound
    have proper := concludes.healthy.proper stable waiting
    rw [Config.step_run waiting]
    intro program found
    by_cases own : moved = index
    · subst own
      obtain ⟨_, rest⟩ := concludes.safe _ waiting config.state (stable.refl request _) sound
      rw [List.getElem?_set_self (List.getElem?_eq_some_iff.mp waiting).1] at found
      rw [← Option.some.inj found]
      exact rest choice (protects.admits config choice request guarded)
    · rw [List.getElem?_set_ne own] at found
      have safe := concludes.safe program found
      have spared := protects.others config moved choice request next waiting guarded sound proper
        index program (Ne.symm own) found
      cases program with
      | done outcome => exact lasts config choice request outcome guarded sound proper safe
      | await awaited _ => exact fun later more => safe later (stable.trans awaited spared more)
  · intro program found
    have safe := concludes.safe program found
    cases program with
    | done outcome => exact event happened _ outcome concludes.healthy.sound safe
    | await awaited _ =>
        exact fun later more => safe later
          (stable.trans awaited (stable.event awaited happened _ concludes.healthy.sound) more)

theorem Concludes.run {post : Except Failure Unit → machine.State → Prop}
    (stable : contract.Stable) {guard : Guard machine} (protects : contract.Protects guard)
    (lasts : ∀ (config : Config machine) choice {Reply : Type} (request : Call Reply) outcome,
      guard config choice request → contract.invariant config.state →
      contract.proper request config.state → post outcome config.state →
        post outcome (machine.perform choice request config.state).2)
    (event : ∀ event state outcome, contract.invariant state → post outcome state →
      post outcome (machine.occur event state))
    {index : Nat} {config : Config machine} {moves : List (Move machine)}
    (start : contract.Concludes post index config) (followed : config.Follows guard moves) :
    contract.Concludes post index (config.run moves) :=
  Config.run_preserves guard (contract.Concludes post index)
    (fun _ _ concludes permitted => concludes.step stable protects lasts event permitted) start
    followed

variable (contract) in
/-- One program is safe, to an outcome that satisfies `post` from then on, and the others
issue allowed calls only. -/
structure Pursues (allowed : {Reply : Type} → Call Reply → Prop)
    (post : Except Failure Unit → machine.State → Prop) (index : Nat) (config : Config machine) :
    Prop where
  sound : contract.invariant config.state
  safe : ∀ program, config.pool[index]? = some program → contract.Safe post program config.state
  others : ∀ (other : Nat) program, other ≠ index → config.pool[other]? = some program →
    program.CallsOnly allowed

variable (contract) in
/-- What the calls of the others leave to the program that is pursued. -/
structure Spared (allowed : {Reply : Type} → Call Reply → Prop) (guard : Guard machine)
    (post : Except Failure Unit → machine.State → Prop) : Prop where
  admits : ∀ (config : Config machine) choice {Reply : Type} (request : Call Reply),
    guard config choice request → contract.admits config.state choice request
  call : ∀ (config : Config machine) choice {Reply : Type} (request : Call Reply),
    allowed request → guard config choice request → contract.invariant config.state →
    contract.invariant (machine.perform choice request config.state).2 ∧
      ∀ {Other : Type} (waits : Call Other),
        contract.rely waits config.state (machine.perform choice request config.state).2
  lasts : ∀ (config : Config machine) choice {Reply : Type} (request : Call Reply) outcome,
    allowed request → guard config choice request → contract.invariant config.state →
    post outcome config.state → post outcome (machine.perform choice request config.state).2
  event : ∀ event state outcome, contract.invariant state → post outcome state →
    post outcome (machine.occur event state)

/-- The rule for one program among others that do not disturb it. -/
theorem Pursues.step {allowed : {Reply : Type} → Call Reply → Prop} {guard : Guard machine}
    {post : Except Failure Unit → machine.State → Prop} (stable : contract.Stable)
    (spared : contract.Spared allowed guard post)
    {index : Nat} {config : Config machine} {move : Move machine}
    (pursues : contract.Pursues allowed post index config) (permitted : config.Permits guard move) :
    contract.Pursues allowed post index (config.step move) := by
  have others : ∀ (other : Nat) program, other ≠ index →
      (config.step move).pool[other]? = some program → program.CallsOnly allowed := by
    intro other program apart found
    rcases config.step_cases move with same | ⟨moved, choice, _, request, next, rfl, waiting⟩ |
      ⟨event, rfl⟩
    · rw [same] at found
      exact pursues.others other program apart found
    · rw [Config.step_run waiting] at found
      by_cases own : moved = other
      · subst own
        rw [List.getElem?_set_self (List.getElem?_eq_some_iff.mp waiting).1] at found
        rw [← Option.some.inj found]
        exact (pursues.others moved _ apart waiting).2 _
      · rw [List.getElem?_set_ne own] at found
        exact pursues.others other program apart found
    · exact pursues.others other program apart found
  rcases config.step_cases move with same | ⟨moved, choice, _, request, next, rfl, waiting⟩ |
    ⟨event, rfl⟩
  · rwa [same]
  · have guarded := (Config.permits_run waiting).mp permitted
    rw [Config.step_run waiting] at others ⊢
    by_cases own : moved = index
    · subst own
      have admitted := spared.admits config choice request guarded
      obtain ⟨proper, rest⟩ := pursues.safe _ waiting config.state
        (stable.refl request _) pursues.sound
      refine ⟨stable.keeps request choice _ pursues.sound proper admitted, fun program found => ?_,
        others⟩
      rw [List.getElem?_set_self (List.getElem?_eq_some_iff.mp waiting).1] at found
      rw [← Option.some.inj found]
      exact rest choice admitted
    · have issued := (pursues.others moved _ own waiting).1
      obtain ⟨kept, waits⟩ := spared.call config choice request issued guarded pursues.sound
      refine ⟨kept, fun program found => ?_, others⟩
      rw [List.getElem?_set_ne own] at found
      have safe := pursues.safe program found
      cases program with
      | done outcome =>
          exact spared.lasts config choice request outcome issued guarded pursues.sound safe
      | await awaited _ => exact fun later more => safe later (stable.trans awaited (waits awaited) more)
  · refine ⟨stable.sound event _ pursues.sound, fun program found => ?_, others⟩
    have safe := pursues.safe program found
    cases program with
    | done outcome => exact spared.event event _ outcome pursues.sound safe
    | await awaited _ =>
        exact fun later more => safe later
          (stable.trans awaited (stable.event awaited event _ pursues.sound) more)

/-- Where the program has ended, its outcome satisfies `post`. -/
theorem Pursues.run {allowed : {Reply : Type} → Call Reply → Prop} {guard : Guard machine}
    {post : Except Failure Unit → machine.State → Prop} (stable : contract.Stable)
    (spared : contract.Spared allowed guard post)
    {index : Nat} {config : Config machine} {moves : List (Move machine)}
    (start : contract.Pursues allowed post index config) (followed : config.Follows guard moves) :
    contract.Pursues allowed post index (config.run moves) :=
  Config.run_preserves guard (contract.Pursues allowed post index)
    (fun _ _ pursues permitted => pursues.step stable spared permitted) start followed

variable (contract) in
/-- One program is safe, and the others issue allowed calls only. -/
structure Watches (allowed : {Reply : Type} → Call Reply → Prop) (index : Nat)
    (config : Config machine) : Prop where
  sound : contract.invariant config.state
  safe : ∀ program, config.pool[index]? = some program → contract.Runs program config.state
  others : ∀ (other : Nat) program, other ≠ index → config.pool[other]? = some program →
    program.CallsOnly allowed

/-- The rule for one program of which nothing but safety is asked. -/
theorem Watches.step {allowed : {Reply : Type} → Call Reply → Prop} {guard : Guard machine}
    (stable : contract.Stable) (admits : ∀ (config : Config machine) choice {Reply : Type}
      (request : Call Reply), guard config choice request →
        contract.admits config.state choice request)
    (call : ∀ (config : Config machine) choice {Reply : Type} (request : Call Reply),
      allowed request → guard config choice request → contract.invariant config.state →
      contract.invariant (machine.perform choice request config.state).2 ∧
        ∀ {Other : Type} (waits : Call Other),
          contract.rely waits config.state (machine.perform choice request config.state).2)
    {index : Nat} {config : Config machine} {move : Move machine}
    (watches : contract.Watches allowed index config) (permitted : config.Permits guard move) :
    contract.Watches allowed index (config.step move) := by
  have spared : contract.Spared allowed guard fun _ _ => True :=
    ⟨admits, call, fun _ _ _ _ _ _ _ _ _ => trivial, fun _ _ _ _ _ => trivial⟩
  have pursues : contract.Pursues allowed (fun _ _ => True) index config :=
    ⟨watches.sound, watches.safe, watches.others⟩
  have after := pursues.step stable spared permitted
  exact ⟨after.sound, after.safe, after.others⟩

/-- The watched program's call is proper in the state it is issued in. -/
theorem Watches.proper {allowed : {Reply : Type} → Call Reply → Prop} (stable : contract.Stable)
    {index : Nat} {config : Config machine} (watches : contract.Watches allowed index config)
    {Reply : Type} {request : Call Reply}
    {next : Except Failure Reply → Program Call Failure Unit}
    (waiting : config.pool[index]? = some (.await request next)) :
    contract.proper request config.state :=
  (watches.safe _ waiting config.state (stable.refl request _) watches.sound).1

end Parallel

section Sequential

variable {contract}

/-- The sequential rule: a safe program that runs alone, to any point, keeps the
invariant and whatever else its proper calls keep, and what is left of it is safe. -/
theorem Safe.alone (stable : contract.Stable) {post : Except Failure Unit → machine.State → Prop}
    (holds : machine.State → Prop)
    (call : ∀ {Reply : Type} (request : Call Reply) choice state, contract.invariant state →
      contract.proper request state → contract.admits state choice request → holds state →
        holds (machine.perform choice request state).2)
    (event : ∀ event state, holds state → holds (machine.occur event state))
    {program : Program Call Failure Unit} {state : machine.State} {moves : List (Move machine)}
    (later : ∀ outcome state event, contract.invariant state → post outcome state →
      post outcome (machine.occur event state))
    (sound : contract.invariant state) (first : holds state)
    (safe : contract.Safe post program state)
    (followed : Config.Follows contract.guard ⟨state, [program]⟩ moves) :
    ∃ rest, (Config.run ⟨state, [program]⟩ moves).pool = [rest] ∧
      contract.invariant (Config.run ⟨state, [program]⟩ moves).state ∧
      holds (Config.run ⟨state, [program]⟩ moves).state ∧
      contract.Safe post rest (Config.run ⟨state, [program]⟩ moves).state := by
  induction moves generalizing program state with
  | nil => exact ⟨program, rfl, sound, first, safe⟩
  | cons move moves ih =>
      rw [Config.run_cons]
      rcases Config.step_cases ⟨state, [program]⟩ move with
        same | ⟨index, choice, _, request, next, rfl, waiting⟩ | ⟨happened, rfl⟩
      · rw [same]
        apply ih sound first safe
        have rest := followed.2
        rwa [same] at rest
      · have here : index = 0 := by
          have bound := (List.getElem?_eq_some_iff.mp waiting).1
          simpa using bound
        subst here
        have admitted := (Config.permits_run waiting).mp followed.1
        obtain rfl : program = .await request next := by simpa using waiting
        obtain ⟨proper, own⟩ := safe state (stable.refl request state) sound
        have rest := followed.2
        rw [Config.step_run waiting] at rest ⊢
        exact ih (stable.keeps request choice state sound proper admitted)
          (call request choice state sound proper admitted first) (own choice admitted) rest
      · refine ih (stable.sound happened state sound) (event happened state first) ?_ followed.2
        cases program with
        | done outcome => exact later outcome state happened sound safe
        | await request next =>
            exact fun after more =>
              safe after (stable.trans request (stable.event request happened state sound) more)

variable (contract) in
/-- What makes a contract without an invariant sound for a program that runs alone while
such events happen. -/
structure Bears (happens : machine.Event → Prop) : Prop where
  sound : ∀ state, contract.invariant state
  refl : ∀ {Reply : Type} (request : Call Reply) state, contract.rely request state state
  trans : ∀ {Reply : Type} (request : Call Reply) {first second third},
    contract.rely request first second → contract.rely request second third →
      contract.rely request first third
  event : ∀ {Reply : Type} (request : Call Reply) event state, happens event →
    contract.rely request state (machine.occur event state)

/-- A safe program that runs alone among such events is safe wherever it stops. -/
theorem Safe.among {happens : machine.Event → Prop} (bears : contract.Bears happens)
    {post : Except Failure Unit → machine.State → Prop}
    (later : ∀ outcome state event, happens event → post outcome state →
      post outcome (machine.occur event state))
    {program : Program Call Failure Unit} {state : machine.State} {moves : List (Move machine)}
    (events : ∀ event, Move.occur event ∈ moves → happens event)
    (safe : contract.Safe post program state)
    (followed : Config.Follows contract.guard ⟨state, [program]⟩ moves) :
    ∃ rest, (Config.run ⟨state, [program]⟩ moves).pool = [rest] ∧
      contract.Safe post rest (Config.run ⟨state, [program]⟩ moves).state := by
  induction moves generalizing program state with
  | nil => exact ⟨program, rfl, safe⟩
  | cons move moves ih =>
      have others : ∀ event, Move.occur event ∈ moves → happens event :=
        fun event member => events event (List.mem_cons_of_mem _ member)
      rw [Config.run_cons]
      rcases Config.step_cases ⟨state, [program]⟩ move with
        same | ⟨index, choice, _, request, next, rfl, waiting⟩ | ⟨happened, rfl⟩
      · rw [same]
        apply ih others safe
        have rest := followed.2
        rwa [same] at rest
      · have here : index = 0 := by
          have bound := (List.getElem?_eq_some_iff.mp waiting).1
          simpa using bound
        subst here
        have admitted := (Config.permits_run waiting).mp followed.1
        obtain rfl : program = .await request next := by simpa using waiting
        obtain ⟨_, own⟩ := safe state (bears.refl request state) (bears.sound state)
        have rest := followed.2
        rw [Config.step_run waiting] at rest ⊢
        exact ih others (own choice admitted) rest
      · have quiet := events happened List.mem_cons_self
        refine ih others ?_ followed.2
        cases program with
        | done outcome => exact later outcome state happened quiet safe
        | await request next =>
            exact fun after more =>
              safe after (bears.trans request (bears.event request happened state quiet) more)

end Sequential

end Contract

end Async
