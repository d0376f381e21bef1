import SportsBetting.Async.RelyGuarantee
import Mathlib.Data.List.Induction

/-!
# Journals

A machine keeps rows, and a journal of what was done to them. One call changes rows and a
later one adds the note, so a program that stops in between, or whose note is refused,
leaves a change of which the journal says nothing.
-/

namespace Async

universe u

variable {Call : Type → Type u} {Failure : Type}

/-- Where a machine keeps its rows and its notes; events touch neither. -/
structure Journal (machine : Machine Call Failure) (Rows Note : Type) where
  rows : machine.State → Rows
  notes : machine.State → List Note
  rows_occur : ∀ event state, rows (machine.occur event state) = rows state
  notes_occur : ∀ event state, notes (machine.occur event state) = notes state

namespace Journal

variable {machine : Machine Call Failure} {Rows Note : Type} (journal : Journal machine Rows Note)

/-- Where the call can add a note, it does. -/
def Keeps (state : machine.State) (choice : machine.Choice) {Reply : Type} (request : Call Reply) :
    Prop :=
  (∃ other, journal.notes (machine.perform other request state).2 ≠ journal.notes state) →
    journal.notes (machine.perform choice request state).2 ≠ journal.notes state

/-- No note is refused. -/
def guard : Guard machine := fun config choice request => journal.Keeps config.state choice request

/-- The program has not returned, and rows have changed since the last note. -/
def Interrupted (config : Config machine) (moves : List (Move machine)) : Prop :=
  ¬ (config.run moves).Returned 0 ∧ ∃ earlier later, moves = earlier ++ later ∧
    journal.notes (config.run earlier).state = journal.notes (config.run moves).state ∧
    journal.rows (config.run earlier).state ≠ journal.rows (config.run moves).state

/-- A note of the kind was made since the start. -/
def Since (start : machine.State) (kind : Note → Prop) (state : machine.State) : Prop :=
  ∃ made, journal.notes state = journal.notes start ++ made ∧ ∃ note ∈ made, kind note

/-- Whenever a note was made, the rows are accounted for. -/
@[reducible] def accounting (start : machine.State) (accounted : machine.State → Prop) :
    Contract machine where
  invariant state := journal.notes start <+: journal.notes state
  rely _ before after :=
    journal.rows after = journal.rows before ∧ journal.notes after = journal.notes before
  proper request state := ∀ choice, journal.Keeps state choice request →
    journal.notes state <+: journal.notes (machine.perform choice request state).2 ∧
      (journal.notes (machine.perform choice request state).2 ≠ journal.notes state →
        accounted (machine.perform choice request state).2)
  admits state choice request := journal.Keeps state choice request

variable {journal} {start : machine.State} {accounted : machine.State → Prop} {α : Type}

section Notes

variable {kind : Note → Prop} {state after : machine.State}

theorem Since.extend (since : journal.Since start kind state)
    (extended : journal.notes state <+: journal.notes after) : journal.Since start kind after := by
  obtain ⟨made, notes, note, member, meant⟩ := since
  obtain ⟨more, notes'⟩ := extended
  refine ⟨made ++ more, ?_, note, List.mem_append_left more member, meant⟩
  rw [← notes', notes, List.append_assoc]

theorem since_of_append {note : Note} (sound : journal.notes start <+: journal.notes state)
    (added : journal.notes after = journal.notes state ++ [note]) (meant : kind note) :
    journal.Since start kind after := by
  obtain ⟨made, notes⟩ := sound
  refine ⟨made ++ [note], ?_, note, by simp, meant⟩
  rw [added, ← notes, List.append_assoc]

variable (journal) in
/-- The call adds no note. -/
def Quiet {Reply : Type} (request : Call Reply) : Prop :=
  ∀ choice state, journal.notes (machine.perform choice request state).2 = journal.notes state

variable (journal kind) in
/-- The call adds no note but one of the kind. -/
def Adds {Reply : Type} (request : Call Reply) : Prop :=
  ∀ choice state, journal.notes (machine.perform choice request state).2 = journal.notes state ∨
    ∃ note, kind note ∧
      journal.notes (machine.perform choice request state).2 = journal.notes state ++ [note]

theorem Quiet.proper {Reply : Type} {request : Call Reply} (quiet : journal.Quiet request)
    (state : machine.State) : (journal.accounting start accounted).proper request state := by
  intro choice _
  have same := quiet choice state
  exact ⟨same ▸ List.prefix_refl _, fun noted => absurd same noted⟩

theorem Adds.quiet {Reply : Type} {request : Call Reply}
    (adds : journal.Adds (fun _ => False) request) : journal.Quiet request := by
  intro choice state
  exact (adds choice state).resolve_right fun ⟨_, impossible, _⟩ => impossible

theorem Adds.proper {Reply : Type} {request : Call Reply} (adds : journal.Adds kind request)
    (accounts : ∀ state, journal.Since start kind state → accounted state)
    (sound : journal.notes start <+: journal.notes state) :
    (journal.accounting start accounted).proper request state := by
  intro choice _
  rcases adds choice state with same | ⟨note, meant, added⟩
  · exact ⟨same ▸ List.prefix_refl _, fun noted => absurd same noted⟩
  · refine ⟨⟨[note], added.symm⟩, fun _ => accounts _ (since_of_append sound added meant)⟩

end Notes

section Programs

variable {kind : Note → Prop}

variable (journal) in
/-- The call changes neither rows nor notes. -/
def Still {Reply : Type} (request : Call Reply) : Prop := ∀ choice state,
  journal.rows (machine.perform choice request state).2 = journal.rows state ∧
    journal.notes (machine.perform choice request state).2 = journal.notes state

theorem Still.quiet {Reply : Type} {request : Call Reply} (still : journal.Still request) :
    journal.Quiet request := fun choice state => (still choice state).2

theorem Still.adds {Reply : Type} {request : Call Reply} (still : journal.Still request) :
    journal.Adds kind request := fun choice state => .inl (still choice state).2

variable (journal kind) in
/-- The call adds a note of the kind, unless that is refused. -/
def Makes {Reply : Type} (request : Call Reply) : Prop := ∀ choice state,
  journal.Keeps state choice request → ∃ note, kind note ∧
    journal.notes (machine.perform choice request state).2 = journal.notes state ++ [note]

theorem Adds.makes {Reply : Type} {request : Call Reply} (adds : journal.Adds kind request)
    (can : machine.Choice → ∀ state, ∃ other,
      journal.notes (machine.perform other request state).2 ≠ journal.notes state) :
    journal.Makes kind request :=
  fun choice state keeps => (adds choice state).resolve_left (keeps (can choice state))

variable (journal kind) in
/-- On every way to a value, the program makes a note of the kind. -/
def MakesNote : Program Call Failure α → Prop
  | .done outcome => ∀ value, outcome ≠ .ok value
  | .await request next => journal.Adds kind request ∧
      (journal.Makes kind request ∧ (∀ reply, (next reply).CallsOnly (journal.Adds kind)) ∨
        ∀ reply, MakesNote (next reply))

variable (journal kind) in
/-- On every way to a value on which the program changes rows, it makes a note of the kind. -/
def NotesChanges : Program Call Failure α → Prop
  | .done _ => True
  | .await request next => journal.Still request ∧ (∀ reply, NotesChanges (next reply)) ∨
      journal.MakesNote kind (.await request next)

variable {β : Type} {program : Program Call Failure α} {next : α → Program Call Failure β}

/-- What comes before the note may change rows. -/
theorem MakesNote.bind (first : program.CallsOnly (journal.Adds kind))
    (rest : ∀ value, journal.MakesNote kind (next value)) :
    journal.MakesNote kind (program >>= next) := by
  induction program with
  | done outcome =>
      cases outcome with
      | ok value => exact rest value
      | error failure => exact fun _ impossible => by cases impossible
  | await request continuation ih => exact ⟨first.1, .inr fun reply => ih reply (first.2 reply)⟩

theorem MakesNote.bind_made (first : journal.MakesNote kind program)
    (rest : ∀ value, (next value).CallsOnly (journal.Adds kind)) :
    journal.MakesNote kind (program >>= next) := by
  induction program with
  | done outcome =>
      cases outcome with
      | ok value => exact absurd rfl (first value)
      | error failure => exact fun _ impossible => by cases impossible
  | await request continuation ih =>
      refine ⟨first.1, first.2.imp (fun made => ⟨made.1, fun reply => ?_⟩) fun later reply => ?_⟩
      · exact (made.2 reply).bind rest
      · exact ih reply (later reply)

/-- A note whose failure is caught. -/
theorem MakesNote.handle {request : Call α} (adds : journal.Adds kind request)
    (makes : journal.Makes kind request) {handler : Failure → Program Call Failure α}
    (caught : ∀ failure, (handler failure).CallsOnly (journal.Adds kind)) :
    journal.MakesNote kind ((Program.call request).handle handler) :=
  ⟨adds, .inl ⟨makes, fun _ => Program.CallsOnly.handle trivial caught⟩⟩

theorem MakesNote.notesChanges (makes : journal.MakesNote kind program) :
    journal.NotesChanges kind program := by
  cases program with
  | done outcome => trivial
  | await request next => exact .inr makes

theorem NotesChanges.bind (first : program.CallsOnly journal.Still)
    (rest : ∀ value, journal.NotesChanges kind (next value)) :
    journal.NotesChanges kind (program >>= next) := by
  induction program with
  | done outcome =>
      cases outcome with
      | ok value => exact rest value
      | error failure => trivial
  | await request continuation ih => exact .inl ⟨first.1, fun reply => ih reply (first.2 reply)⟩

/-- Where the program returns, the rows are accounted for. -/
abbrev Returns (accounted : machine.State → Prop) (outcome : Except Failure α)
    (state : machine.State) : Prop := ∀ value, outcome = .ok value → accounted state

theorem returns_error {failure : Failure} {state : machine.State} :
    Returns accounted (.error failure : Except Failure α) state := fun _ impossible => by cases impossible

theorem safe_void {state : machine.State}
    (safe : (journal.accounting start accounted).Safe (Returns accounted) program state) :
    (journal.accounting start accounted).Safe (Returns accounted) program.void state :=
  Contract.Safe.bind safe (fun value _ held => Contract.Safe.done fun _ _ => held value rfl)
    fun _ _ _ => returns_error

theorem safe_since (accounts : ∀ state, journal.Since start kind state → accounted state)
    (only : program.CallsOnly (journal.Adds kind)) {state : machine.State}
    (since : journal.Since start kind state) :
    (journal.accounting start accounted).Safe (fun _ after => journal.Since start kind after)
      program state := by
  induction program generalizing state with
  | done outcome => exact since
  | await request next ih =>
      intro later waited sound
      have proper := only.1.proper accounts sound
      refine ⟨proper, fun choice keeps => ih _ (only.2 _) ?_⟩
      exact (since.extend ⟨[], by rw [List.append_nil, waited.2]⟩).extend (proper choice keeps).1

theorem MakesNote.safe (accounts : ∀ state, journal.Since start kind state → accounted state)
    (makes : journal.MakesNote kind program) (state : machine.State) :
    (journal.accounting start accounted).Safe (Returns accounted) program state := by
  induction program generalizing state with
  | done outcome => exact fun value same => absurd same (makes value)
  | await request next ih =>
      intro later _ sound
      refine ⟨makes.1.proper accounts sound, fun choice keeps => ?_⟩
      rcases makes.2 with ⟨made, only⟩ | later
      · obtain ⟨note, meant, added⟩ := made choice _ keeps
        exact Contract.Safe.mono (fun _ _ since _ _ => accounts _ since)
          (safe_since accounts (only _) (since_of_append sound added meant))
      · exact ih _ (later _) _

/-- A program that notes its changes accounts for its rows wherever it returns. -/
theorem NotesChanges.safe
    (congruent : ∀ {first second}, journal.rows second = journal.rows first →
      journal.notes second = journal.notes first → accounted first → accounted second)
    (accounts : ∀ state, journal.Since start kind state → accounted state)
    (changes : journal.NotesChanges kind program) {state : machine.State} (now : accounted state) :
    (journal.accounting start accounted).Safe (Returns accounted) program state := by
  induction program generalizing state with
  | done outcome => exact fun _ _ => now
  | await request next ih =>
      rcases changes with ⟨still, rest⟩ | makes
      · intro later waited _
        refine ⟨still.quiet.proper later, fun choice _ => ih _ (rest _) ?_⟩
        have same := still choice later
        exact congruent same.1 same.2 (congruent waited.1 waited.2 now)
      · exact makes.safe accounts state

end Programs

section Run

variable {config : Config machine} {program : Program Call Failure Unit}
  (congruent : ∀ {first second}, journal.rows second = journal.rows first →
    journal.notes second = journal.notes first → accounted first → accounted second)

include congruent

/-- A move keeps what is left of the program safe, and the rows are accounted for where it adds
a note. -/
theorem safe_step (pool : config.pool = [program])
    (safe : (journal.accounting start accounted).Safe (Returns accounted) program config.state)
    (sound : journal.notes start <+: journal.notes config.state) {move : Move machine}
    (permitted : config.Permits journal.guard move) :
    ∃ left, (config.step move).pool = [left] ∧
      (journal.accounting start accounted).Safe (Returns accounted) left (config.step move).state ∧
      journal.notes start <+: journal.notes (config.step move).state ∧
      (journal.notes (config.step move).state ≠ journal.notes config.state →
        accounted (config.step move).state) := by
  rcases config.step_cases move with same | ⟨index, choice, _, request, next, rfl, waiting⟩ |
    ⟨event, rfl⟩
  · rw [same]
    exact ⟨program, pool, safe, sound, fun noted => absurd rfl noted⟩
  · have alone : index = 0 ∧ program = .await request next := by
      rw [pool] at waiting
      cases index with
      | zero => exact ⟨rfl, by simpa using waiting⟩
      | succ index => simp at waiting
    obtain ⟨rfl, rfl⟩ := alone
    obtain ⟨proper, rest⟩ := safe config.state ⟨rfl, rfl⟩ sound
    have keeps := (Config.permits_run waiting).mp permitted
    obtain ⟨extended, adds⟩ := proper choice keeps
    rw [Config.step_run waiting, pool]
    exact ⟨_, rfl, rest choice keeps, sound.trans extended, adds⟩
  · have rows := journal.rows_occur event config.state
    have notes := journal.notes_occur event config.state
    refine ⟨program, pool, ?_, notes ▸ sound, fun noted => absurd notes noted⟩
    cases program with
    | done outcome => exact fun value same => congruent rows notes (safe value same)
    | await request next =>
        exact fun later waited => safe later ⟨waited.1.trans rows, waited.2.trans notes⟩

/-- At every point of a run, the rows were accounted for at a point with the same notes. -/
theorem safe_run (pool : config.pool = [program])
    (safe : (journal.accounting start accounted).Safe (Returns accounted) program config.state)
    (sound : journal.notes start <+: journal.notes config.state) (now : accounted config.state)
    {moves : List (Move machine)} (kept : config.Follows journal.guard moves) :
    (∃ left, (config.run moves).pool = [left] ∧
      (journal.accounting start accounted).Safe (Returns accounted) left (config.run moves).state) ∧
    journal.notes start <+: journal.notes (config.run moves).state ∧
    ∃ earlier later, moves = earlier ++ later ∧
      journal.notes (config.run earlier).state = journal.notes (config.run moves).state ∧
      accounted (config.run earlier).state := by
  induction moves using List.reverseRecOn with
  | nil => exact ⟨⟨program, pool, safe⟩, sound, [], [], rfl, rfl, now⟩
  | append_singleton moves move ih =>
      obtain ⟨before, permitted⟩ := (Config.follows_append _ _ _ _).mp kept
      obtain ⟨⟨left, pool, safe⟩, sound, earlier, later, split, notes, accounted⟩ := ih before
      obtain ⟨left, pool, safe, sound, noted⟩ := safe_step congruent pool safe sound permitted.1
      rw [Config.run_append, Config.run_cons, Config.run_nil]
      refine ⟨⟨left, pool, safe⟩, sound, ?_⟩
      by_cases quiet : journal.notes ((config.run moves).step move).state =
          journal.notes (config.run moves).state
      · exact ⟨earlier, later ++ [move], by rw [split, List.append_assoc], notes.trans quiet.symm,
          accounted⟩
      · refine ⟨moves ++ [move], [], by simp, ?_, ?_⟩
        · rw [Config.run_append]
          rfl
        · rw [Config.run_append]
          exact noted quiet

/-- Where the run of a safe program is not interrupted, the rows are accounted for at its end. -/
theorem accounted_of_uninterrupted (pool : config.pool = [program])
    (safe : (journal.accounting start accounted).Safe (Returns accounted) program config.state)
    (sound : journal.notes start <+: journal.notes config.state) (now : accounted config.state)
    {moves : List (Move machine)} (kept : config.Follows journal.guard moves)
    (whole : ¬ journal.Interrupted config moves) : accounted (config.run moves).state := by
  obtain ⟨⟨left, pool, safe⟩, _, earlier, later, split, notes, held⟩ :=
    safe_run congruent pool safe sound now kept
  by_cases returned : (config.run moves).Returned 0
  · have ended : left = .done (.ok ()) := by
      rw [Config.Returned, pool] at returned
      exact Option.some.inj returned
    rw [ended] at safe
    exact safe () rfl
  · have same : journal.rows (config.run earlier).state = journal.rows (config.run moves).state := by
      by_contra differs
      exact whole ⟨returned, earlier, later, split, notes, differs⟩
    exact congruent same.symm notes.symm held

omit congruent in
/-- A run that has returned was not interrupted. -/
theorem not_interrupted_of_returned {moves : List (Move machine)}
    (returned : (config.run moves).Returned 0) : ¬ journal.Interrupted config moves :=
  fun interrupted => interrupted.1 returned

end Run

end Journal

end Async
