import SportsBetting.Async.Query

/-!
# Invariants with a window

Two queries that belong together break an invariant between them. It then holds wherever
the program is not about to issue the second one, if neither of them is cut off from the other.
-/

namespace Async

variable {Store Failure α β Reply : Type}

/-- The invariant may fail where a closing query comes next. Faults are limited. -/
def Query.windowed (lost : Failure) (invariant : Store → Prop)
    (closes : {Reply : Type} → Query Store Failure Reply → Prop)
    (admitted : {Reply : Type} → Fault → Query Store Failure Reply → Prop) :
    Contract (Query.machine Store lost) where
  invariant _ := True
  rely _ before after := after = before
  proper query store := closes query ∨ invariant store
  admits _ fault query := admitted fault query

variable {lost : Failure} {invariant : Store → Prop}
  {closes : {Reply : Type} → Query Store Failure Reply → Prop}
  {admitted : {Reply : Type} → Fault → Query Store Failure Reply → Prop}

theorem Query.windowed_stable :
    (Query.windowed lost invariant closes admitted).Stable where
  refl _ _ := rfl
  trans _ _ _ _ first second := second.trans first
  keeps _ _ _ _ _ _ := trivial
  sound event := nomatch event
  event _ event := nomatch event

/-- Outside of the window, with the result where the program returns. -/
abbrev Closes (lost : Failure) (invariant : Store → Prop)
    (closes : {Reply : Type} → Query Store Failure Reply → Prop)
    (admitted : {Reply : Type} → Fault → Query Store Failure Reply → Prop)
    (post : α → Store → Prop) (program : Program (Query Store Failure) Failure α) (store : Store) :
    Prop :=
  (Query.windowed lost invariant closes admitted).Safe
    (fun outcome after => invariant after ∧ ∀ value, outcome = .ok value → post value after)
    program store

namespace Closes

/-- A program that keeps the invariant all along needs no window. -/
theorem of_upholds {post : α → Store → Prop} {program : Program (Query Store Failure) Failure α}
    {store : Store} (sound : invariant store) (safe : Upholds lost invariant post program store) :
    Closes lost invariant closes admitted post program store := by
  induction program generalizing store with
  | done outcome => exact safe
  | await query next ih =>
      rintro later rfl _
      obtain ⟨kept, rest⟩ := safe later rfl sound
      refine ⟨.inr sound, fun fault _ => ih _ ?_ (rest fault trivial)⟩
      exact (Query.alone_stable lost invariant).keeps query fault later sound kept trivial

theorem pure {post : α → Store → Prop} {value : α} {store : Store} (sound : invariant store)
    (result : post value store) :
    Closes lost invariant closes admitted post (Pure.pure value) store :=
  ⟨sound, fun _ same => Except.ok.inj same ▸ result⟩

theorem bind {middle : α → Store → Prop} {post : β → Store → Prop}
    {program : Program (Query Store Failure) Failure α}
    {next : α → Program (Query Store Failure) Failure β} {store : Store}
    (first : Closes lost invariant closes admitted middle program store)
    (rest : ∀ value after, invariant after → middle value after →
      Closes lost invariant closes admitted post (next value) after) :
    Closes lost invariant closes admitted post (program >>= next) store :=
  Contract.Safe.bind first (fun value after held => rest value after held.1 (held.2 value rfl))
    (fun _ _ held => ⟨held.1, fun _ impossible => nomatch impossible⟩)

theorem void {post : Store → Prop} {program : Program (Query Store Failure) Failure α}
    {store : Store} (safe : Closes lost invariant closes admitted (fun _ after => post after) program
      store) : Closes lost invariant closes admitted (fun _ after => post after) program.void store :=
  bind safe fun _ _ kept done => pure kept done

theorem foldlM {ι : Type} (holds : List ι → β → Store → Prop)
    {body : β → ι → Program (Query Store Failure) Failure β}
    (each : ∀ item rest value store, invariant store → holds (item :: rest) value store →
      Closes lost invariant closes admitted (fun value after => holds rest value after)
        (body value item) store)
    {items : List ι} {value : β} {store : Store} (sound : invariant store)
    (start : holds items value store) :
    Closes lost invariant closes admitted (fun value after => holds [] value after)
      (items.foldlM body value) store := by
  induction items generalizing value store with
  | nil => exact pure sound start
  | cons item rest ih =>
      exact bind (each item rest value store sound start) fun _ _ kept held => ih kept held

/-- Two queries of one window: the invariant comes back with the second. Neither a lost reply
to the first nor a refusal of the second may come between them. -/
theorem pair {First Second : Type} {opening : Query Store Failure First}
    {closing : First → Query Store Failure Second}
    {next : Second → Program (Query Store Failure) Failure α} {post : α → Store → Prop}
    {store : Store} (sound : invariant store) (closed : ∀ first, closes (closing first))
    (held : ¬ admitted .unacknowledged opening)
    (barred : ∀ first, ¬ admitted .refused (closing first))
    (failed : ∀ failure, (opening store).1 = .error failure → invariant (opening store).2)
    (restored : ∀ first, (opening store).1 = .ok first →
      invariant (closing first (opening store).2).2)
    (rest : ∀ first second, (opening store).1 = .ok first →
      (closing first (opening store).2).1 = .ok second →
      Closes lost invariant closes admitted post (next second) (closing first (opening store).2).2) :
    Closes lost invariant closes admitted post
      (Program.call opening >>= fun first => Program.call (closing first) >>= next) store := by
  rintro later rfl _
  refine ⟨.inr sound, fun fault admits => ?_⟩
  cases fault with
  | unacknowledged => exact absurd admits held
  | refused => exact ⟨sound, fun _ impossible => nomatch impossible⟩
  | none =>
      cases answer : opening later with
      | mk outcome middle =>
          cases outcome with
          | error failure =>
              have kept := failed failure (by rw [answer])
              rw [answer] at kept
              simp only [answer]
              exact ⟨kept, fun _ impossible => nomatch impossible⟩
          | ok first =>
              have back := restored first (by rw [answer])
              have tail := rest first
              rw [answer] at back tail
              simp only [answer]
              rintro later rfl _
              refine ⟨.inl (closed first), fun fault admits => ?_⟩
              cases fault with
              | refused => exact absurd admits (barred first)
              | unacknowledged => exact ⟨back, fun _ impossible => nomatch impossible⟩
              | none =>
                  cases reply : closing first later with
                  | mk outcome after =>
                      rw [reply] at back tail
                      simp only [reply]
                      cases outcome with
                      | error failure => exact ⟨back, fun _ impossible => nomatch impossible⟩
                      | ok second => exact tail second rfl rfl

/-- A session that does not stop within the window ends with the invariant. -/
theorem result {session : Session (Query.machine Store lost)} {store : Store}
    {post : Unit → Store → Prop}
    (safe : Closes lost invariant closes admitted post session.program store)
    (followed : Config.Follows
      (fun _ fault query => admitted fault query : Guard (Query.machine Store lost))
      ⟨store, [session.program]⟩ session.moves)
    (outside : ∀ (Reply : Type) (query : Query Store Failure Reply) next,
      (Config.run ⟨store, [session.program]⟩ session.moves).pool = [.await query next] →
        ¬ closes query) :
    invariant (session.result store) := by
  have stable : (Query.windowed lost invariant closes admitted).Stable := Query.windowed_stable
  obtain ⟨rest, left, _, _, still⟩ := Contract.Safe.alone stable
    (fun _ => True) (fun _ _ _ _ _ _ _ => trivial) (fun _ _ _ => trivial)
    (fun _ _ event => nomatch event) trivial trivial safe followed
  cases rest with
  | done outcome => exact still.1
  | await query next =>
      rcases (still _ rfl trivial).1 with closing | sound
      · exact absurd closing (outside _ query next left)
      · exact sound

end Closes

end Async
