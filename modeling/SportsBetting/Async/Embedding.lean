import SportsBetting.Async.Joint
import SportsBetting.Async.RelyGuarantee

/-!
# A machine inside another

The calls of the inner machine are calls of the outer one, on a part of its state. What a
contract of the inner machine says of a program holds of the same program among the calls of
the outer machine.
-/

namespace Async

universe u v

variable {Call : Type → Type u} {Wider : Type → Type v} {Failure α : Type}

/-- The outer machine answers the calls of the inner one as that does on its part. -/
structure Embedding (inner : Machine Call Failure) (outer : Machine Wider Failure) where
  embed : {Reply : Type} → Call Reply → Wider Reply
  part : outer.State → inner.State
  choose : outer.Choice → inner.Choice
  reply : ∀ {Reply : Type} (request : Call Reply) choice state,
    (outer.perform choice (embed request) state).1 =
      (inner.perform (choose choice) request (part state)).1
  after : ∀ {Reply : Type} (request : Call Reply) choice state,
    part (outer.perform choice (embed request) state).2 =
      (inner.perform (choose choice) request (part state)).2

namespace Contract

variable {inner : Machine Call Failure} {outer : Machine Wider Failure}

/-- The outer contract lets the inner program do what the inner contract does. -/
structure Carries (embedding : Embedding inner outer) (narrow : Contract inner)
    (wide : Contract outer) : Prop where
  invariant : ∀ {state}, wide.invariant state → narrow.invariant (embedding.part state)
  rely : ∀ {Reply : Type} (request : Call Reply) {before after},
    wide.rely (embedding.embed request) before after →
      narrow.rely request (embedding.part before) (embedding.part after)
  proper : ∀ {Reply : Type} (request : Call Reply) {state},
    narrow.proper request (embedding.part state) → wide.proper (embedding.embed request) state
  admits : ∀ {Reply : Type} (request : Call Reply) {choice state},
    wide.admits state choice (embedding.embed request) →
      narrow.admits (embedding.part state) (embedding.choose choice) request

variable {embedding : Embedding inner outer} {narrow : Contract inner} {wide : Contract outer}

theorem Safe.mapCalls (carries : Carries embedding narrow wide)
    {post : Except Failure α → inner.State → Prop} {program : Program Call Failure α}
    {state : outer.State} (safe : narrow.Safe post program (embedding.part state)) :
    wide.Safe (fun outcome after => post outcome (embedding.part after))
      (program.mapCalls embedding.embed) state := by
  induction program generalizing state with
  | done outcome => exact safe
  | await request next ih =>
      intro later waited sound
      obtain ⟨proper, rest⟩ := safe (embedding.part later) (carries.rely request waited)
        (carries.invariant sound)
      refine ⟨carries.proper request proper, fun choice admitted => ?_⟩
      have answered := rest (embedding.choose choice) (carries.admits request admitted)
      apply ih
      dsimp only
      rw [embedding.reply, embedding.after]
      exact answered

end Contract

end Async
