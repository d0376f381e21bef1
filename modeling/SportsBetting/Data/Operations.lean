import Mathlib.Data.List.Induction

/-!
# Sequences of operations

Operations act on a state one after the other. What happened in a sequence can be
told from the operations and the states in which they were carried out.
-/

namespace Operations

universe u v

variable {State : Type u} {Op : Type v} (step : State → Op → State) (start : State)

def run (ops : List Op) : State := ops.foldl step start

@[simp] theorem run_nil : run step start [] = start := rfl

@[simp] theorem run_concat (ops : List Op) (op : Op) :
    run step start (ops ++ [op]) = step (run step start ops) op := by
  simp [run]

/-- One of the operations was carried out in a state in which this holds of it. -/
def Happened (ops : List Op) (happening : State → Op → Prop) : Prop :=
  ∃ earlier op later, ops = earlier ++ op :: later ∧ happening (run step start earlier) op

variable {step start} {ops : List Op} {op : Op} {happening : State → Op → Prop}

theorem Happened.mono (happened : Happened step start ops happening) (more : List Op) :
    Happened step start (ops ++ more) happening := by
  obtain ⟨earlier, op, later, rfl, held⟩ := happened
  exact ⟨earlier, op, later ++ more, by simp, held⟩

/-- The last operation is what happened. -/
theorem Happened.last (held : happening (run step start ops) op) :
    Happened step start (ops ++ [op]) happening :=
  ⟨ops, op, [], rfl, held⟩

/-- What holds at first, and after each operation of the operations so far, holds after all. -/
theorem run_invariant {allowed : Op → Prop} {holds : List Op → State → Prop}
    (first : holds [] start)
    (each : ∀ ops op, allowed op → holds ops (run step start ops) →
      holds (ops ++ [op]) (step (run step start ops) op))
    (only : ∀ op ∈ ops, allowed op) : holds ops (run step start ops) := by
  induction ops using List.reverseRecOn with
  | nil => exact first
  | append_singleton ops op ih =>
      rw [run_concat]
      refine each ops op (only op (by simp)) (ih fun other member => only other ?_)
      exact List.mem_append_left _ member

section Each

variable (step)

/-- Every operation meets a condition, in the state in which it is carried out. -/
def Each (condition : State → Op → Prop) : State → List Op → Prop
  | _, [] => True
  | state, op :: ops => condition state op ∧ Each condition (step state op) ops

instance decidableEach {condition : State → Op → Prop}
    [∀ state op, Decidable (condition state op)] :
    (state : State) → (ops : List Op) → Decidable (Each step condition state ops)
  | _, [] => .isTrue trivial
  | state, op :: ops =>
      have : Decidable (Each step condition (step state op) ops) := decidableEach _ ops
      inferInstanceAs (Decidable (condition state op ∧ Each step condition (step state op) ops))

variable {step} {condition other : State → Op → Prop} {invariant : State → Prop} {state : State}

theorem each_append {first second : List Op} : Each step condition state (first ++ second) ↔
    Each step condition state first ∧ Each step condition (run step state first) second := by
  induction first generalizing state with
  | nil => simp [Each]
  | cons op first ih => simp [Each, ih, and_assoc, run]

/-- Two conditions that agree where an invariant holds, which the first of them keeps. -/
theorem each_congr
    (keeps : ∀ state op, invariant state → condition state op → invariant (step state op))
    (same : ∀ state op, invariant state → (condition state op ↔ other state op))
    (first : invariant state) :
    Each step condition state ops ↔ Each step other state ops := by
  induction ops generalizing state with
  | nil => rfl
  | cons op ops ih =>
      rw [Each, Each, ← same state op first]
      apply and_congr_right
      exact fun holds => ih (keeps state op first holds)

end Each

end Operations
