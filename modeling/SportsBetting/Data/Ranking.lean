import Mathlib.Data.List.Sort

/-!
# Sorting by a key, with ties broken by a rank
-/

namespace Ranking

universe u v

variable {α : Type u} {β : Type v} [LinearOrder β] {key : α → β} {rank : α → ℕ}

theorem pairwise_sorted (key : α → β)
    [DecidableRel fun first second : α => key first ≤ key second] (items : List α) :
    (items.insertionSort fun first second => key first ≤ key second).Pairwise
      fun first second => key first ≤ key second := by
  have : Std.Total fun first second : α => key first ≤ key second :=
    ⟨fun first second => le_total (key first) (key second)⟩
  have : IsTrans α fun first second => key first ≤ key second := ⟨fun _ _ _ => le_trans⟩
  exact List.pairwise_insertionSort _ _

theorem pairwise_insertionSort (key : α → β) (rank : α → ℕ)
    [DecidableRel fun first second : α =>
      key first < key second ∨ key first = key second ∧ rank first ≤ rank second]
    (items : List α) :
    (items.insertionSort fun first second =>
      key first < key second ∨ key first = key second ∧ rank first ≤ rank second).Pairwise
        fun first second =>
          key first < key second ∨ key first = key second ∧ rank first ≤ rank second := by
  have : Std.Total fun first second : α =>
      key first < key second ∨ key first = key second ∧ rank first ≤ rank second := by
    constructor
    intro first second
    rcases lt_trichotomy (key first) (key second) with less | same | more
    · exact .inl (.inl less)
    · exact (Nat.le_total (rank first) (rank second)).imp
        (fun below => .inr ⟨same, below⟩) fun below => .inr ⟨same.symm, below⟩
    · exact .inr (.inl more)
  have : IsTrans α fun first second : α =>
      key first < key second ∨ key first = key second ∧ rank first ≤ rank second := by
    constructor
    intro first second third before after
    rcases before with less | ⟨same, below⟩
    · exact .inl (after.elim less.trans fun equal => equal.1 ▸ less)
    · exact after.imp (same.trans_lt ·) fun equal => ⟨same.trans equal.1, below.trans equal.2⟩
  exact List.pairwise_insertionSort _ _

/-- In a sorted list, the first item of a kind comes before the others of the kind. -/
theorem before_of_find? {before : α → α → Prop} (refl : ∀ item, before item item) {items : List α}
    {chosen : α → Bool} {first : α} (sorted : items.Pairwise before)
    (found : items.find? chosen = some first) :
    ∀ item ∈ items, chosen item = true → before first item := by
  induction items with
  | nil => simp
  | cons head rest ih =>
      obtain ⟨start, sorted⟩ := List.pairwise_cons.mp sorted
      intro item member kind
      cases hit : chosen head with
      | true =>
          obtain rfl : head = first := by simpa [hit] using found
          rcases List.mem_cons.mp member with rfl | later
          · exact refl item
          · exact start item later
      | false =>
          have apart : item ∈ rest := by
            rcases List.mem_cons.mp member with rfl | later
            · rw [hit] at kind
              cases kind
            · exact later
          exact ih sorted (by simpa [hit] using found) item apart kind

end Ranking
