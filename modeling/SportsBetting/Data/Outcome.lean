import Mathlib.Data.List.Basic

/-!
# Outcomes of fallible steps
-/

universe u v

namespace Except

variable {Failure : Type u} {α β : Type v}

/-- A sequence succeeds if and only if both of its parts do. -/
theorem bind_eq_ok {first : Except Failure α} {rest : α → Except Failure β} {result : β} :
    (first >>= rest) = .ok result ↔ ∃ value, first = .ok value ∧ rest value = .ok result := by
  cases first with
  | error failure => simp [bind, Except.bind]
  | ok value => simp [bind, Except.bind]

theorem bind_eq_error {first : Except Failure α} {rest : α → Except Failure β} {failure : Failure} :
    (first >>= rest) = .error failure ↔
      first = .error failure ∨ ∃ value, first = .ok value ∧ rest value = .error failure := by
  cases first with
  | error failure => simp [bind, Except.bind]
  | ok value => simp [bind, Except.bind]

theorem pure_eq_ok {value result : α} :
    (pure value : Except Failure α) = .ok result ↔ value = result := by
  simp [pure, Except.pure]

theorem ite_eq_ok {condition : Prop} [Decidable condition] {body : Except Failure α}
    {otherwise result : α} : (if condition then body else .ok otherwise) = .ok result ↔
      condition ∧ body = .ok result ∨ ¬ condition ∧ otherwise = result := by
  by_cases held : condition
  · simp [held]
  · simp [held]

/-- A traversal succeeds only where every item does, and collects their results. -/
theorem mapM_eq_ok {items : List α} {check : α → Except Failure β} {results : List β}
    (succeeded : items.mapM check = .ok results) :
    (∀ item ∈ items, ∃ result, check item = .ok result) ∧
      ∀ result ∈ results, ∃ item ∈ items, check item = .ok result := by
  induction items generalizing results with
  | nil =>
      obtain rfl := pure_eq_ok.mp succeeded
      simp
  | cons item rest ih =>
      rw [List.mapM_cons] at succeeded
      obtain ⟨result, here, succeeded⟩ := bind_eq_ok.mp succeeded
      obtain ⟨others, later, succeeded⟩ := bind_eq_ok.mp succeeded
      obtain rfl := pure_eq_ok.mp succeeded
      obtain ⟨each, origin⟩ := ih later
      constructor
      · intro other member
        rcases List.mem_cons.mp member with rfl | member
        · exact ⟨result, here⟩
        · exact each other member
      · intro other member
        rcases List.mem_cons.mp member with rfl | member
        · exact ⟨item, List.mem_cons_self, here⟩
        · obtain ⟨source, listed, same⟩ := origin other member
          exact ⟨source, List.mem_cons_of_mem _ listed, same⟩

/-- A successful traversal lists the result of each item. -/
theorem mem_of_mapM_eq_ok {items : List α} {check : α → Except Failure β} {results : List β}
    (succeeded : items.mapM check = .ok results) {item : α} (member : item ∈ items) {result : β}
    (own : check item = .ok result) : result ∈ results := by
  induction items generalizing results with
  | nil => cases member
  | cons first rest ih =>
      rw [List.mapM_cons] at succeeded
      obtain ⟨here, checked, succeeded⟩ := bind_eq_ok.mp succeeded
      obtain ⟨others, later, succeeded⟩ := bind_eq_ok.mp succeeded
      obtain rfl := pure_eq_ok.mp succeeded
      rcases List.mem_cons.mp member with rfl | member
      · rw [own] at checked
        obtain rfl := Except.ok.inj checked
        exact List.mem_cons_self
      · exact List.mem_cons_of_mem _ (ih later member)

/-- What a traversal keeps of each item can be read off its results, in the same order. -/
theorem map_eq_of_mapM_eq_ok {γ : Type*} {items : List α} {check : α → Except Failure β}
    {results : List β} {given : α → γ} {shown : β → γ} (succeeded : items.mapM check = .ok results)
    (kept : ∀ item ∈ items, ∀ result, check item = .ok result → shown result = given item) :
    results.map shown = items.map given := by
  induction items generalizing results with
  | nil =>
      obtain rfl := pure_eq_ok.mp succeeded
      rfl
  | cons item rest ih =>
      rw [List.mapM_cons] at succeeded
      obtain ⟨result, here, succeeded⟩ := bind_eq_ok.mp succeeded
      obtain ⟨others, later, succeeded⟩ := bind_eq_ok.mp succeeded
      obtain rfl := pure_eq_ok.mp succeeded
      have others_ := ih later fun other member => kept other (List.mem_cons_of_mem _ member)
      rw [List.map_cons, List.map_cons, others_, kept item List.mem_cons_self result here]

theorem length_of_mapM_eq_ok {items : List α} {check : α → Except Failure β} {results : List β}
    (succeeded : items.mapM check = .ok results) : results.length = items.length := by
  have same : results.map (fun _ => ()) = items.map fun _ => () :=
    map_eq_of_mapM_eq_ok succeeded fun _ _ _ _ => rfl
  simpa using congrArg List.length same

end Except
