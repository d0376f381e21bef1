import SportsBetting.Data.Paging

/-!
# Cutting a list into slices

The slices of a list are its pages up to the end. They make up the list again, and none of
them is empty or too long.
-/

namespace Slices

open Paging

universe u

variable {α : Type u}

/-- How many slices it takes. -/
def count (size : ℕ) (items : List α) : ℕ := (items.length + size - 1) / size

def slices (size : ℕ) (items : List α) : List (List α) :=
  (List.range (count size items)).map fun index => page size index items

section Slices

variable {size : ℕ} {items slice : List α}

theorem length_le_count (some_size : 0 < size) (items : List α) :
    items.length ≤ count size items * size := by
  have rest := Nat.mod_lt (items.length + size - 1) some_size
  have parts := Nat.div_add_mod' (items.length + size - 1) size
  unfold count
  omega

theorem start_lt_length (some_size : 0 < size) {index : ℕ} (among : index < count size items) :
    index * size < items.length := by
  have reached : (index + 1) * size ≤ items.length + size - 1 :=
    (Nat.le_div_iff_mul_le some_size).mp among
  rw [Nat.succ_mul] at reached
  omega

/-- The first slices make up what they are cut from. -/
theorem flatten_pages (size : ℕ) (items : List α) (pages : ℕ) :
    ((List.range pages).map fun index => page size index items).flatten =
      items.take (pages * size) := by
  induction pages with
  | zero => simp
  | succ pages ih =>
      rw [List.range_succ, List.map_append, List.flatten_append, ih, Nat.succ_mul, List.take_add]
      simp [page]

/-- **The slices make up the list.** -/
theorem flatten_slices (some_size : 0 < size) (items : List α) :
    (slices size items).flatten = items := by
  rw [slices, flatten_pages]
  exact List.take_of_length_le (length_le_count some_size items)

theorem slice_ne_nil (some_size : 0 < size) (member : slice ∈ slices size items) : slice ≠ [] := by
  obtain ⟨index, among, rfl⟩ := List.mem_map.mp member
  have inside := start_lt_length some_size (List.mem_range.mp among)
  apply List.ne_nil_of_length_pos
  rw [page, List.length_take, List.length_drop]
  omega

theorem length_slice_le (member : slice ∈ slices size items) : slice.length ≤ size := by
  obtain ⟨index, _, rfl⟩ := List.mem_map.mp member
  exact List.length_take_le size _

end Slices

section Distinct

variable [DecidableEq α]

theorem nodup_eraseDups (items : List α) : items.eraseDups.Nodup := by
  induction length : items.length using Nat.strong_induction_on generalizing items with
  | _ size ih =>
      cases items with
      | nil => exact List.nodup_nil
      | cons first rest =>
          rw [List.eraseDups_cons, List.nodup_cons]
          constructor
          · rw [List.mem_eraseDups]
            simp
          · apply ih _ _ _ rfl
            rw [← length, List.length_cons]
            exact Nat.lt_succ_of_le (List.length_filter_le _ rest)

end Distinct

end Slices
