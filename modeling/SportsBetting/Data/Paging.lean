import SportsBetting.Data.Ranking
import Mathlib.Data.List.Nodup

/-!
# Pages of a list that is ordered anew for each

Every page is cut out of an ordering of its own. All orderings are by the same
key and leave open how items of equal keys are ordered. No item is lost or
repeated exactly if no two items of equal keys are on two pages.
-/

namespace Paging

universe u v

variable {α : Type u} {β : Type v} [LinearOrder β] (key : α → β)

/-- The list is the items in the order of their keys. -/
structure Sorts (items list : List α) : Prop where
  perm : list.Perm items
  sorted : list.Pairwise fun first second => key first ≤ key second

def page (size index : ℕ) (list : List α) : List α := (list.drop (index * size)).take size

/-- The first pages, each of its own ordering. -/
def browse (size count : ℕ) (orderings : ℕ → List α) : List α :=
  (List.range count).flatMap fun index => page size index (orderings index)

/-- The keys in order, which all orderings share. -/
def sortedKeys (items : List α) : List β := (items.map key).insertionSort (· ≤ ·)

/-- The keys differ across the boundary after so many items. -/
def Divides (items : List α) (boundary : ℕ) : Prop :=
  (sortedKeys key items)[boundary - 1]? ≠ (sortedKeys key items)[boundary]?

instance (items : List α) (boundary : ℕ) : Decidable (Divides key items boundary) :=
  inferInstanceAs (Decidable (_ ≠ _))

variable {key} {items first second : List α} {size count : ℕ}

theorem Sorts.keys (sorts : Sorts key items first) : first.map key = sortedKeys key items := by
  have ordered : (first.map key).Pairwise (· ≤ ·) := List.pairwise_map.mpr sorts.sorted
  have same : (first.map key).Perm (sortedKeys key items) :=
    (sorts.perm.map key).trans (List.perm_insertionSort _ _).symm
  exact same.eq_of_pairwise' ordered (List.pairwise_insertionSort _ _)

variable (key) in
theorem sorts_sorted (items : List α) :
    Sorts key items (items.insertionSort fun first second => key first ≤ key second) where
  perm := List.perm_insertionSort _ _
  sorted := Ranking.pairwise_sorted key items

/-- The two items at a boundary. -/
theorem exists_boundary {boundary : ℕ} (positive : 0 < boundary) (inside : boundary < first.length) :
    ∃ front last next back, first = front ++ last :: next :: back ∧
      front.length + 1 = boundary := by
  refine ⟨first.take (boundary - 1), first[boundary - 1], first[boundary],
    first.drop (boundary + 1), ?_, ?_⟩
  · have split := List.take_append_drop (boundary - 1) first
    rw [List.drop_eq_getElem_cons (by omega), Nat.sub_add_cancel positive,
      List.drop_eq_getElem_cons inside] at split
    exact split.symm
  · rw [List.length_take]
    omega

/-- Whether the keys differ at a boundary can be told from any ordering. -/
theorem Sorts.divides_iff {front back : List α} {last next : α}
    (sorts : Sorts key items (front ++ last :: next :: back)) :
    Divides key items (front.length + 1) ↔ key last ≠ key next := by
  rw [Divides, ← sorts.keys]
  simp

/-- Before a boundary where the keys differ are the items whose keys are small. -/
theorem Sorts.take_eq_filter {front back : List α} {last next : α}
    (sorts : Sorts key items (front ++ last :: next :: back)) (differ : key last ≠ key next) :
    front ++ [last] =
      (front ++ last :: next :: back).filter fun item => key item ≤ key last := by
  have sorted := sorts.sorted
  rw [List.pairwise_append, List.pairwise_cons, List.pairwise_cons] at sorted
  obtain ⟨_, ⟨fromLast, fromNext, _⟩, across⟩ := sorted
  have apart : key last < key next := lt_of_le_of_ne (fromLast next List.mem_cons_self) differ
  have kept : front.filter (fun item => key item ≤ key last) = front := by
    rw [List.filter_eq_self]
    exact fun item member => decide_eq_true (across item member last List.mem_cons_self)
  have dropped : back.filter (fun item => key item ≤ key last) = [] := by
    rw [List.filter_eq_nil_iff]
    intro item member small
    exact absurd (apart.trans_le (fromNext item member)) (not_lt.mpr (of_decide_eq_true small))
  rw [List.filter_append, kept, List.filter_cons_of_pos (by simp),
    List.filter_cons_of_neg (by simpa using apart), dropped]

/-- Two orderings have the same items before a boundary where the keys differ. -/
theorem Sorts.take_perm (one : Sorts key items first) (other : Sorts key items second)
    {boundary : ℕ} (divides : 0 < boundary → boundary < items.length → Divides key items boundary) :
    (first.take boundary).Perm (second.take boundary) := by
  rcases Nat.eq_zero_or_pos boundary with rfl | positive
  · simp
  · by_cases inside : boundary < items.length
    · have differ := divides positive inside
      obtain ⟨front, last, next, back, rfl, length⟩ :=
        exists_boundary positive (one.perm.length_eq.symm ▸ inside)
      obtain ⟨front', last', next', back', rfl, length'⟩ :=
        exists_boundary positive (other.perm.length_eq.symm ▸ inside)
      obtain rfl : front.length + 1 = boundary := length
      have places : front'.length = front.length := Nat.succ.inj length'
      have keys := congrArg (·[front.length]?) (one.keys.trans other.keys.symm)
      have sameKey : key last = key last' := by
        simpa [← places] using keys
      have taken : ∀ (part rest : List α) (item : α),
          (part ++ item :: rest).take (part.length + 1) = part ++ [item] := by
        intro part rest item
        rw [List.append_cons, List.take_left' (by simp)]
      rw [taken, ← places, taken, one.take_eq_filter (one.divides_iff.mp differ),
        other.take_eq_filter (other.divides_iff.mp (places ▸ differ)), sameKey]
      exact (one.perm.trans other.perm.symm).filter _
    · have whole := one.perm.trans other.perm.symm
      rwa [List.take_of_length_le (one.perm.length_eq.trans_le (not_lt.mp inside)),
        List.take_of_length_le (other.perm.length_eq.trans_le (not_lt.mp inside))]

variable (count) in
/-- As long as the keys differ at the boundaries, the first pages hold what any ordering has
there. -/
theorem browse_perm {orderings : ℕ → List α} (sorts : ∀ index, Sorts key items (orderings index))
    (divides : ∀ index, 0 < index → index * size < items.length →
      Divides key items (index * size)) (other : Sorts key items first) :
    (browse size count orderings).Perm (first.take (count * size)) := by
  induction count with
  | zero => simp [browse]
  | succ count ih =>
      have boundary : 0 < count * size → count * size < items.length →
          Divides key items (count * size) := fun positive =>
        divides count (Nat.pos_of_mul_pos_right positive)
      have following : 0 < (count + 1) * size → (count + 1) * size < items.length →
          Divides key items ((count + 1) * size) := fun _ =>
        divides (count + 1) (Nat.succ_pos count)
      have joined : (orderings count).take (count * size) ++
          page size count (orderings count) = (orderings count).take ((count + 1) * size) := by
        rw [page, Nat.succ_mul, List.take_add]
      rw [browse, List.range_succ, List.flatMap_append, List.flatMap_singleton]
      have start := ih.trans (other.take_perm (sorts count) boundary)
      have done := (start.append_right (page size count (orderings count))).trans (.of_eq joined)
      exact done.trans ((sorts count).take_perm other following)

/-- Two items of equal keys at a boundary can change places. -/
theorem Sorts.swap {front back : List α} {last next : α}
    (sorts : Sorts key items (front ++ last :: next :: back)) (same : key last = key next) :
    Sorts key items (front ++ next :: last :: back) where
  perm := ((List.Perm.swap last next back).append_left front).trans sorts.perm
  sorted := by
    have keys : (front ++ next :: last :: back).map key =
        (front ++ last :: next :: back).map key := by
      simp [same]
    have ordered : ((front ++ last :: next :: back).map key).Pairwise (· ≤ ·) :=
      List.pairwise_map.mpr sorts.sorted
    rw [← keys] at ordered
    exact List.pairwise_map.mp ordered

/-- An item on two pages. -/
theorem not_nodup_browse {orderings : ℕ → List α} {earlier later : ℕ} (item : α)
    (order : earlier < later) (shown : later < count)
    (first : item ∈ page size earlier (orderings earlier))
    (again : item ∈ page size later (orderings later)) :
    ¬ (browse size count orderings).Nodup := by
  intro distinct
  have apart := (List.nodup_flatMap.mp distinct).2
  have disjoint := List.pairwise_iff_getElem.mp apart earlier later
    (by simpa using order.trans shown) (by simpa using shown) order
  simp only [List.getElem_range] at disjoint
  exact disjoint first again

/-- Where the keys at a boundary are equal, an item may be on both sides of it. -/
theorem exists_repeating (some_size : 0 < size) {index : ℕ} (positive : 0 < index)
    (inside : index * size < items.length) (same : ¬ Divides key items (index * size)) :
    ∃ orderings : ℕ → List α, (∀ index, Sorts key items (orderings index)) ∧
      ∀ count, index < count → ¬ (browse size count orderings).Nodup := by
  have sorts := sorts_sorted key items
  obtain ⟨front, last, next, back, split, length⟩ :=
    exists_boundary (Nat.mul_pos positive some_size) (sorts.perm.length_eq.symm ▸ inside)
  rw [split] at sorts
  rw [← length, sorts.divides_iff, not_not] at same
  have swapped := sorts.swap same
  refine ⟨fun page => if page < index then front ++ last :: next :: back
    else front ++ next :: last :: back, ?_, ?_⟩
  · intro page
    dsimp only
    split
    · exact sorts
    · exact swapped
  · intro count shown
    have before : (index - 1) * size + (size - 1) = front.length := by
      rw [Nat.sub_mul, Nat.one_mul]
      have below := Nat.le_mul_of_pos_left size positive
      omega
    apply not_nodup_browse last (Nat.sub_lt positive Nat.one_pos) shown
    · rw [if_pos (Nat.sub_lt positive Nat.one_pos)]
      apply List.mem_of_getElem? (i := size - 1)
      rw [page, List.getElem?_take_of_lt (Nat.sub_lt some_size Nat.one_pos), List.getElem?_drop,
        before]
      simp
    · rw [if_neg (lt_irrefl index)]
      apply List.mem_of_getElem? (i := 0)
      rw [page, List.getElem?_take_of_lt some_size, List.getElem?_drop, ← length]
      simp

/-- Where the keys differ at all boundaries, the pages hold each item once. -/
theorem browse_all {orderings : ℕ → List α} (sorts : ∀ index, Sorts key items (orderings index))
    (divides : ∀ index, 0 < index → index * size < items.length →
      Divides key items (index * size)) (enough : items.length ≤ count * size) :
    (browse size count orderings).Perm items := by
  have sorted := sorts_sorted key items
  have shown := browse_perm count sorts divides sorted
  rw [List.take_of_length_le (sorted.perm.length_eq.trans_le enough)] at shown
  exact shown.trans sorted.perm

end Paging
