import SportsBetting.Data.Table
import Mathlib.Algebra.BigOperators.Ring.Finset

/-!
# Gathering items into rows

Every item with a key is added to the row of that key, which the first of them starts. A row
is then made of the items with its key, and each item counts in one row.
-/

universe u v w

/-- How items are gathered: the key of an item, the row that it starts, and how it is added. -/
structure Grouping (Item : Type u) {Row : Type v} {Key : Type w} (keyOf : Row → Key) where
  key : Item → Option Key
  start : Item → Row
  add : Row → Item → Row
  key_start : ∀ item wanted, key item = some wanted → keyOf (start item) = wanted
  key_add : ∀ row item, keyOf (add row item) = keyOf row

namespace Grouping

variable {Item : Type u} {Row : Type v} {Key : Type w} {keyOf : Row → Key}

section Rows

variable (grouping : Grouping Item keyOf)

/-- The row that these items make. -/
def row? : List Item → Option Row
  | [] => none
  | first :: rest => some ((first :: rest).foldl grouping.add (grouping.start first))

variable {grouping} {items : List Item} {wanted : Key} {row : Row}

theorem row?_append (items : List Item) (item : Item) : grouping.row? (items ++ [item]) =
    some (grouping.add ((grouping.row? items).getD (grouping.start item)) item) := by
  cases items with
  | nil => rfl
  | cons first rest => simp [row?, List.foldl_append]

/-- The row of the items of a key has that key. -/
theorem key_row? (keyed : ∀ item ∈ items, grouping.key item = some wanted)
    (made : grouping.row? items = some row) : keyOf row = wanted := by
  cases items with
  | nil => cases made
  | cons first rest =>
      obtain rfl := Option.some.inj made
      have kept : ∀ (items : List Item) (row : Row),
          keyOf (items.foldl grouping.add row) = keyOf row := by
        intro items
        induction items with
        | nil => exact fun _ => rfl
        | cons item rest ih => exact fun row => (ih _).trans (grouping.key_add row item)
      exact (kept _ _).trans (grouping.key_start first wanted (keyed first List.mem_cons_self))

end Rows

variable [DecidableEq Key]

section Gathering

variable (grouping : Grouping Item keyOf)

def gatherInto (table : Table Row keyOf) (item : Item) : Table Row keyOf :=
  match grouping.key item with
  | none => table
  | some wanted => table.put (grouping.add ((table.get? wanted).getD (grouping.start item)) item)

def gather (items : List Item) : Table Row keyOf := items.foldl grouping.gatherInto .empty

/-- The items of a row. -/
def members (wanted : Key) (items : List Item) : List Item :=
  items.filter fun item => grouping.key item = some wanted

end Gathering

variable {grouping : Grouping Item keyOf} {items : List Item} {wanted : Key} {row : Row}

theorem members_append (wanted : Key) (items : List Item) (item : Item) :
    grouping.members wanted (items ++ [item]) = if grouping.key item = some wanted then
      grouping.members wanted items ++ [item] else grouping.members wanted items := by
  rw [members, List.filter_append]
  split
  · next keyed => simp [keyed, members]
  · next other => simp [other, members]

theorem key_of_mem_members {item : Item} (member : item ∈ grouping.members wanted items) :
    grouping.key item = some wanted := by
  simpa using (List.mem_filter.mp member).2

/-- Under each key stands the row of its items. -/
theorem get?_gather (items : List Item) (wanted : Key) :
    (grouping.gather items).get? wanted = grouping.row? (grouping.members wanted items) := by
  induction items using List.reverseRecOn generalizing wanted with
  | nil => rfl
  | append_singleton items item ih =>
      have step : grouping.gather (items ++ [item]) =
          grouping.gatherInto (grouping.gather items) item := by
        simp only [gather, List.foldl_append, List.foldl_cons, List.foldl_nil]
      rw [step, members_append, gatherInto]
      cases keyed : grouping.key item with
      | none => simpa using ih wanted
      | some own =>
          dsimp only
          rw [ih own]
          have named : keyOf (grouping.add ((grouping.row? (grouping.members own items)).getD
              (grouping.start item)) item) = own := by
            have all : ∀ other ∈ grouping.members own items ++ [item],
                grouping.key other = some own := by
              intro other member
              rcases List.mem_append.mp member with earlier | last
              · exact key_of_mem_members earlier
              · rw [List.mem_singleton.mp last, keyed]
            exact key_row? all (row?_append _ _)
          rw [Table.get?_put, named]
          by_cases same : own = wanted
          · subst same
            rw [if_pos rfl, if_pos rfl, row?_append]
          · rw [if_neg same, if_neg (fun equal => same (Option.some.inj equal)), ih wanted]

theorem mem_gather : row ∈ grouping.gather items ↔
    grouping.row? (grouping.members (keyOf row) items) = some row := by
  rw [← get?_gather, Table.get?_eq_some_iff, and_iff_left rfl]

/-- Every item with a key has a row. -/
theorem has_gather {item : Item} (member : item ∈ items)
    (keyed : grouping.key item = some wanted) : (grouping.gather items).Has wanted := by
  have own : item ∈ grouping.members wanted items :=
    List.mem_filter.mpr ⟨member, by simpa using keyed⟩
  cases made : grouping.row? (grouping.members wanted items) with
  | none =>
      cases listed : grouping.members wanted items with
      | nil =>
          rw [listed] at own
          cases own
      | cons first rest =>
          rw [listed] at made
          cases made
  | some row =>
      rw [← get?_gather] at made
      exact ⟨row, Table.get?_eq_some_iff.mp made⟩

section Sums

variable {Amount : Type*} [AddCommMonoid Amount]

/-- Where the keys are distinct and complete, every item with a key counts once. -/
theorem sum_members (amount : Item → Amount) {keys : List Key} (distinct : keys.Nodup)
    (complete : ∀ item ∈ items, ∀ wanted, grouping.key item = some wanted → wanted ∈ keys) :
    (keys.map fun wanted => ((grouping.members wanted items).map amount).sum).sum =
      ((items.filter fun item => (grouping.key item).isSome).map amount).sum := by
  rw [← List.sum_toFinset _ distinct]
  induction items with
  | nil => simp [members]
  | cons item rest ih =>
      have others := ih fun other member => complete other (List.mem_cons_of_mem _ member)
      cases keyed : grouping.key item with
      | none => simpa [members, keyed] using others
      | some own =>
          have listed := complete item List.mem_cons_self own keyed
          have split : ∀ wanted, ((grouping.members wanted (item :: rest)).map amount).sum =
              (if own = wanted then amount item else 0) +
                ((grouping.members wanted rest).map amount).sum := by
            intro wanted
            by_cases same : own = wanted
            · simp [members, keyed, same]
            · simp [members, keyed, same]
          simp only [split, Finset.sum_add_distrib, others]
          rw [Finset.sum_ite_eq, if_pos (List.mem_toFinset.mpr listed)]
          simp [keyed]

/-- **The rows add up to the items**, whatever is counted. -/
theorem sum_gather (amount : Item → Amount) (items : List Item) :
    ((grouping.gather items).rows.map fun row =>
      ((grouping.members (keyOf row) items).map amount).sum).sum =
      ((items.filter fun item => (grouping.key item).isSome).map amount).sum := by
  have complete : ∀ item ∈ items, ∀ wanted, grouping.key item = some wanted →
      wanted ∈ (grouping.gather items).rows.map keyOf := by
    intro item member wanted keyed
    obtain ⟨row, stored, named⟩ := has_gather member keyed
    exact List.mem_map.mpr ⟨row, stored, named⟩
  have rows := sum_members amount (grouping.gather items).unique complete
  rwa [List.map_map] at rows

end Sums

section Lists

variable (keyed : Item → Key)

/-- Each row lists the items of its key. -/
def listing : Grouping Item (Prod.fst : Key × List Item → Key) where
  key item := some (keyed item)
  start item := (keyed item, [])
  add row item := (row.1, row.2 ++ [item])
  key_start _ _ same := Option.some.inj same
  key_add _ _ := rfl

omit [DecidableEq Key] in
theorem row?_listing (items : List Item) :
    (listing keyed).row? items = items.head?.map fun first => (keyed first, items) := by
  have added : ∀ (items : List Item) (row : Key × List Item),
      items.foldl (listing keyed).add row = (row.1, row.2 ++ items) := by
    intro items
    induction items with
    | nil => simp
    | cons item rest ih =>
        intro row
        rw [List.foldl_cons, ih]
        simp [listing]
  cases items with
  | nil => rfl
  | cons first rest => exact congrArg some (added _ _)

variable {keyed} {row : Key × List Item}

theorem items_of_mem_listing (member : row ∈ (listing keyed).gather items) :
    row.2 = items.filter fun item => keyed item = row.1 := by
  have made := mem_gather.mp member
  rw [row?_listing] at made
  obtain ⟨first, _, same⟩ := Option.map_eq_some_iff.mp made
  refine (congrArg Prod.snd same).symm.trans ?_
  simp [members, listing]

/-- An item is listed under its key only. -/
theorem mem_listing {item : Item} :
    (∃ row ∈ (listing keyed).gather items, row.1 = wanted ∧ item ∈ row.2) ↔
      item ∈ items ∧ keyed item = wanted := by
  constructor
  · rintro ⟨row, member, rfl, listed⟩
    rw [items_of_mem_listing member] at listed
    simpa using listed
  · rintro ⟨listed, rfl⟩
    obtain ⟨row, member, named⟩ : ((listing keyed).gather items).Has (keyed item) :=
      has_gather listed rfl
    refine ⟨row, member, named, ?_⟩
    rw [items_of_mem_listing member]
    simpa [named] using listed

end Lists

end Grouping
