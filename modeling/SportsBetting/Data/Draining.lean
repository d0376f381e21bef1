import Mathlib.Data.List.Dedup
import Mathlib.Data.List.Perm.Subperm
import Mathlib.Data.Set.Finite.Lemmas
import Mathlib.Order.Defs.LinearOrder

/-!
# Draining a store group by group

The group of an oldest item is posted as a whole. If it is accepted its items
leave the store and the next group follows, up to a limit; otherwise the run ends.
-/

namespace Draining

inductive Reaction
  | accepted
  | refused
  | unsent
  deriving DecidableEq

structure Depot (Item Group Stamp : Type) where
  group : Item → Group
  stamp : Item → Stamp
  /-- To the items of a group. -/
  reaction : Group → List Item → Reaction

variable {Item Group Stamp : Type} [DecidableEq Group]

namespace Depot

section Runs

variable (depot : Depot Item Group Stamp)

def members (items : List Item) (group : Group) : List Item :=
  items.filter fun item => depot.group item = group

def others (items : List Item) (group : Group) : List Item :=
  items.filter fun item => depot.group item ≠ group

def reactionTo (items : List Item) (group : Group) : Reaction :=
  depot.reaction group (depot.members items group)

/-- A run: its limit, the items it starts from, what it posts and the items that are left. -/
inductive Drains (pick : Item → List Item → Prop) :
    ℕ → List Item → List (Group × List Item) → List Item → Prop
  | full (items : List Item) : Drains pick 0 items [] items
  | idle (limit : ℕ) : Drains pick (limit + 1) [] [] []
  | unsent {anchor : Item} {items : List Item} (limit : ℕ) (picked : pick anchor items)
      (reaction : depot.reactionTo items (depot.group anchor) = .unsent) :
      Drains pick (limit + 1) items [] items
  | refused {anchor : Item} {items : List Item} (limit : ℕ) (picked : pick anchor items)
      (reaction : depot.reactionTo items (depot.group anchor) = .refused) :
      Drains pick (limit + 1) items
        [(depot.group anchor, depot.members items (depot.group anchor))] items
  | accepted {anchor : Item} {items left : List Item} {limit : ℕ}
      {posted : List (Group × List Item)} (picked : pick anchor items)
      (reaction : depot.reactionTo items (depot.group anchor) = .accepted)
      (rest : Drains pick limit (depot.others items (depot.group anchor)) posted left) :
      Drains pick (limit + 1) items
        ((depot.group anchor, depot.members items (depot.group anchor)) :: posted) left

def groups (items : List Item) : List Group := (items.map depot.group).dedup

/-- Every group is posted, and the items of the refused groups are left. -/
structure Delivers (items : List Item) (posted : List (Group × List Item)) (left : List Item) :
    Prop where
  posted : ∀ item ∈ items, (depot.group item, depot.members items (depot.group item)) ∈ posted
  left : ∀ item, item ∈ left ↔
    item ∈ items ∧ depot.reactionTo items (depot.group item) = .refused

variable [LinearOrder Stamp]

/-- No item is older. -/
def Oldest (anchor : Item) (items : List Item) : Prop :=
  anchor ∈ items ∧ ∀ item ∈ items, depot.stamp anchor ≤ depot.stamp item

/-- All groups can be sent, they are within the limit, and a refused group is younger than
each other group. -/
structure Unhindered (limit : ℕ) (items : List Item) : Prop where
  sendable : ∀ item ∈ items, depot.reactionTo items (depot.group item) ≠ .unsent
  few : (depot.groups items).length ≤ limit
  last : ∀ refused ∈ items, depot.reactionTo items (depot.group refused) = .refused →
    ∀ other ∈ items, depot.group other ≠ depot.group refused →
      ∃ older ∈ items, depot.group older = depot.group other ∧
        ∀ mate ∈ items, depot.group mate = depot.group refused →
          depot.stamp older < depot.stamp mate

end Runs

section Groups

variable {depot : Depot Item Group Stamp} {items : List Item} {group other : Group} {item : Item}

@[simp] theorem mem_members :
    item ∈ depot.members items group ↔ item ∈ items ∧ depot.group item = group := by
  simp [members]

@[simp] theorem mem_others :
    item ∈ depot.others items group ↔ item ∈ items ∧ depot.group item ≠ group := by
  simp [others]

theorem members_others (apart : other ≠ group) :
    depot.members (depot.others items group) other = depot.members items other := by
  unfold members others
  rw [List.filter_filter]
  refine List.filter_congr fun item _ => ?_
  by_cases same : depot.group item = other
  · simp [same, apart]
  · simp [same]

theorem reactionTo_others (apart : other ≠ group) :
    depot.reactionTo (depot.others items group) other = depot.reactionTo items other := by
  rw [reactionTo, reactionTo, members_others apart]

theorem mem_groups : group ∈ depot.groups items ↔ ∃ item ∈ items, depot.group item = group := by
  rw [groups, List.mem_dedup, List.mem_map]

theorem length_groups_others (listed : group ∈ depot.groups items) :
    (depot.groups (depot.others items group)).length + 1 ≤ (depot.groups items).length := by
  have fewer : depot.groups (depot.others items group) ⊆ (depot.groups items).erase group := by
    intro other member
    obtain ⟨item, kept, rfl⟩ := mem_groups.mp member
    obtain ⟨stored, apart⟩ := mem_others.mp kept
    exact (List.mem_erase_of_ne apart).mpr (mem_groups.mpr ⟨item, stored, rfl⟩)
  have short := (List.Nodup.subperm (List.nodup_dedup _) fewer).length_le
  rw [List.length_erase_of_mem listed] at short
  have nonempty := List.length_pos_of_mem listed
  exact Nat.add_le_of_le_sub nonempty short

end Groups

section Sufficient

variable {depot : Depot Item Group Stamp} [LinearOrder Stamp] {pick : Item → List Item → Prop}
  {limit : ℕ} {items left : List Item} {posted : List (Group × List Item)} {anchor : Item}

namespace Unhindered

theorem others (clear : depot.Unhindered (limit + 1) items) (member : anchor ∈ items) :
    depot.Unhindered limit (depot.others items (depot.group anchor)) := by
  constructor
  · intro item kept
    obtain ⟨stored, apart⟩ := mem_others.mp kept
    rw [reactionTo_others apart]
    exact clear.sendable item stored
  · have listed : depot.group anchor ∈ depot.groups items :=
      mem_groups.mpr ⟨anchor, member, rfl⟩
    exact Nat.le_of_succ_le_succ (Nat.le_trans (length_groups_others listed) clear.few)
  · intro refused kept reaction other keptOther differs
    obtain ⟨stored, apart⟩ := mem_others.mp kept
    obtain ⟨there, otherApart⟩ := mem_others.mp keptOther
    rw [reactionTo_others apart] at reaction
    obtain ⟨older, first, same, before⟩ :=
      clear.last refused stored reaction other there differs
    refine ⟨older, mem_others.mpr ⟨first, same ▸ otherApart⟩, same, ?_⟩
    intro mate keptMate
    exact before mate (mem_others.mp keptMate).1

/-- A refused group comes last. -/
theorem only (clear : depot.Unhindered limit items) (oldest : depot.Oldest anchor items)
    (reaction : depot.reactionTo items (depot.group anchor) = .refused) :
    ∀ item ∈ items, depot.group item = depot.group anchor := by
  intro item member
  by_contra differs
  obtain ⟨older, there, _, before⟩ := clear.last anchor oldest.1 reaction item member differs
  exact absurd (before anchor oldest.1 rfl) (not_lt.mpr (oldest.2 older there))

end Unhindered

/-- Unhindered, a run that always posts an oldest group delivers everything. -/
theorem Drains.delivers (oldest : ∀ anchor items, pick anchor items → depot.Oldest anchor items)
    (drains : depot.Drains pick limit items posted left) (clear : depot.Unhindered limit items) :
    depot.Delivers items posted left := by
  induction drains with
  | full items =>
      have empty : items = [] := by
        rw [List.eq_nil_iff_forall_not_mem]
        intro item member
        have listed : depot.group item ∈ depot.groups items := mem_groups.mpr ⟨item, member, rfl⟩
        exact absurd (List.length_pos_of_mem listed) (Nat.not_lt.mpr clear.few)
      subst empty
      exact ⟨by simp, by simp⟩
  | idle => exact ⟨by simp, by simp⟩
  | unsent limit picked reaction =>
      exact absurd reaction (clear.sendable _ (oldest _ _ picked).1)
  | refused limit picked reaction =>
      have own := clear.only (oldest _ _ picked) reaction
      constructor
      · intro item member
        rw [own item member]
        exact List.mem_singleton_self _
      · intro item
        refine ⟨fun member => ⟨member, ?_⟩, And.left⟩
        rw [own item member]
        exact reaction
  | @accepted anchor items left limit posted picked reaction rest ih =>
      have delivered := ih (clear.others (oldest _ _ picked).1)
      constructor
      · intro item member
        by_cases same : depot.group item = depot.group anchor
        · rw [same]
          exact List.mem_cons_self
        · have later := delivered.posted item (mem_others.mpr ⟨member, same⟩)
          rw [members_others same] at later
          exact List.mem_cons_of_mem _ later
      · intro item
        rw [delivered.left item, mem_others, and_assoc]
        refine and_congr_right fun _ => ?_
        by_cases same : depot.group item = depot.group anchor
        · simp [same, reaction]
        · rw [reactionTo_others same]
          exact and_iff_right same

end Sufficient

section Necessary

variable {depot : Depot Item Group Stamp} {pick : Item → List Item → Prop}
  {limit : ℕ} {items left : List Item} {posted : List (Group × List Item)}

theorem Drains.length_posted (drains : depot.Drains pick limit items posted left) :
    posted.length ≤ limit := by
  induction drains with
  | full | idle | unsent => exact Nat.zero_le _
  | refused limit => exact Nat.le_add_left 1 limit
  | accepted _ _ _ ih => exact Nat.succ_le_succ ih

/-- What is posted of a group are its items, and they can be sent. -/
theorem Drains.posted_members (present : ∀ anchor items, pick anchor items → anchor ∈ items)
    (drains : depot.Drains pick limit items posted left) :
    ∀ batch ∈ posted, batch.1 ∈ depot.groups items ∧ batch.2 = depot.members items batch.1 ∧
      depot.reactionTo items batch.1 ≠ .unsent := by
  induction drains with
  | full | idle | unsent => simp
  | refused limit picked reaction =>
      intro batch member
      obtain rfl := List.mem_singleton.mp member
      exact ⟨mem_groups.mpr ⟨_, present _ _ picked, rfl⟩, rfl, by simp [reaction]⟩
  | accepted picked reaction rest ih =>
      intro batch member
      rcases List.mem_cons.mp member with rfl | later
      · exact ⟨mem_groups.mpr ⟨_, present _ _ picked, rfl⟩, rfl, by simp [reaction]⟩
      · obtain ⟨listed, own, sendable⟩ := ih batch later
        obtain ⟨item, kept, same⟩ := mem_groups.mp listed
        obtain ⟨stored, apart⟩ := mem_others.mp kept
        rw [same] at apart
        rw [members_others apart] at own
        rw [reactionTo_others apart] at sendable
        exact ⟨mem_groups.mpr ⟨item, stored, same⟩, own, sendable⟩

/-- Within the limit, all groups are posted only if they are few. -/
theorem Drains.few (drains : depot.Drains pick limit items posted left)
    (all : ∀ item ∈ items, depot.group item ∈ posted.map Prod.fst) :
    (depot.groups items).length ≤ limit := by
  have sub : depot.groups items ⊆ posted.map Prod.fst := by
    intro group member
    obtain ⟨item, stored, rfl⟩ := mem_groups.mp member
    exact all item stored
  have short := (List.Nodup.subperm (List.nodup_dedup _) sub).length_le
  rw [List.length_map] at short
  exact Nat.le_trans short drains.length_posted

/-- No group gets past an older item whose group is refused, if that item is picked first among
those of its age. -/
theorem Drains.not_posted [LinearOrder Stamp] {blocked : Item} {group : Group}
    (present : ∀ anchor items, pick anchor items → anchor ∈ items)
    (favoured : ∀ anchor rest, rest ⊆ items → pick anchor rest → blocked ∈ rest →
      depot.stamp blocked ≤ depot.stamp anchor → anchor = blocked)
    (drains : depot.Drains pick limit items posted left) (stored : blocked ∈ items)
    (reaction : depot.reactionTo items (depot.group blocked) = .refused)
    (apart : group ≠ depot.group blocked)
    (older : ∀ item ∈ items, depot.group item = group → depot.stamp blocked ≤ depot.stamp item) :
    group ∉ posted.map Prod.fst := by
  induction drains with
  | full | idle | unsent => simp
  | refused limit picked =>
      rw [List.map_singleton, List.mem_singleton]
      intro same
      have own := favoured _ _ (List.Subset.refl _) picked stored
        (older _ (present _ _ picked) same.symm)
      exact apart (own ▸ same)
  | @accepted anchor items left limit posted picked accepted rest ih =>
      rw [List.map_cons, List.mem_cons, not_or]
      constructor
      · intro same
        have own := favoured _ _ (List.Subset.refl _) picked stored
          (older _ (present _ _ picked) same.symm)
        exact apart (own ▸ same)
      · have differs : depot.group blocked ≠ depot.group anchor := by
          intro same
          rw [same, accepted] at reaction
          cases reaction
        refine ih ?_ (mem_others.mpr ⟨stored, differs⟩) ?_ ?_
        · intro anchor rest sub
          exact favoured anchor rest fun _ member => (mem_others.mp (sub member)).1
        · rw [reactionTo_others differs]
          exact reaction
        · intro item kept
          exact older item (mem_others.mp kept).1

omit [DecidableEq Group] in
/-- Where a refused group is not the youngest, its first item is as old as another group. -/
theorem exists_blocked [LinearOrder Stamp] {refused other : Item} (stored : refused ∈ items)
    (unordered : ∀ older ∈ items, depot.group older = depot.group other →
      ∃ mate ∈ items, depot.group mate = depot.group refused ∧
        depot.stamp mate ≤ depot.stamp older) :
    ∃ blocked ∈ items, depot.group blocked = depot.group refused ∧
      ∀ item ∈ items, depot.group item = depot.group other →
        depot.stamp blocked ≤ depot.stamp item := by
  have mates : {mate | mate ∈ items ∧ depot.group mate = depot.group refused}.Finite :=
    (List.finite_toSet items).subset fun _ member => member.1
  obtain ⟨blocked, ⟨member, same⟩, first⟩ :=
    Set.exists_min_image _ depot.stamp mates ⟨refused, stored, rfl⟩
  refine ⟨blocked, member, same, fun item there own => ?_⟩
  obtain ⟨mate, listed, mated, before⟩ := unordered item there own
  exact (first mate ⟨listed, mated⟩).trans before

end Necessary

end Depot

end Draining
