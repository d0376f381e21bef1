import Mathlib.Data.List.Nodup

/-!
# Tables with a unique key

Rows keep the order of their insertion. That no two of them share a key is a
field, so a violated key can not be represented and insertion is partial.
-/

universe u v

structure Table (Row : Type u) {Key : Type v} (key : Row → Key) where
  rows : List Row
  unique : (rows.map key).Nodup
  deriving DecidableEq

namespace Table

variable {Row : Type u} {Key : Type v} {key : Row → Key}

instance : Membership Row (Table Row key) := ⟨fun table row => row ∈ table.rows⟩

theorem mem_rows {table : Table Row key} {row : Row} : row ∈ table.rows ↔ row ∈ table := Iff.rfl

instance [DecidableEq Row] (table : Table Row key) (row : Row) : Decidable (row ∈ table) :=
  inferInstanceAs (Decidable (row ∈ table.rows))

def empty : Table Row key := ⟨[], List.nodup_nil⟩

@[simp] theorem mem_empty (row : Row) : row ∈ (empty : Table Row key) ↔ False := by
  simp [← mem_rows, empty]

/-- Some row has the key. -/
abbrev Has (table : Table Row key) (wanted : Key) : Prop := ∃ row ∈ table, key row = wanted

/-- Two rows of one table with the same key are the same row. -/
theorem eq_of_key {table : Table Row key} {first second : Row} (hfirst : first ∈ table)
    (hsecond : second ∈ table) (same : key first = key second) : first = second :=
  List.inj_on_of_nodup_map table.unique hfirst hsecond same

private theorem keys_map {change : Row → Row} (keeps : ∀ row, key (change row) = key row)
    (rows : List Row) : (rows.map change).map key = rows.map key := by
  rw [List.map_map]
  exact List.map_congr_left fun row _ => keeps row

def deleteWhere (table : Table Row key) (doomed : Row → Bool) : Table Row key :=
  ⟨table.rows.filter fun row => !doomed row,
    (List.Sublist.map key List.filter_sublist).nodup table.unique⟩

@[simp] theorem mem_deleteWhere {table : Table Row key} {doomed : Row → Bool} {row : Row} :
    row ∈ table.deleteWhere doomed ↔ row ∈ table ∧ doomed row = false := by
  simp [← mem_rows, deleteWhere]

/-- Rewrite the chosen rows by a function that keeps their keys. -/
def updateWhere (table : Table Row key) (chosen : Row → Bool) (change : Row → Row)
    (keeps : ∀ row, key (change row) = key row := by intro row; rfl) : Table Row key where
  rows := table.rows.map fun row => if chosen row then change row else row
  unique := by
    rw [keys_map]
    · exact table.unique
    · intro row
      split
      · exact keeps row
      · rfl

theorem mem_updateWhere {table : Table Row key} {chosen : Row → Bool} {change : Row → Row}
    {keeps : ∀ row, key (change row) = key row} {row : Row} :
    row ∈ table.updateWhere chosen change keeps ↔
      ∃ old ∈ table, (if chosen old then change old else old) = row := by
  simp [← mem_rows, updateWhere]

/-- Every row has its successor. -/
theorem exists_updateWhere {table : Table Row key} {row : Row} (member : row ∈ table)
    (chosen : Row → Bool) (change : Row → Row) (keeps : ∀ row, key (change row) = key row) :
    ∃ after ∈ table.updateWhere chosen change keeps, after = if chosen row then change row else row :=
  ⟨_, mem_updateWhere.mpr ⟨row, member, rfl⟩, rfl⟩

theorem Has.updateWhere {table : Table Row key} {wanted : Key} (has : table.Has wanted)
    (chosen : Row → Bool) (change : Row → Row) (keeps : ∀ row, key (change row) = key row) :
    (table.updateWhere chosen change keeps).Has wanted := by
  obtain ⟨row, stored, rfl⟩ := has
  refine ⟨_, mem_updateWhere.mpr ⟨row, stored, rfl⟩, ?_⟩
  split
  · exact keeps row
  · rfl

/-- A row after an update comes from a row with the same key, changed or not. -/
theorem updateWhere_cases {table : Table Row key} {chosen : Row → Bool} {change : Row → Row}
    {keeps : ∀ row, key (change row) = key row} {row : Row}
    (member : row ∈ table.updateWhere chosen change keeps) :
    (∃ old ∈ table, chosen old = true ∧ row = change old) ∨ row ∈ table ∧ chosen row = false := by
  obtain ⟨old, present, rfl⟩ := mem_updateWhere.mp member
  by_cases hit : chosen old = true
  · exact .inl ⟨old, present, hit, by simp [hit]⟩
  · exact .inr (by simp_all)

/-- An update that is not meant for a row leaves it alone. -/
theorem mem_updateWhere_of_spared {table : Table Row key} {chosen : Row → Bool}
    {change : Row → Row} {keeps : ∀ row, key (change row) = key row} {row : Row}
    (spared : ∀ old ∈ table, old = row ∨ change old = row → chosen old = false) :
    row ∈ table.updateWhere chosen change keeps ↔ row ∈ table := by
  constructor
  · intro stored
    rcases updateWhere_cases stored with ⟨old, present, hit, rfl⟩ | ⟨present, _⟩
    · rw [spared old present (.inr rfl)] at hit
      cases hit
    · exact present
  · intro stored
    exact mem_updateWhere.mpr ⟨row, stored, by simp [spared row stored (.inl rfl)]⟩

/-- An update that finds every chosen row as it would be changes nothing. -/
theorem updateWhere_eq_self {table : Table Row key} {chosen : Row → Bool} {change : Row → Row}
    {keeps : ∀ row, key (change row) = key row}
    (still : ∀ row ∈ table, chosen row = true → change row = row) :
    table.updateWhere chosen change keeps = table := by
  have same : table.rows.map (fun row => if chosen row then change row else row) = table.rows := by
    refine (List.map_congr_left fun row member => ?_).trans (List.map_id _)
    split
    · next hit => exact still row (mem_rows.mp member) hit
    · rfl
  unfold updateWhere
  congr

section Lookup

variable [DecidableEq Key]

def get? (table : Table Row key) (wanted : Key) : Option Row :=
  table.rows.find? fun row => key row = wanted

theorem get?_eq_some_iff {table : Table Row key} {wanted : Key} {row : Row} :
    table.get? wanted = some row ↔ row ∈ table ∧ key row = wanted := by
  constructor
  · intro found
    exact ⟨List.mem_of_find?_eq_some found, by simpa using List.find?_some found⟩
  · rintro ⟨member, rfl⟩
    unfold get?
    cases found : table.rows.find? (fun other => key other = key row) with
    | none => exact absurd (List.find?_eq_none.mp found row member) (by simp)
    | some other =>
        have same : key other = key row := by simpa using List.find?_some found
        rw [eq_of_key (List.mem_of_find?_eq_some found) member same]

theorem get?_eq_none_iff {table : Table Row key} {wanted : Key} :
    table.get? wanted = none ↔ ∀ row ∈ table, key row ≠ wanted := by
  simp [get?, ← mem_rows]

theorem get?_of_mem {table : Table Row key} {row : Row} (member : row ∈ table) :
    table.get? (key row) = some row :=
  get?_eq_some_iff.mpr ⟨member, rfl⟩

theorem filter_key_of_mem {table : Table Row key} {row : Row} (member : row ∈ table) :
    (table.rows.filter fun other => key other = key row) = [row] := by
  have own : ∀ other ∈ table.rows.filter fun other => key other = key row, other = row := by
    intro other kept
    obtain ⟨present, same⟩ := List.mem_filter.mp kept
    exact eq_of_key (mem_rows.mp present) member (by simpa using same)
  have distinct : ((table.rows.filter fun other => key other = key row).map key).Nodup :=
    (List.Sublist.map key List.filter_sublist).nodup table.unique
  match rows : table.rows.filter fun other => key other = key row with
  | [] =>
      have kept : row ∈ table.rows.filter fun other => key other = key row :=
        List.mem_filter.mpr ⟨member, by simp⟩
      rw [rows] at kept
      cases kept
  | [other] => rw [own other (by rw [rows]; exact List.mem_cons_self)]
  | first :: second :: rest =>
      rw [rows] at distinct own
      rw [own first (by simp), own second (by simp)] at distinct
      simp at distinct

theorem get?_updateWhere (table : Table Row key) (chosen : Row → Bool) (change : Row → Row)
    (keeps : ∀ row, key (change row) = key row) (wanted : Key) :
    (table.updateWhere chosen change keeps).get? wanted =
      (table.get? wanted).map fun row => if chosen row then change row else row := by
  unfold get? updateWhere
  rw [List.find?_map]
  congr 2
  funext row
  by_cases hit : chosen row = true
  · simp [hit, keeps]
  · simp [hit]

theorem get?_deleteWhere (table : Table Row key) (doomed : Row → Bool) (wanted : Key) :
    (table.deleteWhere doomed).get? wanted = (table.get? wanted).filter fun row => !doomed row := by
  cases found : table.get? wanted with
  | none =>
      rw [get?_eq_none_iff] at found
      exact get?_eq_none_iff.mpr fun row member => found row (mem_deleteWhere.mp member).1
  | some row =>
      obtain ⟨member, rfl⟩ := get?_eq_some_iff.mp found
      cases gone : doomed row with
      | false =>
          rw [Option.filter_some_pos (by simp [gone])]
          exact get?_of_mem (mem_deleteWhere.mpr ⟨member, gone⟩)
      | true =>
          rw [Option.filter_some_neg (by simp [gone])]
          refine get?_eq_none_iff.mpr fun other kept same => ?_
          obtain ⟨present, stays⟩ := mem_deleteWhere.mp kept
          rw [eq_of_key present member same, gone] at stays
          cases stays

/-- Insertion fails on a taken key. -/
def insert? (table : Table Row key) (row : Row) : Option (Table Row key) :=
  if fresh : table.get? (key row) = none then
    some ⟨table.rows ++ [row], by
      rw [get?_eq_none_iff] at fresh
      rw [List.map_append, List.nodup_append]
      refine ⟨table.unique, by simp, ?_⟩
      rintro _ taken _ new rfl
      obtain ⟨old, member, same⟩ := List.mem_map.mp taken
      exact fresh old member (by simpa [same] using new)⟩
  else none

theorem insert?_eq_none_iff {table : Table Row key} {row : Row} :
    table.insert? row = none ↔ ∃ old ∈ table, key old = key row := by
  unfold insert?
  split
  · next fresh => simpa using get?_eq_none_iff.mp fresh
  · next taken =>
      rw [get?_eq_none_iff] at taken
      simpa using taken

theorem insert?_spec {table after : Table Row key} {row : Row}
    (inserted : table.insert? row = some after) :
    (∀ old ∈ table, key old ≠ key row) ∧ ∀ other, other ∈ after ↔ other ∈ table ∨ other = row := by
  unfold insert? at inserted
  split at inserted
  · next fresh =>
      obtain rfl := Option.some.inj inserted
      exact ⟨get?_eq_none_iff.mp fresh, by simp [← mem_rows]⟩
  · cases inserted

theorem rows_of_insert? {table after : Table Row key} {row : Row}
    (inserted : table.insert? row = some after) : after.rows = table.rows ++ [row] := by
  unfold insert? at inserted
  split at inserted
  · rw [← Option.some.inj inserted]
  · cases inserted

theorem get?_of_insert? {table after : Table Row key} {row : Row}
    (inserted : table.insert? row = some after) (wanted : Key) :
    after.get? wanted = if key row = wanted then some row else table.get? wanted := by
  obtain ⟨fresh, members⟩ := insert?_spec inserted
  by_cases same : key row = wanted
  · rw [if_pos same]
    exact get?_eq_some_iff.mpr ⟨(members row).mpr (.inr rfl), same⟩
  · rw [if_neg same]
    cases found : table.get? wanted with
    | none =>
        rw [get?_eq_none_iff] at found ⊢
        intro other member
        rcases (members other).mp member with old | rfl
        · exact found other old
        · exact same
    | some other =>
        obtain ⟨member, rfl⟩ := get?_eq_some_iff.mp found
        exact get?_of_mem ((members other).mpr (.inl member))

/-- Replace the row with the same key in place, or append the row. -/
def put (table : Table Row key) (row : Row) : Table Row key :=
  match table.insert? row with
  | some after => after
  | none =>
      { rows := table.rows.map fun old => if key old = key row then row else old
        unique := by
          rw [keys_map]
          · exact table.unique
          · intro old
            split
            · next equal => exact equal.symm
            · rfl }

theorem mem_put {table : Table Row key} {row other : Row} :
    other ∈ table.put row ↔ other = row ∨ other ∈ table ∧ key other ≠ key row := by
  unfold put
  cases inserted : table.insert? row with
  | some after =>
      obtain ⟨fresh, members⟩ := insert?_spec inserted
      rw [members]
      constructor
      · rintro (old | new)
        · exact .inr ⟨old, fresh other old⟩
        · exact .inl new
      · rintro (new | ⟨old, _⟩)
        · exact .inr new
        · exact .inl old
  | none =>
      obtain ⟨taken, present, same⟩ := insert?_eq_none_iff.mp inserted
      simp only [← mem_rows, List.mem_map]
      constructor
      · rintro ⟨old, member, rfl⟩
        by_cases equal : key old = key row
        · exact .inl (by simp [equal])
        · exact .inr (by simpa [equal] using member)
      · rintro (rfl | ⟨member, differs⟩)
        · exact ⟨taken, present, by simp [same]⟩
        · exact ⟨other, member, by simp [differs]⟩

theorem mem_put_self (table : Table Row key) (row : Row) : row ∈ table.put row :=
  mem_put.mpr (.inl rfl)

theorem has_put_self (table : Table Row key) (row : Row) : (table.put row).Has (key row) :=
  ⟨row, table.mem_put_self row, rfl⟩

/-- Putting a row that is there changes nothing. -/
theorem put_eq_self {table : Table Row key} {row : Row} (stored : row ∈ table) :
    table.put row = table := by
  have taken : table.insert? row = none := insert?_eq_none_iff.mpr ⟨row, stored, rfl⟩
  have same : table.rows.map (fun old => if key old = key row then row else old) = table.rows := by
    refine (List.map_congr_left fun old member => ?_).trans (List.map_id _)
    split
    · next equal => exact (eq_of_key (mem_rows.mp member) stored equal).symm
    · rfl
  unfold put
  rw [taken]
  dsimp only
  congr

/-- No key is lost. -/
theorem Has.put {table : Table Row key} {wanted : Key} (has : table.Has wanted) (row : Row) :
    (table.put row).Has wanted := by
  obtain ⟨old, stored, rfl⟩ := has
  by_cases same : key old = key row
  · exact ⟨row, table.mem_put_self row, same.symm⟩
  · exact ⟨old, mem_put.mpr (.inr ⟨stored, same⟩), rfl⟩

theorem get?_put (table : Table Row key) (row : Row) (wanted : Key) :
    (table.put row).get? wanted = if key row = wanted then some row else table.get? wanted := by
  split
  · next same => exact get?_eq_some_iff.mpr ⟨table.mem_put_self row, same⟩
  · next differs =>
      cases found : table.get? wanted with
      | none =>
          rw [get?_eq_none_iff] at found ⊢
          intro other member
          rcases mem_put.mp member with rfl | ⟨old, _⟩
          · exact differs
          · exact found other old
      | some other =>
          obtain ⟨member, rfl⟩ := get?_eq_some_iff.mp found
          exact get?_of_mem (mem_put.mpr (.inr ⟨member, fun same => differs same.symm⟩))

/-- Of the rows that are put under a key, the last one is there. -/
theorem get?_foldl_put (rows : List Row) (base : Table Row key) (wanted : Key) :
    (rows.foldl put base).get? wanted =
      (rows.reverse.find? fun row => key row = wanted).or (base.get? wanted) := by
  induction rows generalizing base with
  | nil => rfl
  | cons row rest ih =>
      rw [List.foldl_cons, ih, get?_put, List.reverse_cons, List.find?_append, List.find?_singleton,
        Option.or_assoc]
      by_cases same : key row = wanted
      · simp [same]
      · simp [same]

end Lookup

section Overlay

variable {Item : Type u} {ref : Item → Key} {writes : Item → Row → Prop} {base now : Table Row key}
  {items : List Item}

/-- The table has a row for every item, and of the base the rows that no item refers to. -/
structure Overlays (base : Table Row key) (ref : Item → Key) (writes : Item → Row → Prop)
    (items : List Item) (now : Table Row key) : Prop where
  written : ∀ item ∈ items, ∃ row ∈ now, writes item row
  kept : ∀ row ∈ base, (∀ item ∈ items, ref item ≠ key row) → row ∈ now
  origin : ∀ row ∈ now, (∃ item ∈ items, writes item row) ∨
    row ∈ base ∧ ∀ item ∈ items, ref item ≠ key row

theorem Overlays.refl (base : Table Row key) (ref : Item → Key) (writes : Item → Row → Prop) :
    Overlays base ref writes [] base where
  written _ member := nomatch member
  kept _ stored _ := stored
  origin _ stored := .inr ⟨stored, fun _ member => nomatch member⟩

/-- One more item, with a reference of its own, is put over the table. -/
theorem Overlays.put [DecidableEq Key] (overlays : Overlays base ref writes items now)
    (named : ∀ item row, writes item row → key row = ref item) {item : Item} {row : Row}
    (fresh : ∀ other ∈ items, ref other ≠ ref item) (wrote : writes item row) :
    Overlays base ref writes (items ++ [item]) (now.put row) := by
  have own := named item row wrote
  constructor
  · intro other member
    rcases List.mem_append.mp member with earlier | here
    · obtain ⟨old, stored, by_⟩ := overlays.written other earlier
      refine ⟨old, mem_put.mpr (.inr ⟨stored, ?_⟩), by_⟩
      rw [named other old by_, own]
      exact fresh other earlier
    · obtain rfl := List.mem_singleton.mp here
      exact ⟨row, now.mem_put_self row, wrote⟩
  · intro old stored apart
    refine mem_put.mpr (.inr ⟨overlays.kept old stored fun other member =>
      apart other (List.mem_append_left _ member), ?_⟩)
    rw [own]
    exact (apart item (by simp)).symm
  · intro other stored
    rcases mem_put.mp stored with rfl | ⟨old, differs⟩
    · exact .inl ⟨item, by simp, wrote⟩
    · rcases overlays.origin other old with ⟨source, member, by_⟩ | ⟨first, apart⟩
      · exact .inl ⟨source, List.mem_append_left _ member, by_⟩
      · refine .inr ⟨first, fun source member => ?_⟩
        rcases List.mem_append.mp member with earlier | here
        · exact apart source earlier
        · obtain rfl := List.mem_singleton.mp here
          rw [← own]
          exact differs.symm

end Overlay

end Table
