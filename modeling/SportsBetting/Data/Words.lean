import Mathlib.Data.List.TakeWhile

/-!
# Words and texts joined from them

The words of a text are its maximal runs of word symbols. A text that is joined from words by
single separators has these words, and so is its own normal form. Cutting it off leaves such a
text unless the cut falls right behind a separator.
-/

namespace Words

universe u

variable {α : Type u} (isWord : α → Bool) (separator : α)

def words (text : List α) : List (List α) :=
  (text.splitOnP fun symbol => !isWord symbol).filter fun run => !run.isEmpty

/-- Runs of word symbols, none of them empty. -/
def AreWords (parts : List (List α)) : Prop :=
  ∀ part ∈ parts, part ≠ [] ∧ ∀ symbol ∈ part, isWord symbol = true

def join (parts : List (List α)) : List α := [separator].intercalate parts

/-- The text is words with one separator between each and the next. -/
def Joined (text : List α) : Prop := ∃ parts, AreWords isWord parts ∧ text = join separator parts

/-- Some of the words, but not all, come to this length when joined. -/
def BreaksAt (parts : List (List α)) (length : ℕ) : Prop :=
  ∃ first rest, parts = first ++ rest ∧ first ≠ [] ∧ rest ≠ [] ∧
    (join separator first).length = length

section Join

variable {separator} {part : List α} {parts : List (List α)}

@[simp] theorem join_nil : join separator ([] : List (List α)) = [] := rfl

@[simp] theorem join_singleton : join separator [part] = part := List.intercalate_singleton

theorem join_cons (more : parts ≠ []) :
    join separator (part :: parts) = part ++ separator :: join separator parts := by
  rw [join, List.intercalate_cons_of_ne_nil more, List.append_assoc]
  rfl

@[simp] theorem not_breaksAt_nil (length : ℕ) :
    ¬ BreaksAt separator ([] : List (List α)) length := by
  rintro ⟨first, rest, split, begun, _⟩
  exact begun (List.append_eq_nil_iff.mp split.symm).1

theorem breaksAt_cons (length : ℕ) : BreaksAt separator (part :: parts) length ↔
    parts ≠ [] ∧ part.length = length ∨
      part.length < length ∧ BreaksAt separator parts (length - (part.length + 1)) := by
  constructor
  · rintro ⟨first, rest, split, begun, left, reached⟩
    obtain ⟨head, first, rfl⟩ := List.exists_cons_of_ne_nil begun
    obtain ⟨rfl, rfl⟩ := List.cons.inj split
    by_cases alone : first = []
    · subst alone
      rw [join_singleton] at reached
      exact .inl ⟨left, reached⟩
    · rw [join_cons alone, List.length_append, List.length_cons] at reached
      exact .inr ⟨by omega, first, rest, rfl, alone, left, by omega⟩
  · rintro (⟨left, reached⟩ | ⟨longer, first, rest, rfl, begun, left, reached⟩)
    · exact ⟨[part], parts, rfl, by simp, left, by rw [join_singleton, reached]⟩
    · refine ⟨part :: first, rest, rfl, by simp, left, ?_⟩
      rw [join_cons begun, List.length_append, List.length_cons]
      omega

instance decidableBreaksAt :
    (parts : List (List α)) → (length : ℕ) → Decidable (BreaksAt separator parts length)
  | [], length => .isFalse (not_breaksAt_nil length)
  | _ :: parts, length =>
      have := decidableBreaksAt parts
      decidable_of_iff _ (breaksAt_cons length).symm

/-- How long a joined text is depends on the lengths of its words only. -/
theorem breaksAt_congr {β : Type*} {separator' : β} {others : List (List β)}
    (same : parts.map List.length = others.map List.length) (length : ℕ) :
    BreaksAt separator parts length ↔ BreaksAt separator' others length := by
  induction parts generalizing others length with
  | nil =>
      obtain rfl : others = [] := List.map_eq_nil_iff.mp same.symm
      exact iff_of_false (not_breaksAt_nil length) (not_breaksAt_nil length)
  | cons part parts ih =>
      obtain ⟨other, others, rfl⟩ : ∃ other rest, others = other :: rest :=
        List.exists_cons_of_ne_nil (by rintro rfl; cases same)
      obtain ⟨lengths, rest⟩ := List.cons.inj same
      have more : parts = [] ↔ others = [] := by
        rw [← List.map_eq_nil_iff, rest, List.map_eq_nil_iff]
      rw [breaksAt_cons, breaksAt_cons, lengths, ne_eq, more, ih rest]

end Join

section Words

variable {isWord} {part text rest : List α} {symbol : α}

theorem words_cons_of_not (other : isWord symbol = false) :
    words isWord (symbol :: text) = words isWord text := by
  simp [words, List.splitOnP_cons_eq_if_modifyHead, other]

/-- A run of word symbols that ends before another symbol is the first word. -/
theorem words_append_cons (solid : ∀ symbol ∈ part, isWord symbol = true) (some_ : part ≠ [])
    (other : isWord symbol = false) :
    words isWord (part ++ symbol :: rest) = part :: words isWord rest := by
  have runs : (part ++ symbol :: rest).splitOnP (fun symbol => !isWord symbol) =
      part :: rest.splitOnP fun symbol => !isWord symbol :=
    List.splitOnP_append_cons_of_forall_mem (by simpa using solid) symbol (by simp [other]) rest
  simp [words, runs, some_]

theorem words_of_solid (solid : ∀ symbol ∈ part, isWord symbol = true) (some_ : part ≠ []) :
    words isWord part = [part] := by
  have runs : part.splitOnP (fun symbol => !isWord symbol) = [part] :=
    List.splitOnP_eq_singleton (by simpa using solid)
  simp [words, runs, some_]

/-- A text begins with another symbol, or with a word that ends the text or stands before one. -/
@[elab_as_elim]
theorem words_induction (isWord : α → Bool) {motive : List α → Prop} (nil : motive [])
    (skip : ∀ symbol rest, isWord symbol = false → motive rest → motive (symbol :: rest))
    (last : ∀ part, part ≠ [] → (∀ symbol ∈ part, isWord symbol = true) → motive part)
    (word : ∀ part symbol rest, part ≠ [] → (∀ symbol ∈ part, isWord symbol = true) →
      isWord symbol = false → motive rest → motive (part ++ symbol :: rest))
    (text : List α) : motive text := by
  induction length : text.length using Nat.strongRecOn generalizing text with
  | ind length ih =>
      subst length
      cases text with
      | nil => exact nil
      | cons first rest =>
          cases begins : isWord first with
          | false => exact skip first rest begins (ih rest.length (by simp) rest rfl)
          | true =>
              have some_ : (first :: rest).takeWhile isWord ≠ [] := by simp [begins]
              have solid : ∀ symbol ∈ (first :: rest).takeWhile isWord, isWord symbol = true :=
                fun symbol member => List.mem_takeWhile_imp member
              have split := List.takeWhile_append_dropWhile (p := isWord) (l := first :: rest)
              cases after : (first :: rest).dropWhile isWord with
              | nil =>
                  rw [after, List.append_nil] at split
                  rw [← split]
                  exact last _ some_ solid
              | cons symbol later =>
                  have other : isWord symbol = false := by
                    have stops := List.head_dropWhile_not isWord (l := first :: rest) (by simp [after])
                    simpa [after] using stops
                  have shorter : later.length < (first :: rest).length := by
                    rw [← split, after, List.length_append, List.length_cons]
                    omega
                  rw [after] at split
                  rw [← split]
                  exact word _ symbol later some_ solid other (ih _ shorter later rfl)

theorem areWords_words (text : List α) : AreWords isWord (words isWord text) := by
  induction text using words_induction isWord with
  | nil => exact List.forall_mem_nil _
  | skip symbol rest other ih => rwa [words_cons_of_not other]
  | last part some_ solid =>
      rw [words_of_solid solid some_]
      exact List.forall_mem_singleton.mpr ⟨some_, solid⟩
  | word part symbol rest some_ solid other ih =>
      rw [words_append_cons solid some_ other]
      exact List.forall_mem_cons.mpr ⟨⟨some_, solid⟩, ih⟩

/-- The words of a text whose symbols are replaced. -/
theorem words_map {β : Type*} (replace : β → α) (text : List β) :
    words isWord (text.map replace) =
      (words (fun symbol => isWord (replace symbol)) text).map (List.map replace) := by
  induction text using words_induction (fun symbol => isWord (replace symbol)) with
  | nil => rfl
  | skip symbol rest other ih =>
      rw [List.map_cons, words_cons_of_not other, ih]
      rw [@words_cons_of_not _ (fun symbol => isWord (replace symbol)) _ _ other]
  | last part some_ solid =>
      have solid' : ∀ symbol ∈ part.map replace, isWord symbol = true := by simpa using solid
      rw [words_of_solid solid' (by simpa using some_)]
      rw [@words_of_solid _ (fun symbol => isWord (replace symbol)) _ solid some_]
      rfl
  | word part symbol rest some_ solid other ih =>
      have solid' : ∀ symbol ∈ part.map replace, isWord symbol = true := by simpa using solid
      rw [List.map_append, List.map_cons, words_append_cons solid' (by simpa using some_) other, ih]
      rw [@words_append_cons _ (fun symbol => isWord (replace symbol)) _ _ _ solid some_ other]
      rfl

end Words

section Joined

variable {isWord separator} (silent : isWord separator = false) {part text : List α}
  {parts : List (List α)}

include silent

theorem words_join (are : AreWords isWord parts) : words isWord (join separator parts) = parts := by
  induction parts with
  | nil => rfl
  | cons part parts ih =>
      obtain ⟨⟨some_, solid⟩, others⟩ := List.forall_mem_cons.mp are
      by_cases more : parts = []
      · subst more
        rw [join_singleton, words_of_solid solid some_]
      · rw [join_cons more, words_append_cons solid some_ silent, ih others]

/-- A text is joined from words exactly if it is what its own words are joined to. -/
theorem joined_iff : Joined isWord separator text ↔ join separator (words isWord text) = text := by
  constructor
  · intro joined
    obtain ⟨parts, are, rfl⟩ := joined
    rw [words_join silent are]
  · intro same
    exact ⟨words isWord text, areWords_words text, same.symm⟩

/-- After a word and a separator, there are more words to come. -/
theorem joined_append_cons (solid : ∀ symbol ∈ part, isWord symbol = true) (some_ : part ≠ []) :
    Joined isWord separator (part ++ separator :: text) ↔
      Joined isWord separator text ∧ text ≠ [] := by
  rw [joined_iff silent, joined_iff silent, words_append_cons solid some_ silent]
  by_cases more : words isWord text = []
  · rw [more, join_singleton, join_nil]
    apply iff_of_false
    · intro same
      have lengths := congrArg List.length same
      simp at lengths
    · intro both
      exact both.2 both.1.symm
  · rw [join_cons more, List.append_cancel_left_eq, List.cons_inj_right]
    refine (and_iff_left ?_).symm
    rintro rfl
    exact more rfl

omit silent in
/-- A joined text ends with a word. -/
theorem exists_join_concat (are : AreWords isWord parts) (some_ : parts ≠ []) :
    ∃ front last, join separator parts = front ++ [last] ∧ isWord last = true := by
  induction parts with
  | nil => exact absurd rfl some_
  | cons part parts ih =>
      obtain ⟨⟨begun, solid⟩, others⟩ := List.forall_mem_cons.mp are
      by_cases more : parts = []
      · subst more
        refine ⟨part.dropLast, part.getLast begun, ?_, solid _ (List.getLast_mem begun)⟩
        rw [join_singleton, List.dropLast_concat_getLast begun]
      · obtain ⟨front, last, ends, word⟩ := ih others more
        refine ⟨part ++ separator :: front, last, ?_, word⟩
        rw [join_cons more, ends, List.append_assoc]
        rfl

omit silent in
theorem take_join_ne_nil (are : AreWords isWord parts) (some_ : parts ≠ []) (length : ℕ) :
    (join separator parts).take (length + 1) ≠ [] := by
  obtain ⟨front, last, ends, _⟩ : ∃ front last,
      join separator parts = front ++ [last] ∧ isWord last = true := exists_join_concat are some_
  simp [ends]

omit silent in
/-- What a word begins with is a word. -/
theorem joined_take_of_solid (solid : ∀ symbol ∈ part, isWord symbol = true) (some_ : part ≠ [])
    (length : ℕ) : Joined isWord separator (part.take (length + 1)) := by
  refine ⟨[part.take (length + 1)], ?_, join_singleton.symm⟩
  have begun : part.take (length + 1) ≠ [] := by simpa using some_
  exact List.forall_mem_singleton.mpr
    ⟨begun, fun symbol member => solid symbol (List.mem_of_mem_take member)⟩

/-- Cut off, the text is still joined from words, unless its last symbol is then a separator. -/
theorem joined_take_iff (are : AreWords isWord parts) (length : ℕ) :
    Joined isWord separator ((join separator parts).take (length + 1)) ↔
      ¬ BreaksAt separator parts length := by
  induction parts generalizing length with
  | nil => exact iff_of_true ⟨[], List.forall_mem_nil _, List.take_nil⟩ (not_breaksAt_nil length)
  | cons part parts ih =>
      obtain ⟨⟨some_, solid⟩, others⟩ := List.forall_mem_cons.mp are
      rw [breaksAt_cons]
      by_cases more : parts = []
      · subst more
        rw [join_singleton]
        apply iff_of_true (joined_take_of_solid solid some_ length)
        rintro (⟨left, _⟩ | ⟨_, breaks⟩)
        · exact left rfl
        · exact not_breaksAt_nil _ breaks
      · rw [join_cons more]
        rcases Nat.lt_trichotomy part.length length with before | rfl | inside
        · obtain ⟨shorter, rfl⟩ := Nat.exists_eq_add_of_le (Nat.succ_le_of_lt before)
          have taken : (part ++ separator :: join separator parts).take
              (part.length + 1 + shorter + 1) =
                part ++ separator :: (join separator parts).take (shorter + 1) := by
            rw [Nat.add_assoc, Nat.add_assoc, List.take_length_add_append,
              show 1 + (shorter + 1) = shorter + 1 + 1 by omega, List.take_succ_cons]
          rw [taken, joined_append_cons silent solid some_, ih others,
            and_iff_left (take_join_ne_nil others more shorter),
            or_iff_right (fun either => before.ne either.2), and_iff_right before,
            Nat.add_sub_cancel_left]
        · have taken : (part ++ separator :: join separator parts).take (part.length + 1) =
              part ++ [separator] := by
            rw [List.take_length_add_append]
            rfl
          rw [taken, joined_append_cons silent solid some_]
          exact iff_of_false (fun both => both.2 rfl) (not_not.mpr (.inl ⟨more, rfl⟩))
        · rw [List.take_append_of_le_length inside]
          apply iff_of_true (joined_take_of_solid solid some_ length)
          rintro (⟨_, same⟩ | ⟨longer, _⟩) <;> omega

end Joined

end Words
