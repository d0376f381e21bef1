import SportsBetting.Data.Words
import SportsBetting.Feed.Lossless
import Mathlib.Data.Char

/-!
# Normal forms of slugs

A slug is the first 48 characters of the words of a text, joined by underscores. The
underscores at its ends are taken away before it is cut off, so it ends in one where the cut
falls behind it.
-/

namespace SportsBetting.OddsApi

open Text Words

section Folding

theorem underscoreRuns_append {part rest : List Char} {inRun : Bool} (some_ : part ≠ [])
    (solid : ∀ symbol ∈ part, isSlugCharacter symbol = true) :
    underscoreRuns inRun (part ++ rest) = part ++ underscoreRuns false rest := by
  induction part generalizing inRun with
  | nil => exact absurd rfl some_
  | cons symbol part ih =>
      obtain ⟨plain, others⟩ := List.forall_mem_cons.mp solid
      rw [List.cons_append, underscoreRuns, if_pos plain, List.cons_append]
      by_cases more : part = []
      · subst more
        rfl
      · rw [ih more others]

/-- Folding leaves the words with an underscore between them, and perhaps one at the end. -/
theorem underscoreRuns_eq (letters : List Char) : ∃ tail, (tail = [] ∨ tail = ['_']) ∧
    (words isSlugCharacter letters = [] → tail = []) ∧
    underscoreRuns true letters = join '_' (words isSlugCharacter letters) ++ tail := by
  induction letters using words_induction isSlugCharacter with
  | nil => exact ⟨[], .inl rfl, fun _ => rfl, rfl⟩
  | skip symbol rest other ih =>
      rw [words_cons_of_not other, underscoreRuns, if_neg (by simp [other]), if_pos rfl]
      exact ih
  | last part some_ solid =>
      refine ⟨[], .inl rfl, fun _ => rfl, ?_⟩
      have folded : underscoreRuns true (part ++ []) = part ++ underscoreRuns false [] :=
        underscoreRuns_append some_ solid
      rw [words_of_solid solid some_, join_singleton]
      simpa [underscoreRuns] using folded
  | word part symbol rest some_ solid other ih =>
      obtain ⟨tail, either, none, folded⟩ := ih
      have step : underscoreRuns true (part ++ symbol :: rest) =
          part ++ '_' :: underscoreRuns true rest := by
        rw [underscoreRuns_append some_ solid, underscoreRuns, if_neg (by simp [other]),
          if_neg Bool.false_ne_true]
      rw [words_append_cons solid some_ other, step, folded]
      by_cases more : words isSlugCharacter rest = []
      · refine ⟨['_'], .inr rfl, fun never => absurd never (List.cons_ne_nil _ _), ?_⟩
        rw [more, none more, join_singleton]
        rfl
      · refine ⟨tail, either, fun never => absurd never (List.cons_ne_nil _ _), ?_⟩
        rw [join_cons more, List.append_assoc, List.cons_append]

theorem dropUnderscore_of_ne {symbol : Char} (other : symbol ≠ '_') (rest : List Char) :
    dropUnderscore (symbol :: rest) = symbol :: rest := by
  unfold dropUnderscore
  split
  · next same => exact absurd (List.cons.inj same).1 other
  · rfl

theorem isSlugCharacter_underscore : isSlugCharacter '_' = false := by decide

theorem ne_underscore {symbol : Char} (plain : isSlugCharacter symbol = true) : symbol ≠ '_' := by
  rintro rfl
  cases isSlugCharacter_underscore.symm.trans plain

theorem dropUnderscore_underscoreRuns (letters : List Char) :
    dropUnderscore (underscoreRuns false letters) = underscoreRuns true letters := by
  cases letters with
  | nil => rfl
  | cons symbol rest =>
      rw [underscoreRuns, underscoreRuns]
      by_cases plain : isSlugCharacter symbol = true
      · rw [if_pos plain, if_pos plain, dropUnderscore_of_ne (ne_underscore plain)]
      · rw [if_neg plain, if_neg plain, if_pos rfl]
        rfl

/-- Trimmed at both ends, the folded text is the words joined by underscores. -/
theorem trimmed_eq_join (letters : List Char) :
    (dropUnderscore (dropUnderscore (underscoreRuns false letters)).reverse).reverse =
      join '_' (words isSlugCharacter letters) := by
  obtain ⟨tail, either, none, folded⟩ := underscoreRuns_eq letters
  rw [dropUnderscore_underscoreRuns, folded]
  by_cases some_ : words isSlugCharacter letters = []
  · rw [some_, none some_]
    rfl
  · obtain ⟨front, last, ends, plain⟩ : ∃ front last,
        join '_' (words isSlugCharacter letters) = front ++ [last] ∧ isSlugCharacter last = true :=
      exists_join_concat (areWords_words letters) some_
    rcases either with rfl | rfl
    · rw [ends, List.append_nil, List.reverse_concat, dropUnderscore_of_ne (ne_underscore plain),
        List.reverse_cons, List.reverse_reverse]
    · rw [List.reverse_concat, dropUnderscore, List.reverse_reverse]

end Folding

section Letters

theorem isUpper_eq (symbol : Char) :
    symbol.isUpper = decide ('A'.val ≤ symbol.val ∧ symbol.val ≤ 'Z'.val) := rfl

theorem isAlphanum_eq (symbol : Char) :
    symbol.isAlphanum = (symbol.isUpper || symbol.isLower || symbol.isDigit) := rfl

theorem isUpper_iff {symbol : Char} :
    symbol.isUpper = true ↔ 65 ≤ symbol.toNat ∧ symbol.toNat ≤ 90 := by
  simp [isUpper_eq, UInt32.le_iff_toNat_le]

theorem isSlugCharacter_iff {symbol : Char} : isSlugCharacter symbol = true ↔
    48 ≤ symbol.toNat ∧ symbol.toNat ≤ 57 ∨ 97 ≤ symbol.toNat ∧ symbol.toNat ≤ 122 := by
  simp [isSlugCharacter, Char.isDigit, Char.le_def, UInt32.le_iff_toNat_le]

theorem toLower_of_not_isUpper {symbol : Char} (other : symbol.isUpper = false) :
    symbol.toLower = symbol := by
  unfold Char.toLower
  rw [dif_neg]
  exact of_decide_eq_false other

theorem toNat_toLower_of_isUpper {symbol : Char} (upper : symbol.isUpper = true) :
    symbol.toLower.toNat = symbol.toNat + 32 := by
  have range : 'A'.val ≤ symbol.val ∧ symbol.val ≤ 'Z'.val := of_decide_eq_true upper
  have bounds := isUpper_iff.mp upper
  unfold Char.toLower
  rw [dif_pos range]
  have shift : ('a'.val - 'A'.val).toNat = 32 := by decide
  have sum : (symbol.val + ('a'.val - 'A'.val)).toNat = symbol.toNat + 32 := by
    rw [UInt32.toNat_add, shift]
    apply Nat.mod_eq_of_lt
    show symbol.toNat + 32 < 2 ^ 32
    omega
  exact sum

/-- Letters and digits are what becomes a slug character in lower case. -/
theorem isSlugCharacter_toLower (symbol : Char) :
    isSlugCharacter symbol.toLower = symbol.isAlphanum := by
  cases upper : symbol.isUpper with
  | true =>
      have bounds := isUpper_iff.mp upper
      have plain : isSlugCharacter symbol.toLower = true := by
        rw [isSlugCharacter_iff, toNat_toLower_of_isUpper upper]
        omega
      rw [plain, isAlphanum_eq, upper]
      rfl
  | false =>
      rw [toLower_of_not_isUpper upper, isAlphanum_eq, upper, Bool.false_or, Bool.or_comm]
      rfl

end Letters

section NormalForm

/-- The form `[a-z0-9]+(_[a-z0-9]+)*`. -/
def SlugForm (text : String) : Prop :=
  ∃ parts, parts ≠ [] ∧ AreWords isSlugCharacter parts ∧ text.toList = join '_' parts

def NormalSlug (text : String) : Prop := text = "" ∨ text.length ≤ 48 ∧ SlugForm text

theorem normalSlug_iff {text : String} (short : text.length ≤ 48) :
    NormalSlug text ↔ Joined isSlugCharacter '_' text.toList := by
  constructor
  · rintro (rfl | ⟨_, parts, _, are, same⟩)
    · exact ⟨[], List.forall_mem_nil _, rfl⟩
    · exact ⟨parts, are, same⟩
  · rintro ⟨parts, are, same⟩
    by_cases none : parts = []
    · subst none
      exact .inl (String.toList_inj.mp same)
    · exact .inr ⟨short, parts, none, are, same⟩

variable {runtime : Runtime}

/-- The characters that are folded. -/
def slugLetters (runtime : Runtime) (value : String) : List Char :=
  (runtime.normalizeNFKD (runtime.toLowerCase value)).toList.filter fun symbol =>
    !(0x300 ≤ symbol.toNat && symbol.toNat ≤ 0x36F)

/-- A slug is words joined by underscores and cut off. -/
theorem toList_slugify (value : String) : (slugify runtime value).toList =
    (join '_' (words isSlugCharacter (slugLetters runtime value))).take 48 := by
  rw [← trimmed_eq_join]
  exact String.toList_ofList

theorem length_slugify_le (value : String) : (slugify runtime value).length ≤ 48 := by
  rw [← String.length_toList, toList_slugify, List.length_take]
  exact Nat.min_le_left _ _

variable (lowers : runtime.LowersAscii) (keeps : runtime.KeepsAscii) {value : String}

include lowers keeps

theorem slugLetters_ascii (ascii : ∀ symbol ∈ value.toList, symbol.toNat < 128) :
    slugLetters runtime value = value.toList.map Char.toLower := by
  have small : ∀ symbol ∈ value.toList.map Char.toLower, symbol.toNat < 128 := by
    intro symbol member
    obtain ⟨letter, inside, rfl⟩ := List.mem_map.mp member
    cases upper : letter.isUpper with
    | true =>
        have bounds := isUpper_iff.mp upper
        rw [toNat_toLower_of_isUpper upper]
        omega
    | false =>
        rw [toLower_of_not_isUpper upper]
        exact ascii letter inside
  have lowered : (asciiLower value).toList = value.toList.map Char.toLower := String.toList_ofList
  rw [slugLetters, lowers value ascii, keeps _ (lowered ▸ small), lowered, List.filter_eq_self]
  intro symbol member
  have bound := small symbol member
  simp only [Bool.not_eq_true', Bool.and_eq_false_iff, decide_eq_false_iff_not]
  omega

/-- A slug is folded as it is. -/
theorem slugLetters_slugify : slugLetters runtime (slugify runtime value) =
    (slugify runtime value).toList := by
  have range : ∀ symbol ∈ (slugify runtime value).toList,
      symbol.toNat < 128 ∧ symbol.isUpper = false := by
    intro symbol member
    have either := mem_slugify member
    rw [isSlugCharacter_iff] at either
    rw [← Bool.not_eq_true, isUpper_iff]
    rcases either with plain | rfl
    · omega
    · decide
  rw [slugLetters_ascii lowers keeps fun symbol member => (range symbol member).1]
  rw [List.map_congr_left fun symbol member => toLower_of_not_isUpper (range symbol member).2,
    List.map_id']

/-- **A slug is in normal form, and its own slug**, exactly if the cut does not fall behind a
separator: no words at the start of the text come to 47 characters when they are joined, with
more words after them. -/
theorem slugify_normal_iff (ascii : ∀ symbol ∈ value.toList, symbol.toNat < 128) :
    NormalSlug (slugify runtime value) ∧
        slugify runtime (slugify runtime value) = slugify runtime value ↔
      ¬ BreaksAt '_' (words Char.isAlphanum value.toList) 47 := by
  have lengths : (words isSlugCharacter (slugLetters runtime value)).map List.length =
      (words Char.isAlphanum value.toList).map List.length := by
    rw [slugLetters_ascii lowers keeps ascii, words_map, funext isSlugCharacter_toLower,
      List.map_map]
    exact List.map_congr_left fun part _ => List.length_map _
  rw [normalSlug_iff (length_slugify_le value), toList_slugify, ← breaksAt_congr lengths,
    joined_take_iff isSlugCharacter_underscore (areWords_words _), and_iff_left_iff_imp,
    ← joined_take_iff isSlugCharacter_underscore (areWords_words _), ← toList_slugify]
  intro joined
  rw [← String.toList_inj, toList_slugify, slugLetters_slugify lowers keeps,
    (joined_iff isSlugCharacter_underscore).mp joined]
  exact List.take_of_length_le (String.length_toList ▸ length_slugify_le value)

end NormalForm

section Sample

def finalGame : String := "Winner of the Western Final (Game 7)"

/-- This one is not cut off. -/
theorem finalGame_slug : NormalSlug (slugify asciiRuntime finalGame) ∧
    slugify asciiRuntime (slugify asciiRuntime finalGame) = slugify asciiRuntime finalGame := by
  have ascii : finalGame.toList.all (fun symbol => symbol.toNat < 128) = true := by decide +kernel
  refine (slugify_normal_iff asciiRuntime_lowersAscii asciiRuntime_keepsAscii ?_).mpr
    (by decide +kernel)
  simpa using ascii

/-- A team that is not known yet, whose first eight words make up 47 characters. -/
def conferenceWinner : String := "The Winner of the Western Conference Final Game 7"

theorem conferenceWinner_slug :
    slugify asciiRuntime conferenceWinner = "the_winner_of_the_western_conference_final_game_" ∧
      ¬ NormalSlug (slugify asciiRuntime conferenceWinner) ∧
      slugify asciiRuntime (slugify asciiRuntime conferenceWinner) ≠
        slugify asciiRuntime conferenceWinner := by
  have slug : slugify asciiRuntime conferenceWinner =
      "the_winner_of_the_western_conference_final_game_" := by decide +kernel
  refine ⟨slug, ?_, ?_⟩
  · rw [slug, normalSlug_iff (by decide), joined_iff isSlugCharacter_underscore]
    decide +kernel
  · rw [slug]
    decide +kernel

end Sample

end SportsBetting.OddsApi
