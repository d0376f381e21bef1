import Mathlib.Algebra.Order.Group.Defs
import Mathlib.Data.List.Count
import SportsBetting.Data.Operations

/-!
# Counting in fixed windows

A counter accepts a number of attempts per window. A window starts with the first
attempt after the last one is over, so windows follow each other with gaps.
-/

namespace FixedWindow

open Operations

universe u

structure Window (Time : Type u) where
  count : ℕ
  resetAt : Time

/-- An attempt, with the end of the window that it fell into. -/
structure Attempt (Time : Type u) where
  time : Time
  accepted : Bool
  resetAt : Time

structure Counter (Time : Type u) where
  window : Option (Window Time)
  log : List (Attempt Time)

section Counting

variable {Time : Type u} [LinearOrder Time]

/-- How many attempts of one window were accepted. -/
def acceptedIn (log : List (Attempt Time)) (resetAt : Time) : ℕ :=
  log.countP fun attempt => attempt.accepted && attempt.resetAt = resetAt

/-- How many attempts were accepted from one time on and before another. -/
def acceptedBetween (log : List (Attempt Time)) (start stop : Time) : ℕ :=
  log.countP fun attempt => attempt.accepted && start ≤ attempt.time && attempt.time < stop

variable {log : List (Attempt Time)}

theorem acceptedIn_concat (attempt : Attempt Time) (resetAt : Time) :
    acceptedIn (log ++ [attempt]) resetAt =
      acceptedIn log resetAt +
        if attempt.accepted = true ∧ attempt.resetAt = resetAt then 1 else 0 := by
  simp [acceptedIn, List.countP_append, List.countP_singleton]

/-- What is counted is counted one way or the other. -/
theorem countP_le_add {α : Type*} {items : List α} {chosen first second : α → Bool}
    (either : ∀ item ∈ items, chosen item = true → first item = true ∨ second item = true) :
    items.countP chosen ≤ items.countP first + items.countP second := by
  induction items with
  | nil => simp
  | cons item items ih =>
      obtain ⟨head, tail⟩ := List.forall_mem_cons.mp either
      have rest := ih tail
      rw [List.countP_cons, List.countP_cons, List.countP_cons]
      cases taken : chosen item with
      | false =>
          rw [if_neg Bool.false_ne_true]
          omega
      | true =>
          rcases head taken with left | right
          · rw [left]
            simp only [if_true]
            omega
          · rw [right]
            simp only [if_true]
            omega

theorem acceptedIn_eq_zero {resetAt : Time}
    (apart : ∀ attempt ∈ log, attempt.resetAt ≠ resetAt) : acceptedIn log resetAt = 0 := by
  apply List.countP_eq_zero.mpr
  intro attempt member
  simp [apart attempt member]

end Counting

variable {Time : Type u} [AddCommGroup Time] [LinearOrder Time]

section Definitions

variable (limit : ℕ) (length : Time)

/-- The window that an attempt falls into. -/
def current (now : Time) (window : Option (Window Time)) : Window Time :=
  (window.filter fun window => now < window.resetAt).getD ⟨0, now + length⟩

def consume (now : Time) (window : Option (Window Time)) : Bool × Window Time :=
  let window := current length now window
  if limit ≤ window.count then (false, window)
  else (true, { window with count := window.count + 1 })

def step (counter : Counter Time) (now : Time) : Counter Time :=
  let (accepted, window) := consume limit length now counter.window
  ⟨some window, counter.log ++ [⟨now, accepted, window.resetAt⟩]⟩

/-- All attempts from the first one on. -/
def attempts (times : List Time) : List (Attempt Time) :=
  (run (step limit length) ⟨none, []⟩ times).log

/-- The window belongs to an attempt of now, and counts what was accepted in it. -/
structure Opened (log : List (Attempt Time)) (now : Time) (window : Window Time) : Prop where
  count : window.count = acceptedIn log window.resetAt
  last : ∀ attempt ∈ log,
    attempt.resetAt = window.resetAt ∨ attempt.resetAt + length ≤ window.resetAt
  running : now < window.resetAt ∧ window.resetAt ≤ now + length

/-- What holds of a counter after any attempts at times that never go back. -/
structure Counted (counter : Counter Time) : Prop where
  count : ∀ window ∈ counter.window, window.count = acceptedIn counter.log window.resetAt
  last : ∀ attempt ∈ counter.log, ∃ window ∈ counter.window,
    attempt.resetAt = window.resetAt ∨ attempt.resetAt + length ≤ window.resetAt
  started : ∀ window ∈ counter.window, ∃ attempt ∈ counter.log, attempt.resetAt = window.resetAt
  running : ∀ attempt ∈ counter.log,
    attempt.time < attempt.resetAt ∧ attempt.resetAt ≤ attempt.time + length
  apart : counter.log.Pairwise fun earlier later =>
    earlier.resetAt = later.resetAt ∨ earlier.resetAt + length ≤ later.resetAt
  atMost : ∀ resetAt, acceptedIn counter.log resetAt ≤ limit
  refused : ∀ earlier attempt later, counter.log = earlier ++ attempt :: later →
    attempt.accepted = false → limit ≤ acceptedIn earlier attempt.resetAt

end Definitions

variable {limit : ℕ} {length now : Time} {counter : Counter Time} {log : List (Attempt Time)}

/-- A window is still running, or a new one starts. -/
theorem current_cases (length now : Time) (window : Option (Window Time)) :
    current length now window ∈ window ∧ now < (current length now window).resetAt ∨
      current length now window = ⟨0, now + length⟩ ∧ ∀ last ∈ window, last.resetAt ≤ now := by
  unfold current
  cases window with
  | none => exact .inr ⟨rfl, nofun⟩
  | some window =>
      by_cases running : now < window.resetAt
      · rw [Option.filter_some_pos (by simpa using running)]
        exact .inl ⟨rfl, running⟩
      · rw [Option.filter_some_neg (by simpa using running)]
        refine .inr ⟨rfl, fun last same => ?_⟩
        obtain rfl := Option.some.inj same
        exact not_lt.mp running

/-- An attempt is accepted as long as its window counts fewer than the limit. -/
theorem step_cases (limit : ℕ) (length : Time) (counter : Counter Time) (now : Time) :
    (limit ≤ (current length now counter.window).count ∧
        step limit length counter now = ⟨some (current length now counter.window),
          counter.log ++ [⟨now, false, (current length now counter.window).resetAt⟩]⟩) ∨
      (current length now counter.window).count < limit ∧
        step limit length counter now = ⟨some { current length now counter.window with
            count := (current length now counter.window).count + 1 },
          counter.log ++ [⟨now, true, (current length now counter.window).resetAt⟩]⟩ := by
  unfold step consume
  dsimp only
  by_cases full : limit ≤ (current length now counter.window).count
  · rw [if_pos full]
    exact .inl ⟨full, rfl⟩
  · rw [if_neg full]
    exact .inr ⟨not_le.mp full, rfl⟩

theorem time_step (counter : Counter Time) (now : Time) :
    (step limit length counter now).log.map Attempt.time =
      counter.log.map Attempt.time ++ [now] := by
  rcases step_cases limit length counter now with ⟨_, same⟩ | ⟨_, same⟩
  · rw [same, List.map_append]
    rfl
  · rw [same, List.map_append]
    rfl

theorem times_attempts (limit : ℕ) (length : Time) (times : List Time) :
    (attempts limit length times).map Attempt.time = times := by
  unfold attempts
  induction times using List.reverseRecOn with
  | nil => rfl
  | append_singleton times now ih => rw [run_concat, time_step, ih]

/-- What was accepted before a refusal, within a length. -/
theorem Counted.accepted_before_refusal (counted : Counted limit length counter)
    (sorted : (counter.log.map Attempt.time).Pairwise (· ≤ ·))
    {earlier later : List (Attempt Time)} {attempt : Attempt Time}
    (split : counter.log = earlier ++ attempt :: later) (refused : attempt.accepted = false) :
    limit ≤ earlier.countP fun before =>
      before.accepted && attempt.time < before.time + length && before.time ≤ attempt.time := by
  refine (counted.refused earlier attempt later split refused).trans ?_
  refine List.countP_mono_left fun before member chosen => ?_
  simp only [Bool.and_eq_true, decide_eq_true_eq] at chosen ⊢
  have ran := counted.running attempt (split ▸ List.mem_append_right _ List.mem_cons_self)
  have begun := counted.running before (split ▸ List.mem_append_left _ member)
  have within : attempt.time < before.time + length := ran.1.trans_le (chosen.2 ▸ begun.2)
  have first : before.time ≤ attempt.time := by
    rw [split] at sorted
    exact (List.pairwise_append.mp (List.pairwise_map.mp sorted)).2.2 before member attempt
      List.mem_cons_self
  exact ⟨⟨chosen.1, within⟩, first⟩

/-- Windows end at least a length apart. -/
theorem Counted.apart_of_ne (counted : Counted limit length counter)
    {first second : Attempt Time} (former : first ∈ counter.log)
    (latter : second ∈ counter.log) (differ : first.resetAt ≠ second.resetAt) :
    first.resetAt + length ≤ second.resetAt ∨ second.resetAt + length ≤ first.resetAt := by
  let Ordered := fun first second : Attempt Time =>
    first.resetAt = second.resetAt ∨ first.resetAt + length ≤ second.resetAt ∨
      second.resetAt + length ≤ first.resetAt
  have forward : counter.log.Pairwise Ordered :=
    counted.apart.imp fun either => either.imp_right Or.inl
  have backward : counter.log.Pairwise (flip Ordered) := by
    refine counted.apart.imp fun either => ?_
    rcases either with same | before
    · exact .inl same.symm
    · exact .inr (.inr before)
  have either : Ordered first second :=
    List.Pairwise.forall_of_forall_of_flip (fun _ _ => .inl rfl) forward backward former latter
  exact either.resolve_left differ

/-- The window stays, and the log gets one more attempt of it. -/
theorem Counted.append (counted : Counted limit length counter) {window : Window Time}
    (opened : Opened length counter.log now window) {accepted : Bool} {count : ℕ}
    (counts : count = window.count + if accepted = true then 1 else 0)
    (fits : accepted = true → window.count < limit)
    (full : accepted = false → limit ≤ window.count) :
    Counted limit length
      ⟨some ⟨count, window.resetAt⟩, counter.log ++ [⟨now, accepted, window.resetAt⟩]⟩ := by
  constructor
  case count =>
    intro last same
    obtain rfl := Option.some.inj same
    rw [acceptedIn_concat, counts, opened.count]
    simp
  case last =>
    intro attempt member
    refine ⟨_, rfl, ?_⟩
    rcases List.mem_append.mp member with old | new
    · exact opened.last attempt old
    · obtain rfl := List.mem_singleton.mp new
      exact .inl rfl
  case started =>
    intro last same
    obtain rfl := Option.some.inj same
    exact ⟨_, List.mem_append_right _ List.mem_cons_self, rfl⟩
  case running =>
    intro attempt member
    rcases List.mem_append.mp member with old | new
    · exact counted.running attempt old
    · obtain rfl := List.mem_singleton.mp new
      exact opened.running
  case apart =>
    refine List.pairwise_append.mpr ⟨counted.apart, List.pairwise_singleton _ _, ?_⟩
    intro attempt member other new
    obtain rfl := List.mem_singleton.mp new
    exact opened.last attempt member
  case atMost =>
    intro resetAt
    rw [acceptedIn_concat]
    split
    · next hit =>
        obtain ⟨taken, rfl⟩ := hit
        rw [← opened.count]
        exact fits taken
    · exact counted.atMost resetAt
  case refused =>
    intro earlier attempt rest split refuses
    rcases List.eq_nil_or_concat rest with rfl | ⟨rest, last, rfl⟩
    · obtain ⟨rfl, same⟩ := List.append_inj' split rfl
      obtain rfl := (List.cons.inj same).1
      rw [← opened.count]
      exact full refuses
    · rw [List.concat_eq_append, ← List.cons_append, ← List.append_assoc] at split
      exact counted.refused earlier attempt rest (List.append_inj' split rfl).1 refuses

variable [IsOrderedAddMonoid Time]

theorem Counted.opened (counted : Counted limit length counter) (positive : 0 < length)
    (later : ∀ attempt ∈ counter.log, attempt.time ≤ now) :
    Opened length counter.log now (current length now counter.window) := by
  rcases current_cases length now counter.window with ⟨known, running⟩ | ⟨fresh, past⟩
  · refine ⟨counted.count _ known, fun attempt member => ?_, running, ?_⟩
    · obtain ⟨window, same, either⟩ := counted.last attempt member
      rwa [Option.mem_unique known same]
    · obtain ⟨attempt, member, same⟩ := counted.started _ known
      rw [← same]
      exact (counted.running attempt member).2.trans (add_le_add_left (later attempt member) length)
  · rw [fresh]
    have ended : ∀ attempt ∈ counter.log, attempt.resetAt ≤ now := by
      intro attempt member
      obtain ⟨window, last, same | before⟩ := counted.last attempt member
      · exact same.le.trans (past window last)
      · exact (le_add_of_nonneg_right positive.le).trans (before.trans (past window last))
    refine ⟨?_, fun attempt member => .inr ?_, lt_add_of_pos_right now positive, le_rfl⟩
    · refine (acceptedIn_eq_zero fun attempt member => ?_).symm
      exact ((ended attempt member).trans_lt (lt_add_of_pos_right now positive)).ne
    · exact add_le_add_left (ended attempt member) length

theorem Counted.step (counted : Counted limit length counter) (positive : 0 < length)
    (later : ∀ attempt ∈ counter.log, attempt.time ≤ now) :
    Counted limit length (step limit length counter now) := by
  have opened := counted.opened positive later
  rcases step_cases limit length counter now with ⟨full, refused⟩ | ⟨fits, accepted⟩
  · rw [refused]
    exact counted.append opened rfl nofun fun _ => full
  · rw [accepted]
    exact counted.append opened rfl (fun _ => fits) nofun

theorem counted_run (limit : ℕ) (positive : 0 < length) {times : List Time}
    (sorted : times.Pairwise (· ≤ ·)) :
    Counted limit length (run (FixedWindow.step limit length) ⟨none, []⟩ times) := by
  induction times using List.reverseRecOn with
  | nil =>
      refine ⟨nofun, nofun, nofun, nofun, List.Pairwise.nil, fun _ => Nat.zero_le _, ?_⟩
      intro earlier attempt rest split
      cases earlier <;> cases split
  | append_singleton times now ih =>
      obtain ⟨before, _, later⟩ := List.pairwise_append.mp sorted
      rw [run_concat]
      apply (ih before).step positive
      intro attempt member
      apply later attempt.time _ now List.mem_cons_self
      rw [← times_attempts limit length times]
      exact List.mem_map_of_mem member

section Bounds

variable (counted : Counted limit length counter)

include counted

/-- Only one window ends within a length. -/
theorem Counted.same_window {first second : Attempt Time} (former : first ∈ counter.log)
    (latter : second ∈ counter.log) {start : Time}
    (ends : start < first.resetAt ∧ first.resetAt ≤ start + length)
    (ends' : start < second.resetAt ∧ second.resetAt ≤ start + length) :
    first.resetAt = second.resetAt := by
  by_contra differ
  rcases counted.apart_of_ne former latter differ with before | after
  · exact absurd (before.trans ends'.2) (not_le.mpr (add_lt_add_left ends.1 length))
  · exact absurd (after.trans ends.2) (not_le.mpr (add_lt_add_left ends'.1 length))

/-- At most the limit is accepted in the windows that end within a length. -/
theorem Counted.accepted_ending_le (start : Time) :
    (counter.log.countP fun attempt => attempt.accepted && start < attempt.resetAt &&
      attempt.resetAt ≤ start + length) ≤ limit := by
  by_cases some : ∃ attempt ∈ counter.log,
      start < attempt.resetAt ∧ attempt.resetAt ≤ start + length
  · obtain ⟨first, former, ends⟩ := some
    refine le_trans (List.countP_mono_left fun attempt latter chosen => ?_)
      (counted.atMost first.resetAt)
    simp only [Bool.and_eq_true, decide_eq_true_eq] at chosen
    have same := counted.same_window latter former ⟨chosen.1.2, chosen.2⟩ ends
    simp [chosen.1.1, same]
  · refine (List.countP_eq_zero.mpr fun attempt member chosen => some ?_).trans_le (Nat.zero_le _)
    simp only [Bool.and_eq_true, decide_eq_true_eq] at chosen
    exact ⟨attempt, member, chosen.1.2, chosen.2⟩

/-- Within a length at most twice the limit is accepted: one window ends in it, and one more in
the length after it. -/
theorem Counted.accepted_between_le (start : Time) :
    acceptedBetween counter.log start (start + length) ≤ 2 * limit := by
  have first := counted.accepted_ending_le start
  have second := counted.accepted_ending_le (start + length)
  refine le_trans ?_ ((Nat.add_le_add first second).trans (Nat.two_mul limit).ge)
  apply countP_le_add
  intro attempt member chosen
  simp only [Bool.and_eq_true, decide_eq_true_eq] at chosen ⊢
  obtain ⟨⟨accepted, begins⟩, ends⟩ := chosen
  have ran := counted.running attempt member
  by_cases early : attempt.resetAt ≤ start + length
  · exact .inl ⟨⟨accepted, begins.trans_lt ran.1⟩, early⟩
  · refine .inr ⟨⟨accepted, not_le.mp early⟩, ran.2.trans ?_⟩
    exact add_le_add_left ends.le length

end Bounds

end FixedWindow
