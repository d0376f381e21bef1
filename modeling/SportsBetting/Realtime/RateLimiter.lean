import SportsBetting.Data.FixedWindow
import SportsBetting.Realtime.Gateway

/-!
# The rate limiter

Each key has a bucket of its own, which counts the calls of one window. For one key
the limiter is a counter of fixed windows, whatever is called for other keys.
-/

namespace SportsBetting.GroupRateLimiter

open Operations FixedWindow

structure Bucket where
  key : String
  count : ℕ
  resetAt : Time

abbrev Buckets := Table Bucket Bucket.key

def Bucket.window (bucket : Bucket) : Window Time := ⟨bucket.count, bucket.resetAt⟩

structure Call where
  key : String
  now : Time

/-- The result of a call, in the window that it fell into. -/
structure Answer where
  key : String
  attempt : Attempt Time

section Calls

variable (maxPerWindow : ℕ) (windowMs : Time)

/-- The bucket of a running window is changed in place. -/
def tryConsume (now : Time) (key : String) (buckets : Buckets) : Bool × Buckets :=
  let running := (buckets.get? key).filter fun bucket => now < bucket.resetAt
  let bucket := running.getD ⟨key, 0, now + windowMs⟩
  if maxPerWindow ≤ bucket.count then (false, buckets.put bucket)
  else (true, buckets.put { bucket with count := bucket.count + 1 })

/-- A limiter, with the answers that it has given. -/
structure Limiter where
  buckets : Buckets
  answers : List Answer

def Limiter.step (limiter : Limiter) (call : Call) : Limiter :=
  let (accepted, buckets) := tryConsume maxPerWindow windowMs call.now call.key limiter.buckets
  let resetAt := ((buckets.get? call.key).map Bucket.resetAt).getD call.now
  ⟨buckets, limiter.answers ++ [⟨call.key, ⟨call.now, accepted, resetAt⟩⟩]⟩

def answers (calls : List Call) : List Answer :=
  (run (Limiter.step maxPerWindow windowMs) ⟨.empty, []⟩ calls).answers

/-- The results of the calls for one key. -/
def results (key : String) (calls : List Call) : List Bool :=
  ((answers maxPerWindow windowMs calls).filter fun answer => answer.key = key).map
    fun answer => answer.attempt.accepted

end Calls

variable {maxPerWindow : ℕ} {windowMs : Time}

section Keys

def windowOf (buckets : Buckets) (key : String) : Option (Window Time) :=
  (buckets.get? key).map Bucket.window

/-- The bucket that a call falls into. -/
theorem bucket_spec (windowMs now : Time) (key : String) (buckets : Buckets) :
    ∃ bucket : Bucket,
      ((buckets.get? key).filter fun bucket => now < bucket.resetAt).getD
        ⟨key, 0, now + windowMs⟩ = bucket ∧
      bucket.key = key ∧ bucket.window = current windowMs now (windowOf buckets key) := by
  refine ⟨_, rfl, ?_⟩
  unfold current windowOf
  cases known : buckets.get? key with
  | none => exact ⟨rfl, rfl⟩
  | some bucket =>
      by_cases running : now < bucket.resetAt
      · have running' : now < bucket.window.resetAt := running
        rw [Option.filter_some_pos (by simpa using running), Option.map_some,
          Option.filter_some_pos (by simpa using running')]
        exact ⟨(Table.get?_eq_some_iff.mp known).2, rfl⟩
      · have past : ¬ now < bucket.window.resetAt := running
        rw [Option.filter_some_neg (by simpa using running), Option.map_some,
          Option.filter_some_neg (by simpa using past)]
        exact ⟨rfl, rfl⟩

theorem windowOf_put (buckets : Buckets) (bucket : Bucket) (key : String) :
    windowOf (buckets.put bucket) key =
      if bucket.key = key then some bucket.window else windowOf buckets key := by
  unfold windowOf
  rw [Table.get?_put]
  split
  · rfl
  · rfl

/-- A call goes to the counter of its key, and to no other. -/
theorem tryConsume_spec (maxPerWindow : ℕ) (windowMs now : Time) (key : String)
    (buckets : Buckets) :
    (tryConsume maxPerWindow windowMs now key buckets).1 =
        (consume maxPerWindow windowMs now (windowOf buckets key)).1 ∧
      windowOf (tryConsume maxPerWindow windowMs now key buckets).2 key =
        some (consume maxPerWindow windowMs now (windowOf buckets key)).2 ∧
      ∀ other, other ≠ key → windowOf (tryConsume maxPerWindow windowMs now key buckets).2 other =
        windowOf buckets other := by
  obtain ⟨bucket, falls, rfl, window⟩ := bucket_spec windowMs now key buckets
  unfold tryConsume consume
  dsimp only
  rw [falls, ← window]
  by_cases full : maxPerWindow ≤ bucket.count
  · have full' : maxPerWindow ≤ bucket.window.count := full
    rw [if_pos full, if_pos full']
    refine ⟨rfl, ?_, fun other differs => ?_⟩
    · rw [windowOf_put, if_pos rfl]
    · rw [windowOf_put, if_neg (Ne.symm differs)]
  · have fits : ¬ maxPerWindow ≤ bucket.window.count := full
    rw [if_neg full, if_neg fits]
    refine ⟨rfl, ?_, fun other differs => ?_⟩
    · rw [windowOf_put, if_pos rfl]
      rfl
    · rw [windowOf_put, if_neg (Ne.symm differs)]

/-- What the counter of a key has seen. -/
def Limiter.counter (limiter : Limiter) (key : String) : Counter Time :=
  ⟨windowOf limiter.buckets key,
    (limiter.answers.filter fun answer => answer.key = key).map Answer.attempt⟩

theorem counter_step (limiter : Limiter) (call : Call) (key : String) :
    (limiter.step maxPerWindow windowMs call).counter key =
      if call.key = key then FixedWindow.step maxPerWindow windowMs (limiter.counter key) call.now
      else limiter.counter key := by
  obtain ⟨taken, window, others⟩ :=
    tryConsume_spec maxPerWindow windowMs call.now call.key limiter.buckets
  unfold Limiter.step
  cases outcome : tryConsume maxPerWindow windowMs call.now call.key limiter.buckets with
  | mk accepted buckets =>
      rw [outcome] at taken window others
      dsimp only at taken window others ⊢
      by_cases same : call.key = key
      · subst same
        have ends : ((buckets.get? call.key).map Bucket.resetAt).getD call.now =
            (consume maxPerWindow windowMs call.now (windowOf limiter.buckets call.key)).2.resetAt := by
          obtain ⟨bucket, known, same⟩ := Option.map_eq_some_iff.mp window
          rw [known, Option.map_some, Option.getD_some, ← same]
          rfl
        rw [if_pos rfl, ends, taken]
        unfold Limiter.counter FixedWindow.step
        dsimp only
        rw [window, List.filter_append, List.map_append]
        simp
      · rw [if_neg same]
        unfold Limiter.counter
        dsimp only
        rw [others key (Ne.symm same), List.filter_append]
        simp [same]

/-- Each counter sees the calls for its key only. -/
theorem counter_run (maxPerWindow : ℕ) (windowMs : Time) (key : String) (calls : List Call) :
    (run (Limiter.step maxPerWindow windowMs) ⟨.empty, []⟩ calls).counter key =
      run (FixedWindow.step maxPerWindow windowMs) ⟨none, []⟩
        ((calls.filter fun call => call.key = key).map Call.now) := by
  induction calls using List.reverseRecOn with
  | nil => rfl
  | append_singleton calls call ih =>
      rw [run_concat, counter_step, ih, List.filter_append, List.map_append]
      by_cases same : call.key = key
      · rw [if_pos same]
        simp [same]
      · rw [if_neg same]
        simp [same]

theorem attempts_of_key (maxPerWindow : ℕ) (windowMs : Time) (key : String) (calls : List Call) :
    ((answers maxPerWindow windowMs calls).filter fun answer => answer.key = key).map
        Answer.attempt =
      attempts maxPerWindow windowMs ((calls.filter fun call => call.key = key).map Call.now) :=
  congrArg Counter.log (counter_run maxPerWindow windowMs key calls)

end Keys

section Limits

variable {calls : List Call}

/-- How many answers for the key tell of such a call. -/
def countFor (key : String) (counts : Attempt Time → Bool) (answers : List Answer) : ℕ :=
  answers.countP fun answer => answer.key = key && counts answer.attempt

theorem countFor_eq (key : String) (counts : Attempt Time → Bool) (answers : List Answer) :
    countFor key counts answers =
      ((answers.filter fun answer => answer.key = key).map Answer.attempt).countP counts := by
  rw [List.countP_map, List.countP_filter]
  unfold countFor
  congr 1
  funext answer
  exact Bool.and_comm _ _

/-- Every call gets its answer. -/
theorem answers_of_calls (maxPerWindow : ℕ) (windowMs : Time) (calls : List Call) :
    (answers maxPerWindow windowMs calls).map (fun answer => (answer.key, answer.attempt.time)) =
      calls.map fun call => (call.key, call.now) := by
  unfold answers
  induction calls using List.reverseRecOn with
  | nil => rfl
  | append_singleton calls call ih =>
      rw [run_concat, List.map_append, ← ih]
      exact List.map_append

theorem mem_attempts_of_key {answer : Answer}
    (given : answer ∈ answers maxPerWindow windowMs calls) :
    answer.attempt ∈ attempts maxPerWindow windowMs
      ((calls.filter fun call => call.key = answer.key).map Call.now) := by
  rw [← attempts_of_key]
  exact List.mem_map_of_mem (List.mem_filter.mpr ⟨given, by simp⟩)

/-- The limiter keeps its limit per window, and twice the limit in any time of the length of a
window; it refuses a call only after as many as the limit have been accepted within that length;
and what it answers for one key depends on the calls for that key alone. -/
theorem calls_limited (maxPerWindow : ℕ) (positive : 0 < windowMs)
    (sorted : (calls.map Call.now).Pairwise (· ≤ ·)) :
    (∀ answer ∈ answers maxPerWindow windowMs calls, answer.attempt.time < answer.attempt.resetAt ∧
        answer.attempt.resetAt ≤ answer.attempt.time + windowMs) ∧
      (∀ key resetAt, countFor key (fun attempt => attempt.accepted && attempt.resetAt = resetAt)
        (answers maxPerWindow windowMs calls) ≤ maxPerWindow) ∧
      (∀ key start, countFor key (fun attempt => attempt.accepted && start ≤ attempt.time &&
        attempt.time < start + windowMs) (answers maxPerWindow windowMs calls) ≤
          2 * maxPerWindow) ∧
      (∀ earlier answer later, answers maxPerWindow windowMs calls = earlier ++ answer :: later →
        answer.attempt.accepted = false →
          maxPerWindow ≤ countFor answer.key (fun attempt => attempt.accepted &&
            answer.attempt.time - windowMs < attempt.time &&
              attempt.time ≤ answer.attempt.time) earlier) ∧
      ∀ key others, (others.filter fun call => call.key = key) =
          (calls.filter fun call => call.key = key) →
        results maxPerWindow windowMs key others = results maxPerWindow windowMs key calls := by
  have times : ∀ key, ((calls.filter fun call => call.key = key).map Call.now).Pairwise (· ≤ ·) :=
    fun key => sorted.sublist (List.filter_sublist.map Call.now)
  have counted := fun key => counted_run maxPerWindow positive (times key)
  refine ⟨fun answer given => ?_, fun key resetAt => ?_, fun key start => ?_, ?_, ?_⟩
  · exact (counted answer.key).running answer.attempt (mem_attempts_of_key given)
  · rw [countFor_eq, attempts_of_key]
    exact (counted key).atMost resetAt
  · rw [countFor_eq, attempts_of_key]
    exact (counted key).accepted_between_le start
  · intro earlier answer later split refused
    have own := attempts_of_key maxPerWindow windowMs answer.key calls
    rw [split, List.filter_append, List.map_append, List.filter_cons_of_pos (by simp),
      List.map_cons] at own
    have ordered := times_attempts maxPerWindow windowMs
      ((calls.filter fun call => call.key = answer.key).map Call.now)
    have sorted' := times answer.key
    rw [← ordered] at sorted'
    have enough := (counted answer.key).accepted_before_refusal sorted' own.symm refused
    rw [countFor_eq]
    simpa only [sub_lt_iff_lt_add] using enough
  · intro key others same
    have answered : ∀ calls, results maxPerWindow windowMs key calls =
        (attempts maxPerWindow windowMs
          ((calls.filter fun call => call.key = key).map Call.now)).map Attempt.accepted := by
      intro calls
      rw [← attempts_of_key, List.map_map]
      rfl
    rw [answered, answered, same]

/-- Three calls of one key within a minute, and one of another. -/
def busyMinute : List Call := [⟨"acme", 0⟩, ⟨"betzone", 10⟩, ⟨"acme", 20⟩, ⟨"acme", 30⟩]

example : results 2 60000 "acme" busyMinute = [true, true, false] ∧
    results 2 60000 "betzone" busyMinute = [true] := by
  decide

theorem busy_minute_limited :
    countFor "acme" (fun attempt => attempt.accepted && attempt.resetAt = 60000)
        (answers 2 60000 busyMinute) ≤ 2 ∧
      2 ≤ countFor "acme" (fun attempt => attempt.accepted && 30 - 60000 < attempt.time &&
        attempt.time ≤ 30) ((answers 2 60000 busyMinute).take 3) := by
  have positive : (0 : Time) < 60000 := by decide
  have sorted : (busyMinute.map Call.now).Pairwise (· ≤ ·) := by decide
  obtain ⟨_, window, _, refused, _⟩ := calls_limited 2 positive sorted
  exact ⟨window "acme" 60000, refused _ ⟨"acme", ⟨30, false, 60000⟩⟩ [] rfl rfl⟩

end Limits

section Gateway

/-- The limiter of one instance of the gateway has these buckets. -/
def Keeps (appInstance : ℕ) (state : Realtime.State) (buckets : Buckets) : Prop :=
  ∀ key, (state.buckets.get? (appInstance, key)).map (fun bucket => (bucket.count, bucket.resetAt)) =
    (buckets.get? key).map fun bucket => (bucket.count, bucket.resetAt)

theorem falls_into {state : Realtime.State} {buckets : Buckets} {appInstance : ℕ}
    (keeps : Keeps appInstance state buckets) (key : String) :
    ∃ count resetAt,
      ((state.buckets.get? (appInstance, key)).filter fun bucket =>
          state.clock < bucket.resetAt).getD ⟨appInstance, key, 0, state.clock + 60000⟩ =
        ⟨appInstance, key, count, resetAt⟩ ∧
      ((buckets.get? key).filter fun bucket => state.clock < bucket.resetAt).getD
        ⟨key, 0, state.clock + 60000⟩ = ⟨key, count, resetAt⟩ := by
  have same := keeps key
  cases known : state.buckets.get? (appInstance, key) with
  | none =>
      rw [known] at same
      rw [Option.map_eq_none_iff.mp same.symm]
      exact ⟨_, _, rfl, rfl⟩
  | some bucket =>
      rw [known] at same
      obtain ⟨other, known', counts⟩ := Option.map_eq_some_iff.mp same.symm
      have index := (Table.get?_eq_some_iff.mp known).2
      have named := (Table.get?_eq_some_iff.mp known').2
      obtain ⟨_, _, count, resetAt⟩ := bucket
      obtain ⟨_, count', resetAt'⟩ := other
      obtain ⟨rfl, rfl⟩ : count' = count ∧ resetAt' = resetAt := Prod.mk.inj counts
      obtain ⟨rfl, rfl⟩ := Prod.mk.inj index
      cases named
      rw [known']
      by_cases running : state.clock < resetAt'
      · rw [Option.filter_some_pos (by simpa using running),
          Option.filter_some_pos (by simpa using running)]
        exact ⟨_, _, rfl, rfl⟩
      · rw [Option.filter_some_neg (by simpa using running),
          Option.filter_some_neg (by simpa using running)]
        exact ⟨_, _, rfl, rfl⟩

theorem Keeps.put {state : Realtime.State} {buckets : Buckets} {appInstance : ℕ}
    (keeps : Keeps appInstance state buckets) (key : String) (count : ℕ) (resetAt : Time) :
    Keeps appInstance
      { state with buckets := state.buckets.put ⟨appInstance, key, count, resetAt⟩ }
      (buckets.put ⟨key, count, resetAt⟩) := by
  intro other
  rw [Table.get?_put, Table.get?_put, Realtime.Bucket.index]
  by_cases same : key = other
  · simp [same]
  · simpa [same] using keeps other

/-- The gateway's subscriptions are limited by this limiter, with windows of a minute. -/
theorem gateway_tryConsume {state : Realtime.State} {buckets : Buckets} {appInstance : ℕ}
    (keeps : Keeps appInstance state buckets) (maxPerMinute : ℕ) (key : String) :
    (Realtime.tryConsume maxPerMinute appInstance key state).1 =
        (tryConsume maxPerMinute 60000 state.clock key buckets).1 ∧
      Keeps appInstance (Realtime.tryConsume maxPerMinute appInstance key state).2
        (tryConsume maxPerMinute 60000 state.clock key buckets).2 := by
  obtain ⟨count, resetAt, falls, falls'⟩ := falls_into keeps key
  unfold Realtime.tryConsume tryConsume
  dsimp only
  rw [falls, falls']
  by_cases full : maxPerMinute ≤ count
  · rw [if_pos full, if_pos full]
    exact ⟨rfl, keeps.put key count resetAt⟩
  · rw [if_neg full, if_neg full]
    exact ⟨rfl, keeps.put key (count + 1) resetAt⟩

end Gateway

end SportsBetting.GroupRateLimiter
