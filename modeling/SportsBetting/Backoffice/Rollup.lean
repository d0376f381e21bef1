import SportsBetting.Backoffice.Revenue

/-!
# The daily view and the summary

Every settled bet counts in one bucket, so the rows of a window that holds all of them add up
to the summary, for as long as no sum needs more than twenty digits.
-/

namespace SportsBetting.AnalyticsService

open Numeral SettlementService

section Agreement

variable {db : Database} {moment : Moment} {casinoGroupId : String}
  {localeCompare : String → String → ℤ} {days : ℤ} {bets : List Bet}
  {sports : List (String × Sport)}

/-- The rows of the daily view add up to the summary, and each day and sport has one. -/
structure AddsUp (daily : DailyReport) (shown : Summary) (count : ℕ) : Prop where
  settledStake : (daily.rows.map DailyRow.settledStake).sum = shown.ggr.settledStake
  payouts : (daily.rows.map DailyRow.payouts).sum = shown.ggr.payouts
  ggr : (daily.rows.map DailyRow.ggr).sum = shown.ggr.gross
  betCount : (daily.rows.map DailyRow.betCount).sum = count
  distinct : (daily.rows.map fun row => (row.date, row.sportSlug)).Nodup

theorem centsOf_eq_sum (cents : Bet → ℤ) (chosen : Bet → Bool) (bets : List Bet) :
    centsOf cents chosen bets = (bets.map fun bet => if chosen bet then cents bet else 0).sum := by
  induction bets with
  | nil => rfl
  | cons bet rest ih => rw [centsOf_cons, ih, List.map_cons, List.sum_cons]

/-- Each bet that has been settled counts in one bucket. -/
theorem sum_buckets (dated : ∀ bet ∈ bets, bet.settledAt.isSome = true) {Amount : Type}
    [AddCommMonoid Amount] (amount : Bet → Amount) :
    (((dailyGrouping sports).gather bets).rows.map fun bucket =>
      ((bucketBets sports bucket bets).map amount).sum).sum = (bets.map amount).sum := by
  have all : bets.filter (fun bet => ((dailyGrouping sports).key bet).isSome) = bets :=
    List.filter_eq_self.mpr fun bet member => by
      rw [key_dailyGrouping, Option.isSome_map]
      exact dated bet member
  have sums : (((dailyGrouping sports).gather bets).rows.map fun bucket =>
      ((bucketBets sports bucket bets).map amount).sum).sum = _ :=
    Grouping.sum_gather amount bets
  rwa [all] at sums

/-- What the buckets show adds up to the bets, where each bucket is exact. -/
theorem sum_centsOf (dated : ∀ bet ∈ bets, bet.settledAt.isSome = true) {shown : Bucket → ℚ}
    {cents : Bet → ℤ} {chosen : Bet → Bool}
    (exact_ : ∀ bucket ∈ (dailyGrouping sports).gather bets,
      shown bucket = amount (centsOf cents chosen (bucketBets sports bucket bets))) :
    (((dailyGrouping sports).gather bets).rows.map shown).sum =
      amount (centsOf cents chosen bets) := by
  have values : ((dailyGrouping sports).gather bets).rows.map shown =
      (((dailyGrouping sports).gather bets).rows.map fun bucket =>
        centsOf cents chosen (bucketBets sports bucket bets)).map amount := by
    rw [List.map_map]
    exact List.map_congr_left fun bucket member => exact_ bucket member
  rw [values, sum_amount]
  simp only [centsOf_eq_sum]
  rw [sum_buckets dated]

variable {since : Time}

theorem dated_findSettled :
    ∀ bet ∈ findSettled casinoGroupId since db moment, bet.settledAt.isSome = true := by
  intro bet member
  have kept := (List.mem_filter.mp (findSettled_perm.mem_iff.mp member)).2
  unfold inWindow at kept
  cases at_ : bet.settledAt with
  | none =>
      rw [at_] at kept
      cases kept
  | some settledAt => rfl

theorem rows_perm (sports : List (String × Sport)) (bets : List Bet) :
    (dailyRows sports localeCompare bets).Perm
      (((dailyGrouping sports).gather bets).rows.map Bucket.row) := by
  rw [dailyRows, foldl_addBet]
  exact List.perm_insertionSort _ _

/-- No two rows have one day and sport. -/
theorem nodup_rows : ((dailyRows sports localeCompare bets).map
    fun row => (row.date, row.sportSlug)).Nodup := by
  have keys := ((dailyGrouping sports).gather bets).unique
  refine ((rows_perm sports bets).map _).nodup_iff.mpr ?_
  rw [List.map_map]
  refine List.Nodup.of_map (fun named => bucketKey named.1 named.2) ?_
  rwa [List.map_map]

theorem sum_betCount (dated : ∀ bet ∈ bets, bet.settledAt.isSome = true) :
    ((dailyRows sports localeCompare bets).map DailyRow.betCount).sum = bets.length := by
  have counted : ((dailyGrouping sports).gather bets).rows.map Bucket.betCount =
      ((dailyGrouping sports).gather bets).rows.map fun bucket =>
        ((bucketBets sports bucket bets).map fun _ => 1).sum := by
    refine List.map_congr_left fun bucket member => ?_
    rw [(bucket_sums member).1]
    simp
  rw [((rows_perm sports bets).map _).sum_eq, List.map_map]
  change (((dailyGrouping sports).gather bets).rows.map Bucket.betCount).sum = _
  rw [counted, sum_buckets dated]
  simp

/-- What a bet adds to the revenue of its row. -/
def keptCents (bet : Bet) : ℤ :=
  (if hasEither .won .lost bet then bet.stake.units else 0) - payoutCents bet

theorem centsOf_kept (bets : List Bet) : centsOf keptCents (fun _ => true) bets =
    centsOf stakeCents (hasEither .won .lost) bets - centsOf payoutCents (fun _ => true) bets := by
  induction bets with
  | nil => rfl
  | cons bet rest ih =>
      simp only [centsOf_cons, ih, keptCents, stakeCents, if_true]
      split
      · omega
      · omega

/-- The amounts of the rows, where each row is exact. -/
theorem sum_rows (dated : ∀ bet ∈ bets, bet.settledAt.isSome = true)
    (few : ∀ bucket ∈ (dailyGrouping sports).gather bets,
      turnover (bucketBets sports bucket bets) < 10 ^ 20) :
    ((dailyRows sports localeCompare bets).map DailyRow.settledStake).sum =
        amount (centsOf stakeCents (hasEither .won .lost) bets) ∧
      ((dailyRows sports localeCompare bets).map DailyRow.payouts).sum =
        amount (centsOf payoutCents (fun _ => true) bets) ∧
      ((dailyRows sports localeCompare bets).map DailyRow.ggr).sum =
        amount (centsOf stakeCents (hasEither .won .lost) bets -
          centsOf payoutCents (fun _ => true) bets) := by
  have shown : ∀ value : DailyRow → ℚ, ((dailyRows sports localeCompare bets).map value).sum =
      (((dailyGrouping sports).gather bets).rows.map fun bucket => value bucket.row).sum := by
    intro value
    rw [((rows_perm sports bets).map value).sum_eq, List.map_map]
    rfl
  refine ⟨?_, ?_, ?_⟩
  · rw [shown]
    exact sum_centsOf dated fun bucket member => (row_ggr member (few bucket member)).1
  · rw [shown]
    exact sum_centsOf dated fun bucket member => (row_ggr member (few bucket member)).2.1
  · rw [shown, ← centsOf_kept]
    refine sum_centsOf dated fun bucket member => ?_
    rw [(row_ggr member (few bucket member)).2.2, centsOf_kept]

/-- **The daily view adds up to the summary** where its window holds all settled bets, while
their amounts together have no more than twenty digits. -/
theorem daily_addsUp (paid : ∀ bet ∈ settledBets casinoGroupId db, PaidAsSettled bet)
    (window : ∀ bet ∈ settledBets casinoGroupId db,
      inWindow (windowStart moment.now (min (max days 1) 90)) bet = true)
    (few : turnover (settledBets casinoGroupId db) < 10 ^ 20) : ∃ shown daily,
      readFrom db moment (summary casinoGroupId) = some (.ok shown) ∧
      readFrom db moment (dailyGgrBySport localeCompare casinoGroupId days) = some (.ok daily) ∧
      AddsUp daily shown (settledBets casinoGroupId db).length := by
  refine ⟨_, _, readFrom_summary, readFrom_dailyGgrBySport, ?_⟩
  unfold dailyReport
  dsimp only
  generalize windowStart moment.now (min (max days 1) 90) = since at window
  have all : (findSettled casinoGroupId since db moment).Perm (settledBets casinoGroupId db) :=
    findSettled_perm.trans (List.Perm.of_eq (List.filter_eq_self.mpr window))
  have settled : ∀ bet ∈ settledBets casinoGroupId db, isSettled bet = true :=
    fun _ member => isSettled_of_mem member
  have rows : ∀ bucket ∈ (dailyGrouping (dailySports casinoGroupId since db moment)).gather
      (findSettled casinoGroupId since db moment), turnover (bucketBets
        (dailySports casinoGroupId since db moment) bucket
        (findSettled casinoGroupId since db moment)) < 10 ^ 20 := by
    intro bucket _
    have part : turnover (bucketBets (dailySports casinoGroupId since db moment) bucket
        (findSettled casinoGroupId since db moment)) ≤
          turnover (findSettled casinoGroupId since db moment) :=
      turnover_le_of_sublist List.filter_sublist
    rw [turnover_perm all] at part
    exact part.trans_lt few
  obtain ⟨settledStake, payouts, ggr⟩ := sum_rows dated_findSettled rows
  rw [centsOf_perm all] at settledStake payouts ggr
  rw [centsOf_perm all] at ggr
  constructor
  · rw [settledStake, summarize_ggr few]
  · rw [payouts, summarize_ggr few, payouts_eq settled paid]
  · rw [ggr, summarize_ggr few, payouts_eq settled paid]
  · rw [sum_betCount dated_findSettled, all.length_eq]
  · exact nodup_rows

theorem wonAndLost_addsUp : ∃ shown daily,
    readFrom wonAndLost secondDay (summary "group") = some (.ok shown) ∧
      readFrom wonAndLost secondDay (dailyGgrBySport (fun _ _ => 0) "group" 7) = some (.ok daily) ∧
      AddsUp daily shown 2 := by
  have paid : ∀ bet ∈ settledBets "group" wonAndLost, PaidAsSettled bet := by decide +kernel
  exact daily_addsUp paid (by decide +kernel) (by decide +kernel)

/-- A cent has won just below a billion, on one of two days. -/
def hugeWin (first index : ℕ) : Bet :=
  settledBet (String.ofList (List.replicate index 'w')) .won (.ofUnits 1)
    (.ofUnits 99999999999999) (.ofUnits 99999999999999) (if index < first then 0 else dayLength)

theorem hugeWin_inj (first : ℕ) : Function.Injective fun index => (hugeWin first index).id := by
  intro index other same
  have lengths := congrArg (fun id => id.toList.length) same
  simpa [hugeWin, settledBet] using lengths

/-- So many wins on the first day, and on the second. -/
def hugeWins (first second : ℕ) : Database where
  catalog := Sample.catalog .ended .settled
  ledger := ⟨⟨(List.range (first + second)).map (hugeWin first), by
      rw [List.map_map]
      exact List.nodup_range.map (hugeWin_inj first)⟩, .empty, by
      rw [List.map_map]
      refine List.nodup_range.map fun index other same => hugeWin_inj first ?_
      exact congrArg (fun placement => placement.2.2) same⟩
  audit := []

variable {first second : ℕ}

theorem tenantBets_hugeWins :
    tenantBets "group" (hugeWins first second) =
      (List.range (first + second)).map (hugeWin first) := by
  refine List.filter_eq_self.mpr fun bet member => ?_
  obtain ⟨index, _, rfl⟩ := List.mem_map.mp member
  rfl

theorem settledBets_hugeWins :
    settledBets "group" (hugeWins first second) =
      (List.range (first + second)).map (hugeWin first) := by
  rw [settledBets, tenantBets_hugeWins]
  refine List.filter_eq_self.mpr fun bet member => ?_
  obtain ⟨index, _, rfl⟩ := List.mem_map.mp member
  rfl

/-- Every win comes to a billion. -/
theorem turnover_hugeWins (first : ℕ) (indices : List ℕ) :
    turnover (indices.map (hugeWin first)) = indices.length * 10 ^ 14 := by
  induction indices with
  | nil => simp [turnover]
  | cons index rest ih =>
      have stake : (hugeWin first index).stake.units = 1 := rfl
      have payout : payoutCents (hugeWin first index) = 99999999999999 := rfl
      rw [List.map_cons, turnover_cons, ih, stake, payout, List.length_cons]
      omega

theorem centsOf_hugeWins (first : ℕ) (indices : List ℕ) :
    centsOf payoutCents (fun _ => true) (indices.map (hugeWin first)) =
      (indices.length : ℤ) * 99999999999999 := by
  induction indices with
  | nil => simp [centsOf]
  | cons index rest ih =>
      have payout : payoutCents (hugeWin first index) = 99999999999999 := rfl
      rw [List.map_cons, centsOf_cons, ih, if_pos rfl, payout, List.length_cons]
      push_cast
      ring

/-- Each of the two days has its own wins. -/
theorem turnover_of_day (date : String) : turnover (((List.range (first + second)).map
    (hugeWin first)).filter fun bet => bet.settledAt.map isoDate = some date) ≤
      max first second * 10 ^ 14 := by
  have firstDay : isoDate 0 = "1970-01-01" := by decide +kernel
  have secondDay : isoDate dayLength = "1970-01-02" := by decide +kernel
  rw [List.range_add, List.map_append, List.filter_append]
  have early : ∀ bet ∈ (List.range first).map (hugeWin first),
      bet.settledAt.map isoDate = some "1970-01-01" := by
    intro bet member
    obtain ⟨index, below, rfl⟩ := List.mem_map.mp member
    simp [hugeWin, settledBet, List.mem_range.mp below, firstDay]
  have late : ∀ bet ∈ ((List.range second).map (first + ·)).map (hugeWin first),
      bet.settledAt.map isoDate = some "1970-01-02" := by
    intro bet member
    obtain ⟨index, listed, rfl⟩ := List.mem_map.mp member
    obtain ⟨more, _, rfl⟩ := List.mem_map.mp listed
    simp [hugeWin, settledBet, secondDay]
  by_cases day : date = "1970-01-01"
  · have none_ : (((List.range second).map (first + ·)).map (hugeWin first)).filter
        (fun bet => bet.settledAt.map isoDate = some date) = [] := by
      refine List.filter_eq_nil_iff.mpr fun bet member => ?_
      rw [late bet member, day]
      decide
    have part := turnover_le_of_sublist (List.filter_sublist (l := (List.range first).map
      (hugeWin first)) (p := fun bet => bet.settledAt.map isoDate = some date))
    rw [turnover_hugeWins, List.length_range] at part
    rw [none_, List.append_nil]
    exact part.trans (Nat.mul_le_mul_right _ (le_max_left _ _))
  · have none_ : ((List.range first).map (hugeWin first)).filter
        (fun bet => bet.settledAt.map isoDate = some date) = [] := by
      refine List.filter_eq_nil_iff.mpr fun bet member => ?_
      rw [early bet member, decide_eq_true_eq, Option.some.injEq]
      exact fun same => day same.symm
    have part := turnover_le_of_sublist (List.filter_sublist (l := ((List.range second).map
      (first + ·)).map (hugeWin first)) (p := fun bet => bet.settledAt.map isoDate = some date))
    rw [turnover_hugeWins, List.length_map, List.length_range] at part
    rw [none_, List.nil_append]
    exact part.trans (Nat.mul_le_mul_right _ (le_max_right _ _))

/-- A bucket has wins of one day. -/
theorem turnover_bucket_le {sports : List (String × Sport)} {bets : List Bet} {bucket : Bucket}
    (same : bets.Perm ((List.range (first + second)).map (hugeWin first)))
    (stored : bucket ∈ (dailyGrouping sports).gather bets) :
    turnover (bucketBets sports bucket bets) ≤ max first second * 10 ^ 14 := by
  rw [bucketBets_eq stored, turnover_perm (same.filter _)]
  have part : (((List.range (first + second)).map (hugeWin first)).filter fun bet =>
      bet.settledAt.map isoDate = some bucket.date &&
        sportSlug sports bet = bucket.sportSlug).Sublist
      (((List.range (first + second)).map (hugeWin first)).filter fun bet =>
        bet.settledAt.map isoDate = some bucket.date) := by
    rw [← List.filter_filter]
    exact List.filter_sublist.filter _
  exact (turnover_le_of_sublist part).trans (turnover_of_day _)

theorem hugeWins_facts : ∀ bet ∈ settledBets "group" (hugeWins first second),
    PaidAsSettled bet ∧ inWindow (windowStart secondDay.now 7) bet = true := by
  intro bet member
  rw [settledBets_hugeWins] at member
  obtain ⟨index, _, rfl⟩ := List.mem_map.mp member
  refine ⟨rfl, ?_⟩
  simp only [inWindow, hugeWin, settledBet, Option.any_some, decide_eq_true_eq]
  split <;> decide

/-- The summary adds the payouts of the won bets to nothing, and nothing to them. -/
theorem payouts_hugeWins :
    (summarize "group" (groupByStatus "group" (hugeWins first second))).ggr.payouts =
      plus (plus 0 (amount ((first + second : ℕ) * 99999999999999))) (amount 0) := by
  have won : centsOf payoutCents (hasStatus .won) (tenantBets "group" (hugeWins first second)) =
      (first + second : ℕ) * 99999999999999 := by
    rw [tenantBets_hugeWins]
    have all : centsOf payoutCents (hasStatus .won)
        ((List.range (first + second)).map (hugeWin first)) =
        centsOf payoutCents (fun _ => true)
          ((List.range (first + second)).map (hugeWin first)) := by
      unfold centsOf
      rw [List.filter_map, List.filter_map]
      rfl
    rw [all, centsOf_hugeWins, List.length_range]
  have void : centsOf payoutCents (hasStatus .void)
      (tenantBets "group" (hugeWins first second)) = 0 := by
    rw [tenantBets_hugeWins, centsOf, List.filter_map]
    have none_ : (List.range (first + second)).filter (hasStatus .void ∘ hugeWin first) = [] :=
      List.filter_eq_nil_iff.mpr fun _ _ never => by cases never
    rw [none_]
    rfl
  unfold summarize
  dsimp only
  simp only [List.foldl_cons, List.foldl_nil, payout_of_status, won, void]

/-- Where each day has few enough wins, the rows are exact. -/
theorem sum_payouts_hugeWins (few : max first second * 10 ^ 14 < 10 ^ 20) :
    ((dailyReport (fun _ _ => 0) "group" 7 (hugeWins first second) secondDay).rows.map
      DailyRow.payouts).sum = amount ((first + second : ℕ) * 99999999999999) := by
  have all : ((settledBets "group" (hugeWins first second)).filter
      (inWindow (windowStart secondDay.now 7))) =
      (List.range (first + second)).map (hugeWin first) := by
    rw [List.filter_eq_self.mpr fun bet member => (hugeWins_facts bet member).2,
      settledBets_hugeWins]
  have same : (findSettled "group" (windowStart secondDay.now 7) (hugeWins first second)
      secondDay).Perm ((List.range (first + second)).map (hugeWin first)) :=
    findSettled_perm.trans (List.Perm.of_eq all)
  obtain ⟨_, payouts, _⟩ := sum_rows dated_findSettled fun bucket stored =>
    (turnover_bucket_le same stored).trans_lt few
  rw [centsOf_perm same, centsOf_hugeWins, List.length_range] at payouts
  exact payouts

/-- Two days with six hundred thousand such wins, and one more: each row of the daily view is
exact, but their sum has a digit too many for the summary. -/
theorem summary_rounds : ∃ shown daily,
    readFrom (hugeWins 600000 600001) secondDay (summary "group") = some (.ok shown) ∧
      readFrom (hugeWins 600000 600001) secondDay (dailyGgrBySport (fun _ _ => 0) "group" 7) =
        some (.ok daily) ∧
      (∀ bet ∈ settledBets "group" (hugeWins 600000 600001), PaidAsSettled bet) ∧
      (∀ bet ∈ settledBets "group" (hugeWins 600000 600001),
        inWindow (windowStart secondDay.now 7) bet = true) ∧
      ¬ AddsUp daily shown (settledBets "group" (hugeWins 600000 600001)).length := by
  refine ⟨_, _, readFrom_summary, readFrom_dailyGgrBySport,
    fun bet member => (hugeWins_facts bet member).1,
    fun bet member => (hugeWins_facts bet member).2, fun addsUp => ?_⟩
  have payouts := addsUp.payouts
  rw [sum_payouts_hugeWins (by norm_num), payouts_hugeWins] at payouts
  revert payouts
  decide +kernel

end Agreement

end SportsBetting.AnalyticsService
