import SportsBetting.Backoffice.Analytics
import SportsBetting.Bets.Consistency
import Mathlib.Algebra.Order.BigOperators.Group.List

/-!
# Gross gaming revenue

While the amounts have no more than twenty digits, both views are exact sums in cents. A void
bet then costs its stake: it is refunded, but the stake is not counted in.
-/

namespace SportsBetting.AnalyticsService

open Async Numeral SettlementService

section Exact

def amount (cents : ℤ) : ℚ := cents / 10 ^ 2

theorem amount_injective {first second : ℤ} : amount first = amount second ↔ first = second := by
  unfold amount
  rw [div_left_inj' (by norm_num), Int.cast_inj]

theorem plus_amount {first second : ℤ} (short : (first + second).natAbs < 10 ^ 20) :
    plus (amount first) (amount second) = amount (first + second) := by
  have sum : amount first + amount second = (first + second : ℤ) / 10 ^ 2 := by
    unfold amount
    push_cast
    ring
  unfold plus
  rw [sum]
  exact roundSignificant_exact short

theorem minus_amount {first second : ℤ} (short : (first - second).natAbs < 10 ^ 20) :
    minus (amount first) (amount second) = amount (first - second) := by
  have difference : amount first - amount second = (first - second : ℤ) / 10 ^ 2 := by
    unfold amount
    push_cast
    ring
  unfold minus
  rw [difference]
  exact roundSignificant_exact short

theorem sum_amount (cents : List ℤ) : (cents.map amount).sum = amount cents.sum := by
  induction cents with
  | nil => simp [amount]
  | cons first rest ih =>
      rw [List.map_cons, List.sum_cons, ih, List.sum_cons]
      unfold amount
      push_cast
      ring

/-- Adding up one by one is exact while the amounts together have twenty digits. -/
theorem foldl_plus {cents : List ℤ} {start : ℤ}
    (short : start.natAbs + (cents.map Int.natAbs).sum < 10 ^ 20) :
    (cents.map amount).foldl plus (amount start) = amount (start + cents.sum) := by
  induction cents generalizing start with
  | nil => simp
  | cons first rest ih =>
      simp only [List.map_cons, List.sum_cons] at short
      rw [List.map_cons, List.foldl_cons, plus_amount (by omega), ih (by omega), List.sum_cons,
        add_assoc]

end Exact

section Cents

def payoutCents (bet : Bet) : ℤ := (bet.payoutAmount.map Numeric.units).getD 0

theorem payoutOf_eq (bet : Bet) : payoutOf bet = amount (payoutCents bet) := by
  unfold payoutOf payoutCents
  cases bet.payoutAmount with
  | none => simp [amount]
  | some payout => rfl

theorem stake_eq (bet : Bet) : bet.stake.value = amount bet.stake.units := rfl

/-- What the amounts of the bets come to in cents, whatever their signs. -/
def turnover (bets : List Bet) : ℕ :=
  (bets.map fun bet => bet.stake.units.natAbs + (payoutCents bet).natAbs).sum

theorem turnover_cons (bet : Bet) (bets : List Bet) : turnover (bet :: bets) =
    bet.stake.units.natAbs + (payoutCents bet).natAbs + turnover bets := rfl

theorem turnover_le_of_sublist {first second : List Bet} (part : first.Sublist second) :
    turnover first ≤ turnover second :=
  (part.map _).sum_le_sum fun _ _ => Nat.zero_le _

theorem turnover_perm {first second : List Bet} (same : first.Perm second) :
    turnover first = turnover second := (same.map _).sum_eq

/-- The cents of the chosen bets. -/
def centsOf (cents : Bet → ℤ) (chosen : Bet → Bool) (bets : List Bet) : ℤ :=
  ((bets.filter chosen).map cents).sum

theorem centsOf_cons (cents : Bet → ℤ) (chosen : Bet → Bool) (bet : Bet) (bets : List Bet) :
    centsOf cents chosen (bet :: bets) =
      (if chosen bet then cents bet else 0) + centsOf cents chosen bets := by
  unfold centsOf
  cases hit : chosen bet with
  | true => simp [hit]
  | false => simp [hit]

def stakeCents : Bet → ℤ := fun bet => bet.stake.units

theorem sum_natAbs_le {cents : Bet → ℤ}
    (own : ∀ bet, (cents bet).natAbs ≤ bet.stake.units.natAbs + (payoutCents bet).natAbs)
    (chosen : Bet → Bool) (bets : List Bet) :
    (((bets.filter chosen).map cents).map Int.natAbs).sum ≤ turnover bets := by
  have part : turnover (bets.filter chosen) ≤ turnover bets :=
    turnover_le_of_sublist List.filter_sublist
  rw [List.map_map]
  exact le_trans (List.sum_le_sum fun bet _ => own bet) part

/-- Stakes and payouts over any choices of the bets are within the turnover. -/
theorem natAbs_centsOf_le (staked paid : Bet → Bool) (bets : List Bet) :
    (centsOf stakeCents staked bets).natAbs + (centsOf payoutCents paid bets).natAbs ≤
      turnover bets := by
  induction bets with
  | nil => simp [centsOf, turnover]
  | cons bet rest ih =>
      rw [centsOf_cons, centsOf_cons, turnover_cons]
      unfold stakeCents at ih ⊢
      split <;> split <;> omega

end Cents

section Summary

variable {casinoGroupId : String} {db : Database} {bets : List Bet}

theorem status_of_statusGroup {status : BetStatus} {group : StatusGroup}
    (made : statusGroup bets status = some group) : group.status = status := by
  unfold statusGroup at made
  dsimp only at made
  split at made
  · cases made
  · rw [← Option.some.inj made]

/-- A status is found in the groups if it has bets. -/
theorem findStatus_groupByStatus (status : BetStatus) :
    findStatus (groupByStatus casinoGroupId db) status =
      statusGroup (tenantBets casinoGroupId db) status := by
  have listed : status ∈
      [BetStatus.pending, .accepted, .rejected, .won, .lost, .void] := by cases status <;> decide
  unfold findStatus groupByStatus
  generalize tenantBets casinoGroupId db = bets
  generalize [BetStatus.pending, .accepted, .rejected, .won, .lost, .void] = statuses at listed ⊢
  cases made : statusGroup bets status with
  | none =>
      rw [List.find?_eq_none]
      intro group member
      obtain ⟨other, _, group?⟩ := List.mem_filterMap.mp member
      intro same
      rw [status_of_statusGroup group?, decide_eq_true_eq] at same
      rw [same, made] at group?
      cases group?
  | some group =>
      induction statuses with
      | nil => cases listed
      | cons first rest ih =>
          by_cases own : first = status
          · rw [own, List.filterMap_cons_some made, List.find?_cons_of_pos]
            simpa using status_of_statusGroup made
          · have later := ih (List.mem_of_ne_of_mem (fun same => own same.symm) listed)
            cases other : statusGroup bets first with
            | none => rwa [List.filterMap_cons_none other]
            | some skipped =>
                rw [List.filterMap_cons_some other, List.find?_cons_of_neg]
                · exact later
                · simpa [status_of_statusGroup other] using own

theorem columnSum_getD (amounts : List ℚ) : (columnSum amounts).getD 0 = amounts.sum := by
  cases amounts <;> rfl

theorem sum_payouts (bets : List Bet) :
    ((bets.filterMap Bet.payoutAmount).map Numeric.value).sum =
      amount (bets.map payoutCents).sum := by
  rw [← sum_amount, List.map_map]
  induction bets with
  | nil => rfl
  | cons bet rest ih =>
      cases paid : bet.payoutAmount with
      | none => simp [List.filterMap_cons_none paid, ih, payoutCents, paid, amount]
      | some payout =>
          simp [List.filterMap_cons_some paid, ih, payoutCents, paid, amount, Numeric.value]

def hasStatus (status : BetStatus) (bet : Bet) : Bool := bet.status = status

theorem stake_of_status (status : BetStatus) :
    ((findStatus (groupByStatus casinoGroupId db) status).bind StatusGroup.stake).getD 0 =
      amount (centsOf stakeCents (hasStatus status) (tenantBets casinoGroupId db)) := by
  rw [findStatus_groupByStatus, centsOf, ← sum_amount, List.map_map]
  unfold statusGroup
  dsimp only
  change _ = (((tenantBets casinoGroupId db).filter fun bet => bet.status = status).map _).sum
  generalize (tenantBets casinoGroupId db).filter (fun bet => bet.status = status) = own
  cases own with
  | nil => rfl
  | cons bet rest => exact columnSum_getD ((bet :: rest).map fun bet => bet.stake.value)

theorem payout_of_status (status : BetStatus) :
    ((findStatus (groupByStatus casinoGroupId db) status).bind StatusGroup.payoutAmount).getD 0 =
      amount (centsOf payoutCents (hasStatus status) (tenantBets casinoGroupId db)) := by
  rw [findStatus_groupByStatus, centsOf, ← sum_payouts]
  unfold statusGroup
  dsimp only
  change _ = ((((tenantBets casinoGroupId db).filter
    fun bet => bet.status = status).filterMap Bet.payoutAmount).map Numeric.value).sum
  generalize (tenantBets casinoGroupId db).filter (fun bet => bet.status = status) = own
  cases own with
  | nil => rfl
  | cons bet rest => exact columnSum_getD _

def hasEither (first second : BetStatus) (bet : Bet) : Bool :=
  bet.status = first || bet.status = second

theorem centsOf_either {first second : BetStatus} (distinct : first ≠ second) (cents : Bet → ℤ)
    (bets : List Bet) :
    centsOf cents (hasStatus first) bets + centsOf cents (hasStatus second) bets =
      centsOf cents (hasEither first second) bets := by
  induction bets with
  | nil => rfl
  | cons bet rest ih =>
      rw [centsOf_cons, centsOf_cons, centsOf_cons, ← ih]
      simp only [hasStatus, hasEither, decide_eq_true_eq, Bool.or_eq_true]
      by_cases own : bet.status = first
      · simp [own, distinct]
        ring
      · by_cases other : bet.status = second
        · simp [other, distinct.symm]
          ring
        · simp [own, other]

def settledBets (casinoGroupId : String) (db : Database) : List Bet :=
  (tenantBets casinoGroupId db).filter isSettled

theorem centsOf_settled {cents : Bet → ℤ} {chosen : Bet → Bool}
    (within : ∀ bet, chosen bet = true → isSettled bet = true) (bets : List Bet) :
    centsOf cents chosen (bets.filter isSettled) = centsOf cents chosen bets := by
  unfold centsOf
  rw [List.filter_filter]
  congr 2
  refine List.filter_congr fun bet _ => ?_
  cases hit : chosen bet with
  | false => rfl
  | true => rw [within bet hit, Bool.and_true]

/-- Two sums of the database are added exactly. -/
theorem plus_centsOf {first second : BetStatus} (distinct : first ≠ second) {cents : Bet → ℤ}
    (few : ∀ chosen, (centsOf cents chosen bets).natAbs < 10 ^ 20) :
    [centsOf cents (hasStatus first) bets, centsOf cents (hasStatus second) bets].foldl
      (fun sum cents => plus sum (amount cents)) 0 =
        amount (centsOf cents (hasEither first second) bets) := by
  have zero : (0 : ℚ) = amount 0 := by simp [amount]
  have first_ := few (hasStatus first)
  have both := few (hasEither first second)
  rw [← centsOf_either distinct] at both ⊢
  simp only [List.foldl_cons, List.foldl_nil]
  rw [zero, plus_amount (by rwa [zero_add]), zero_add, plus_amount both]

/-- The revenue of the summary, in cents. -/
theorem summarize_ggr (few : turnover (settledBets casinoGroupId db) < 10 ^ 20) :
    (summarize casinoGroupId (groupByStatus casinoGroupId db)).ggr =
      ⟨amount (centsOf stakeCents (hasEither .won .lost) (settledBets casinoGroupId db)),
        amount (centsOf payoutCents (hasEither .won .void) (settledBets casinoGroupId db)),
        amount (centsOf stakeCents (hasEither .won .lost) (settledBets casinoGroupId db) -
          centsOf payoutCents (hasEither .won .void) (settledBets casinoGroupId db))⟩ := by
  have only : ∀ {status : BetStatus} {cents : Bet → ℤ},
      status = .won ∨ status = .lost ∨ status = .void →
      centsOf cents (hasStatus status) (settledBets casinoGroupId db) =
        centsOf cents (hasStatus status) (tenantBets casinoGroupId db) := by
    intro status cents settled
    refine centsOf_settled (fun bet own => ?_) _
    rw [hasStatus, decide_eq_true_eq] at own
    simpa [isSettled, own, or_assoc] using settled
  have within := fun staked paid =>
    natAbs_centsOf_le staked paid (settledBets casinoGroupId db)
  have stakes : ∀ chosen,
      (centsOf stakeCents chosen (settledBets casinoGroupId db)).natAbs < 10 ^ 20 := by
    intro chosen
    have bound := within chosen chosen
    omega
  have payouts : ∀ chosen,
      (centsOf payoutCents chosen (settledBets casinoGroupId db)).natAbs < 10 ^ 20 := by
    intro chosen
    have bound := within chosen chosen
    omega
  have settledStake := plus_centsOf (show BetStatus.won ≠ .lost by decide) stakes
  have paid := plus_centsOf (show BetStatus.won ≠ .void by decide) payouts
  rw [only (by simp), only (by simp)] at settledStake paid
  unfold summarize
  dsimp only
  simp only [List.foldl_cons, List.foldl_nil, stake_of_status, payout_of_status]
    at settledStake paid ⊢
  rw [settledStake, paid, minus_amount]
  have bound := within (hasEither .won .lost) (hasEither .won .void)
  omega

end Summary

section Buckets

variable {sports : List (String × Sport)} {bets : List Bet} {bucket : Bucket}

/-- The buckets of the daily view as a grouping. -/
def dailyGrouping (sports : List (String × Sport)) : Grouping Bet Bucket.key where
  key bet := bet.settledAt.map fun settledAt =>
    bucketKey (isoDate settledAt) (sportSlug sports bet)
  start bet :=
    ⟨(bet.settledAt.map isoDate).getD "", sportSlug sports bet, sportName sports bet, 0, 0, 0⟩
  add row bet := { row with
    betCount := row.betCount + 1
    settledStake :=
      if bet.status = .won ∨ bet.status = .lost then plus row.settledStake bet.stake.value
      else row.settledStake
    payouts := plus row.payouts (payoutOf bet) }
  key_start bet wanted keyed := by
    obtain ⟨settledAt, at_, rfl⟩ := Option.map_eq_some_iff.mp keyed
    simp [Bucket.key, at_]
  key_add _ _ := rfl

theorem key_dailyGrouping (bet : Bet) : (dailyGrouping sports).key bet =
    bet.settledAt.map fun settledAt => bucketKey (isoDate settledAt) (sportSlug sports bet) := rfl

theorem foldl_addBet (bets : List Bet) :
    bets.foldl (addBet sports) .empty = (dailyGrouping sports).gather bets := by
  have each : addBet sports = (dailyGrouping sports).gatherInto := by
    funext buckets bet
    cases at_ : bet.settledAt with
    | none => simp [addBet, Grouping.gatherInto, dailyGrouping, at_]
    | some settledAt => simp [addBet, Grouping.gatherInto, dailyGrouping, at_]
  rw [each]
  rfl

theorem foldl_add (own : List Bet) (row : Bucket) :
    own.foldl (dailyGrouping sports).add row = { row with
      betCount := row.betCount + own.length
      settledStake := ((own.filter (hasEither .won .lost)).map fun bet => bet.stake.value).foldl
        plus row.settledStake
      payouts := (own.map payoutOf).foldl plus row.payouts } := by
  induction own generalizing row with
  | nil => rfl
  | cons bet rest ih =>
      rw [List.foldl_cons, ih]
      have counts : hasEither .won .lost bet = true ↔ bet.status = .won ∨ bet.status = .lost := by
        simp [hasEither]
      by_cases counted : bet.status = .won ∨ bet.status = .lost
      · rw [List.filter_cons_of_pos (counts.mpr counted)]
        simp only [dailyGrouping, if_pos counted, List.map_cons, List.foldl_cons, List.length_cons]
        congr 1
        omega
      · rw [List.filter_cons_of_neg (fun own => counted (counts.mp own))]
        simp only [dailyGrouping, if_neg counted, List.map_cons, List.foldl_cons, List.length_cons]
        congr 1
        omega

/-- The bets of a bucket. -/
def bucketBets (sports : List (String × Sport)) (bucket : Bucket) (bets : List Bet) : List Bet :=
  (dailyGrouping sports).members bucket.key bets

/-- A bucket adds up its bets one by one, in the order of the query. -/
theorem bucket_sums (stored : bucket ∈ (dailyGrouping sports).gather bets) :
    bucket.betCount = (bucketBets sports bucket bets).length ∧
      bucket.settledStake = (((bucketBets sports bucket bets).filter
        (hasEither .won .lost)).map fun bet => bet.stake.value).foldl plus 0 ∧
      bucket.payouts = ((bucketBets sports bucket bets).map payoutOf).foldl plus 0 ∧
      ∃ settledAt, isoDate settledAt = bucket.date := by
  have made := Grouping.mem_gather.mp stored
  unfold bucketBets
  cases own : (dailyGrouping sports).members bucket.key bets with
  | nil =>
      rw [own] at made
      cases made
  | cons first rest =>
      have member : first ∈ (dailyGrouping sports).members bucket.key bets := by
        rw [own]
        exact List.mem_cons_self
      obtain ⟨settledAt, at_, _⟩ :=
        Option.map_eq_some_iff.mp (Grouping.key_of_mem_members member)
      rw [own, Grouping.row?, Option.some.injEq, foldl_add] at made
      rw [← made]
      simp [dailyGrouping, at_]

theorem bucketKey_inj {firstDate secondDate firstSlug secondSlug : String}
    (long : firstDate.toList.length = secondDate.toList.length)
    (same : bucketKey firstDate firstSlug = bucketKey secondDate secondSlug) :
    firstDate = secondDate ∧ firstSlug = secondSlug := by
  unfold bucketKey at same
  have lists := congrArg String.toList same
  simp only [String.toList_append, List.append_assoc] at lists
  obtain ⟨dates, slugs⟩ := List.append_inj lists long
  refine ⟨String.toList_inj.mp dates, String.toList_inj.mp ?_⟩
  exact List.append_cancel_left slugs

/-- The bets of a bucket are those of its day and sport. -/
theorem bucketBets_eq (stored : bucket ∈ (dailyGrouping sports).gather bets) :
    bucketBets sports bucket bets = bets.filter fun bet =>
      bet.settledAt.map isoDate = some bucket.date && sportSlug sports bet = bucket.sportSlug := by
  obtain ⟨_, _, _, settledAt, dated⟩ := bucket_sums stored
  refine List.filter_congr fun bet _ => ?_
  rw [Bool.eq_iff_iff, Bool.and_eq_true, decide_eq_true_eq, decide_eq_true_eq, decide_eq_true_eq,
    key_dailyGrouping]
  cases bet.settledAt with
  | none => simp
  | some other =>
      simp only [Option.map_some, Option.some.injEq]
      constructor
      · intro same
        exact bucketKey_inj (by rw [← dated, length_isoDate, length_isoDate]) same
      · rintro ⟨date, slug⟩
        rw [date, slug, Bucket.key]

/-- The revenue of a row, in cents. -/
theorem row_ggr (stored : bucket ∈ (dailyGrouping sports).gather bets)
    (few : turnover (bucketBets sports bucket bets) < 10 ^ 20) :
    bucket.settledStake =
        amount (centsOf stakeCents (hasEither .won .lost) (bucketBets sports bucket bets)) ∧
      bucket.payouts =
        amount (centsOf payoutCents (fun _ => true) (bucketBets sports bucket bets)) ∧
      bucket.row.ggr = amount
        (centsOf stakeCents (hasEither .won .lost) (bucketBets sports bucket bets) -
          centsOf payoutCents (fun _ => true) (bucketBets sports bucket bets)) := by
  obtain ⟨_, settledStake, payouts, _⟩ := bucket_sums stored
  generalize bucketBets sports bucket bets = own at few settledStake payouts ⊢
  have zero : (0 : ℚ) = amount 0 := by simp [amount]
  have staked : bucket.settledStake = amount (centsOf stakeCents (hasEither .won .lost) own) := by
    have short : (((own.filter (hasEither .won .lost)).map stakeCents).map Int.natAbs).sum ≤
        turnover own := sum_natAbs_le (fun _ => Nat.le_add_right _ _) _ own
    have values : (own.filter (hasEither .won .lost)).map (fun bet => bet.stake.value) =
        ((own.filter (hasEither .won .lost)).map stakeCents).map amount := by
      rw [List.map_map]
      rfl
    rw [settledStake, values, zero, foldl_plus (by simpa using short.trans_lt few), zero_add,
      centsOf]
  have paid : bucket.payouts = amount (centsOf payoutCents (fun _ => true) own) := by
    have short : (((own.filter fun _ => true).map payoutCents).map Int.natAbs).sum ≤
        turnover own := sum_natAbs_le (fun _ => Nat.le_add_left _ _) _ own
    have values : own.map payoutOf =
        ((own.filter fun _ => true).map payoutCents).map amount := by
      rw [List.filter_true, List.map_map]
      exact List.map_congr_left fun bet _ => payoutOf_eq bet
    rw [payouts, values, zero, foldl_plus (by simpa using short.trans_lt few), zero_add, centsOf]
  refine ⟨staked, paid, ?_⟩
  have bound := natAbs_centsOf_le (hasEither .won .lost) (fun _ => true) own
  rw [Bucket.row]
  dsimp only
  rw [staked, paid, minus_amount (by omega)]

end Buckets

section Daily

variable {db : Database} {moment : Moment} {casinoGroupId : String} {since : Time}
  {localeCompare : String → String → ℤ} {days : ℤ}

/-- The slug of the sport of a bet, by its first leg. -/
def catalogSlug (db : Database) (bet : Bet) : String :=
  ((match firstEventId bet with
    | none => none
    | some eventId => if eventId = "" then none else sportOf db eventId).map Sport.slug).getD
      "unknown"

theorem lookup_findSports {eventIds : List String} {eventId : String}
    (member : eventId ∈ eventIds) : (findSports eventIds db).lookup eventId = sportOf db eventId := by
  induction eventIds with
  | nil => cases member
  | cons first rest ih =>
      unfold findSports
      cases sport? : sportOf db first with
      | none =>
          rw [List.filterMap_cons_none (by rw [sport?]; rfl)]
          rcases List.mem_cons.mp member with rfl | later
          · rw [sport?, List.lookup_eq_none_iff]
            rintro ⟨other, sport⟩ listed
            obtain ⟨source, _, made⟩ := List.mem_filterMap.mp listed
            obtain ⟨found_, known, same⟩ := Option.map_eq_some_iff.mp made
            obtain ⟨rfl, rfl⟩ := Prod.mk.inj same
            rw [bne_iff_ne]
            rintro rfl
            rw [sport?] at known
            cases known
          · exact ih later
      | some sport =>
          rw [List.filterMap_cons_some (by rw [sport?]; rfl)]
          by_cases own : eventId = first
          · rw [own, List.lookup_cons_self, sport?]
          · rw [List.lookup_cons, beq_false_of_ne own]
            exact ih (List.mem_of_ne_of_mem own member)

theorem sportSlug_findSports {bets : List Bet} {bet : Bet} (member : bet ∈ bets) :
    sportSlug (findSports (bets.filterMap firstEventId).dedup db) bet = catalogSlug db bet := by
  unfold sportSlug betSport catalogSlug
  cases first : firstEventId bet with
  | none => rfl
  | some eventId =>
      dsimp only
      rw [lookup_findSports (List.mem_dedup.mpr (List.mem_filterMap.mpr ⟨bet, member, first⟩))]

def inWindow (since : Time) (bet : Bet) : Bool :=
  bet.settledAt.any fun settledAt => since ≤ settledAt

/-- The bets of a row: settled in the window, on its day, first on an event of its sport. -/
def rowBets (casinoGroupId : String) (since : Time) (db : Database) (row : DailyRow) : List Bet :=
  (settledBets casinoGroupId db).filter fun bet => inWindow since bet &&
    (bet.settledAt.map isoDate = some row.date && catalogSlug db bet = row.sportSlug)

/-- The sports that the second query finds for the bets of the first. -/
def dailySports (casinoGroupId : String) (since : Time) (db : Database) (moment : Moment) :
    List (String × Sport) :=
  findSports ((findSettled casinoGroupId since db moment).filterMap firstEventId).dedup db

theorem findSettled_perm : (findSettled casinoGroupId since db moment).Perm
    ((settledBets casinoGroupId db).filter (inWindow since)) := by
  refine (List.perm_insertionSort _ _).trans ?_
  rw [settledBets, List.filter_filter]
  refine List.Perm.of_eq (List.filter_congr fun bet _ => ?_)
  rw [inWindow, Bool.and_comm]

/-- The bucket of a row has the bets of the row. -/
theorem bucketBets_perm {bucket : Bucket}
    (stored : bucket ∈ (dailyGrouping (dailySports casinoGroupId since db moment)).gather
      (findSettled casinoGroupId since db moment)) :
    (bucketBets (dailySports casinoGroupId since db moment) bucket
      (findSettled casinoGroupId since db moment)).Perm
        (rowBets casinoGroupId since db bucket.row) := by
  have slugs : (findSettled casinoGroupId since db moment).filter (fun bet =>
      bet.settledAt.map isoDate = some bucket.date &&
        sportSlug (dailySports casinoGroupId since db moment) bet = bucket.sportSlug) =
      (findSettled casinoGroupId since db moment).filter fun bet =>
        bet.settledAt.map isoDate = some bucket.row.date &&
          catalogSlug db bet = bucket.row.sportSlug := by
    refine List.filter_congr fun bet member => ?_
    rw [dailySports, sportSlug_findSports member]
    rfl
  rw [bucketBets_eq stored, slugs]
  refine (findSettled_perm.filter _).trans (List.Perm.of_eq ?_)
  rw [List.filter_filter, rowBets]
  exact List.filter_congr fun bet _ => Bool.and_comm _ _

theorem readFrom_summary : readFrom db moment (summary casinoGroupId) =
    some (.ok (summarize casinoGroupId (groupByStatus casinoGroupId db))) := rfl

/-- What the daily view shows of a store that does not change. -/
def dailyReport (localeCompare : String → String → ℤ) (casinoGroupId : String) (days : ℤ)
    (db : Database) (moment : Moment) : DailyReport :=
  let safeDays := min (max days 1) 90
  let since := windowStart moment.now safeDays
  ⟨casinoGroupId, safeDays, since, dailyRows (dailySports casinoGroupId since db moment)
    localeCompare (findSettled casinoGroupId since db moment)⟩

theorem readFrom_dailyGgrBySport :
    readFrom db moment (dailyGgrBySport localeCompare casinoGroupId days) =
      some (.ok (dailyReport localeCompare casinoGroupId days db moment)) := rfl

end Daily

section Gross

variable {db : Database} {moment : Moment} {casinoGroupId : String}
  {localeCompare : String → String → ℤ} {days : ℤ} {bets : List Bet}

/-- The payout of a settled bet, as settlement and the void of staff write it. -/
def PaidAsSettled (bet : Bet) : Prop :=
  match bet.status with
  | .won => bet.payoutAmount = some bet.potentialPayout
  | .lost => bet.payoutAmount = some 0
  | .void => bet.payoutAmount = some (stakeAmount bet.stake)
  | _ => True

instance (bet : Bet) : Decidable (PaidAsSettled bet) := by
  unfold PaidAsSettled
  cases bet.status <;> infer_instance

theorem paidAsSettled_of_consistent {ledger : Ledger} {bet : Bet} (consistent : ledger.Consistent)
    (stored : bet ∈ ledger.bets) : PaidAsSettled bet := by
  have agrees : (ledger.entry bet.id).Agrees bet :=
    (consistent bet.id).agrees (Table.get?_of_mem stored)
  unfold Ledger.Entry.Agrees at agrees
  unfold PaidAsSettled
  cases status : bet.status with
  | won | lost | void =>
      rw [status] at agrees
      exact agrees.2.1
  | pending | accepted | rejected => trivial

/-- Wherever services that run one after the other stop, all settled bets are paid so. -/
theorem paidAsSettled_after_sessions (config : BetValidation.EnvConfig) (runtime : Text.Runtime)
    (catalog : Catalog) (clock : Time) (balances : String → String → ℚ)
    (sessions : List (Actor × List (Move bettingMachine))) :
    ∀ bet ∈ (Session.runAll (sessions.map (Actor.session config runtime))
      (World.deployed catalog clock balances)).db.ledger.bets, PaidAsSettled bet :=
  fun _ stored => paidAsSettled_of_consistent
    (consistent_after_sessions config runtime catalog clock balances sessions) stored

/-- What the tenant keeps of the stakes. -/
def earnings (bets : List Bet) : ℚ := (bets.map fun bet => bet.stake.value - payoutOf bet).sum

/-- What was staked on bets that are void. -/
def voidedStake (bets : List Bet) : ℚ :=
  ((bets.filter (hasStatus .void)).map fun bet => bet.stake.value).sum

def earnedCents (bet : Bet) : ℤ := bet.stake.units - payoutCents bet

theorem earnings_eq (bets : List Bet) :
    earnings bets = amount (centsOf earnedCents (fun _ => true) bets) := by
  rw [centsOf, List.filter_true, ← sum_amount, List.map_map, earnings]
  congr 2
  funext bet
  rw [payoutOf_eq, stake_eq]
  unfold amount earnedCents
  simp only [Function.comp_apply]
  push_cast
  ring

theorem voidedStake_eq (bets : List Bet) :
    voidedStake bets = amount (centsOf stakeCents (hasStatus .void) bets) := by
  rw [centsOf, ← sum_amount, List.map_map, voidedStake]
  rfl

theorem settled_cases {bet : Bet} (settled : isSettled bet = true) :
    bet.status = .won ∨ bet.status = .lost ∨ bet.status = .void := by
  simpa [isSettled, or_assoc] using settled

/-- The stakes of void bets are missing from the difference. -/
theorem stakes_sub_payouts (settled : ∀ bet ∈ bets, isSettled bet = true) :
    centsOf stakeCents (hasEither .won .lost) bets - centsOf payoutCents (fun _ => true) bets =
      centsOf earnedCents (fun _ => true) bets - centsOf stakeCents (hasStatus .void) bets := by
  induction bets with
  | nil => rfl
  | cons bet rest ih =>
      have others := ih fun other member => settled other (List.mem_cons_of_mem _ member)
      simp only [centsOf_cons, if_true, hasEither, hasStatus]
      rcases settled_cases (settled bet List.mem_cons_self) with status | status | status
      all_goals
        simp only [status, reduceCtorEq, decide_true, decide_false, Bool.or_false, Bool.or_true,
          Bool.or_self, Bool.false_eq_true, if_true, if_false, zero_add, stakeCents, earnedCents]
        omega

/-- A lost bet pays nothing. -/
theorem payouts_eq (settled : ∀ bet ∈ bets, isSettled bet = true)
    (paid : ∀ bet ∈ bets, PaidAsSettled bet) :
    centsOf payoutCents (hasEither .won .void) bets = centsOf payoutCents (fun _ => true) bets := by
  induction bets with
  | nil => rfl
  | cons bet rest ih =>
      have others := ih (fun other member => settled other (List.mem_cons_of_mem _ member))
        fun other member => paid other (List.mem_cons_of_mem _ member)
      have own := paid bet List.mem_cons_self
      unfold PaidAsSettled at own
      simp only [centsOf_cons, if_true, hasEither, others]
      rcases settled_cases (settled bet List.mem_cons_self) with status | status | status
      · simp [status]
      · rw [status] at own
        simp [status, payoutCents, own]
      · simp [status]

theorem isSettled_of_mem {bet : Bet} (member : bet ∈ settledBets casinoGroupId db) :
    isSettled bet = true := (List.mem_filter.mp member).2

theorem gross_eq_iff (paid : ∀ bet ∈ settledBets casinoGroupId db, PaidAsSettled bet)
    (few : turnover (settledBets casinoGroupId db) < 10 ^ 20) :
    (summarize casinoGroupId (groupByStatus casinoGroupId db)).ggr.gross =
        earnings (settledBets casinoGroupId db) ↔
      voidedStake (settledBets casinoGroupId db) = 0 := by
  have settled : ∀ bet ∈ settledBets casinoGroupId db, isSettled bet = true :=
    fun _ member => isSettled_of_mem member
  have zero : (0 : ℚ) = amount 0 := by simp [amount]
  rw [summarize_ggr few, payouts_eq settled paid, stakes_sub_payouts settled, earnings_eq,
    voidedStake_eq, zero, amount_injective, amount_injective]
  omega

variable {since : Time}

/-- The rows are those of the buckets. -/
theorem exists_bucket {row : DailyRow}
    (shown : row ∈ (dailyReport localeCompare casinoGroupId days db moment).rows) :
    ∃ bucket ∈ (dailyGrouping (dailySports casinoGroupId
        (dailyReport localeCompare casinoGroupId days db moment).since db moment)).gather
        (findSettled casinoGroupId (dailyReport localeCompare casinoGroupId days db moment).since
          db moment), bucket.row = row := by
  have member := (List.mem_insertionSort _).mp shown
  rw [foldl_addBet] at member
  exact List.mem_map.mp member

theorem rowBets_settled {row : DailyRow} :
    ∀ bet ∈ rowBets casinoGroupId since db row, isSettled bet = true :=
  fun _ member => isSettled_of_mem (List.mem_of_mem_filter member)

theorem turnover_rowBets_le (row : DailyRow) :
    turnover (rowBets casinoGroupId since db row) ≤ turnover (settledBets casinoGroupId db) :=
  turnover_le_of_sublist List.filter_sublist

theorem centsOf_perm {first second : List Bet} (same : first.Perm second) (cents : Bet → ℤ)
    (chosen : Bet → Bool) : centsOf cents chosen first = centsOf cents chosen second :=
  ((same.filter chosen).map cents).sum_eq

theorem row_eq_iff {row : DailyRow} (few : turnover (settledBets casinoGroupId db) < 10 ^ 20)
    (shown : row ∈ (dailyReport localeCompare casinoGroupId days db moment).rows) :
    row.ggr = earnings (rowBets casinoGroupId
        (dailyReport localeCompare casinoGroupId days db moment).since db row) ↔
      voidedStake (rowBets casinoGroupId
        (dailyReport localeCompare casinoGroupId days db moment).since db row) = 0 := by
  obtain ⟨bucket, stored, rfl⟩ := exists_bucket shown
  generalize (dailyReport localeCompare casinoGroupId days db moment).since = since at stored ⊢
  have same := bucketBets_perm stored
  have zero : (0 : ℚ) = amount 0 := by simp [amount]
  obtain ⟨_, _, ggr⟩ := row_ggr stored
    ((turnover_perm same).trans_le (turnover_rowBets_le _) |>.trans_lt few)
  rw [ggr, centsOf_perm same, centsOf_perm same, stakes_sub_payouts rowBets_settled, earnings_eq,
    voidedStake_eq, zero, amount_injective, amount_injective]
  omega

/-- **The revenue is what the settled bets earned**, in the summary and in every row of the
daily view, exactly where no stake of theirs is on void bets. -/
theorem ggr_iff (paid : ∀ bet ∈ settledBets casinoGroupId db, PaidAsSettled bet)
    (few : turnover (settledBets casinoGroupId db) < 10 ^ 20) : ∃ shown daily,
      readFrom db moment (summary casinoGroupId) = some (.ok shown) ∧
      readFrom db moment (dailyGgrBySport localeCompare casinoGroupId days) = some (.ok daily) ∧
      (shown.ggr.gross = earnings (settledBets casinoGroupId db) ↔
        voidedStake (settledBets casinoGroupId db) = 0) ∧
      ∀ row ∈ daily.rows, row.ggr = earnings (rowBets casinoGroupId daily.since db row) ↔
        voidedStake (rowBets casinoGroupId daily.since db row) = 0 :=
  ⟨_, _, readFrom_summary, readFrom_dailyGgrBySport, gross_eq_iff paid few,
    fun _ shown => row_eq_iff few shown⟩

/-- A bet of the group on the match, as it has been settled. -/
def settledBet (id : String) (status : BetStatus) (stake : Numeric 12 2)
    (potentialPayout payoutAmount : Numeric 14 2) (settledAt : Time) : Bet where
  id := id
  casinoGroupId := "group"
  userId := "user"
  username := "player"
  idempotencyKey := id
  stake := stake
  currency := "EUR"
  status := status
  combinedOdds := .ofUnits 2000
  potentialPayout := potentialPayout
  walletReservationId := none
  rejectionReason := none
  payoutAmount := some payoutAmount
  settledAt := some settledAt
  settlementNote := none
  createdAt := 0
  legs := [⟨"winner:ants", "winner", "match", "Ants", .ofUnits 2000, 0, .pending, none, none,
    none, none, none, none, none, none, none⟩]

/-- One bet of ten has been won, another is lost. -/
def wonAndLost : Database where
  catalog := Sample.catalog .ended .settled
  ledger := ⟨⟨[
    settledBet "won" .won (.ofUnits 1000) (.ofUnits 2000) (.ofUnits 2000) 0,
    settledBet "lost" .lost (.ofUnits 1000) (.ofUnits 2000) 0 dayLength],
    by decide⟩, .empty, by decide⟩
  audit := []

/-- One bet of ten is void. -/
def refunded : Database where
  catalog := Sample.catalog .ended .void
  ledger := ⟨⟨[settledBet "void" .void (.ofUnits 1000) (.ofUnits 2000)
    (.ofUnits 1000) 0], by decide⟩, .empty, by decide⟩
  audit := []

def secondDay : Moment := ⟨dayLength, fun _ => 0⟩

theorem wonAndLost_gross : ∃ shown daily,
    readFrom wonAndLost secondDay (summary "group") = some (.ok shown) ∧
      readFrom wonAndLost secondDay (dailyGgrBySport (fun _ _ => 0) "group" 7) = some (.ok daily) ∧
      shown.ggr.gross = earnings (settledBets "group" wonAndLost) := by
  have paid : ∀ bet ∈ settledBets "group" wonAndLost, PaidAsSettled bet := by decide +kernel
  obtain ⟨shown, daily, summed, listed, gross, _⟩ := ggr_iff paid (by decide +kernel)
  exact ⟨shown, daily, summed, listed, gross.mpr (by decide +kernel)⟩

/-- The refunded bet earned nothing, but is shown as a loss of ten, in both views. -/
theorem void_shown_as_loss : ∃ shown daily,
    readFrom refunded secondDay (summary "group") = some (.ok shown) ∧
      readFrom refunded secondDay (dailyGgrBySport (fun _ _ => 0) "group" 7) = some (.ok daily) ∧
      (∀ bet ∈ settledBets "group" refunded, PaidAsSettled bet) ∧
      earnings (settledBets "group" refunded) = 0 ∧ shown.ggr.gross = -10 ∧
      daily.rows.map DailyRow.ggr = [-10] :=
  ⟨_, _, rfl, rfl, by decide +kernel, by decide +kernel, by decide +kernel, by decide +kernel⟩

end Gross

end SportsBetting.AnalyticsService
