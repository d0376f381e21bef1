import SportsBetting.Backoffice.Revenue

/-!
# What a tenant is exposed to

The open bets of a tenant are added up, and for each event once more, leg by leg: a bet with
several legs on an event counts there once for each of them.
-/

namespace SportsBetting.Trading

open AnalyticsService Async Numeral

structure ExposureRow where
  eventId : String
  betCount : ℕ
  stake : ℚ
  potentialPayout : ℚ

/-- Amounts are shown as the numbers that their texts denote. -/
structure Exposure where
  casinoGroupId : String
  openBetCount : ℕ
  currency : Option String
  totalStake : ℚ
  totalPotentialPayout : ℚ
  byEvent : List ExposureRow

/-- The query names no order. -/
def findAccepted (casinoGroupId : String) (db : Database) (moment : Moment) : List Bet :=
  ((tenantBets casinoGroupId db).filter fun bet => bet.status = .accepted).insertionSort
    fun first second => moment.rank first.id ≤ moment.rank second.id

def addLeg (bet : Bet) (byEvent : Table ExposureRow ExposureRow.eventId) (leg : BetLeg) :
    Table ExposureRow ExposureRow.eventId :=
  let row := (byEvent.get? leg.eventId).getD ⟨leg.eventId, 0, 0, 0⟩
  byEvent.put { row with
    betCount := row.betCount + 1
    stake := plus row.stake bet.stake.value
    potentialPayout := plus row.potentialPayout bet.potentialPayout.value }

def addBet (byEvent : Table ExposureRow ExposureRow.eventId) (bet : Bet) :
    Table ExposureRow ExposureRow.eventId :=
  bet.legs.foldl (addLeg bet) byEvent

def exposureOf (casinoGroupId : String) (bets : List Bet) : Exposure where
  casinoGroupId
  openBetCount := bets.length
  currency := bets.head?.map Bet.currency
  totalStake := bets.foldl (fun sum bet => plus sum bet.stake.value) 0
  totalPotentialPayout := bets.foldl (fun sum bet => plus sum bet.potentialPayout.value) 0
  byEvent := (bets.foldl addBet .empty).rows

def getExposure (casinoGroupId : String) : Betting Exposure := do
  let bets ← Program.call (.read (findAccepted casinoGroupId))
  return exposureOf casinoGroupId bets

section Legs

/-- A bet, for each of its legs. -/
def openLegs (bets : List Bet) : List (Bet × BetLeg) :=
  bets.flatMap fun bet => bet.legs.map fun leg => (bet, leg)

def legGrouping : Grouping (Bet × BetLeg) ExposureRow.eventId where
  key item := some item.2.eventId
  start item := ⟨item.2.eventId, 0, 0, 0⟩
  add row item := { row with
    betCount := row.betCount + 1
    stake := plus row.stake item.1.stake.value
    potentialPayout := plus row.potentialPayout item.1.potentialPayout.value }
  key_start _ _ keyed := Option.some.inj keyed
  key_add _ _ := rfl

theorem foldl_addLegs (bets : List Bet) :
    bets.foldl addBet .empty = legGrouping.gather (openLegs bets) := by
  rw [Grouping.gather, openLegs, List.foldl_flatMap]
  congr 1
  funext byEvent bet
  rw [List.foldl_map]
  rfl

theorem foldl_addLeg (own : List (Bet × BetLeg)) (row : ExposureRow) :
    own.foldl legGrouping.add row = { row with
      betCount := row.betCount + own.length
      stake := (own.map fun item => item.1.stake.value).foldl plus row.stake
      potentialPayout :=
        (own.map fun item => item.1.potentialPayout.value).foldl plus row.potentialPayout } := by
  induction own generalizing row with
  | nil => rfl
  | cons item rest ih =>
      rw [List.foldl_cons, ih]
      simp only [legGrouping, List.map_cons, List.foldl_cons, List.length_cons]
      congr 1
      omega

end Legs

section Counted

variable (eventId : String)

def legsOn (bet : Bet) : ℕ := bet.legs.countP fun leg => leg.eventId = eventId

/-- The bets with a leg on the event. -/
def betsOn (bets : List Bet) : List Bet := bets.filter fun bet => 0 < legsOn eventId bet

/-- What the second and further legs on the event add. -/
def repeated (cents : Bet → ℤ) (bets : List Bet) : ℤ :=
  (bets.map fun bet => ((legsOn eventId bet - 1 : ℕ) : ℤ) * cents bet).sum

variable {eventId} (cents : Bet → ℤ)

theorem sum_legsOn (bet : Bet) :
    (((bet.legs.map fun leg => (bet, leg)).filter fun item =>
      legGrouping.key item = some eventId).map fun item => cents item.1).sum =
        legsOn eventId bet * cents bet := by
  unfold legsOn
  induction bet.legs with
  | nil => simp
  | cons leg rest ih =>
      by_cases own : leg.eventId = eventId
      · have keyed : legGrouping.key (bet, leg) = some eventId := congrArg some own
        rw [List.map_cons, List.filter_cons_of_pos (by simpa using keyed), List.map_cons,
          List.sum_cons, ih, List.countP_cons_of_pos (by simpa using own)]
        push_cast
        ring
      · have other : legGrouping.key (bet, leg) ≠ some eventId :=
          fun same => own (Option.some.inj same)
        rw [List.map_cons, List.filter_cons_of_neg (by simpa using other), ih,
          List.countP_cons_of_neg (by simpa using own)]

/-- The legs on an event count its bets, and some of them again. -/
theorem sum_members_openLegs (bets : List Bet) :
    ((legGrouping.members eventId (openLegs bets)).map fun item => cents item.1).sum =
      ((betsOn eventId bets).map cents).sum + repeated eventId cents bets := by
  induction bets with
  | nil => rfl
  | cons bet rest ih =>
      have split : openLegs (bet :: rest) =
          (bet.legs.map fun leg => (bet, leg)) ++ openLegs rest := rfl
      rw [split, Grouping.members, List.filter_append, List.map_append, List.sum_append, sum_legsOn]
      have others : ((openLegs rest).filter fun item =>
          decide (legGrouping.key item = some eventId)) =
            legGrouping.members eventId (openLegs rest) := rfl
      rw [others, ih, repeated, repeated, List.map_cons, List.sum_cons, betsOn, betsOn]
      rcases Nat.eq_zero_or_pos (legsOn eventId bet) with none | some_leg
      · rw [List.filter_cons_of_neg (by simp [none]), none]
        simp
      · rw [List.filter_cons_of_pos (by simpa using some_leg), List.map_cons, List.sum_cons]
        obtain ⟨more, count⟩ := Nat.exists_eq_succ_of_ne_zero some_leg.ne'
        rw [count, Nat.succ_sub_one]
        push_cast
        ring

end Counted

section Exact

def payableCents (bet : Bet) : ℤ := bet.potentialPayout.units

/-- What the additions come to in cents, whatever the signs. -/
def exposedCents (bets : List Bet) : ℕ :=
  (bets.map fun bet =>
    (bet.legs.length + 1) * ((stakeCents bet).natAbs + (payableCents bet).natAbs)).sum

variable {cents : Bet → ℤ} {bets : List Bet}

theorem sum_natAbs_openLegs
    (own : ∀ bet, (cents bet).natAbs ≤ (stakeCents bet).natAbs + (payableCents bet).natAbs)
    (bets : List Bet) :
    ((openLegs bets).map fun item => (cents item.1).natAbs).sum +
      (bets.map fun bet => (cents bet).natAbs).sum ≤ exposedCents bets := by
  induction bets with
  | nil => simp [openLegs, exposedCents]
  | cons bet rest ih =>
      have split : openLegs (bet :: rest) =
          (bet.legs.map fun leg => (bet, leg)) ++ openLegs rest := rfl
      have legs : ((bet.legs.map fun leg => (bet, leg)).map fun item =>
          (cents item.1).natAbs).sum = bet.legs.length * (cents bet).natAbs := by
        simp [Function.comp_def]
      have one := Nat.mul_le_mul_left (bet.legs.length + 1) (own bet)
      rw [split, List.map_append, List.sum_append, legs, List.map_cons, List.sum_cons, exposedCents,
        List.map_cons, List.sum_cons]
      unfold exposedCents at ih
      rw [Nat.succ_mul] at one
      omega

/-- The bets are added up exactly. -/
theorem foldl_total (few : exposedCents bets < 10 ^ 20)
    (own : ∀ bet, (cents bet).natAbs ≤ (stakeCents bet).natAbs + (payableCents bet).natAbs) :
    bets.foldl (fun sum bet => plus sum (amount (cents bet))) 0 = amount (bets.map cents).sum := by
  have zero : (0 : ℚ) = amount 0 := by simp [amount]
  have short : (0 : ℤ).natAbs + ((bets.map cents).map Int.natAbs).sum < 10 ^ 20 := by
    have all := sum_natAbs_openLegs own bets
    rw [List.map_map]
    simp only [Function.comp_def, Int.natAbs_zero]
    omega
  have total := foldl_plus short
  rw [zero_add, List.map_map, List.foldl_map, ← zero] at total
  exact total

/-- A row adds up its legs exactly. -/
theorem foldl_members (few : exposedCents bets < 10 ^ 20)
    (own : ∀ bet, (cents bet).natAbs ≤ (stakeCents bet).natAbs + (payableCents bet).natAbs)
    (eventId : String) :
    ((legGrouping.members eventId (openLegs bets)).map fun item => amount (cents item.1)).foldl
        plus 0 =
      amount (((betsOn eventId bets).map cents).sum + repeated eventId cents bets) := by
  have zero : (0 : ℚ) = amount 0 := by simp [amount]
  have part : (((legGrouping.members eventId (openLegs bets)).map fun item =>
      (cents item.1).natAbs)).sum ≤ ((openLegs bets).map fun item => (cents item.1).natAbs).sum :=
    (List.filter_sublist.map _).sum_le_sum fun _ _ => Nat.zero_le _
  have short : (0 : ℤ).natAbs + (((legGrouping.members eventId (openLegs bets)).map fun item =>
      cents item.1).map Int.natAbs).sum < 10 ^ 20 := by
    have all := sum_natAbs_openLegs own bets
    rw [List.map_map]
    simp only [Function.comp_def, Int.natAbs_zero]
    omega
  have total := foldl_plus short
  rw [zero_add, List.map_map, ← zero, sum_members_openLegs] at total
  exact total

theorem stake_own (bet : Bet) :
    (stakeCents bet).natAbs ≤ (stakeCents bet).natAbs + (payableCents bet).natAbs :=
  Nat.le_add_right _ _

theorem payable_own (bet : Bet) :
    (payableCents bet).natAbs ≤ (stakeCents bet).natAbs + (payableCents bet).natAbs :=
  Nat.le_add_left _ _

/-- What the row of an event shows. -/
theorem row_amounts (few : exposedCents bets < 10 ^ 20) {row : ExposureRow}
    (shown : row ∈ legGrouping.gather (openLegs bets)) :
    row.stake = amount (((betsOn row.eventId bets).map stakeCents).sum +
        repeated row.eventId stakeCents bets) ∧
      row.potentialPayout = amount (((betsOn row.eventId bets).map payableCents).sum +
        repeated row.eventId payableCents bets) := by
  have made := Grouping.mem_gather.mp shown
  rw [← foldl_members few stake_own, ← foldl_members few payable_own]
  cases own : legGrouping.members row.eventId (openLegs bets) with
  | nil =>
      rw [own] at made
      cases made
  | cons first rest =>
      rw [own, Grouping.row?, Option.some.injEq, foldl_addLeg] at made
      rw [← made]
      exact ⟨rfl, rfl⟩

end Exact

section Rows

variable {db : Database} {moment : Moment} {casinoGroupId : String} {bets : List Bet}

theorem readFrom_getExposure : readFrom db moment (getExposure casinoGroupId) =
    some (.ok (exposureOf casinoGroupId (findAccepted casinoGroupId db moment))) := rfl

/-- The view is what it says: a row for each event with an open leg, which adds up the bets on
the event, and so never more than all bets. -/
structure AddsUp (bets : List Bet) (shown : Exposure) : Prop where
  rows : ∀ row ∈ shown.byEvent,
    row.stake = ((betsOn row.eventId bets).map fun bet => bet.stake.value).sum ∧
      row.potentialPayout =
        ((betsOn row.eventId bets).map fun bet => bet.potentialPayout.value).sum
  bounded : (∀ bet ∈ bets, 0 ≤ bet.stake.units ∧ 0 ≤ bet.potentialPayout.units) →
    ∀ row ∈ shown.byEvent, row.stake ≤ shown.totalStake ∧
      row.potentialPayout ≤ shown.totalPotentialPayout
  once : (shown.byEvent.map ExposureRow.eventId).Nodup
  events : ∀ eventId, eventId ∈ shown.byEvent.map ExposureRow.eventId ↔
    ∃ bet ∈ bets, ∃ leg ∈ bet.legs, leg.eventId = eventId

/-- No event counts what the further legs of a bet on it would add. -/
def CountsOnce (bets : List Bet) : Prop :=
  ∀ eventId, repeated eventId stakeCents bets = 0 ∧ repeated eventId payableCents bets = 0

theorem sum_values (cents : Bet → ℤ) (own : List Bet) :
    (own.map fun bet => amount (cents bet)).sum = amount (own.map cents).sum := by
  rw [← sum_amount, List.map_map]
  rfl

theorem sum_stakes (own : List Bet) :
    (own.map fun bet => bet.stake.value).sum = amount (own.map stakeCents).sum :=
  sum_values stakeCents own

theorem sum_payable (own : List Bet) :
    (own.map fun bet => bet.potentialPayout.value).sum = amount (own.map payableCents).sum :=
  sum_values payableCents own

theorem byEvent_eq (casinoGroupId : String) (bets : List Bet) :
    (exposureOf casinoGroupId bets).byEvent = (legGrouping.gather (openLegs bets)).rows := by
  rw [exposureOf, foldl_addLegs]

theorem mem_openLegs {item : Bet × BetLeg} :
    item ∈ openLegs bets ↔ item.1 ∈ bets ∧ item.2 ∈ item.1.legs := by
  constructor
  · intro member
    obtain ⟨bet, stored, member⟩ := List.mem_flatMap.mp member
    obtain ⟨leg, own, rfl⟩ := List.mem_map.mp member
    exact ⟨stored, own⟩
  · rintro ⟨stored, own⟩
    exact List.mem_flatMap.mpr ⟨item.1, stored, List.mem_map.mpr ⟨item.2, own, rfl⟩⟩

theorem mem_byEvent_iff {eventId : String} :
    eventId ∈ (exposureOf casinoGroupId bets).byEvent.map ExposureRow.eventId ↔
      ∃ bet ∈ bets, ∃ leg ∈ bet.legs, leg.eventId = eventId := by
  rw [byEvent_eq]
  constructor
  · intro listed
    obtain ⟨row, stored, rfl⟩ := List.mem_map.mp listed
    have made := Grouping.mem_gather.mp (Table.mem_rows.mp stored)
    cases own : legGrouping.members row.eventId (openLegs bets) with
    | nil =>
        rw [own] at made
        cases made
    | cons item rest =>
        have member : item ∈ legGrouping.members row.eventId (openLegs bets) := by
          rw [own]
          exact List.mem_cons_self
        have held := mem_openLegs.mp (List.mem_filter.mp member).1
        exact ⟨item.1, held.1, item.2, held.2, Option.some.inj (Grouping.key_of_mem_members member)⟩
  · rintro ⟨bet, stored, leg, own, named⟩
    have member : (bet, leg) ∈ openLegs bets := mem_openLegs.mpr ⟨stored, own⟩
    have keyed : legGrouping.key (bet, leg) = some eventId := congrArg some named
    obtain ⟨row, shown, key⟩ := Grouping.has_gather member keyed
    exact List.mem_map.mpr ⟨row, Table.mem_rows.mpr shown, key⟩

/-- A bet whose legs are on different events has one leg on an event at most. -/
theorem legsOn_le_one {eventId : String} {bet : Bet}
    (distinct : (bet.legs.map BetLeg.eventId).Nodup) : legsOn eventId bet ≤ 1 := by
  have once := List.nodup_iff_count_le_one.mp distinct eventId
  rw [List.count, List.countP_map] at once
  exact (List.countP_congr fun leg _ => by simp).trans_le once

theorem repeated_eq_zero {eventId : String} (cents : Bet → ℤ)
    (few : ∀ bet ∈ bets, legsOn eventId bet ≤ 1 ∨ cents bet = 0) :
    repeated eventId cents bets = 0 := by
  apply List.sum_eq_zero
  intro added member
  obtain ⟨bet, stored, rfl⟩ := List.mem_map.mp member
  rcases few bet stored with one | free
  · rw [Nat.sub_eq_zero_of_le one, Nat.cast_zero, zero_mul]
  · rw [free, mul_zero]

theorem betsOn_sum_le {cents : Bet → ℤ} (nonneg : ∀ bet ∈ bets, 0 ≤ cents bet) (eventId : String) :
    ((betsOn eventId bets).map cents).sum ≤ (bets.map cents).sum := by
  apply (List.filter_sublist.map cents).sum_le_sum
  intro added member
  obtain ⟨bet, stored, rfl⟩ := List.mem_map.mp member
  exact nonneg bet stored

theorem amount_le {first second : ℤ} (below : first ≤ second) : amount first ≤ amount second :=
  div_le_div_of_nonneg_right (Int.cast_le.mpr below) (by norm_num)

theorem addsUp_iff (few : exposedCents bets < 10 ^ 20) :
    AddsUp bets (exposureOf casinoGroupId bets) ↔ CountsOnce bets := by
  constructor
  · intro adds eventId
    by_cases listed : eventId ∈ (exposureOf casinoGroupId bets).byEvent.map ExposureRow.eventId
    · obtain ⟨row, shown, rfl⟩ := List.mem_map.mp listed
      have amounts := row_amounts few (Table.mem_rows.mp (byEvent_eq casinoGroupId bets ▸ shown))
      obtain ⟨stake, payout⟩ := adds.rows row shown
      rw [amounts.1, sum_stakes, amount_injective, add_eq_left] at stake
      rw [amounts.2, sum_payable, amount_injective, add_eq_left] at payout
      exact ⟨stake, payout⟩
    · have none : ∀ bet ∈ bets, legsOn eventId bet ≤ 1 := by
        intro bet stored
        have absent : legsOn eventId bet = 0 := by
          rw [legsOn, List.countP_eq_zero]
          intro leg own named
          exact listed (mem_byEvent_iff.mpr ⟨bet, stored, leg, own, of_decide_eq_true named⟩)
        omega
      exact ⟨repeated_eq_zero _ fun bet stored => .inl (none bet stored),
        repeated_eq_zero _ fun bet stored => .inl (none bet stored)⟩
  · intro once
    have rows : ∀ row ∈ (exposureOf casinoGroupId bets).byEvent,
        row.stake = amount ((betsOn row.eventId bets).map stakeCents).sum ∧
          row.potentialPayout = amount ((betsOn row.eventId bets).map payableCents).sum := by
      intro row shown
      have amounts := row_amounts few (Table.mem_rows.mp (byEvent_eq casinoGroupId bets ▸ shown))
      rwa [(once row.eventId).1, (once row.eventId).2, add_zero, add_zero] at amounts
    refine ⟨?_, ?_, ?_, fun eventId => mem_byEvent_iff⟩
    · intro row shown
      rw [sum_stakes, sum_payable]
      exact rows row shown
    · intro nonneg row shown
      rw [(rows row shown).1, (rows row shown).2]
      have stakes := foldl_total few stake_own
      have payouts := foldl_total few payable_own
      exact ⟨(amount_le (betsOn_sum_le (fun bet stored => (nonneg bet stored).1) _)).trans_eq
          stakes.symm,
        (amount_le (betsOn_sum_le (fun bet stored => (nonneg bet stored).2) _)).trans_eq
          payouts.symm⟩
    · rw [byEvent_eq]
      exact (legGrouping.gather (openLegs bets)).unique

/-- What is never negative adds up to nothing only if nothing is added. -/
theorem repeated_eq_zero_iff (cents : Bet → ℤ) (nonneg : ∀ bet ∈ bets, 0 ≤ cents bet)
    (eventId : String) : repeated eventId cents bets = 0 ↔
      ∀ bet ∈ bets, 2 ≤ legsOn eventId bet → cents bet = 0 := by
  constructor
  · intro sum bet stored several
    have each : ∀ added ∈ bets.map (fun bet => ((legsOn eventId bet - 1 : ℕ) : ℤ) * cents bet),
        0 ≤ added := by
      intro added member
      obtain ⟨other, there, rfl⟩ := List.mem_map.mp member
      exact mul_nonneg (Int.natCast_nonneg _) (nonneg other there)
    have zero := List.all_zero_of_le_zero_le_of_sum_eq_zero each sum
      (List.mem_map.mpr ⟨bet, stored, rfl⟩)
    apply (mul_eq_zero.mp zero).resolve_left
    omega
  · intro free
    apply repeated_eq_zero
    intro bet stored
    by_cases several : 2 ≤ legsOn eventId bet
    · exact .inr (free bet stored several)
    · exact .inl (by omega)

/-- The exposure adds up exactly if no event counts the further legs of a bet on it. Amounts
are never negative as bets are placed; then those are bets over nothing. -/
theorem exposure_addsUp_iff
    (few : exposedCents (findAccepted casinoGroupId db moment) < 10 ^ 20) :
    ∃ shown, readFrom db moment (getExposure casinoGroupId) = some (.ok shown) ∧
      (AddsUp (findAccepted casinoGroupId db moment) shown ↔
        CountsOnce (findAccepted casinoGroupId db moment)) ∧
      ((∀ bet ∈ findAccepted casinoGroupId db moment,
          0 ≤ bet.stake.units ∧ 0 ≤ bet.potentialPayout.units) →
        (CountsOnce (findAccepted casinoGroupId db moment) ↔
          ∀ bet ∈ findAccepted casinoGroupId db moment, ∀ eventId, 2 ≤ legsOn eventId bet →
            bet.stake.units = 0 ∧ bet.potentialPayout.units = 0)) := by
  refine ⟨_, readFrom_getExposure, addsUp_iff few, ?_⟩
  intro nonneg
  have stakes := repeated_eq_zero_iff stakeCents fun bet stored => (nonneg bet stored).1
  have payouts := repeated_eq_zero_iff payableCents fun bet stored =>
    (nonneg bet stored).2
  constructor
  · intro once bet stored eventId several
    exact ⟨(stakes eventId).mp (once eventId).1 bet stored several,
      (payouts eventId).mp (once eventId).2 bet stored several⟩
  · intro free eventId
    exact ⟨(stakes eventId).mpr fun bet stored several => (free bet stored eventId several).1,
      (payouts eventId).mpr fun bet stored several => (free bet stored eventId several).2⟩

end Rows

section Sample

/-- A bet of ten with legs on these events, each in a market of its own. -/
def openBet (id : String) (eventIds : List String) : Bet :=
  { settledBet id .accepted (.ofUnits 1000) (.ofUnits 2000) 0 0 with
    legs := eventIds.mapIdx fun index eventId =>
      ⟨"selection" ++ toString index, "market" ++ toString index, eventId, "Ants",
        .ofUnits 2000, index, .pending, none, none, none, none, none, none, none, none, none⟩ }

def holding (bet : Bet) : Database where
  catalog := Sample.catalog .live .open
  ledger := ⟨⟨[bet], List.nodup_singleton _⟩, .empty, List.nodup_singleton _⟩
  audit := []

def anyMoment : Moment := ⟨0, fun _ => 0⟩

/-- Two legs on one event: ten are staked, and twenty are shown for the event. -/
theorem same_event_counted_twice : ∃ shown,
    readFrom (holding (openBet "bet" ["match", "match"])) anyMoment (getExposure "group") =
      some (.ok shown) ∧
    shown.totalStake = 10 ∧ shown.totalPotentialPayout = 20 ∧
    shown.byEvent.map ExposureRow.stake = [20] ∧
    shown.byEvent.map ExposureRow.potentialPayout = [40] :=
  ⟨_, rfl, by decide +kernel, by decide +kernel, by decide +kernel, by decide +kernel⟩

/-- Three bets on three events, each event in two of them or one. -/
def openBook : Database where
  catalog := Sample.catalog .live .open
  ledger := ⟨⟨[openBet "single" ["match"], openBet "double" ["match", "cup"],
    openBet "triple" ["final", "cup", "derby"]], by decide⟩, .empty, by decide⟩
  audit := []

/-- Every bet has its legs on different events, and the book adds up. -/
theorem book_adds_up : ∃ shown,
    readFrom openBook anyMoment (getExposure "group") = some (.ok shown) ∧
    AddsUp (findAccepted "group" openBook anyMoment) shown ∧
    shown.totalStake = 30 ∧ shown.byEvent.map (fun row => (row.eventId, row.stake)) =
      [("match", 20), ("cup", 20), ("final", 10), ("derby", 10)] := by
  obtain ⟨shown, read, exactly, simply⟩ := exposure_addsUp_iff
    (show exposedCents (findAccepted "group" openBook anyMoment) < 10 ^ 20 by decide +kernel)
  have distinct : ∀ bet ∈ findAccepted "group" openBook anyMoment,
      (bet.legs.map BetLeg.eventId).Nodup := by decide +kernel
  refine ⟨shown, read, exactly.mpr ((simply (by decide +kernel)).mpr ?_), ?_⟩
  · intro bet stored eventId several
    exact absurd (several.trans (legsOn_le_one (distinct bet stored))) (by decide)
  · obtain rfl := Except.ok.inj (Option.some.inj (read.symm.trans readFrom_getExposure))
    decide +kernel

end Sample

end SportsBetting.Trading
