import SportsBetting.Data.Grouping
import SportsBetting.Numeral.Rounding
import SportsBetting.Settlement.Frozen

/-!
# Analytics of a tenant

The summary adds up the bets of a tenant by status, in the database. The daily view adds up
the settled bets of a window one by one, in a bucket for each UTC day and sport. Amounts are
shown as the numbers that their texts denote.
-/

namespace SportsBetting

open Async Numeral

namespace AnalyticsService

section Sums

/-- Sums and differences keep twenty significant digits. -/
def plus (first second : ℚ) : ℚ := roundSignificant 20 (first + second)

def minus (first second : ℚ) : ℚ := roundSignificant 20 (first - second)

end Sums

section Summary

/-- A row of the query that groups the bets by status; a sum over nothing is null. -/
structure StatusGroup where
  status : BetStatus
  count : ℕ
  stake : Option ℚ
  payoutAmount : Option ℚ

def tenantBets (casinoGroupId : String) (db : Database) : List Bet :=
  db.ledger.bets.rows.filter fun bet => bet.casinoGroupId = casinoGroupId

/-- The sum of a column in the database is exact. -/
def columnSum (amounts : List ℚ) : Option ℚ := if amounts.isEmpty then none else some amounts.sum

def statusGroup (bets : List Bet) (status : BetStatus) : Option StatusGroup :=
  let own := bets.filter fun bet => bet.status = status
  if own.isEmpty then none
  else some ⟨status, own.length, columnSum (own.map fun bet => bet.stake.value),
    columnSum ((own.filterMap Bet.payoutAmount).map Numeric.value)⟩

def groupByStatus (casinoGroupId : String) (db : Database) : List StatusGroup :=
  [.pending, .accepted, .rejected, .won, .lost, .void].filterMap
    (statusGroup (tenantBets casinoGroupId db))

structure StatusTotals where
  count : ℕ
  stake : ℚ
  payout : ℚ

structure OpenLiability where
  betCount : ℕ
  stake : ℚ

structure Ggr where
  settledStake : ℚ
  payouts : ℚ
  gross : ℚ

structure Summary where
  casinoGroupId : String
  byStatus : List (BetStatus × StatusTotals)
  openLiability : OpenLiability
  ggr : Ggr

def findStatus (bets : List StatusGroup) (status : BetStatus) : Option StatusGroup :=
  bets.find? fun row => row.status = status

def summarize (casinoGroupId : String) (bets : List StatusGroup) : Summary :=
  let accepted := findStatus bets .accepted
  let won := findStatus bets .won
  let lost := findStatus bets .lost
  let settledStake := [won, lost].foldl
    (fun sum row => plus sum ((row.bind StatusGroup.stake).getD 0)) 0
  let payouts := [won, findStatus bets .void].foldl
    (fun sum row => plus sum ((row.bind StatusGroup.payoutAmount).getD 0)) 0
  { casinoGroupId
    byStatus := bets.map fun row =>
      (row.status, ⟨row.count, row.stake.getD 0, row.payoutAmount.getD 0⟩)
    openLiability := {
      betCount := (accepted.map StatusGroup.count).getD 0
      stake := (accepted.bind StatusGroup.stake).getD 0 }
    ggr := ⟨settledStake, payouts, minus settledStake payouts⟩ }

def summary (casinoGroupId : String) : Betting Summary := do
  let bets ← view (groupByStatus casinoGroupId)
  return summarize casinoGroupId bets

end Summary

section Dates

def dayLength : Time := 86400000

/-- The digits of a number, with zeros in front. -/
def padded (width number : ℕ) : List Char :=
  List.replicate (width - (Nat.toDigits 10 number).length) '0' ++ Nat.toDigits 10 number

/-- Year, month and day of a day since the epoch, counted in eras of 400 years from a March. -/
def civilDate (day : ℤ) : ℤ × ℕ × ℕ :=
  let shifted := day + 719468
  let dayOfEra := (shifted % 146097).toNat
  let yearOfEra :=
    (dayOfEra - dayOfEra / 1460 + dayOfEra / 36524 - dayOfEra / 146096) / 365
  let dayOfYear := dayOfEra - (365 * yearOfEra + yearOfEra / 4 - yearOfEra / 100)
  let fromMarch := (5 * dayOfYear + 2) / 153
  let dayOfMonth := dayOfYear - (153 * fromMarch + 2) / 5 + 1
  let month := if fromMarch < 10 then fromMarch + 3 else fromMarch - 9
  (yearOfEra + shifted / 146097 * 400 + if month ≤ 2 then 1 else 0, month, dayOfMonth)

/-- Years of more than four digits have a sign and six digits. -/
def isoYear (year : ℤ) : List Char :=
  if 0 ≤ year ∧ year ≤ 9999 then padded 4 year.toNat
  else (if year < 0 then '-' else '+') :: padded 6 year.natAbs

/-- `toISOString().slice(0, 10)`. -/
def isoDate (time : Time) : String :=
  let (year, month, dayOfMonth) := civilDate (time / dayLength)
  String.ofList ((isoYear year ++ '-' :: padded 2 month ++ '-' :: padded 2 dayOfMonth).take 10)

example : isoDate 0 = "1970-01-01" ∧ isoDate 1709251199999 = "2024-02-29" := by decide +kernel

theorem length_isoDate (time : Time) : (isoDate time).toList.length = 10 := by
  have long : ∀ width number, width ≤ (padded width number).length := by
    intro width number
    simp only [padded, List.length_append, List.length_replicate]
    omega
  unfold isoDate
  dsimp only
  generalize civilDate (time / dayLength) = date
  obtain ⟨year, month, dayOfMonth⟩ := date
  have months := long 2 month
  have days := long 2 dayOfMonth
  have years : 4 ≤ (isoYear year).length := by
    unfold isoYear
    split
    · exact long 4 _
    · have six := long 6 year.natAbs
      simp only [List.length_cons]
      omega
  simp only [String.toList_ofList, List.length_take, List.length_append, List.length_cons]
  omega

end Dates

section Daily

/-- The window starts with a UTC day. -/
def windowStart (now : Time) (safeDays : ℤ) : Time :=
  now / dayLength * dayLength - (safeDays - 1) * dayLength

def isSettled (bet : Bet) : Bool := bet.status = .won || bet.status = .lost || bet.status = .void

/-- The query names no order. -/
def findSettled (casinoGroupId : String) (since : Time) (db : Database) (moment : Moment) :
    List Bet :=
  ((tenantBets casinoGroupId db).filter fun bet =>
    isSettled bet && bet.settledAt.any fun settledAt => since ≤ settledAt).insertionSort
      fun first second => moment.rank first.id ≤ moment.rank second.id

def firstEventId (bet : Bet) : Option String := (sortLegs bet.legs).head?.map BetLeg.eventId

def sportOf (db : Database) (eventId : String) : Option Sport := do
  let event ← db.catalog.events.get? eventId
  let fixture ← db.catalog.fixtures.get? event.fixture
  let league ← db.catalog.leagues.get? fixture.league
  db.catalog.sports.get? league.sport

def findSports (eventIds : List String) (db : Database) : List (String × Sport) :=
  eventIds.filterMap fun eventId => (sportOf db eventId).map fun sport => (eventId, sport)

structure Bucket where
  date : String
  sportSlug : String
  sportName : String
  betCount : ℕ
  settledStake : ℚ
  payouts : ℚ

def bucketKey (date sportSlug : String) : String := date ++ "|" ++ sportSlug

def Bucket.key (bucket : Bucket) : String := bucketKey bucket.date bucket.sportSlug

structure DailyRow where
  date : String
  sportSlug : String
  sportName : String
  betCount : ℕ
  settledStake : ℚ
  payouts : ℚ
  ggr : ℚ

def Bucket.row (bucket : Bucket) : DailyRow where
  date := bucket.date
  sportSlug := bucket.sportSlug
  sportName := bucket.sportName
  betCount := bucket.betCount
  settledStake := bucket.settledStake
  payouts := bucket.payouts
  ggr := minus bucket.settledStake bucket.payouts

structure DailyReport where
  casinoGroupId : String
  days : ℤ
  since : Time
  rows : List DailyRow

section Buckets

variable (sportByEventId : List (String × Sport))

/-- The sport of the first leg; the empty id counts as none. -/
def betSport (bet : Bet) : Option Sport :=
  match firstEventId bet with
  | none => none
  | some eventId => if eventId = "" then none else sportByEventId.lookup eventId

def sportSlug (bet : Bet) : String := ((betSport sportByEventId bet).map Sport.slug).getD "unknown"

def sportName (bet : Bet) : String := ((betSport sportByEventId bet).map Sport.name).getD "Unknown"

def payoutOf (bet : Bet) : ℚ := (bet.payoutAmount.map Numeric.value).getD 0

def addBet (buckets : Table Bucket Bucket.key) (bet : Bet) : Table Bucket Bucket.key :=
  match bet.settledAt with
  | none => buckets
  | some settledAt =>
      let date := isoDate settledAt
      let slug := sportSlug sportByEventId bet
      let row := (buckets.get? (bucketKey date slug)).getD
        ⟨date, slug, sportName sportByEventId bet, 0, 0, 0⟩
      buckets.put { row with
        betCount := row.betCount + 1
        settledStake :=
          if bet.status = .won ∨ bet.status = .lost then plus row.settledStake bet.stake.value
          else row.settledStake
        payouts := plus row.payouts (payoutOf bet) }

/-- The newest day first, the sports of a day by their slugs; `localeCompare` is that of the
runtime. -/
def rowBefore (localeCompare : String → String → ℤ) (first second : DailyRow) : Prop :=
  (if first.date = second.date then localeCompare first.sportSlug second.sportSlug
    else localeCompare second.date first.date) ≤ 0

instance (localeCompare : String → String → ℤ) : DecidableRel (rowBefore localeCompare) :=
  fun _ _ => inferInstanceAs (Decidable (_ ≤ _))

def dailyRows (localeCompare : String → String → ℤ) (bets : List Bet) : List DailyRow :=
  ((bets.foldl (addBet sportByEventId) .empty).rows.map Bucket.row).insertionSort
    (rowBefore localeCompare)

end Buckets

def dailyGgrBySport (localeCompare : String → String → ℤ) (casinoGroupId : String) (days : ℤ) :
    Betting DailyReport := do
  let safeDays := min (max days 1) 90
  let now ← Program.call (.read fun _ moment => moment.now)
  let since := windowStart now safeDays
  let bets ← Program.call (.read (findSettled casinoGroupId since))
  let events ← view (findSports (bets.filterMap firstEventId).dedup)
  return ⟨casinoGroupId, safeDays, since, dailyRows events localeCompare bets⟩

end Daily

end AnalyticsService

end SportsBetting
