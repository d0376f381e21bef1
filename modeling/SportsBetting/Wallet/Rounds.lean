import SportsBetting.Bets.Queries
import SportsBetting.Data.Ranking
import SportsBetting.Wallet.Client

/-!
# The transactions of a round

The merchant correlates a bet's debit and credit by their fields. They come from
the first leg by number, whatever the order in which the legs are loaded.
-/

namespace SportsBetting

open Numeral Wallet

/-- The fields by which the merchant correlates transactions. -/
structure RoundFields where
  userCode : String
  casinoGroupId : String
  roundId : String
  historyId : String
  gameCode : String
  gameType : ℕ
  deriving DecidableEq

def WalletTransactionRequest.round (request : WalletTransactionRequest) : RoundFields :=
  ⟨request.userCode, request.casinoGroupId, request.roundId, request.historyId, request.gameCode,
    request.gameType⟩

section Legs

variable {first second : List BetLeg}

/-- Legs are sorted into the same order, if no two have the same number. -/
theorem sortLegs_perm (order : first.Perm second) (distinct : (first.map BetLeg.legOrder).Nodup) :
    sortLegs first = sortLegs second := by
  have sorted : ∀ legs : List BetLeg, (sortLegs legs).Pairwise fun one other =>
      one.legOrder ≤ other.legOrder := Ranking.pairwise_sorted BetLeg.legOrder
  have own : (sortLegs first).Perm first := List.perm_insertionSort _ first
  have other : (sortLegs second).Perm second := List.perm_insertionSort _ second
  refine List.Perm.eq_of_pairwise ?_ (sorted first) (sorted second)
    (own.trans (order.trans other.symm))
  intro one two inFirst inSecond below above
  have here := own.mem_iff.mp inFirst
  have there := order.mem_iff.mpr (other.mem_iff.mp inSecond)
  exact List.inj_on_of_nodup_map distinct here there (Nat.le_antisymm below above)

theorem primaryLeg_perm (order : first.Perm second)
    (distinct : (first.map BetLeg.legOrder).Nodup) : primaryLeg first = primaryLeg second := by
  rw [primaryLeg, sortLegs_perm order distinct, primaryLeg]

theorem exists_primaryLeg (some_leg : first ≠ []) : ∃ leg, primaryLeg first = .ok leg := by
  cases sorted : sortLegs first with
  | nil =>
      have same := (List.perm_insertionSort _ first).symm.trans (.of_eq sorted)
      exact absurd same.eq_nil some_leg
  | cons leg rest => exact ⟨leg, by rw [primaryLeg, sorted]⟩

end Legs

section Builders

variable {bet : Bet} {legs : List BetLeg} {primary : BetLeg}

theorem buildPlacementDetail_perm (order : bet.legs.Perm legs)
    (distinct : (bet.legs.map BetLeg.legOrder).Nodup) (primary : BetLeg) :
    buildPlacementDetail { bet with legs } primary = buildPlacementDetail bet primary := by
  rw [buildPlacementDetail, buildPlacementDetail, order.length_eq, sortLegs_perm order distinct]

theorem debit_perm (order : bet.legs.Perm legs)
    (distinct : (bet.legs.map BetLeg.legOrder).Nodup) (code : TransactionCode) :
    buildBetDebitTransaction { bet with legs } code = buildBetDebitTransaction bet code := by
  rw [buildBetDebitTransaction, buildBetDebitTransaction]
  simp only [buildPlacementDetail_perm order distinct, primaryLeg_perm order distinct]

theorem settlement_perm (order : bet.legs.Perm legs)
    (distinct : (bet.legs.map BetLeg.legOrder).Nodup) (outcome : WalletSettlementOutcome)
    (payout : String) (code : TransactionCode) (now : Time) :
    buildSettlementTransaction { bet with legs } outcome payout code now =
      buildSettlementTransaction bet outcome payout code now := by
  rw [buildSettlementTransaction, buildSettlementTransaction]
  simp only [primaryLeg_perm order distinct]
  rfl

/-- The fields that all transactions of a bet share. -/
def roundOf (bet : Bet) (primary : BetLeg) : RoundFields :=
  ⟨bet.username, bet.casinoGroupId, bet.id, primary.eventId, gameCodeFromLeg primary, 3⟩

theorem debit_built (first : primaryLeg bet.legs = .ok primary) (code : TransactionCode) :
    ∃ debit, buildBetDebitTransaction bet code = .ok debit ∧ debit.round = roundOf bet primary ∧
      debit.amount = "-" ++ bet.stake.text ∧ debit.isFinished = false ∧
      debit.isCanceled = false := by
  rw [buildBetDebitTransaction, first]
  exact ⟨_, rfl, rfl, rfl, rfl, rfl⟩

theorem settlement_built (first : primaryLeg bet.legs = .ok primary)
    (outcome : WalletSettlementOutcome) (payout : String) (code : TransactionCode) (now : Time) :
    ∃ settlement, buildSettlementTransaction bet outcome payout code now = .ok settlement ∧
      settlement.round = roundOf bet primary ∧
      settlement.amount = (if outcome = .lost then "0" else payout) ∧
      settlement.isFinished = true ∧ settlement.isCanceled = decide (outcome = .void) := by
  rw [buildSettlementTransaction, first]
  exact ⟨_, rfl, rfl, rfl, rfl, rfl⟩

variable (bet) in
theorem staffVoid_built (first : primaryLeg bet.legs = .ok primary)
    (casinoGroupId reason : String) (now : Time) :
    ∃ credit refund, staffVoidCredit bet casinoGroupId reason now = .ok credit ∧
      buildSettlementTransaction bet .void bet.stake.text (.staffVoid bet.id) now = .ok refund ∧
      credit.row = creditRow bet casinoGroupId .walletStaffVoid none refund now := by
  obtain ⟨refund, built, _⟩ :=
    settlement_built first .void bet.stake.text (.staffVoid bet.id) now
  rw [staffVoidCredit, built]
  exact ⟨_, refund, rfl, rfl, rfl⟩

theorem parse_zero : parse "0" = some 0 := by decide +kernel

variable (bet) in
/-- In whatever order the legs of a bet are loaded, its debit, its settlement and its void by
staff are the same transactions, and all of them belong to one round. -/
theorem round_of_any_order (some_leg : bet.legs ≠ [])
    (distinct : (bet.legs.map BetLeg.legOrder).Nodup) (order : bet.legs.Perm legs) :
    ∃ round : RoundFields,
      (∀ code, ∃ debit, buildBetDebitTransaction bet code = .ok debit ∧
        buildBetDebitTransaction { bet with legs } code = .ok debit ∧ debit.round = round ∧
        debit.amount = "-" ++ bet.stake.text ∧
        (0 ≤ bet.stake.units → amountOf debit = -bet.stake.value) ∧
        debit.isFinished = false ∧ debit.isCanceled = false) ∧
      (∀ outcome payout code now, ∃ settlement,
        buildSettlementTransaction bet outcome payout code now = .ok settlement ∧
        buildSettlementTransaction { bet with legs } outcome payout code now = .ok settlement ∧
        settlement.round = round ∧
        settlement.amount = (if outcome = .lost then "0" else payout) ∧
        (∀ number, parse payout = some number →
          amountOf settlement = if outcome = .lost then 0 else number) ∧
        settlement.isFinished = true ∧ (settlement.isCanceled = true ↔ outcome = .void)) ∧
      ∀ casinoGroupId reason now, ∃ credit reordered refund,
        staffVoidCredit bet casinoGroupId reason now = .ok credit ∧
        staffVoidCredit { bet with legs } casinoGroupId reason now = .ok reordered ∧
        reordered.row = credit.row ∧ credit.row.payload = some refund ∧ refund.round = round ∧
        refund.amount = bet.stake.text ∧ amountOf refund = bet.stake.value ∧
        refund.isFinished = true ∧ refund.isCanceled = true := by
  obtain ⟨primary, first⟩ := exists_primaryLeg some_leg
  have reordered : primaryLeg legs = .ok primary := primaryLeg_perm order distinct ▸ first
  refine ⟨roundOf bet primary, ?_, ?_, ?_⟩
  · intro code
    obtain ⟨debit, built, round, amount, unfinished, kept⟩ := debit_built first code
    refine ⟨debit, built, (debit_perm order distinct code).trans built, round, amount, ?_,
      unfinished, kept⟩
    intro nonneg
    rw [amountOf, amount, Numeric.parse_minus_text nonneg, Option.getD_some]
  · intro outcome payout code now
    obtain ⟨settlement, built, round, amount, finished, canceled⟩ :=
      settlement_built first outcome payout code now
    refine ⟨settlement, built, (settlement_perm order distinct outcome payout code now).trans built,
      round, amount, ?_, finished, by simp [canceled]⟩
    intro number read
    rw [amountOf, amount]
    split
    · rw [parse_zero, Option.getD_some]
    · rw [read, Option.getD_some]
  · intro casinoGroupId reason now
    obtain ⟨credit, refund, voided, built, row⟩ :=
      staffVoid_built bet first casinoGroupId reason now
    obtain ⟨again, other, voidedAgain, rebuilt, sameRow⟩ :=
      staffVoid_built { bet with legs } reordered casinoGroupId reason now
    obtain ⟨known, same, round, amount, finished, canceled⟩ :=
      settlement_built first .void bet.stake.text (.staffVoid bet.id) now
    obtain rfl : known = refund := Except.ok.inj (same.symm.trans built)
    obtain rfl : known = other := by
      rw [settlement_perm order distinct] at rebuilt
      exact Except.ok.inj (same.symm.trans rebuilt)
    refine ⟨credit, again, known, voided, voidedAgain, ?_, ?_, round, amount, ?_, finished, canceled⟩
    · rw [sameRow, row]
      rfl
    · rw [row]
      rfl
    · rw [amountOf, amount]
      simp [Numeric.parse_text]

end Builders

section Sample

def doubleLeg (eventId : String) (legOrder : ℕ) : BetLeg where
  selectionId := "sel-" ++ eventId
  marketId := "market-" ++ eventId
  eventId
  selectionName := "Ants"
  priceAtPlacement := .ofUnits 1500
  legOrder
  outcome := .pending
  marketType := some .matchResult
  marketLine := none
  homeTeamName := some "Ants"
  awayTeamName := some "Bees"
  eventProviderRef := none
  sportKey := some "soccer"
  sportName := some "Soccer"
  leagueKey := some " soccer_epl "
  leagueName := none

def double : Bet where
  id := "bet-1"
  casinoGroupId := "acme"
  userId := "alice"
  username := "alice"
  idempotencyKey := "key-1"
  stake := .ofUnits 1000
  currency := "EUR"
  status := .accepted
  combinedOdds := .ofUnits 2250
  potentialPayout := .ofUnits 2250
  walletReservationId := none
  rejectionReason := none
  payoutAmount := none
  settledAt := none
  settlementNote := none
  createdAt := 0
  legs := [doubleLeg "event-2" 1, doubleLeg "event-1" 0]

theorem double_in_either_order : ∃ round debit,
    buildBetDebitTransaction double (.uuid 1) = .ok debit ∧
    buildBetDebitTransaction { double with legs := double.legs.reverse } (.uuid 1) = .ok debit ∧
    debit.round = round := by
  obtain ⟨round, debits, _⟩ := round_of_any_order double (by decide) (by decide)
    (List.reverse_perm double.legs).symm
  obtain ⟨debit, built, rebuilt, same, _⟩ := debits (.uuid 1)
  exact ⟨round, debit, built, rebuilt, same⟩

end Sample

end SportsBetting
