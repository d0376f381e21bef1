import SportsBetting.Bets.Compliance

/-!
# One bet and one debit for a placement key

However placements, replays and workers interleave, a key has one bet, one debit
row and one transaction code, and the wallet debits it at most once.
-/

namespace SportsBetting

open Async Ledger Wallet

namespace Premises

/-- No premise beyond what the programs do themselves. -/
def plain : Premises where
  exclusive := False
  admits _ _ _ := True
  delivered _ _ := True
  declined _ _ := True
  delivered_later _ _ := trivial
  declined_later _ _ _ _ := trivial
  acknowledged _ _ _ _ _ _ _ _ _ := trivial
  refusal _ _ _ _ _ _ := trivial

theorem plain_protects : plain.contract.Protects Config.unguarded :=
  protects_shared not_false (fun _ _ => trivial) fun _ _ _ _ _ => trivial

end Premises

section Debits

variable {ledger : Ledger} {done : WalletTransactionRequest}

/-- An applied transaction that leaves its round open is a debit. -/
theorem Orderly.debitOf {world : World} (orderly : Orderly world)
    (member : done ∈ world.wallet.applied) (unfinished : done.isFinished = false) :
    IsDebit world.db.ledger done := by
  rcases orderly.traced done member with debit | credit
  · exact debit
  · obtain ⟨_, _, _, _, _, carries⟩ := credit.carries orderly.sound
    rw [carries.finished] at unfinished
    cases unfinished

/-- The debits that the wallet has applied for a bet. -/
def appliedDebits (wallet : Merchant) (betId : String) : List WalletTransactionRequest :=
  wallet.applied.filter fun done => done.roundId = betId && !done.isFinished

theorem mem_appliedDebits {wallet : Merchant} {betId : String} :
    done ∈ appliedDebits wallet betId ↔
      done ∈ wallet.applied ∧ done.roundId = betId ∧ done.isFinished = false := by
  simp [appliedDebits]

/-- All debits of a bet go out under one code, and the wallet applies a code once. -/
theorem appliedDebits_length {world : World} (orderly : Orderly world) (betId : String) :
    (appliedDebits world.wallet betId).length ≤ 1 := by
  have distinct : ((appliedDebits world.wallet betId).map fun done =>
      (done.casinoGroupId, done.transactionCode)).Nodup :=
    (List.Sublist.map _ List.filter_sublist).nodup orderly.once
  have debit : ∀ done ∈ appliedDebits world.wallet betId,
      done.roundId = betId ∧ IsDebit world.db.ledger done := by
    intro done member
    obtain ⟨applied, round, unfinished⟩ := mem_appliedDebits.mp member
    exact ⟨round, orderly.debitOf applied unfinished⟩
  match debits : appliedDebits world.wallet betId with
  | [] | [_] => simp
  | first :: second :: rest =>
      exfalso
      rw [debits] at distinct debit
      obtain ⟨round, bet, row, held⟩ := debit first (by simp)
      obtain ⟨round', bet', row', held'⟩ := debit second (by simp)
      have sameBet : some bet = some bet' := by
        rw [← held.stored, ← held'.stored, round, round']
      have sameRow : some row = some row' := by
        rw [← held.reserved, ← held'.reserved, round, round']
      have group : first.casinoGroupId = second.casinoGroupId := by
        rw [held.group, held'.group, Option.some.inj sameBet]
      have code : first.transactionCode = second.transactionCode := by
        rw [held.code, held'.code, Option.some.inj sameRow]
      simp [group, code] at distinct

theorem DebitOf.amountOf {bet : Bet} {row : WalletOutbox} (debit : DebitOf ledger done bet row)
    (nonneg : 0 ≤ bet.stake.units) : amountOf done = -bet.stake.value := by
  rw [Wallet.amountOf, debit.amount, Numeral.Numeric.parse_minus_text nonneg, Option.getD_some]

end Debits

section Key

variable {before after : Ledger} {placement : String × String × String}

/-- A bet under a key keeps the key for itself. -/
theorem Ledger.Keeps.sameBet (kept : before.Keeps after) {first second : Bet}
    (old : first ∈ before.bets) (new : second ∈ after.bets)
    (same : second.placement = first.placement) : second.terms = first.terms := by
  obtain ⟨later, stored, terms⟩ := (kept first.id).bet first (entry_bet.mpr ⟨old, rfl⟩)
  have placed : later.placement = second.placement := by
    simp only [Bet.terms, Prod.mk.injEq] at terms
    exact terms.2.1.trans same.symm
  rw [← eq_of_placement (entry_bet.mp stored).1 new placed]
  exact terms

theorem Ledger.Keeps.sameRow (kept : before.Keeps after) {first second : WalletOutbox}
    (old : first ∈ before.walletOutbox) (new : second ∈ after.walletOutbox)
    (same : second.key = first.key) : second.terms = first.terms := by
  obtain ⟨later, stored, terms⟩ :=
    (kept first.betId).row first.type first (entry_row.mpr ⟨old, rfl, rfl⟩)
  obtain ⟨found, own, type⟩ := entry_row.mp stored
  have key : later.key = second.key := by
    rw [same, WalletOutbox.key, WalletOutbox.key, own, type]
  rw [← Table.eq_of_key found new key]
  exact terms

/-- The debit row of the bet under the key. -/
def IsReserveOf (ledger : Ledger) (placement : String × String × String) (row : WalletOutbox) :
    Prop :=
  row ∈ ledger.walletOutbox ∧ row.type = .walletReserve ∧
    ∃ bet ∈ ledger.bets, bet.id = row.betId ∧ bet.placement = placement

theorem Ledger.Keeps.sameReserve (kept : before.Keeps after) {first second : WalletOutbox}
    (old : IsReserveOf before placement first) (new : IsReserveOf after placement second) :
    second.terms = first.terms := by
  obtain ⟨there, type, bet, stored, own, placed⟩ := old
  obtain ⟨there', type', bet', stored', own', placed'⟩ := new
  have terms := kept.sameBet stored stored' (placed'.trans placed.symm)
  simp only [Bet.terms, Prod.mk.injEq] at terms
  apply kept.sameRow there there'
  rw [WalletOutbox.key, WalletOutbox.key, type, type', ← own, ← own', terms.1]

end Key

/-- Whatever exists of a key between any two points of a run is one bet with one
debit row and one code, and the wallet has debited it at most once, by its stake. -/
theorem one_debit_for_key (config : BetValidation.EnvConfig) (runtime : Text.Runtime)
    (catalog : Catalog) (clock : Time) (balances : String → String → ℚ) (actors : List Actor)
    (earlier later : List (Move bettingMachine)) (placement : String × String × String) :
    let start := Actor.start config runtime (.deployed catalog clock balances) actors
    let before := (start.run earlier).state
    let after := (start.run (earlier ++ later)).state
    (∀ first ∈ before.db.ledger.bets, ∀ second ∈ after.db.ledger.bets,
      first.placement = placement → second.placement = placement →
        second.id = first.id ∧ second.stake = first.stake) ∧
    (∀ first second, IsReserveOf before.db.ledger placement first →
      IsReserveOf after.db.ledger placement second →
        second.key = first.key ∧ second.transactionCode = first.transactionCode) ∧
    ∀ bet ∈ after.db.ledger.bets, bet.placement = placement →
      (appliedDebits after.wallet bet.id).length ≤ 1 ∧
      ∀ done ∈ appliedDebits after.wallet bet.id, done.amount = "-" ++ bet.stake.text ∧
        (0 ≤ bet.stake.units → amountOf done = -bet.stake.value) := by
  intro start before after
  have healthy : Premises.plain.contract.Healthy start :=
    Premises.healthy_start config runtime (orderly_deployed catalog clock balances) actors
  have stable := Premises.stable Premises.plain
  have middle := healthy.run stable Premises.plain_protects (Config.follows_unguarded start earlier)
  have kept : before.db.ledger.Keeps after.db.ledger := by
    simp only [after, Config.run_append]
    refine middle.run_relates stable Premises.plain_protects
      (fun before after : World => before.db.ledger.Keeps after.db.ledger)
      (fun _ => .refl _) (fun first second => first.trans second) ?_ ?_
      (Config.follows_unguarded _ later)
    · intro _ request choice state _ proper _
      exact Premises.keeps_answer choice proper
    · intro happening state _
      have persists : Premises.plain.Persists state _ := Premises.persists_happen happening state
      exact persists.terms
  have orderly : Orderly after :=
    (healthy.run stable Premises.plain_protects
      (Config.follows_unguarded start (earlier ++ later))).sound
  refine ⟨?_, ?_, ?_⟩
  · intro first old second new placed placed'
    have terms := kept.sameBet old new (placed'.trans placed.symm)
    simp only [Bet.terms, Prod.mk.injEq] at terms
    exact ⟨terms.1, terms.2.2.1⟩
  · intro first second old new
    have terms := kept.sameReserve old new
    simp only [WalletOutbox.terms, Prod.mk.injEq] at terms
    exact ⟨terms.1, terms.2.2.1⟩
  · intro bet stored _
    refine ⟨appliedDebits_length orderly bet.id, fun done member => ?_⟩
    obtain ⟨applied, round, unfinished⟩ := mem_appliedDebits.mp member
    obtain ⟨other, row, debit⟩ := orderly.debitOf applied unfinished
    have same : other = bet := by
      have there := debit.stored
      rw [round] at there
      exact Option.some.inj (there.symm.trans (entry_bet.mpr ⟨stored, rfl⟩))
    subst same
    exact ⟨debit.amount, debit.amountOf⟩

end SportsBetting
