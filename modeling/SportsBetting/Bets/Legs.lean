import SportsBetting.Bets.Lifecycle

/-!
# What becomes of the legs of a bet

What a leg froze never changes. What a settlement writes to the legs stays, unless staff void
the bet as well.
-/

namespace SportsBetting

open Async Ledger

section Legs

/-- The leg without its outcome. -/
def BetLeg.ungraded (leg : BetLeg) : BetLeg := { leg with outcome := .pending }

theorem ungraded_setLegOutcomes (outcomes : List (ℕ × BetLegOutcome)) (legs : List BetLeg) :
    (setLegOutcomes outcomes legs).map BetLeg.ungraded = legs.map BetLeg.ungraded := by
  rw [setLegOutcomes, List.map_map]
  refine List.map_congr_left fun leg _ => ?_
  simp only [Function.comp]
  split <;> rfl

/-- What no transaction changes of a bet: its tenant, and what its legs froze. -/
def Bet.lasting (bet : Bet) : String × List BetLeg :=
  (bet.casinoGroupId, bet.legs.map BetLeg.ungraded)

theorem Bet.lasting_credit (credit : Credit) (now : Time) (bet : Bet) :
    (credit.update now bet).lasting = bet.lasting :=
  Prod.ext rfl (ungraded_setLegOutcomes _ _)

end Legs

section Entries

/-- Rows are added, none is taken away. -/
theorem Ledger.Entry.free_of_setRow {entry : Entry} {bet : Bet} {row : WalletOutbox} (type : OutboxType)
    (free : ((entry.setBet bet).setRow row).row type = none) : entry.row type = none := by
  rw [Entry.setRow_row, Entry.setBet_row] at free
  split at free
  · cases free
  · exact free

/-- What becomes of a bet and its credit rows: legs keep what they froze, and once the bet has
its settlement row they keep their outcomes too, unless it gets a staff void row. -/
structure Ledger.Entry.Follows (before after : Entry) : Prop where
  settle : after.settle = none → before.settle = none
  staffVoid : after.staffVoid = none → before.staffVoid = none
  bet : ∀ bet, before.bet = some bet → ∃ later, after.bet = some later ∧
    later.lasting = bet.lasting ∧
    (before.settle ≠ none → after.staffVoid = none → later.legs = bet.legs)

namespace Ledger.Entry.Follows

theorem refl (entry : Entry) : entry.Follows entry :=
  ⟨id, id, fun bet stored => ⟨bet, stored, rfl, fun _ _ => rfl⟩⟩

theorem trans {first second third : Entry} (earlier : first.Follows second)
    (later : second.Follows third) : first.Follows third := by
  refine ⟨fun free => earlier.settle (later.settle free),
    fun free => earlier.staffVoid (later.staffVoid free), fun bet stored => ?_⟩
  obtain ⟨middle, stored, same, legs⟩ := earlier.bet bet stored
  obtain ⟨last, stored, same', legs'⟩ := later.bet middle stored
  refine ⟨last, stored, same'.trans same, fun settled free => ?_⟩
  have still : second.settle ≠ none := fun free => settled (earlier.settle free)
  rw [legs' still free, legs settled (later.staffVoid free)]

theorem map (entry : Entry) (onRow : WalletOutbox → WalletOutbox) :
    entry.Follows (entry.map (fun bet => bet) onRow) := by
  refine ⟨fun free => ?_, fun free => ?_, fun bet stored => ⟨bet, ?_, rfl, fun _ _ => rfl⟩⟩
  · simpa [Entry.map] using free
  · simpa [Entry.map] using free
  · simpa [Entry.map] using stored

theorem update {entry : Entry} {old bet : Bet} {row : WalletOutbox} (stored : entry.bet = some old)
    (same : bet.lasting = old.lasting)
    (kept : bet.legs = old.legs ∨ entry.row row.type = none ∧ row.type ≠ .walletReserve) :
    entry.Follows ((entry.setBet bet).setRow row) := by
  refine ⟨fun free => Entry.free_of_setRow .walletSettle free,
    fun free => Entry.free_of_setRow .walletStaffVoid free, fun other stored' => ?_⟩
  obtain rfl := Option.some.inj (stored.symm.trans stored')
  refine ⟨bet, by simp, same, fun settled free => ?_⟩
  rcases kept with legs | ⟨absent, credit⟩
  · exact legs
  · have own : row.type = .walletStaffVoid := by
      cases type : row.type with
      | walletReserve => exact absurd type credit
      | walletSettle =>
          rw [type] at absent
          exact absurd absent settled
      | walletStaffVoid => rfl
    have taken : ((entry.setBet bet).setRow row).row .walletStaffVoid = some row := by
      rw [Entry.setRow_row, if_pos own]
    exact absurd (taken.symm.trans free) (by simp)

end Ledger.Entry.Follows

variable {id : String} {now : Time} {db after : Database} {Reply : Type}

theorem follows_update {betId : String} {bet : Bet} {row : WalletOutbox}
    (entries : after.ledger.entry = Function.update db.ledger.entry betId
      (((db.ledger.entry betId).setBet bet).setRow row))
    (own : (db.ledger.entry betId).Follows (((db.ledger.entry betId).setBet bet).setRow row))
    (other : String) : (db.ledger.entry other).Follows (after.ledger.entry other) := by
  rw [entries]
  revert other
  rw [Function.forall_update_iff _ fun other (entry : Ledger.Entry) =>
    (db.ledger.entry other).Follows entry]
  exact ⟨own, fun _ _ => .refl _⟩

theorem follows_commit {credit : Credit} {bet : Bet} (own : credit.row.betId = credit.betId)
    (credited : credit.row.type ≠ .walletReserve) (committed : credit.commit now db = .ok (bet, after))
    (betId : String) : (db.ledger.entry betId).Follows (after.ledger.entry betId) := by
  obtain ⟨old, stored, free, _, entries⟩ := Credit.commit_ok own committed
  exact follows_update entries
    (.update stored (Bet.lasting_credit _ _ _) (.inr ⟨free, credited⟩)) _

theorem follows_write {write : Write Reply} {reply : Reply}
    (ran : write.run id now db = .ok (reply, after)) (betId : String) :
    (db.ledger.entry betId).Follows (after.ledger.entry betId) := by
  cases write with
  | createBet data code =>
      obtain ⟨rfl, fresh, free, entries⟩ := createBet_ok ran
      refine follows_update entries ?_ betId
      refine ⟨fun free => Entry.free_of_setRow .walletSettle free,
        fun free => Entry.free_of_setRow .walletStaffVoid free, fun bet stored => ?_⟩
      rw [fresh] at stored
      cases stored
  | acceptBet betId reservation =>
      obtain ⟨old, _, stored, _, _, entries⟩ := acceptBet_ok ran
      exact follows_update entries (.update stored rfl (.inl rfl)) _
  | rejectBet betId reason =>
      obtain ⟨old, _, stored, _, _, entries⟩ := rejectBet_ok ran
      exact follows_update entries (.update stored rfl (.inl rfl)) _
  | settleBet graded batchId =>
      obtain ⟨credit, built, committed⟩ := Except.bind_eq_ok.mp ran
      obtain ⟨_, _, _, _, _, row⟩ := settlementCredit_ok built
      apply follows_commit (settlementCredit_own built) _ committed
      rw [row]
      exact OutboxType.noConfusion
  | voidBet bet casinoGroupId reason =>
      obtain ⟨credit, built, committed⟩ := Except.bind_eq_ok.mp ran
      obtain ⟨_, _, _, _, _, row⟩ := staffVoidCredit_ok built
      apply follows_commit (staffVoidCredit_own built) _ committed
      rw [row]
      exact OutboxType.noConfusion
  | setTransactionCode | scheduleRetry | completeRow | assignBatch | completeBatch | clearRetries
    | recordAudit =>
      rw [Write.entry_of_rowsOnly ran trivial]
      exact .map _ _

theorem follows_step (config : Config bettingMachine) (move : Move bettingMachine)
    (betId : String) : (entries config betId).Follows (entries (config.step move) betId) := by
  rcases config.step_cases move with same | ⟨index, choice, _, request, next, rfl, waiting⟩ |
    ⟨happening, rfl⟩
  · rw [same]
    exact .refl _
  · rw [Config.step_run waiting]
    refine World.answer_ledger config.state
      (fun ledger => (entries config betId).Follows (ledger.entry betId)) choice request ?_ (.refl _)
    rintro write rfl _ reply after ran
    exact follows_write ran betId
  · cases happening <;> exact .refl _

theorem follows_run (config : Config bettingMachine) (moves : List (Move bettingMachine))
    (betId : String) : (entries config betId).Follows (entries (config.run moves) betId) := by
  induction moves generalizing config with
  | nil => exact .refl _
  | cons move moves ih => exact (follows_step config move betId).trans (ih (config.step move))

end Entries

end SportsBetting
