import SportsBetting.Bets.Actors

/-!
# The life of a bet

A debit attempt, a settlement and a staff void each check the bet once and
write its status later by its id. As long as what was checked still holds at
the write, a bet only moves from pending to accepted or rejected, and from
accepted to an outcome.
-/

namespace SportsBetting

open Async Ledger WalletOutboxService

section Status

/-- The moves that the life of a bet allows; writing the same status again is no move. -/
def BetStatus.movesTo : BetStatus → BetStatus → Bool
  | .pending, .accepted | .pending, .rejected => true
  | .accepted, .won | .accepted, .lost | .accepted, .void => true
  | before, after => before = after

/-- A decided bet keeps its status. -/
def BetStatus.isFinal : BetStatus → Bool
  | .rejected | .won | .lost | .void => true
  | .pending | .accepted => false

theorem BetStatus.movesTo_refl (status : BetStatus) : status.movesTo status = true := by
  cases status <;> rfl

theorem BetStatus.eq_of_final {before after : BetStatus} (final : before.isFinal = true)
    (moved : before.movesTo after = true) : after = before := by
  cases before <;> cases after <;> simp_all [movesTo, isFinal]

def Ledger.Entry.status (entry : Entry) : Option BetStatus := entry.bet.map Bet.status

/-- The bet is still there, in a status that its life allows next. -/
def Ledger.Entry.Advances (before after : Entry) : Prop :=
  ∀ status, before.status = some status →
    ∃ later, after.status = some later ∧ status.movesTo later = true

theorem advances_of_status {before after : Entry} (same : after.status = before.status) :
    before.Advances after :=
  fun status stored => ⟨status, same.trans stored, status.movesTo_refl⟩

theorem advances_of_movesTo {before after : Entry} {bet : Bet} {later : BetStatus}
    (stored : before.bet = some bet) (moved : after.status = some later)
    (moves : bet.status.movesTo later = true) : before.Advances after := by
  intro status known
  simp only [Entry.status, stored, Option.map_some, Option.some.injEq] at known
  subst known
  exact ⟨later, moved, moves⟩

end Status

section Guard

/-- At the write, the check of its program still holds, or the write leaves the
status as it is, or it fails on a credit row of its own kind. -/
def Write.checkHolds (db : Database) {Reply : Type} : Write Reply → Bool
  | .acceptBet betId _ =>
      let entry := db.ledger.entry betId
      debitOpen entry || entry.status = some .accepted
  | .rejectBet betId _ =>
      let entry := db.ledger.entry betId
      debitOpen entry || entry.status = some .rejected
  | .settleBet graded _ =>
      let entry := db.ledger.entry graded.bet.id
      entry.isAccepted || entry.status = some graded.betResult.status || entry.settle.isSome
  | .voidBet bet _ _ =>
      let entry := db.ledger.entry bet.id
      entry.isAccepted || entry.status = some .void || entry.staffVoid.isSome
  | _ => true

/-- Every status write that is not refused by the database passes its check again. -/
def checksHold : Guard bettingMachine := fun config choice request =>
  match request with
  | .write transaction =>
      choice.fault = .refused ∨ transaction.checkHolds config.state.db = true
  | _ => True

instance (config : Config bettingMachine) (choice : Choice) {Reply : Type}
    (request : BettingCall Reply) : Decidable (checksHold config choice request) :=
  match request with
  | .write _ => inferInstanceAs (Decidable (_ ∨ _))
  | .read _ | .randomUUID | .getBalance .. | .postTransaction _ | .postBatch .. => .isTrue trivial

end Guard

section Invariant

/-- Once a bet is accepted, its debit row is completed for good. -/
def Ledger.Entry.Debited (entry : Entry) : Prop :=
  ∀ bet, entry.bet = some bet → bet.status ≠ .pending → bet.status ≠ .rejected →
    ∃ row, entry.row .walletReserve = some row ∧ row.status = .completed

/-- A bet that a debit attempt may still decide is pending. -/
theorem pending_of_debitOpen {entry : Entry} {bet : Bet} (debited : entry.Debited)
    (stored : entry.bet = some bet) (isOpen : debitOpen entry = true) : bet.status = .pending := by
  unfold debitOpen at isOpen
  rw [stored] at isOpen
  cases reserved : entry.reserve with
  | none => simp [reserved] at isOpen
  | some row =>
      simp only [reserved, Bool.and_eq_true, Bool.not_eq_true', decide_eq_true_eq] at isOpen
      obtain ⟨undecided, notCompleted⟩ := isOpen
      rw [isDecided, Bool.or_eq_false_iff] at undecided
      by_contra notPending
      obtain ⟨row', same, completed⟩ := debited bet stored notPending
        (by simpa using undecided.2)
      rw [show entry.row .walletReserve = some row from reserved] at same
      exact notCompleted (Option.some.inj same ▸ completed)

/-- What one write does to every entry. -/
structure Step (before after : String → Entry) : Prop where
  debited : ∀ betId, (after betId).Debited
  advances : ∀ betId, (before betId).Advances (after betId)

/-- Only one entry changes, and it keeps to the life of its bet. -/
theorem step_update {before : String → Entry} {betId : String} {entry : Entry}
    (sound : ∀ betId, (before betId).Debited) (debited : entry.Debited)
    (advances : (before betId).Advances entry) :
    Step before (Function.update before betId entry) := by
  constructor
  · rw [Function.forall_update_iff _ fun _ (entry : Entry) => entry.Debited]
    exact ⟨debited, fun other _ => sound other⟩
  · rw [Function.forall_update_iff _ fun other (entry : Entry) => (before other).Advances entry]
    exact ⟨advances, fun _ _ => advances_of_status rfl⟩

theorem onRow_completed {now : Time} {Reply : Type} (write : Write Reply) {row : WalletOutbox}
    (done : row.status = .completed) : (write.onRow now row).status = .completed := by
  cases write <;> simp only [Write.onRow] <;> (try split) <;>
    first | exact done | rfl

theorem step_rows {now : Time} {Reply : Type} (write : Write Reply) {before : String → Entry}
    (sound : ∀ betId, (before betId).Debited) :
    Step before fun betId => (before betId).map (fun bet => bet) (write.onRow now) := by
  constructor
  · intro betId bet stored notPending notRejected
    obtain ⟨row, reserved, done⟩ :=
      sound betId bet (by simpa [Entry.map] using stored) notPending notRejected
    exact ⟨write.onRow now row, by simp [reserved], onRow_completed write done⟩
  · intro betId
    exact advances_of_status (by simp [Entry.status, Entry.map])

/-- A credit in time moves an accepted bet to its outcome. -/
theorem step_commit {credit : Credit} {now : Time} {db after : Database} {bet : Bet}
    {outcome : WalletSettlementOutcome} (own : credit.row.betId = credit.betId)
    (decided : credit.status = outcome.status) (apart : credit.row.type ≠ .walletReserve)
    (holds : (db.ledger.entry credit.betId).isAccepted = true ∨
      (db.ledger.entry credit.betId).status = some outcome.status ∨
      ((db.ledger.entry credit.betId).row credit.row.type).isSome)
    (committed : credit.commit now db = .ok (bet, after))
    (sound : ∀ betId, (db.ledger.entry betId).Debited) :
    Step db.ledger.entry after.ledger.entry := by
  obtain ⟨old, stored, free, _, entries⟩ := Credit.commit_ok own committed
  have allowed : old.status = .accepted ∨ old.status = outcome.status := by
    rcases holds with accepted | same | taken
    · obtain ⟨bet, same, accepted⟩ := Entry.isAccepted_iff.mp accepted
      rw [stored] at same
      exact .inl (Option.some.inj same ▸ accepted)
    · simp only [Entry.status, stored, Option.map_some, Option.some.injEq] at same
      exact .inr same
    · simp [free] at taken
  rw [entries]
  apply step_update sound
  · intro bet _ _ _
    have debited : old.status ≠ .pending ∧ old.status ≠ .rejected := by
      rcases allowed with same | same <;> rw [same]
      · simp
      · cases outcome <;> simp [WalletSettlementOutcome.status]
    obtain ⟨row, reserved, done⟩ := sound credit.betId old stored debited.1 debited.2
    exact ⟨row, by rw [Entry.setRow_row, if_neg apart, Entry.setBet_row, reserved], done⟩
  · have moves : old.status.movesTo outcome.status = true := by
      rcases allowed with same | same <;> rw [same]
      · cases outcome <;> rfl
      · exact BetStatus.movesTo_refl _
    exact advances_of_movesTo stored (by simp [Entry.status, Credit.update, decided]) moves

/-- A bet whose debit is open is pending, and a pending bet may be decided. -/
theorem movesTo_of_holds {entry : Entry} {bet : Bet} {status : BetStatus}
    (debited : entry.Debited) (stored : entry.bet = some bet)
    (decides : BetStatus.pending.movesTo status = true)
    (holds : (debitOpen entry || entry.status = some status) = true) :
    bet.status.movesTo status = true := by
  simp only [Bool.or_eq_true, decide_eq_true_eq] at holds
  rcases holds with isOpen | already
  · rwa [pending_of_debitOpen debited stored isOpen]
  · simp only [Entry.status, stored, Option.map_some, Option.some.injEq] at already
    rw [already]
    exact BetStatus.movesTo_refl _

theorem step_write {id : String} {now : Time} {db after : Database} {Reply : Type}
    {write : Write Reply} {reply : Reply} (holds : write.checkHolds db = true)
    (ran : write.run id now db = .ok (reply, after))
    (sound : ∀ betId, (db.ledger.entry betId).Debited) :
    Step db.ledger.entry after.ledger.entry := by
  cases write with
  | createBet data transactionCode =>
      obtain ⟨rfl, fresh, _, entries⟩ := createBet_ok ran
      rw [entries]
      apply step_update sound
      · intro bet stored notPending
        simp only [Entry.setRow_bet, Entry.setBet_bet, Option.some.injEq] at stored
        subst stored
        exact absurd rfl notPending
      · intro status stored
        simp [Entry.status, fresh] at stored
  | acceptBet betId reservation =>
      obtain ⟨old, row, stored, reserved, _, entries⟩ := acceptBet_ok ran
      have type : (completed row).type = .walletReserve := (entry_row.mp reserved).2.2
      rw [entries]
      apply step_update sound
      · intro bet _ _ _
        exact ⟨completed row, by rw [Entry.setRow_row, if_pos type], rfl⟩
      · have moves : old.status.movesTo .accepted = true :=
          movesTo_of_holds (sound betId) stored rfl holds
        exact advances_of_movesTo stored (by simp [Entry.status, acceptedAs]) moves
  | rejectBet betId reason =>
      obtain ⟨old, row, stored, _, _, entries⟩ := rejectBet_ok ran
      rw [entries]
      apply step_update sound
      · intro bet stored _ notRejected
        simp only [Entry.setRow_bet, Entry.setBet_bet, Option.some.injEq] at stored
        subst stored
        exact absurd rfl notRejected
      · have moves : old.status.movesTo .rejected = true :=
          movesTo_of_holds (sound betId) stored rfl holds
        exact advances_of_movesTo stored (by simp [Entry.status, rejectedFor]) moves
  | settleBet graded batchId =>
      obtain ⟨credit, built, committed⟩ := Except.bind_eq_ok.mp ran
      obtain ⟨_, _, id, status, _, row⟩ := settlementCredit_ok built
      apply step_commit (settlementCredit_own built) status (by simp [row, creditRow]) _ committed sound
      rw [id, row]
      simpa [Write.checkHolds, creditRow, Entry.row, or_assoc] using holds
  | voidBet bet casinoGroupId reason =>
      obtain ⟨credit, built, committed⟩ := Except.bind_eq_ok.mp ran
      obtain ⟨_, _, id, status, _, row⟩ := staffVoidCredit_ok built
      have outcome : credit.status = WalletSettlementOutcome.status .void := status
      apply step_commit (staffVoidCredit_own built) outcome (by simp [row, creditRow]) _ committed sound
      rw [id, row]
      simpa [Write.checkHolds, creditRow, Entry.row, or_assoc, WalletSettlementOutcome.status] using
        holds
  | setTransactionCode | scheduleRetry | completeRow | assignBatch | completeBatch | clearRetries |
      recordAudit =>
      rw [funext (Write.entry_of_rowsOnly ran trivial)]
      exact step_rows _ sound

end Invariant

section Run

variable {config : Config bettingMachine} {moves : List (Move bettingMachine)}

/-- What the ledger has on every bet. -/
def entries (config : Config bettingMachine) : String → Entry := config.state.db.ledger.entry

theorem step_refl {before : String → Entry} (sound : ∀ betId, (before betId).Debited) :
    Step before before :=
  ⟨sound, fun _ => advances_of_status rfl⟩

theorem step_move (move : Move bettingMachine) (sound : ∀ betId, (entries config betId).Debited)
    (permitted : config.Permits checksHold move) :
    Step (entries config) (entries (config.step move)) := by
  rcases config.step_cases move with same | ⟨index, choice, _, request, next, rfl, waiting⟩ |
    ⟨happening, rfl⟩
  · rw [same]
    exact step_refl sound
  · have holds := (Config.permits_run waiting).mp permitted
    rw [Config.step_run waiting]
    refine World.answer_ledger config.state (fun ledger => Step (entries config) ledger.entry)
      choice request ?_ (step_refl sound)
    intro write same carriedOut reply db ran
    subst same
    exact step_write (holds.resolve_left carriedOut) ran sound
  · cases happening <;> exact step_refl sound

theorem debited_run (sound : ∀ betId, (entries config betId).Debited)
    (followed : config.Follows checksHold moves) (betId : String) :
    (entries (config.run moves) betId).Debited :=
  Config.run_preserves checksHold (fun config => ∀ betId, (entries config betId).Debited)
    (fun _ move sound permitted => (step_move move sound permitted).debited) sound followed betId

theorem final_run {betId : String} {status : BetStatus} (final : status.isFinal = true)
    (sound : ∀ betId, (entries config betId).Debited)
    (followed : config.Follows checksHold moves) (reached : (entries config betId).status = some status) :
    (entries (config.run moves) betId).status = some status := by
  induction moves generalizing config with
  | nil => exact reached
  | cons move moves ih =>
      have step := step_move move sound followed.1
      obtain ⟨later, stored, moved⟩ := step.advances betId status reached
      rw [BetStatus.eq_of_final final moved] at stored
      exact ih step.debited followed.2 stored

variable {limits : BetValidation.EnvConfig} {runtime : Text.Runtime} {catalog : Catalog}
  {clock : Time} {balances : String → String → ℚ}

/-- If every status write passes its check again, each move of a run keeps every
bet to its life, and a decided bet keeps its status to the end of the run. -/
theorem life_of_every_bet {actors : List Actor} {start : Config bettingMachine}
    (deployed : start = Actor.start limits runtime (.deployed catalog clock balances) actors)
    (followed : start.Follows checksHold moves) (betId : String) :
    (∀ first move rest, moves = first ++ move :: rest →
      (entries (start.run first) betId).Advances (entries (start.run (first ++ [move])) betId)) ∧
    ∀ first rest, moves = first ++ rest → ∀ status, status.isFinal = true →
      (entries (start.run first) betId).status = some status →
        (entries (start.run moves) betId).status = some status := by
  have sound : ∀ betId, (entries start betId).Debited := by
    intro betId bet stored
    subst deployed
    cases stored
  constructor
  · rintro first move rest rfl
    obtain ⟨before, after⟩ := (Config.follows_append _ _ _ _).mp followed
    rw [Config.run_append]
    exact (step_move move (debited_run sound before) after.1).advances betId
  · rintro first rest rfl status final reached
    obtain ⟨before, after⟩ := (Config.follows_append _ _ _ _).mp followed
    rw [Config.run_append]
    exact final_run final (debited_run sound before) after reached

end Run

section Sample

open Sample

/-- A placement, its replay, a settlement run and a staff void. -/
def players : Config bettingMachine :=
  start [placeBet "key", placeBet "key", .settleBatch, staffVoid]

/-- The bet is placed, and settled after the match. -/
def settled : List (Move bettingMachine) := calls 0 12 "bet" ++ [matchEnds] ++ calls 2 12 ""

/-- Only then do the replay and the staff void start. -/
def latecomers : List (Move bettingMachine) := calls 1 6 "" ++ calls 3 3 ""

/-- Both debit attempts are acknowledged, one accepts the bet, and the bet is settled. -/
def settledInBetween : List (Move bettingMachine) :=
  calls 0 10 "bet" ++ calls 1 6 "" ++ [matchEnds] ++ calls 2 6 ""

theorem won_bet_stays_won :
    (entries (players.run (settled ++ latecomers)) "bet").status = some .won :=
  (life_of_every_bet rfl (by decide +kernel) "bet").2 settled latecomers rfl .won rfl
    (by decide +kernel)

/-- The other debit attempt then accepts the bet that was won and paid. -/
theorem won_bet_reopened :
    (entries (players.run settledInBetween) "bet").status = some .won ∧
      (entries (players.run (settledInBetween ++ calls 0 1 "")) "bet").status = some .accepted := by
  decide +kernel

end Sample

end SportsBetting
