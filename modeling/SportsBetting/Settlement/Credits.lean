import SportsBetting.Bets.Actors
import SportsBetting.Settlement.Calls

/-!
# Credit rows of a bet

Settlement and staff void both read that a bet is accepted and write later by
its id. The unique key of the outbox separates two settlements of a bet, but
not a settlement from a staff void.
-/

namespace SportsBetting

open Async Ledger

/-- The settlement and staff void rows that the outbox has for a bet. -/
def creditRows (ledger : Ledger) (betId : String) : List WalletOutbox :=
  ledger.walletOutbox.rows.filter fun row => row.betId = betId && row.type ≠ .walletReserve

section Guard

/-- A credit finds its bet still accepted, or finds a row of its own kind, which
makes it fail on the unique key. -/
def Write.creditInTime (db : Database) {Reply : Type} : Write Reply → Bool
  | .settleBet graded _ =>
      let entry := db.ledger.entry graded.bet.id
      entry.isAccepted || entry.settle.isSome
  | .voidBet bet _ _ =>
      let entry := db.ledger.entry bet.id
      entry.isAccepted || entry.staffVoid.isSome
  | _ => true

/-- Every credit that is not refused by the database is in time. -/
def creditsInTime : Guard bettingMachine := fun config choice request =>
  match request with
  | .write transaction =>
      choice.fault = .refused ∨ transaction.creditInTime config.state.db = true
  | _ => True

/-- What settlement runs and staff voids may call. -/
def BettingCall.Crediting {Reply : Type} : BettingCall Reply → Prop
  | .write (.createBet ..) | .write (.acceptBet ..) | .write (.rejectBet ..) => False
  | _ => True

end Guard

section Invariant

/-- An accepted bet has no credit row, and no bet has both. -/
def Ledger.Entry.CreditedOnce (entry : Entry) : Prop :=
  (entry.isAccepted = true → entry.settle = none ∧ entry.staffVoid = none) ∧
    (entry.settle = none ∨ entry.staffVoid = none)

theorem creditedOnce_map {entry : Entry} (onRow : WalletOutbox → WalletOutbox)
    (once : entry.CreditedOnce) : (entry.map (fun bet => bet) onRow).CreditedOnce := by
  simpa [Entry.CreditedOnce, Entry.map, Entry.isAccepted] using once

/-- A credit in time takes the bet out of the accepted ones. -/
theorem creditedOnce_commit {credit : Credit} {now : Time} {db after : Database} {bet : Bet}
    (own : credit.row.betId = credit.betId) (decided : credit.status ≠ .accepted)
    (inTime : (db.ledger.entry credit.betId).isAccepted = true ∨
      ((db.ledger.entry credit.betId).row credit.row.type).isSome)
    (committed : credit.commit now db = .ok (bet, after))
    (once : ∀ betId, (db.ledger.entry betId).CreditedOnce) (betId : String) :
    (after.ledger.entry betId).CreditedOnce := by
  obtain ⟨old, stored, free, _, entries⟩ := Credit.commit_ok own committed
  rw [entries]
  by_cases here : betId = credit.betId
  · subst here
    rw [Function.update_self]
    have accepted : (db.ledger.entry credit.betId).isAccepted = true := by
      rcases inTime with accepted | taken
      · exact accepted
      · rw [free] at taken
        cases taken
    obtain ⟨settle, staffVoid⟩ := (once credit.betId).1 accepted
    have closed : ((((db.ledger.entry credit.betId).setBet (credit.update now old)).setRow
        credit.row).isAccepted) = false := by
      simpa [Entry.isAccepted, Credit.update] using decided
    refine ⟨fun still => ?_, ?_⟩
    · rw [closed] at still
      cases still
    · unfold Entry.setRow
      cases credit.row.type
      · exact .inl settle
      · exact .inr staffVoid
      · exact .inl settle
  · rw [Function.update_of_ne here]
    exact once betId

theorem creditedOnce_write {id : String} {now : Time} {db after : Database} {Reply : Type}
    {write : Write Reply} {reply : Reply} (crediting : (BettingCall.write write).Crediting)
    (inTime : write.creditInTime db = true) (ran : write.run id now db = .ok (reply, after))
    (once : ∀ betId, (db.ledger.entry betId).CreditedOnce) (betId : String) :
    (after.ledger.entry betId).CreditedOnce := by
  cases write with
  | createBet | acceptBet | rejectBet => exact crediting.elim
  | settleBet graded batchId =>
      obtain ⟨credit, built, committed⟩ := Except.bind_eq_ok.mp ran
      obtain ⟨_, _, id, status, _, row⟩ := settlementCredit_ok built
      apply creditedOnce_commit (settlementCredit_own built) _ _ committed once
      · rw [status]
        exact graded.betResult.status_ne_accepted
      · rw [id, row]
        simpa [Write.creditInTime, creditRow, Entry.row] using inTime
  | voidBet bet casinoGroupId reason =>
      obtain ⟨credit, built, committed⟩ := Except.bind_eq_ok.mp ran
      obtain ⟨_, _, id, status, _, row⟩ := staffVoidCredit_ok built
      apply creditedOnce_commit (staffVoidCredit_own built) _ _ committed once
      · simp [status]
      · rw [id, row]
        simpa [Write.creditInTime, creditRow, Entry.row] using inTime
  | setTransactionCode | scheduleRetry | completeRow | assignBatch | completeBatch | clearRetries |
      recordAudit =>
      rw [Write.entry_of_rowsOnly ran trivial]
      exact creditedOnce_map _ (once betId)

end Invariant

section Programs

open Program SettlementService WalletOutboxService

variable {α : Type}

theorem BettingCall.Settles.crediting {Reply : Type} {request : BettingCall Reply}
    (settles : request.Settles) : request.Crediting := by
  cases request with
  | write transaction =>
      cases transaction with
      | createBet | acceptBet | rejectBet => exact settles.elim
      | _ => trivial
  | read | randomUUID | getBalance | postTransaction | postBatch => trivial

theorem crediting_of_settles {program : Betting α}
    (settles : program.CallsOnly BettingCall.Settles) :
    program.CallsOnly BettingCall.Crediting :=
  settles.mono fun _ => BettingCall.Settles.crediting

theorem transact_crediting {write : Write α} (allowed : (BettingCall.write write).Crediting) :
    (transact write).CallsOnly BettingCall.Crediting :=
  (callsOnly_call _).mpr allowed

variable (runtime : Text.Runtime)

/-- Settlement runs and staff voids never place, accept or reject a bet. -/
theorem crediting_of_credits {config : BetValidation.EnvConfig} {actor : Actor}
    (credits : actor.credits) : (actor.program config runtime).CallsOnly BettingCall.Crediting := by
  cases actor with
  | placeBet | pollOutbox | retryWalletSettlementTransmission => exact credits.elim
  | pollSettlement =>
      exact CallsOnly.handle (crediting_of_settles settleBatch_settles).void fun _ => trivial
  | settleBatch => exact (crediting_of_settles settleBatch_settles).void
  | trySettleBet betId => exact (crediting_of_settles (trySettleBet_settles betId)).void
  | settleBetsForEvent eventId casinoGroupId =>
      exact (crediting_of_settles (settleBetsForEvent_settles eventId casinoGroupId)).void
  | voidBet casinoGroupId betId reason staffUserId =>
      apply CallsOnly.void
      apply CallsOnly.bind (crediting_of_settles (settles_of_viewing (view_viewing _)))
      intro bet?
      cases bet? with
      | none => trivial
      | some bet =>
          dsimp only
          split
          · trivial
          · split
            · trivial
            · apply CallsOnly.bind
              · exact transact_crediting trivial
              · intro updated
                apply CallsOnly.bind
                · apply CallsOnly.handle
                  · exact transact_crediting trivial
                  · intro failure
                    trivial
                · intro _
                  trivial

end Programs

section Run

variable {config : BetValidation.EnvConfig} {runtime : Text.Runtime} {actors : List Actor}
  {world : World} {moves : List (Move bettingMachine)}

/-- Where the settlement row or the staff void row is missing, there is at most one. -/
theorem creditRows_length {ledger : Ledger} {betId : String}
    (once : (ledger.entry betId).settle = none ∨ (ledger.entry betId).staffVoid = none) :
    (creditRows ledger betId).length ≤ 1 := by
  have distinct : ((creditRows ledger betId).map WalletOutbox.key).Nodup :=
    (List.Sublist.map _ List.filter_sublist).nodup ledger.walletOutbox.unique
  have credit : ∀ row ∈ creditRows ledger betId, row ∈ ledger.walletOutbox ∧
      row.betId = betId ∧ row.type ≠ .walletReserve := by
    simp [creditRows, Table.mem_rows]
  match rows : creditRows ledger betId with
  | [] | [_] => simp
  | first :: second :: rest =>
      exfalso
      rw [rows] at distinct credit
      obtain ⟨stored, own, notReserve⟩ := credit first (by simp)
      obtain ⟨stored', own', notReserve'⟩ := credit second (by simp)
      have apart : first.type ≠ second.type := by
        intro same
        simp [WalletOutbox.key, own, own', same] at distinct
      have row := Ledger.entry_row.mpr ⟨stored, own, rfl⟩
      have row' := Ledger.entry_row.mpr ⟨stored', own', rfl⟩
      cases type : first.type <;> cases type' : second.type <;>
        simp_all [Ledger.Entry.row]

/-- If every credit is in time, no bet ever gets a second credit row. -/
theorem one_credit_row (credits : ∀ actor ∈ actors, actor.credits)
    (fresh : ∀ betId, (world.db.ledger.entry betId).CreditedOnce)
    (followed : (Actor.start config runtime world actors).Follows creditsInTime moves)
    (betId : String) :
    (creditRows ((Actor.start config runtime world actors).run moves).state.db.ledger
      betId).length ≤ 1 := by
  have pool : ∀ program ∈ (Actor.start config runtime world actors).pool,
      program.CallsOnly BettingCall.Crediting := by
    intro program member
    obtain ⟨actor, listed, rfl⟩ := List.mem_map.mp member
    exact crediting_of_credits runtime (credits actor listed)
  have kept := Config.state_invariant creditsInTime
    (fun world => ∀ betId, (world.db.ledger.entry betId).CreditedOnce)
    (fun config choice _ request crediting inTime once => by
      refine World.answer_ledger config.state
        (fun ledger => ∀ betId, (ledger.entry betId).CreditedOnce) choice request ?_ once
      intro write same carriedOut reply db ran
      subst same
      exact creditedOnce_write crediting (inTime.resolve_left carriedOut) ran once)
    (fun happening world once => by cases happening <;> exact once)
    pool fresh followed
  exact creditRows_length (kept betId).2

end Run

section Sample

open Sample

/-- A bet was placed and accepted, and its match has ended. -/
def endedMatch : World :=
  ((Sample.start [placeBet "key"]).run (calls 0 12 "bet" ++ [matchEnds])).state

def race : Config bettingMachine :=
  Actor.start ⟨"1", "100", "1000"⟩ Text.asciiRuntime endedMatch [.settleBatch, staffVoid]

/-- The bet is settled before staff look it up. -/
def settledFirst : List (Move bettingMachine) := calls 0 12 "" ++ calls 1 3 ""

/-- Staff look the bet up before it is settled, and void it afterwards. -/
def overtaken : List (Move bettingMachine) := calls 1 1 "" ++ calls 0 6 "" ++ calls 1 1 ""

theorem race_credits : ∀ actor ∈ [Actor.settleBatch, staffVoid], actor.credits := by
  simp [staffVoid, Actor.credits]

theorem endedMatch_uncredited (betId : String) :
    (endedMatch.db.ledger.entry betId).CreditedOnce := by
  have reserves : ∀ row ∈ endedMatch.db.ledger.walletOutbox.rows, row.type = .walletReserve := by
    decide +kernel
  have none_of : ∀ type, type ≠ .walletReserve →
      (endedMatch.db.ledger.entry betId).row type = none := by
    intro type credit
    cases found : (endedMatch.db.ledger.entry betId).row type with
    | none => rfl
    | some row =>
        obtain ⟨stored, _, same⟩ := Ledger.entry_row.mp found
        exact absurd (same.symm.trans (reserves row (Table.mem_rows.mpr stored))) credit
  have settle := none_of .walletSettle (by simp)
  have staffVoid := none_of .walletStaffVoid (by simp)
  exact ⟨fun _ => ⟨settle, staffVoid⟩, .inl settle⟩

instance (config : Config bettingMachine) (choice : Choice) {Reply : Type}
    (request : BettingCall Reply) : Decidable (creditsInTime config choice request) :=
  match request with
  | .write _ => inferInstanceAs (Decidable (_ ∨ _))
  | .read _ | .randomUUID | .getBalance .. | .postTransaction _ | .postBatch .. => .isTrue trivial

theorem one_credit_row_settled_first :
    (creditRows (race.run settledFirst).state.db.ledger "bet").length ≤ 1 ∧
      (creditRows (race.run settledFirst).state.db.ledger "bet").map WalletOutbox.type =
        [.walletSettle] :=
  ⟨one_credit_row race_credits endedMatch_uncredited (by decide +kernel) "bet", by decide +kernel⟩

/-- The player gets the payout and the refund. -/
theorem overtaken_void_credits_twice :
    (∀ actor ∈ [Actor.settleBatch, staffVoid], actor.credits) ∧
    (∀ betId, (endedMatch.db.ledger.entry betId).CreditedOnce) ∧
    (creditRows (race.run overtaken).state.db.ledger "bet").map
        (fun row => (row.type, row.payload.map WalletTransactionRequest.amount)) =
      [(.walletSettle, some "20"), (.walletStaffVoid, some "10")] :=
  ⟨race_credits, endedMatch_uncredited, by decide +kernel⟩

end Sample

end SportsBetting
