import SportsBetting.Bets.World

/-!
# What the ledger and the wallet keep of a bet

No service ever changes the terms of a bet or of an outbox row. What the wallet
has applied can be traced to a bet or to a row with the same terms.
-/

namespace SportsBetting

open Ledger Wallet

section Terms

/-- What no transaction changes of a bet. -/
def Bet.terms (bet : Bet) :=
  (bet.id, bet.placement, bet.stake, bet.potentialPayout)

/-- What no transaction changes of an outbox row, as long as it has a transaction code. -/
def WalletOutbox.terms (row : WalletOutbox) :=
  (row.key, row.casinoGroupId, row.transactionCode, row.payload)

/-- The bet and the rows are still there, under the same terms. -/
structure Ledger.Entry.Keeps (before after : Entry) : Prop where
  bet : ∀ bet, before.bet = some bet → ∃ later, after.bet = some later ∧ later.terms = bet.terms
  row : ∀ type row, before.row type = some row →
    ∃ later, after.row type = some later ∧ later.terms = row.terms

namespace Ledger.Entry.Keeps

theorem refl (entry : Entry) : entry.Keeps entry :=
  ⟨fun bet stored => ⟨bet, stored, rfl⟩, fun _ row stored => ⟨row, stored, rfl⟩⟩

theorem trans {first second third : Entry} (earlier : first.Keeps second)
    (later : second.Keeps third) : first.Keeps third := by
  constructor
  · intro bet stored
    obtain ⟨middle, stored, same⟩ := earlier.bet bet stored
    obtain ⟨last, stored, same'⟩ := later.bet middle stored
    exact ⟨last, stored, same'.trans same⟩
  · intro type row stored
    obtain ⟨middle, stored, same⟩ := earlier.row type row stored
    obtain ⟨last, stored, same'⟩ := later.row type middle stored
    exact ⟨last, stored, same'.trans same⟩

theorem setBet {entry : Entry} {old bet : Bet} (stored : entry.bet = some old)
    (same : bet.terms = old.terms) : entry.Keeps (entry.setBet bet) := by
  constructor
  · intro other stored'
    obtain rfl := Option.some.inj (stored.symm.trans stored')
    exact ⟨bet, rfl, same⟩
  · intro type row stored
    exact ⟨row, by simpa using stored, rfl⟩

theorem setNewBet {entry : Entry} {bet : Bet} (fresh : entry.bet = none) :
    entry.Keeps (entry.setBet bet) := by
  constructor
  · intro other stored
    rw [fresh] at stored
    cases stored
  · intro type row stored
    exact ⟨row, by simpa using stored, rfl⟩

theorem setRow {entry : Entry} {row : WalletOutbox}
    (same : ∀ old, entry.row row.type = some old → row.terms = old.terms) :
    entry.Keeps (entry.setRow row) := by
  constructor
  · intro bet stored
    exact ⟨bet, by simpa using stored, rfl⟩
  · intro type old stored
    rw [setRow_row]
    by_cases hit : row.type = type
    · subst hit
      exact ⟨row, by simp, same old stored⟩
    · exact ⟨old, by simpa [hit] using stored, rfl⟩

theorem map {entry : Entry} {onRow : WalletOutbox → WalletOutbox}
    (same : ∀ row, (onRow row).terms = row.terms) :
    entry.Keeps (entry.map (fun bet => bet) onRow) := by
  constructor
  · intro bet stored
    exact ⟨bet, by simpa [Entry.map] using stored, rfl⟩
  · intro type row stored
    exact ⟨onRow row, by simp [stored], same row⟩

end Ledger.Entry.Keeps

def Ledger.Keeps (before after : Ledger) : Prop :=
  ∀ betId, (before.entry betId).Keeps (after.entry betId)

namespace Ledger.Keeps

theorem refl (ledger : Ledger) : ledger.Keeps ledger := fun _ => .refl _

theorem trans {first second third : Ledger} (earlier : first.Keeps second)
    (later : second.Keeps third) : first.Keeps third :=
  fun betId => (earlier betId).trans (later betId)

theorem update {before after : Ledger} {betId : String} {entry : Entry}
    (entries : after.entry = Function.update before.entry betId entry)
    (kept : (before.entry betId).Keeps entry) : before.Keeps after := by
  unfold Ledger.Keeps
  rw [entries, Function.forall_update_iff _ fun other entry => (before.entry other).Keeps entry]
  exact ⟨kept, fun _ _ => .refl _⟩

end Ledger.Keeps

end Terms

section Writes

variable {id : String} {now : Time} {db after : Database} {Reply : Type}

/-- The only transaction that changes the terms of a row. -/
def Write.ChangesCode : Write Reply → Prop
  | .setTransactionCode .. => True
  | _ => False

theorem terms_onRow {write : Write Reply} (keepsCode : ¬ write.ChangesCode) (row : WalletOutbox) :
    (write.onRow now row).terms = row.terms := by
  cases write with
  | setTransactionCode => exact absurd trivial keepsCode
  | scheduleRetry | completeRow | assignBatch | completeBatch | clearRetries =>
      simp only [Write.onRow]
      split <;> rfl
  | createBet | acceptBet | rejectBet | settleBet | voidBet | recordAudit => rfl

theorem Credit.commit_keeps {credit : Credit} {bet : Bet}
    (own : credit.row.betId = credit.betId) (committed : credit.commit now db = .ok (bet, after)) :
    db.ledger.Keeps after.ledger := by
  obtain ⟨old, stored, free, _, entries⟩ := Credit.commit_ok own committed
  refine Keeps.update entries ((Entry.Keeps.setBet stored ?_).trans (Entry.Keeps.setRow ?_))
  · rfl
  · intro other taken
    rw [Entry.setBet_row, free] at taken
    cases taken

private theorem decide_keeps {betId : String} {old bet : Bet} {row changed : WalletOutbox}
    (stored : (db.ledger.entry betId).bet = some old)
    (reserved : (db.ledger.entry betId).row .walletReserve = some row)
    (entries : after.ledger.entry = Function.update db.ledger.entry betId
      (((db.ledger.entry betId).setBet bet).setRow changed))
    (sameBet : bet.terms = old.terms) (sameRow : changed.terms = row.terms) :
    db.ledger.Keeps after.ledger := by
  have type : changed.type = .walletReserve := by
    simp only [WalletOutbox.terms, WalletOutbox.key, Prod.mk.injEq] at sameRow
    exact sameRow.1.2.trans (entry_row.mp reserved).2.2
  refine Keeps.update entries ((Entry.Keeps.setBet stored sameBet).trans (Entry.Keeps.setRow ?_))
  intro other found
  rw [Entry.setBet_row, type, reserved] at found
  exact Option.some.inj found ▸ sameRow

/-- Transactions keep the terms of all that is stored. -/
theorem Write.keeps {write : Write Reply} {reply : Reply} (keepsCode : ¬ write.ChangesCode)
    (ran : write.run id now db = .ok (reply, after)) : db.ledger.Keeps after.ledger := by
  cases write with
  | createBet data code =>
      obtain ⟨_, fresh, free, entries⟩ := createBet_ok ran
      refine Keeps.update entries ((Entry.Keeps.setNewBet fresh).trans (Entry.Keeps.setRow ?_))
      intro old taken
      rw [Entry.setBet_row] at taken
      exact absurd (free.symm.trans taken) (by simp)
  | acceptBet betId reservation =>
      obtain ⟨old, row, stored, reserved, _, entries⟩ := acceptBet_ok ran
      exact decide_keeps stored reserved entries rfl rfl
  | rejectBet betId reason =>
      obtain ⟨old, row, stored, reserved, _, entries⟩ := rejectBet_ok ran
      exact decide_keeps stored reserved entries rfl rfl
  | settleBet graded batchId =>
      obtain ⟨credit, built, committed⟩ := Except.bind_eq_ok.mp ran
      exact Credit.commit_keeps (settlementCredit_own built) committed
  | voidBet bet casinoGroupId reason =>
      obtain ⟨credit, built, committed⟩ := Except.bind_eq_ok.mp ran
      exact Credit.commit_keeps (staffVoidCredit_own built) committed
  | setTransactionCode => exact absurd trivial keepsCode
  | scheduleRetry | completeRow | assignBatch | completeBatch | clearRetries | recordAudit =>
      intro betId
      rw [Write.entry_of_rowsOnly ran trivial betId]
      exact Entry.Keeps.map (terms_onRow keepsCode)

end Writes

section Sound

/-- A stored request says what its row says, and ends the round of its bet. -/
structure WalletTransactionRequest.Carries (request : WalletTransactionRequest)
    (row : WalletOutbox) : Prop where
  group : request.casinoGroupId = row.casinoGroupId
  round : request.roundId = row.betId
  code : request.transactionCode = row.transactionCode
  finished : request.isFinished = true

def WalletOutbox.Sound (row : WalletOutbox) : Prop :=
  match row.type with
  | .walletReserve => ∃ number, row.transactionCode = .uuid number
  | .walletSettle =>
      (∃ outcome, row.transactionCode = .settlement row.betId outcome) ∧
        ∃ request, row.payload = some request ∧ request.Carries row
  | .walletStaffVoid =>
      row.transactionCode = .staffVoid row.betId ∧
        ∃ request, row.payload = some request ∧ request.Carries row

/-- Whether a row is sound depends on its terms only. -/
theorem WalletOutbox.Sound.of_terms {first second : WalletOutbox} (sound : first.Sound)
    (same : first.terms = second.terms) : second.Sound := by
  simp only [terms, key, Prod.mk.injEq] at same
  obtain ⟨⟨bet, type⟩, group, code, payload⟩ := same
  have carries : ∀ request : WalletTransactionRequest, request.Carries first →
      request.Carries second := fun request held =>
    ⟨held.group.trans group, held.round.trans bet, held.code.trans code, held.finished⟩
  unfold Sound at sound ⊢
  rw [← type, ← code, ← bet, ← payload]
  cases type : first.type with
  | walletReserve => simpa [type] using sound
  | walletSettle =>
      simp only [type] at sound
      obtain ⟨outcome, request, stored, held⟩ := sound
      exact ⟨outcome, request, stored, carries request held⟩
  | walletStaffVoid =>
      simp only [type] at sound
      obtain ⟨code, request, stored, held⟩ := sound
      exact ⟨code, request, stored, carries request held⟩

/-- Every stored row is sound. -/
def Ledger.Sound (ledger : Ledger) : Prop :=
  ∀ betId type row, (ledger.entry betId).row type = some row → row.Sound

section Preserved

variable {id : String} {now : Time} {db after : Database} {Reply : Type}

theorem Ledger.Sound.update {before after : Ledger} {betId : String} {bet : Bet}
    {row : WalletOutbox} (sound : before.Sound)
    (entries : after.entry = Function.update before.entry betId
      (((before.entry betId).setBet bet).setRow row)) (rowSound : row.Sound) : after.Sound := by
  intro other type found stored
  rcases Ledger.row_of_update entries stored with ⟨_, _, rfl⟩ | earlier
  · exact rowSound
  · exact sound other type found earlier

/-- The request of a credit row is built from its bet. -/
theorem creditRow_carries {bet : Bet} {casinoGroupId : String} {type : OutboxType}
    {batchId : Option ℕ} {outcome : WalletSettlementOutcome} {payout : String}
    {code : TransactionCode} {request : WalletTransactionRequest}
    (built : buildSettlementTransaction bet outcome payout code now = .ok request)
    (group : bet.casinoGroupId = casinoGroupId) :
    request.Carries (creditRow bet casinoGroupId type batchId request now) := by
  obtain ⟨ofGroup, round, _, finished, _⟩ := buildSettlementTransaction_ok built
  exact ⟨ofGroup.trans group, round, rfl, finished⟩

/-- What a transaction must respect to keep the ledger sound: new debit rows have
a drawn code, codes are not replaced, and staff void in the group of the bet. -/
def Write.Respects : Write Reply → Prop
  | .createBet _ code => ∃ number, code = .uuid number
  | .voidBet bet casinoGroupId _ => bet.casinoGroupId = casinoGroupId
  | .setTransactionCode .. => False
  | _ => True

theorem Write.not_changesCode {write : Write Reply} (respects : write.Respects) :
    ¬ write.ChangesCode := by
  cases write <;> simp_all [ChangesCode, Respects]

theorem Write.sound {write : Write Reply} {reply : Reply} (respects : write.Respects)
    (ran : write.run id now db = .ok (reply, after)) (sound : db.ledger.Sound) :
    after.ledger.Sound := by
  cases write with
  | createBet data code =>
      obtain ⟨_, _, _, entries⟩ := createBet_ok ran
      exact sound.update entries respects
  | acceptBet betId reservation =>
      obtain ⟨_, row, _, reserved, _, entries⟩ := acceptBet_ok ran
      exact sound.update entries ((sound betId _ row reserved).of_terms rfl)
  | rejectBet betId reason =>
      obtain ⟨_, row, _, reserved, _, entries⟩ := rejectBet_ok ran
      exact sound.update entries ((sound betId _ row reserved).of_terms rfl)
  | settleBet graded batchId =>
      obtain ⟨credit, built, committed⟩ := Except.bind_eq_ok.mp ran
      obtain ⟨request, made, _, _, _, row⟩ := settlementCredit_ok built
      obtain ⟨_, _, _, _, entries⟩ := Credit.commit_ok (settlementCredit_own built) committed
      refine sound.update entries ?_
      rw [row]
      exact ⟨⟨graded.betResult, (buildSettlementTransaction_ok made).2.2.1⟩, request, rfl,
        creditRow_carries made rfl⟩
  | voidBet bet casinoGroupId reason =>
      obtain ⟨credit, built, committed⟩ := Except.bind_eq_ok.mp ran
      obtain ⟨request, made, _, _, _, row⟩ := staffVoidCredit_ok built
      obtain ⟨_, _, _, _, entries⟩ := Credit.commit_ok (staffVoidCredit_own built) committed
      refine sound.update entries ?_
      rw [row]
      exact ⟨(buildSettlementTransaction_ok made).2.2.1, request, rfl,
        creditRow_carries made respects⟩
  | setTransactionCode => exact respects.elim
  | scheduleRetry | completeRow | assignBatch | completeBatch | clearRetries | recordAudit =>
      intro betId type row stored
      rw [Write.entry_of_rowsOnly ran trivial, Entry.map_row] at stored
      obtain ⟨before, there, rfl⟩ := Option.map_eq_some_iff.mp stored
      exact (sound betId type before there).of_terms
        (terms_onRow (Write.not_changesCode respects) before).symm

end Preserved

end Sound

section Traced

/-- The debit of a stored bet, under the code of its debit row. -/
structure DebitOf (ledger : Ledger) (request : WalletTransactionRequest) (bet : Bet)
    (row : WalletOutbox) : Prop where
  stored : (ledger.entry request.roundId).bet = some bet
  reserved : (ledger.entry request.roundId).row .walletReserve = some row
  group : request.casinoGroupId = bet.casinoGroupId
  code : request.transactionCode = row.transactionCode
  unfinished : request.isFinished = false
  amount : request.amount = "-" ++ bet.stake.text

def IsDebit (ledger : Ledger) (request : WalletTransactionRequest) : Prop :=
  ∃ bet row, DebitOf ledger request bet row

/-- The request is stored with a credit row. -/
def IsCredit (ledger : Ledger) (request : WalletTransactionRequest) : Prop :=
  ∃ betId type row, (ledger.entry betId).row type = some row ∧ type ≠ .walletReserve ∧
    row.payload = some request

variable {ledger after : Ledger} {request : WalletTransactionRequest}

theorem IsDebit.later (kept : ledger.Keeps after) (debit : IsDebit ledger request) :
    IsDebit after request := by
  obtain ⟨bet, row, held⟩ := debit
  obtain ⟨bet', stored, sameBet⟩ := (kept request.roundId).bet bet held.stored
  obtain ⟨row', reserved, sameRow⟩ := (kept request.roundId).row _ row held.reserved
  simp only [Bet.terms, Bet.placement, WalletOutbox.terms, Prod.mk.injEq] at sameBet sameRow
  exact ⟨bet', row', stored, reserved, held.group.trans sameBet.2.1.1.symm,
    held.code.trans sameRow.2.2.1.symm, held.unfinished, by rw [sameBet.2.2.1]; exact held.amount⟩

theorem IsCredit.later (kept : ledger.Keeps after) (credit : IsCredit ledger request) :
    IsCredit after request := by
  obtain ⟨betId, type, row, stored, credit, payload⟩ := credit
  obtain ⟨row', stored', same⟩ := (kept betId).row type row stored
  simp only [WalletOutbox.terms, Prod.mk.injEq] at same
  exact ⟨betId, type, row', stored', credit, same.2.2.2.trans payload⟩

/-- A stored credit belongs to the round of its row, and ends it. -/
theorem IsCredit.carries (sound : ledger.Sound) (credit : IsCredit ledger request) :
    ∃ type row, (ledger.entry request.roundId).row type = some row ∧ type ≠ .walletReserve ∧
      row.payload = some request ∧ request.Carries row := by
  obtain ⟨betId, type, row, stored, credit, payload⟩ := credit
  have rowSound := sound betId type row stored
  obtain ⟨_, own, same⟩ := entry_row.mp stored
  have carries : request.Carries row := by
    unfold WalletOutbox.Sound at rowSound
    rw [same] at rowSound
    cases type with
    | walletReserve => exact absurd rfl credit
    | walletSettle | walletStaffVoid =>
        obtain ⟨_, other, stored, held⟩ := rowSound
        rw [payload] at stored
        exact Option.some.inj stored ▸ held
  refine ⟨type, row, ?_, credit, payload, carries⟩
  rw [carries.round, own]
  exact stored

/-- The ledger is sound, and all that the wallet has applied, once, comes from it. -/
structure Orderly (world : World) : Prop where
  sound : world.db.ledger.Sound
  once : world.wallet.AppliesOnce
  traced : ∀ done ∈ world.wallet.applied,
    IsDebit world.db.ledger done ∨ IsCredit world.db.ledger done

theorem orderly_deployed (catalog : Catalog) (clock : Time) (balances : String → String → ℚ) :
    Orderly (.deployed catalog clock balances) := by
  constructor
  · intro betId type row stored
    rw [← outboxOf_eq_row] at stored
    cases stored
  · exact List.nodup_nil
  · intro done member
    cases member

end Traced

end SportsBetting
