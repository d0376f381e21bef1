import SportsBetting.Bets.Actors
import SportsBetting.Bets.Records

/-!
# What the services keep to

The contract that all programs of the betting side are safe under. Its premises
say what else is known of a deployment: whether a program runs alone, what an
acknowledged batch means, and what a declined debit means.
-/

namespace SportsBetting

open Async Ledger Wallet WalletOutboxService

structure Premises where
  /-- No two programs run at the same time. -/
  exclusive : Prop
  admits : {Reply : Type} → World → Choice → BettingCall Reply → Prop
  delivered : World → WalletTransactionRequest → Prop
  declined : World → String → Prop
  delivered_later : ∀ {before after : World} {request}, before.wallet.applied ⊆ after.wallet.applied →
    delivered before request → delivered after request
  declined_later : ∀ happening world betId, declined world betId →
    declined (world.happen happening) betId
  acknowledged : ∀ world choice casinoGroupId batchId transactions,
    admits world choice (.postBatch casinoGroupId batchId transactions) →
    readBatch (world.wallet.postBatch choice.exchange casinoGroupId batchId transactions).1 = .ok () →
    ∀ request ∈ transactions,
      delivered (world.answer choice (.postBatch casinoGroupId batchId transactions)).2 request
  refusal : ∀ world choice request, admits world choice (.postTransaction request) →
    request.isFinished = false →
    ReadsAsRefusal request (world.wallet.post choice.exchange request).1 →
      declined (world.answer choice (.postTransaction request)).2 request.roundId

namespace Premises

variable (premises : Premises)

section Contract

/-- What the others leave as it is. -/
structure Persists (before after : World) : Prop where
  terms : before.db.ledger.Keeps after.db.ledger
  applied : before.wallet.applied ⊆ after.wallet.applied
  alone : premises.exclusive → after.db.ledger = before.db.ledger

/-- The bet that a rejection waits to be written for. -/
def rejects {Reply : Type} : BettingCall Reply → Option String
  | .write (.rejectBet betId _) => some betId
  | _ => none

/-- The bet is stored under these terms, and in this status if nobody interferes. -/
def StoredAs (ledger : Ledger) (bet : Bet) : Prop :=
  ∃ stored, (ledger.entry bet.id).bet = some stored ∧ stored.terms = bet.terms ∧
    (premises.exclusive → stored.status = bet.status)

/-- The row is stored under these terms, and in this status if nobody interferes. -/
def RowStoredAs (ledger : Ledger) (row : WalletOutbox) : Prop :=
  ∃ stored, (ledger.entry row.betId).row row.type = some stored ∧ stored.terms = row.terms ∧
    (premises.exclusive → stored.status = row.status)

/-- The bet was graded as it is stored. -/
structure Graded (ledger : Ledger) (graded : GradedBet) : Prop where
  stored : premises.StoredAs ledger graded.bet
  accepted : graded.bet.status = .accepted
  payout : graded.payoutAmount = SettlementService.payoutForResult graded.bet.stake
    graded.bet.potentialPayout graded.betResult

/-- The batch with these rows was delivered. -/
def Completes (world : World) (key : String × OutboxType) : Prop :=
  key.2 = .walletSettle ∧ ∀ row, (world.db.ledger.entry key.1).row key.2 = some row →
    ∀ request, row.payload = some request → premises.delivered world request

def ProperWrite (world : World) {Reply : Type} : Write Reply → Prop
  | .acceptBet betId _ =>
      premises.exclusive → debitOpen (world.db.ledger.entry betId) = true
  | .rejectBet betId _ => premises.declined world betId ∧
      (premises.exclusive → debitOpen (world.db.ledger.entry betId) = true)
  | .settleBet graded _ => premises.Graded world.db.ledger graded
  | .voidBet bet _ _ => premises.StoredAs world.db.ledger bet ∧ bet.status = .accepted
  | .completeRow key => key.2 = .walletStaffVoid
  | .completeBatch keys _ => ∀ key ∈ keys, premises.Completes world key
  | _ => True

def Proper {Reply : Type} (request : BettingCall Reply) (world : World) : Prop :=
  match request with
  | .write transaction => transaction.Respects ∧ premises.ProperWrite world transaction
  | .postTransaction request =>
      IsDebit world.db.ledger request ∨ IsCredit world.db.ledger request
  | .postBatch _ _ transactions => ∀ request ∈ transactions, IsCredit world.db.ledger request
  | _ => True

@[reducible] def contract : Contract bettingMachine where
  invariant := Orderly
  rely request before after := premises.Persists before after ∧
    ∀ betId, rejects request = some betId → premises.declined before betId →
      premises.declined after betId
  proper := premises.Proper
  admits := premises.admits

end Contract

section Calls

variable {premises}

theorem Persists.refl (world : World) : premises.Persists world world :=
  ⟨.refl _, List.Subset.refl _, fun _ => rfl⟩

theorem Persists.trans {first second third : World} (earlier : premises.Persists first second)
    (later : premises.Persists second third) : premises.Persists first third :=
  ⟨earlier.terms.trans later.terms, List.Subset.trans earlier.applied later.applied,
    fun alone => (later.alone alone).trans (earlier.alone alone)⟩

theorem persists_happen (happening : Happening) (world : World) :
    premises.Persists world (world.happen happening) := by
  cases happening <;> exact ⟨.refl _, List.Subset.refl _, fun _ => rfl⟩

/-- What a proper call leaves as it is. -/
theorem keeps_answer {Reply : Type} {request : BettingCall Reply} {world : World}
    (choice : Choice) (proper : premises.Proper request world) :
    world.db.ledger.Keeps (world.answer choice request).2.db.ledger := by
  refine World.answer_ledger world (fun ledger => world.db.ledger.Keeps ledger) choice request ?_
    (.refl _)
  intro write same _ reply db ran
  subst same
  exact Write.keeps (Write.not_changesCode proper.1) ran

theorem applied_answer {Reply : Type} (request : BettingCall Reply) (world : World)
    (choice : Choice) : world.wallet.applied ⊆ (world.answer choice request).2.wallet.applied := by
  cases request with
  | read look =>
      unfold World.answer
      split <;> exact List.Subset.refl _
  | write transaction =>
      rcases world.commit_cases choice.fault
        (fun db => transaction.run choice.freshId world.clock db) with
        ⟨_, same, _⟩ | ⟨_, _, _, same | same⟩ <;>
        simp only [World.answer, same] <;> exact List.Subset.refl _
  | randomUUID | getBalance => exact List.Subset.refl _
  | postTransaction request => exact applied_subset_post _ _ _
  | postBatch casinoGroupId batchId transactions => exact applied_subset_postBatch _ _ _ _ _

/-- Proper calls keep the ledger sound and the wallet traceable to it. -/
theorem orderly_answer {Reply : Type} {request : BettingCall Reply} {world : World}
    (choice : Choice) (proper : premises.Proper request world) (orderly : Orderly world) :
    Orderly (world.answer choice request).2 := by
  have kept := keeps_answer choice proper
  have later : ∀ done, IsDebit world.db.ledger done ∨ IsCredit world.db.ledger done →
      IsDebit (world.answer choice request).2.db.ledger done ∨
        IsCredit (world.answer choice request).2.db.ledger done :=
    fun done traced => traced.imp (IsDebit.later kept) (IsCredit.later kept)
  have sound : (world.answer choice request).2.db.ledger.Sound := by
    refine World.answer_ledger world Ledger.Sound choice request ?_ orderly.sound
    intro write same _ reply db ran
    subst same
    exact Write.sound proper.1 ran orderly.sound
  have untouched : (world.answer choice request).2.wallet = world.wallet →
      Orderly (world.answer choice request).2 := by
    intro wallet
    refine ⟨sound, by rw [wallet]; exact orderly.once, fun done member => ?_⟩
    rw [wallet] at member
    exact later done (orderly.traced done member)
  cases request with
  | read look =>
      unfold World.answer
      split <;> exact orderly
  | write transaction =>
      have wallet : (world.answer choice (.write transaction)).2.wallet = world.wallet := by
        rcases world.commit_cases choice.fault
          (fun db => transaction.run choice.freshId world.clock db) with
          ⟨_, same, _⟩ | ⟨_, _, _, same | same⟩ <;>
          simp only [World.answer, same]
      exact untouched wallet
  | randomUUID | getBalance => exact ⟨orderly.sound, orderly.once, orderly.traced⟩
  | postTransaction request =>
      rcases post_cases world.wallet choice.exchange request with same | ⟨fresh, applied⟩
      · exact untouched same
      · refine ⟨sound, ?_, fun done member => ?_⟩
        · simp only [World.answer, applied]
          exact appliesOnce_apply orderly.once fresh
        · simp only [World.answer, applied, mem_apply] at member
          rcases member with old | rfl
          · exact orderly.traced done old
          · exact proper
  | postBatch casinoGroupId batchId transactions =>
      rcases postBatch_cases world.wallet choice.exchange casinoGroupId batchId transactions with
        same | ⟨fresh, applied⟩
      · exact untouched same
      · refine ⟨sound, ?_, fun done member => ?_⟩
        · simp only [World.answer, applied]
          exact appliesOnce_applyAll orderly.once
        · simp only [World.answer, applied] at member
          rcases mem_applyAll member with old | new
          · exact orderly.traced done old
          · exact .inr (proper done new)

theorem orderly_happen (happening : Happening) {world : World} (orderly : Orderly world) :
    Orderly (world.happen happening) := by
  cases happening <;> exact ⟨orderly.sound, orderly.once, orderly.traced⟩

theorem stable (premises : Premises) : premises.contract.Stable where
  refl _ world := ⟨.refl world, fun _ _ declined => declined⟩
  trans _ _ _ _ earlier later := ⟨earlier.1.trans later.1,
    fun betId waits declined => later.2 betId waits (earlier.2 betId waits declined)⟩
  keeps _ choice _ orderly proper _ := orderly_answer choice proper orderly
  sound happening _ orderly := orderly_happen happening orderly
  event _ happening world _ := ⟨persists_happen happening world,
    fun betId _ declined => premises.declined_later happening world betId declined⟩

/-- Where programs may interleave, a proper call disturbs nobody's terms. -/
theorem persists_answer (shared : ¬ premises.exclusive) {Reply : Type}
    {request : BettingCall Reply} {world : World} (choice : Choice)
    (proper : premises.Proper request world) :
    premises.Persists world (world.answer choice request).2 :=
  ⟨keeps_answer choice proper, applied_answer request world choice,
    fun alone => absurd alone shared⟩

/-- Where nothing is asked of a declined debit, programs do not disturb each other. -/
theorem protects_shared (shared : ¬ premises.exclusive)
    (declined : ∀ world betId, premises.declined world betId) {guard : Guard bettingMachine}
    (admits : ∀ (config : Config bettingMachine) choice {Reply : Type}
      (request : BettingCall Reply), guard config choice request →
        premises.admits config.state choice request) :
    premises.contract.Protects guard where
  admits := admits
  others config index choice _ request next _ _ _ proper other program _ _ := by
    cases program with
    | done outcome => trivial
    | await waits next =>
        exact ⟨persists_answer shared choice proper, fun betId _ _ => declined _ betId⟩

end Calls

end Premises

end SportsBetting
