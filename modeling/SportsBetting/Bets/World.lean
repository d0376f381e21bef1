import SportsBetting.Async.Session
import SportsBetting.Bets.Writes
import SportsBetting.Wallet.Merchant

/-!
# The machine of the betting side

A call reads the database, carries out one transaction, or exchanges one
message with the merchant wallet. The catalog, the clock and the balances
change by themselves.
-/

namespace SportsBetting

open Async Wallet

inductive BettingCall : Type → Type 1 where
  | read {α : Type} (view : Database → Moment → α) : BettingCall α
  | write {α : Type} (transaction : Write α) : BettingCall α
  | randomUUID : BettingCall ℕ
  | getBalance (casinoGroupId userCode : String) : BettingCall HttpReply
  | postTransaction (request : WalletTransactionRequest) : BettingCall HttpReply
  | postBatch (casinoGroupId : String) (batchId : ℕ)
      (transactions : List WalletTransactionRequest) : BettingCall HttpReply

/-- UUIDs are numbered in the order they are drawn in. -/
structure World where
  db : Database
  clock : Time
  uuids : ℕ
  wallet : Merchant

structure Choice where
  fault : Fault
  freshId : String
  rank : String → ℕ
  exchange : Exchange

inductive Happening where
  | clock (elapsed : ℕ)
  | balance (casinoGroupId userCode : String) (amount : ℚ)
  | catalog (catalog : Catalog)

namespace World

variable (world : World)

/-- A transaction that is refused, carried out, or carried out without a reply. -/
def commit {α : Type} (fault : Fault) (change : Database → Except Failure (α × Database)) :
    Except Failure α × World :=
  match fault, change world.db with
  | .refused, _ => (.error .database, world)
  | .none, .ok (reply, db) => (.ok reply, { world with db })
  | .none, .error failure => (.error failure, world)
  | .unacknowledged, .ok (_, db) => (.error .database, { world with db })
  | .unacknowledged, .error _ => (.error .database, world)

def answer {Reply : Type} (choice : Choice) : BettingCall Reply → Except Failure Reply × World
  | .read view =>
      match choice.fault with
      | .none => (.ok (view world.db ⟨world.clock, choice.rank⟩), world)
      | _ => (.error .database, world)
  | .write transaction =>
      world.commit choice.fault fun db => transaction.run choice.freshId world.clock db
  | .randomUUID => (.ok world.uuids, { world with uuids := world.uuids + 1 })
  | .getBalance casinoGroupId userCode =>
      let answered := (world.wallet.balance casinoGroupId userCode, world.wallet)
      (.ok (world.wallet.deliver choice.exchange answered).1, world)
  | .postTransaction request =>
      let (reply, wallet) := world.wallet.post choice.exchange request
      (.ok reply, { world with wallet })
  | .postBatch casinoGroupId batchId transactions =>
      let (reply, wallet) := world.wallet.postBatch choice.exchange casinoGroupId batchId transactions
      (.ok reply, { world with wallet })

def happen : Happening → World
  | .clock elapsed => { world with clock := world.clock + elapsed }
  | .balance casinoGroupId userCode amount =>
      { world with wallet := world.wallet.setBalance casinoGroupId userCode amount }
  | .catalog catalog => { world with db := { world.db with catalog } }

/-- A new deployment: no bet was placed, and the wallet has seen no transaction. -/
def deployed (catalog : Catalog) (clock : Time) (balances : String → String → ℚ) : World where
  db := ⟨catalog, .empty, [], .empty⟩
  clock := clock
  uuids := 0
  wallet := ⟨balances, [], []⟩

theorem commit_cases {α : Type} (fault : Fault)
    (change : Database → Except Failure (α × Database)) :
    (∃ failure, world.commit fault change = (.error failure, world) ∧
      (failure = .database ∨ change world.db = .error failure)) ∨
    ∃ reply db, change world.db = .ok (reply, db) ∧
      (world.commit fault change = (.ok reply, { world with db }) ∨
        world.commit fault change = (.error .database, { world with db })) := by
  unfold commit
  cases changed : change world.db with
  | error failure => cases fault <;> simp
  | ok result =>
      obtain ⟨reply, db⟩ := result
      cases fault <;> simp

/-- Only a transaction that is carried out changes the ledger. -/
theorem answer_ledger (holds : Ledger → Prop) (choice : Choice) {Reply : Type}
    (request : BettingCall Reply)
    (written : ∀ write : Write Reply, request = .write write → choice.fault ≠ .refused →
      ∀ reply db, write.run choice.freshId world.clock world.db = .ok (reply, db) →
        holds db.ledger)
    (same : holds world.db.ledger) : holds (world.answer choice request).2.db.ledger := by
  cases request with
  | read look =>
      unfold answer
      split <;> exact same
  | randomUUID | getBalance | postTransaction | postBatch => exact same
  | write write =>
      by_cases refused : choice.fault = .refused
      · simp only [answer, refused, commit]
        exact same
      · rcases world.commit_cases choice.fault
          (fun db => write.run choice.freshId world.clock db) with
          ⟨failure, unchanged, _⟩ | ⟨reply, db, ran, done | done⟩
        · simp only [answer, unchanged]
          exact same
        · simp only [answer, done]
          exact written write rfl refused reply db ran
        · simp only [answer, done]
          exact written write rfl refused reply db ran

end World

@[reducible] def bettingMachine : Machine BettingCall Failure where
  State := World
  Choice := Choice
  Event := Happening
  perform choice request world := world.answer choice request
  occur happening world := world.happen happening

/-- What the betting services run. -/
abbrev Betting := Program BettingCall Failure

def view {α : Type} (view : Database → α) : Betting α := Program.call (.read fun db _ => view db)

def transact {α : Type} (transaction : Write α) : Betting α := Program.call (.write transaction)

/-- What a read sees is what is stored when it is answered. -/
theorem safe_betting_read {contract : Contract bettingMachine} {fact : World → Prop} {α β : Type}
    {look : Database → Moment → α} {next : α → Betting β} {post : Except Failure β → World → Prop}
    {world : World} (proper : ∀ later, contract.proper (.read look) later)
    (waits : ∀ later, contract.rely (.read look) world later → fact later)
    (rest : ∀ moment choice later, contract.invariant later →
      contract.admits later choice (.read look) → fact later →
        contract.Safe post (next (look later.db moment)) later)
    (failed : ∀ later, fact later → post (.error .database) later) :
    contract.Safe post (Program.call (.read look) >>= next) world := by
  intro later waited sound
  refine ⟨proper later, fun choice admitted => ?_⟩
  simp only [World.answer]
  split
  · exact rest _ choice later sound admitted (waits later waited)
  · exact failed later (waits later waited)

/-- The message an error is logged with. -/
def Failure.message : Failure → String
  | .walletReserve message _ | .notFound message | .badRequest message | .unauthorized message
  | .forbidden message | .conflict message | .serviceUnavailable message | .error message => message
  | .uniqueViolation => "Unique constraint failed"
  | .database => "Database error"

end SportsBetting
