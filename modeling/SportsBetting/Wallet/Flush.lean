import SportsBetting.Async.Solo
import SportsBetting.Data.Draining
import SportsBetting.Data.Ranking
import SportsBetting.Wallet.Outbox

/-!
# Flushing settlement batches while nobody else writes

The wallet replies to a batch by its id. One flush posts the batch of an oldest
row that waits, and the loop of flushes drains the rows of the tenant.
-/

namespace SportsBetting

open Async Wallet Program WalletHttpClient WalletOutboxService

section Alone

structure PostedBatch where
  casinoGroupId : String
  batchId : ℕ
  transactions : List WalletTransactionRequest
  deriving DecidableEq

/-- What the calls so far have come to. -/
structure Sending where
  world : World
  calls : ℕ
  posted : List PostedBatch

/-- Time passes before each call, and the database leaves open what is not ordered. -/
structure Surroundings where
  elapsed : ℕ → ℕ
  choices : ℕ → Choice
  faultless : ∀ count, (choices count).fault = .none

variable (replies : ℕ → HttpReply) (around : Surroundings)

/-- The wallet replies by the id of the batch; what else is called answers as ever. -/
def sending {Reply : Type} (request : BettingCall Reply) (state : Sending) :
    Except Failure Reply × Sending :=
  let world := state.world.happen (.clock (around.elapsed state.calls))
  match request with
  | .postBatch casinoGroupId batchId transactions =>
      (.ok (replies batchId),
        ⟨world, state.calls + 1, state.posted ++ [⟨casinoGroupId, batchId, transactions⟩]⟩)
  | request =>
      let (reply, after) := world.answer (around.choices state.calls) request
      (reply, ⟨after, state.calls + 1, state.posted⟩)

/-- The wallet's reply to the batch is read as a success. -/
def acceptsBatch (batchId : ℕ) : Bool :=
  match readBatch (replies batchId) with
  | .ok _ => true
  | .error _ => false

variable {replies around} {before after : Sending}

/-- Nothing was written or posted. -/
structure Unchanged (before after : Sending) : Prop where
  db : after.world.db = before.world.db
  uuids : after.world.uuids = before.world.uuids
  posted : after.posted = before.posted

variable {α : Type}

theorem solo_read (replies : ℕ → HttpReply) (around : Surroundings)
    (look : Database → Moment → α) (state : Sending) :
    ∃ moment after, (Program.call (.read look) : Betting α).solo (sending replies around) state =
        (.ok (look state.world.db moment), after) ∧
      moment.rank = (around.choices state.calls).rank ∧ Unchanged state after := by
  refine ⟨⟨state.world.clock + around.elapsed state.calls, (around.choices state.calls).rank⟩,
    ⟨state.world.happen (.clock (around.elapsed state.calls)), state.calls + 1, state.posted⟩,
    ?_, rfl, rfl, rfl, rfl⟩
  simp only [Program.call, solo, sending, World.answer, around.faultless]
  rfl

theorem solo_view (replies : ℕ → HttpReply) (around : Surroundings) (look : Database → α)
    (state : Sending) : ∃ after, (view look).solo (sending replies around) state =
      (.ok (look state.world.db), after) ∧ Unchanged state after := by
  obtain ⟨_, after, ran, _, same⟩ := solo_read replies around (fun db _ => look db) state
  exact ⟨after, ran, same⟩

/-- A transaction that succeeds, whatever the time is. -/
theorem solo_transact (replies : ℕ → HttpReply) (around : Surroundings) (write : Write α)
    (state : Sending) : ∃ id now, ∀ reply db, write.run id now state.world.db = .ok (reply, db) →
      ∃ after, (transact write).solo (sending replies around) state = (.ok reply, after) ∧
        after.world.db = db ∧ after.world.uuids = state.world.uuids ∧
        after.posted = state.posted := by
  refine ⟨(around.choices state.calls).freshId,
    state.world.clock + around.elapsed state.calls, fun reply db ran => ?_⟩
  have ran' : write.run (around.choices state.calls).freshId
      (state.world.happen (.clock (around.elapsed state.calls))).clock
      (state.world.happen (.clock (around.elapsed state.calls))).db = .ok (reply, db) := ran
  refine ⟨⟨{ state.world.happen (.clock (around.elapsed state.calls)) with db },
    state.calls + 1, state.posted⟩, ?_, rfl, rfl, rfl⟩
  simp only [transact, Program.call, solo, sending, World.answer, World.commit,
    around.faultless, ran']

theorem solo_randomUUID (replies : ℕ → HttpReply) (around : Surroundings) (state : Sending) :
    ∃ after, (Program.call .randomUUID : Betting ℕ).solo (sending replies around) state =
        (.ok state.world.uuids, after) ∧ after.world.db = state.world.db ∧
      after.world.uuids = state.world.uuids + 1 ∧ after.posted = state.posted :=
  ⟨_, rfl, rfl, rfl, rfl⟩

theorem solo_postBatch (replies : ℕ → HttpReply) (around : Surroundings) (casinoGroupId : String)
    (batchId : ℕ) (transactions : List WalletTransactionRequest) (state : Sending) :
    ∃ after, (Program.call (.postBatch casinoGroupId batchId transactions) : Betting _).solo
        (sending replies around) state = (.ok (replies batchId), after) ∧
      after.world.db = state.world.db ∧ after.world.uuids = state.world.uuids ∧
      after.posted = state.posted ++ [⟨casinoGroupId, batchId, transactions⟩] :=
  ⟨_, rfl, rfl, rfl, rfl⟩

end Alone

section Rows

/-- What a flush looks at in a row. -/
structure Waiting where
  key : String × OutboxType
  batchId : Option ℕ
  payload : Option WalletTransactionRequest
  createdAt : Time
  deriving DecidableEq

def WalletOutbox.waiting (row : WalletOutbox) : Waiting :=
  ⟨row.key, row.batchId, row.payload, row.createdAt⟩

/-- The pending settlement rows of the tenant. -/
def waitingRows (casinoGroupId : String) (db : Database) : List Waiting :=
  (db.ledger.walletOutbox.rows.filter (pendingSettlementOf casinoGroupId)).map WalletOutbox.waiting

/-- No pending settlement row of the tenant is delayed. -/
def Undelayed (casinoGroupId : String) (db : Database) : Prop :=
  ∀ row ∈ db.ledger.walletOutbox, pendingSettlementOf casinoGroupId row = true →
    row.nextRetryAt = none

variable {casinoGroupId : String} {db : Database}

theorem mem_waitingRows {waiting : Waiting} : waiting ∈ waitingRows casinoGroupId db ↔
    ∃ row ∈ db.ledger.walletOutbox, pendingSettlementOf casinoGroupId row = true ∧
      row.waiting = waiting := by
  simp only [waitingRows, List.mem_map, List.mem_filter, Table.mem_rows, and_assoc]

theorem rows_modifyOutbox (chosen : WalletOutbox → Bool) (change : WalletOutbox → WalletOutbox)
    (keeps : ∀ row, (change row).key = row.key) :
    (db.ledger.modifyOutbox chosen change keeps).walletOutbox.rows =
      db.ledger.walletOutbox.rows.map fun row => if chosen row then change row else row := rfl

theorem rows_assignBatch (keys : List (String × OutboxType)) (batchId : ℕ) :
    (assignBatch keys batchId db).ledger.walletOutbox.rows = db.ledger.walletOutbox.rows.map
      fun row => if row.key ∈ keys then { row with batchId := some batchId } else row := by
  simp [assignBatch, Ledger.modifyOutbox, Table.updateWhere]

theorem rows_completeBatch (keys : List (String × OutboxType)) (batchId : ℕ) :
    (completeBatch keys batchId db).ledger.walletOutbox.rows = db.ledger.walletOutbox.rows.map
      fun row => if row.key ∈ keys then { completed row with batchId := some batchId } else row := by
  simp [completeBatch, Ledger.modifyOutbox, Table.updateWhere]

/-- A change that leaves the rows pending shows only where it is looked for. -/
theorem map_waitingRows_modify (db : Database) {β : Type} (look : Waiting → β)
    (chosen : WalletOutbox → Bool) (change : WalletOutbox → WalletOutbox)
    (keeps : ∀ row, (change row).key = row.key)
    (still : ∀ row, pendingSettlementOf casinoGroupId (change row) =
      pendingSettlementOf casinoGroupId row ∧ look (change row).waiting = look row.waiting) :
    (waitingRows casinoGroupId
        { db with ledger := db.ledger.modifyOutbox chosen change keeps }).map look =
      (waitingRows casinoGroupId db).map look := by
  have pending : ∀ row, pendingSettlementOf casinoGroupId
      (if chosen row then change row else row) = pendingSettlementOf casinoGroupId row := by
    intro row
    split
    · exact (still row).1
    · rfl
  have same : ∀ row, look (if chosen row then change row else row).waiting = look row.waiting := by
    intro row
    split
    · exact (still row).2
    · rfl
  rw [waitingRows, rows_modifyOutbox, List.filter_map, List.map_map, List.map_map, waitingRows,
    List.map_map]
  simp only [Function.comp_def, pending, same]

/-- A change of what a flush does not look at. -/
theorem waitingRows_modify (chosen : WalletOutbox → Bool) (change : WalletOutbox → WalletOutbox)
    (keeps : ∀ row, (change row).key = row.key)
    (still : ∀ row, pendingSettlementOf casinoGroupId (change row) =
      pendingSettlementOf casinoGroupId row ∧ (change row).waiting = row.waiting) :
    waitingRows casinoGroupId
        { db with ledger := db.ledger.modifyOutbox chosen change keeps } =
      waitingRows casinoGroupId db := by
  have same := map_waitingRows_modify db id chosen change keeps still
  simpa only [List.map_id] using same

/-- A change of some rows does not touch the others that wait. -/
theorem filter_waitingRows_modify (casinoGroupId : String) (db : Database)
    (keys : List (String × OutboxType)) (change : WalletOutbox → WalletOutbox)
    (keeps : ∀ row, (change row).key = row.key) :
    (waitingRows casinoGroupId { db with
        ledger := db.ledger.modifyOutbox (fun row => row.key ∈ keys) change keeps }).filter
        (fun waiting => waiting.key ∉ keys) =
      (waitingRows casinoGroupId db).filter fun waiting => waiting.key ∉ keys := by
  rw [waitingRows, rows_modifyOutbox, waitingRows]
  induction db.ledger.walletOutbox.rows with
  | nil => rfl
  | cons row rest ih =>
      rw [List.map_cons, List.filter_cons, List.filter_cons]
      by_cases member : row.key ∈ keys
      · have before : row.waiting.key ∈ keys := member
        have after : (change row).waiting.key ∈ keys := by
          rw [show (change row).waiting.key = row.key from keeps row]
          exact member
        simp only [member, decide_true, if_true]
        split <;> split <;> simpa [before, after] using ih
      · simp only [member, decide_false, Bool.false_eq_true, if_false]
        split
        · rw [List.map_cons, List.filter_cons, List.map_cons, List.filter_cons, ih]
        · exact ih

theorem waitingRows_clearRetries : waitingRows casinoGroupId (clearRetries casinoGroupId db) =
    waitingRows casinoGroupId db :=
  waitingRows_modify _ _ _ fun _ => ⟨rfl, rfl⟩

theorem undelayed_clearRetries : Undelayed casinoGroupId (clearRetries casinoGroupId db) := by
  intro row stored pending
  obtain ⟨old, _, same⟩ := List.mem_map.mp stored
  subst same
  by_cases chosen : pendingSettlementOf casinoGroupId old = true
  · simp only [chosen, if_true]
  · simp only [chosen] at pending
    exact absurd pending chosen

theorem waitingRows_scheduleRetry {key : String × OutboxType} {attempts : ℕ} {message : String}
    {now : Time} {after : Database}
    (ran : scheduleRetry key attempts message now db = .ok ((), after)) :
    waitingRows casinoGroupId after = waitingRows casinoGroupId db := by
  obtain ⟨_, _, ran⟩ := Except.bind_eq_ok.mp ran
  obtain ⟨_, rfl⟩ := Prod.mk.inj (Except.ok.inj ran)
  exact waitingRows_modify _ _ _ fun _ => ⟨rfl, rfl⟩

/-- The rows of a batch keep their keys when it gets its id. -/
theorem keys_assignBatch (keys : List (String × OutboxType)) (batchId : ℕ) :
    (waitingRows casinoGroupId (assignBatch keys batchId db)).map Waiting.key =
      (waitingRows casinoGroupId db).map Waiting.key :=
  map_waitingRows_modify db Waiting.key _ _ _ fun _ => ⟨rfl, rfl⟩

/-- The rows of a batch no longer wait once it is completed. -/
theorem waitingRows_completeBatch (keys : List (String × OutboxType)) (batchId : ℕ) :
    waitingRows casinoGroupId (completeBatch keys batchId db) =
      (waitingRows casinoGroupId db).filter fun waiting => waiting.key ∉ keys := by
  have gone : ∀ waiting ∈ waitingRows casinoGroupId (completeBatch keys batchId db),
      waiting.key ∉ keys := by
    intro waiting member
    obtain ⟨row, stored, pending, rfl⟩ := mem_waitingRows.mp member
    rw [← Table.mem_rows, rows_completeBatch] at stored
    obtain ⟨old, _, rfl⟩ := List.mem_map.mp stored
    split at pending
    · simp [pendingSettlementOf, completed] at pending
    · next spared =>
        rw [if_neg spared]
        exact spared
  have outside := filter_waitingRows_modify casinoGroupId db keys
    (fun row => { completed row with batchId := some batchId }) fun _ => rfl
  rw [← outside]
  exact (List.filter_eq_self.mpr fun waiting member => decide_eq_true (gone waiting member)).symm

theorem isDue_of_undelayed (undelayed : Undelayed casinoGroupId db) (now : Time)
    {row : WalletOutbox} (stored : row ∈ db.ledger.walletOutbox) :
    (isDue now .walletSettle row && decide (row.casinoGroupId = casinoGroupId)) =
      pendingSettlementOf casinoGroupId row := by
  cases pending : pendingSettlementOf casinoGroupId row with
  | true =>
      have ready := undelayed row stored pending
      simp only [pendingSettlementOf, Bool.and_eq_true, decide_eq_true_eq] at pending
      simp [isDue, ready, pending]
  | false =>
      rw [Bool.eq_false_iff] at pending ⊢
      intro due
      apply pending
      simp only [isDue, Bool.and_eq_true, decide_eq_true_eq] at due
      simp [pendingSettlementOf, due]

/-- The row that a flush starts from, if there is one. -/
def anchorOf (casinoGroupId : String) (db : Database) (moment : Moment) : Option WalletOutbox :=
  (dueRows db moment moment.now .walletSettle).find? fun row => row.casinoGroupId = casinoGroupId

/-- The rows of its batch. -/
def entriesOf (casinoGroupId : String) (batchId : Option ℕ) (now : Time) (db : Database)
    (moment : Moment) : List WalletOutbox :=
  (dueRows db moment now .walletSettle).filter fun row =>
    row.casinoGroupId = casinoGroupId && row.batchId = batchId

theorem anchorOf_eq_none (undelayed : Undelayed casinoGroupId db) {moment : Moment}
    (missing : anchorOf casinoGroupId db moment = none) : waitingRows casinoGroupId db = [] := by
  rw [List.eq_nil_iff_forall_not_mem]
  intro waiting member
  obtain ⟨row, stored, pending, _⟩ := mem_waitingRows.mp member
  rw [← isDue_of_undelayed undelayed moment.now stored, Bool.and_eq_true] at pending
  exact List.find?_eq_none.mp missing row (mem_dueRows.mpr ⟨stored, pending.1⟩) pending.2

/-- No waiting row is older than the anchor, and the rank decides between those of its age. -/
theorem anchorOf_eq_some (undelayed : Undelayed casinoGroupId db) {moment : Moment}
    {anchor : WalletOutbox} (first : anchorOf casinoGroupId db moment = some anchor) :
    anchor ∈ db.ledger.walletOutbox ∧ pendingSettlementOf casinoGroupId anchor = true ∧
      ∀ waiting ∈ waitingRows casinoGroupId db, anchor.createdAt < waiting.createdAt ∨
        anchor.createdAt = waiting.createdAt ∧
          moment.rank anchor.betId ≤ moment.rank waiting.key.1 := by
  obtain ⟨stored, due⟩ := mem_dueRows.mp (List.mem_of_find?_eq_some first)
  have own := List.find?_some first
  refine ⟨stored, ?_, ?_⟩
  · rw [← isDue_of_undelayed undelayed moment.now stored, due]
    exact own
  · intro waiting member
    obtain ⟨row, there, pending, rfl⟩ := mem_waitingRows.mp member
    rw [← isDue_of_undelayed undelayed moment.now there, Bool.and_eq_true] at pending
    have sorted := Ranking.pairwise_insertionSort WalletOutbox.createdAt
      (fun row => moment.rank row.betId)
      (db.ledger.walletOutbox.rows.filter (isDue moment.now .walletSettle))
    exact Ranking.before_of_find? (fun _ => .inr ⟨rfl, le_rfl⟩) sorted first row
      (mem_dueRows.mpr ⟨there, pending.1⟩) pending.2

theorem perm_entriesOf (undelayed : Undelayed casinoGroupId db) (batchId : Option ℕ) (now : Time)
    (moment : Moment) :
    ((entriesOf casinoGroupId batchId now db moment).map WalletOutbox.waiting).Perm
      ((waitingRows casinoGroupId db).filter fun waiting => waiting.batchId = batchId) := by
  have sorted : (entriesOf casinoGroupId batchId now db moment).Perm
      ((db.ledger.walletOutbox.rows.filter (isDue now .walletSettle)).filter fun row =>
        row.casinoGroupId = casinoGroupId && row.batchId = batchId) :=
    (List.perm_insertionSort _ _).filter _
  have chosen : ((db.ledger.walletOutbox.rows.filter (isDue now .walletSettle)).filter fun row =>
        row.casinoGroupId = casinoGroupId && row.batchId = batchId) =
      (db.ledger.walletOutbox.rows.filter (pendingSettlementOf casinoGroupId)).filter fun row =>
        row.batchId = batchId := by
    rw [List.filter_filter, List.filter_filter]
    refine List.filter_congr fun row stored => ?_
    rw [← isDue_of_undelayed undelayed now (Table.mem_rows.mp stored)]
    cases isDue now .walletSettle row <;> simp [Bool.and_comm]
  rw [waitingRows, List.filter_map]
  exact ((sorted.trans (.of_eq chosen)).map WalletOutbox.waiting)

end Rows

section Delivery

variable {replies : ℕ → HttpReply} {around : Surroundings} {casinoGroupId : String}
  {entries : List WalletOutbox}

/-- The transactions are read exactly if every row has one. -/
theorem mapM_deserialize (entries : List WalletOutbox) :
    (entries.map WalletOutbox.payload).all Option.isSome = true ∧
      (∃ transactions, entries.mapM deserializeWalletTransaction = .ok transactions ∧
        entries.map WalletOutbox.payload = transactions.map some) ∨
    (entries.map WalletOutbox.payload).all Option.isSome = false ∧
      ∃ failure, entries.mapM deserializeWalletTransaction = .error failure := by
  induction entries with
  | nil => exact .inl ⟨rfl, [], rfl, rfl⟩
  | cons entry rest ih =>
      rw [List.mapM_cons, List.map_cons, List.all_cons]
      cases stored : entry.payload with
      | none =>
          have failed : deserializeWalletTransaction entry = .error (.error "Invalid time value") := by
            rw [deserializeWalletTransaction, stored]
          rw [failed]
          exact .inr ⟨rfl, _, rfl⟩
      | some request =>
          have read : deserializeWalletTransaction entry = .ok request := by
            rw [deserializeWalletTransaction, stored]
          rw [read]
          rcases ih with ⟨every, transactions, others, carries⟩ | ⟨lacks, failure, others⟩
          · rw [others, every, carries]
            exact .inl ⟨rfl, request :: transactions, rfl, rfl⟩
          · rw [others, lacks]
            exact .inr ⟨rfl, failure, rfl⟩

/-- The batch can be posted: the wallet is configured, and each row has its transaction. -/
def sendable (casinoGroupId : String) (db : Database) (payloads : List (Option WalletTransactionRequest)) :
    Bool :=
  (getWalletConfig db casinoGroupId).isSome && payloads.all Option.isSome

theorem solo_requireWalletConfig (replies : ℕ → HttpReply) (around : Surroundings)
    (casinoGroupId : String) (state : Sending) :
    ∃ outcome after, (requireWalletConfig casinoGroupId).solo (sending replies around) state =
        (outcome, after) ∧ Unchanged state after ∧
      match getWalletConfig state.world.db casinoGroupId with
      | some currency => outcome = .ok currency
      | none => ∃ failure, outcome = .error failure := by
  obtain ⟨after, ran, same⟩ :=
    solo_view replies around (fun db => getWalletConfig db casinoGroupId) state
  unfold requireWalletConfig
  rw [solo_bind_ok ran]
  cases config : getWalletConfig state.world.db casinoGroupId with
  | none => exact ⟨_, after, rfl, same, _, rfl⟩
  | some currency => exact ⟨_, after, rfl, same, rfl⟩

/-- The batch is posted at most once, and succeeds if the wallet accepts it. -/
inductive Posts (replies : ℕ → HttpReply) (casinoGroupId : String) (batchId : ℕ)
    (entries : List WalletOutbox) (db : Database) : List PostedBatch → Except Failure Unit → Prop
  | unsent (failure : Failure)
      (lacks : sendable casinoGroupId db (entries.map WalletOutbox.payload) = false) :
      Posts replies casinoGroupId batchId entries db [] (.error failure)
  | refused (failure : Failure) (transactions : List WalletTransactionRequest)
      (sends : sendable casinoGroupId db (entries.map WalletOutbox.payload) = true)
      (refuses : acceptsBatch replies batchId = false)
      (carries : entries.map WalletOutbox.payload = transactions.map some) :
      Posts replies casinoGroupId batchId entries db [⟨casinoGroupId, batchId, transactions⟩]
        (.error failure)
  | accepted (transactions : List WalletTransactionRequest)
      (sends : sendable casinoGroupId db (entries.map WalletOutbox.payload) = true)
      (accepts : acceptsBatch replies batchId = true)
      (carries : entries.map WalletOutbox.payload = transactions.map some) :
      Posts replies casinoGroupId batchId entries db [⟨casinoGroupId, batchId, transactions⟩]
        (.ok ())

theorem solo_postTransactionBatch (replies : ℕ → HttpReply) (around : Surroundings)
    (casinoGroupId : String) (batchId : ℕ) (entries : List WalletOutbox) (state : Sending) :
    ∃ outcome after log, (postTransactionBatch casinoGroupId batchId entries).solo
        (sending replies around) state = (outcome, after) ∧
      after.world.db = state.world.db ∧ after.world.uuids = state.world.uuids ∧
      after.posted = state.posted ++ log ∧
      Posts replies casinoGroupId batchId entries state.world.db log outcome := by
  obtain ⟨outcome, configured, ran, same, config⟩ :=
    solo_requireWalletConfig replies around casinoGroupId state
  have silent : configured.posted = state.posted ++ [] := by rw [same.posted, List.append_nil]
  unfold postTransactionBatch
  cases stored : getWalletConfig state.world.db casinoGroupId with
  | none =>
      rw [stored] at config
      obtain ⟨failure, rfl⟩ := config
      refine ⟨_, configured, [], solo_bind_error ran _, same.db, same.uuids, silent,
        .unsent failure ?_⟩
      rw [sendable, stored]
      rfl
  | some currency =>
      rw [stored] at config
      subst config
      rw [solo_bind_ok ran]
      rcases mapM_deserialize entries with ⟨every, transactions, read, carries⟩ | ⟨lacks, failure, read⟩
      · have sends : sendable casinoGroupId state.world.db (entries.map WalletOutbox.payload) =
            true := by
          rw [sendable, stored, every]
          rfl
        obtain ⟨after, posted, db, uuids, log⟩ :=
          solo_postBatch replies around casinoGroupId batchId transactions configured
        rw [read, Program.bind_ok, solo_bind_ok posted]
        refine ⟨_, after, _, rfl, db.trans same.db, uuids.trans same.uuids,
          log.trans (by rw [same.posted]), ?_⟩
        cases reply : readBatch (replies batchId) with
        | error failure =>
            exact .refused failure transactions sends (by simp [acceptsBatch, reply]) carries
        | ok =>
            exact .accepted transactions sends (by simp [acceptsBatch, reply]) carries
      · rw [read]
        refine ⟨_, configured, [], rfl, same.db, same.uuids, silent, .unsent failure ?_⟩
        rw [sendable, lacks, Bool.and_false]

/-- Rows that are delayed go on waiting. -/
theorem solo_retryAll (replies : ℕ → HttpReply) (around : Surroundings) (casinoGroupId : String)
    (failure : Failure) {entries : List WalletOutbox} {state : Sending}
    (stored : ∀ entry ∈ entries, state.world.db.ledger.walletOutbox.Has entry.key) :
    ∃ after, (retryAll entries failure).solo (sending replies around) state = (.ok (), after) ∧
      waitingRows casinoGroupId after.world.db = waitingRows casinoGroupId state.world.db ∧
      after.posted = state.posted := by
  induction entries generalizing state with
  | nil => exact ⟨state, rfl, rfl, rfl⟩
  | cons entry rest ih =>
      obtain ⟨row, there, own⟩ := stored entry List.mem_cons_self
      obtain ⟨id, now, runs⟩ := solo_transact replies around
        (.scheduleRetry entry.key entry.attempts failure.message) state
      have lookup : state.world.db.ledger.walletOutbox.get? entry.key = some row :=
        Table.get?_eq_some_iff.mpr ⟨there, own⟩
      have ran : SportsBetting.scheduleRetry entry.key entry.attempts failure.message now
          state.world.db = .ok ((), { state.world.db with
            ledger := state.world.db.ledger.modifyOutbox (fun row => row.key = entry.key)
              (delayed entry.attempts failure.message now) }) := by
        rw [SportsBetting.scheduleRetry, lookup]
        rfl
      obtain ⟨next, scheduled, db, _, posted⟩ := runs () _ ran
      have others : ∀ other ∈ rest, next.world.db.ledger.walletOutbox.Has other.key := by
        intro other member
        rw [db]
        exact (stored other (List.mem_cons_of_mem _ member)).updateWhere _
          (delayed entry.attempts failure.message now) fun _ => rfl
      obtain ⟨after, finished, rows, log⟩ := ih others
      refine ⟨after, ?_, ?_, log.trans posted⟩
      · unfold retryAll at finished ⊢
        rw [List.foldlM_cons]
        exact (solo_bind_ok scheduled _).trans finished
      · rw [rows, db]
        exact waitingRows_scheduleRetry ran

/-- A batch that was accepted is completed, and else its rows go on waiting. -/
def ConcludesBatch (casinoGroupId : String) (batchId : ℕ) (entries : List WalletOutbox)
    (before after : Sending) (sent : Bool) : Except Failure Unit → Prop
  | .ok _ => sent = true ∧ after.world.uuids = before.world.uuids ∧
      after.world.db = completeBatch (entries.map WalletOutbox.key) batchId before.world.db
  | .error _ => sent = false ∧
      waitingRows casinoGroupId after.world.db = waitingRows casinoGroupId before.world.db

theorem solo_deliverBatch (replies : ℕ → HttpReply) (around : Surroundings)
    (casinoGroupId : String) (batchId : ℕ) {entries : List WalletOutbox} {state : Sending}
    (stored : ∀ entry ∈ entries, state.world.db.ledger.walletOutbox.Has entry.key) :
    ∃ outcome log sent after, (deliverBatch casinoGroupId batchId entries).solo
        (sending replies around) state = (.ok sent, after) ∧
      Posts replies casinoGroupId batchId entries state.world.db log outcome ∧
      after.posted = state.posted ++ log ∧
      ConcludesBatch casinoGroupId batchId entries state after sent outcome := by
  obtain ⟨outcome, posted, log, ran, db, uuids, appended, posts⟩ :=
    solo_postTransactionBatch replies around casinoGroupId batchId entries state
  refine ⟨outcome, log, ?_⟩
  unfold deliverBatch
  cases outcome with
  | error failure =>
      have there : ∀ entry ∈ entries, posted.world.db.ledger.walletOutbox.Has entry.key := by
        rw [db]
        exact stored
      obtain ⟨after, finished, rows, log⟩ := solo_retryAll replies around casinoGroupId failure there
      refine ⟨false, after, ?_, posts, log.trans appended, rfl, by rw [rows, db]⟩
      rw [solo_handle_error (solo_bind_error ran _), solo_bind_ok finished]
      rfl
  | ok value =>
      obtain ⟨id, now, runs⟩ := solo_transact replies around
        (.completeBatch (entries.map WalletOutbox.key) batchId) posted
      obtain ⟨after, completed, written, kept, log⟩ := runs () _ rfl
      refine ⟨true, after, ?_, posts, log.trans appended, rfl, kept.trans uuids, by rw [written, db]⟩
      apply solo_handle_ok
      rw [solo_bind_ok ran, solo_bind_ok completed]
      rfl

end Delivery

section Flush

/-- The rows by their batches. A batch without an id gets the next one. -/
def settlementDepot (replies : ℕ → HttpReply) (casinoGroupId : String) (start : World) :
    Draining.Depot Waiting (Option ℕ) Time where
  group := Waiting.batchId
  stamp := Waiting.createdAt
  reaction batchId rows :=
    if sendable casinoGroupId start.db (rows.map Waiting.payload) then
      if acceptsBatch replies (batchId.getD start.uuids) then .accepted else .refused
    else .unsent

/-- A flush may start from this row. -/
def First (around : Surroundings) (anchor : Waiting) (rows : List Waiting) : Prop :=
  anchor ∈ rows ∧ ∃ calls, ∀ row ∈ rows, anchor.createdAt < row.createdAt ∨
    anchor.createdAt = row.createdAt ∧
      (around.choices calls).rank anchor.key.1 ≤ (around.choices calls).rank row.key.1

/-- The rows that still wait are as they were at the start of the loop. -/
structure Ongoing (casinoGroupId : String) (start : World) (state : Sending) : Prop where
  undelayed : Undelayed casinoGroupId state.world.db
  config : getWalletConfig state.world.db casinoGroupId = getWalletConfig start.db casinoGroupId
  fresh : ∀ row ∈ waitingRows casinoGroupId state.world.db, row.batchId = none →
    state.world.uuids = start.uuids

/-- The batch was posted with the transactions of the rows. -/
def PostedBatch.Carries (casinoGroupId : String) (start : World) (batch : PostedBatch)
    (members : Option ℕ × List Waiting) : Prop :=
  batch.casinoGroupId = casinoGroupId ∧ batch.batchId = members.1.getD start.uuids ∧
    (batch.transactions.map some).Perm (members.2.map Waiting.payload)

variable {replies : ℕ → HttpReply} {around : Surroundings} {casinoGroupId : String} {start : World}
  {state : Sending}

variable (replies around casinoGroupId start) in
/-- What one flush of the rows that wait returns, posts and leaves. -/
inductive Flushes (waiting : List Waiting) : Bool → List PostedBatch → Sending → Prop
  | idle {after : Sending} (empty : waiting = [])
      (still : waitingRows casinoGroupId after.world.db = []) : Flushes waiting false [] after
  | unsent {anchor : Waiting} {after : Sending} (picked : First around anchor waiting)
      (reaction : (settlementDepot replies casinoGroupId start).reactionTo waiting
        anchor.batchId = .unsent)
      (keys : (waitingRows casinoGroupId after.world.db).map Waiting.key =
        waiting.map Waiting.key) : Flushes waiting false [] after
  | refused {anchor : Waiting} {batch : PostedBatch} {after : Sending}
      (picked : First around anchor waiting)
      (reaction : (settlementDepot replies casinoGroupId start).reactionTo waiting
        anchor.batchId = .refused)
      (carries : batch.Carries casinoGroupId start (anchor.batchId,
        (settlementDepot replies casinoGroupId start).members waiting anchor.batchId))
      (keys : (waitingRows casinoGroupId after.world.db).map Waiting.key =
        waiting.map Waiting.key) : Flushes waiting false [batch] after
  | accepted {anchor : Waiting} {batch : PostedBatch} {after : Sending}
      (picked : First around anchor waiting)
      (reaction : (settlementDepot replies casinoGroupId start).reactionTo waiting
        anchor.batchId = .accepted)
      (carries : batch.Carries casinoGroupId start (anchor.batchId,
        (settlementDepot replies casinoGroupId start).members waiting anchor.batchId))
      (rows : waitingRows casinoGroupId after.world.db =
        (settlementDepot replies casinoGroupId start).others waiting anchor.batchId)
      (ongoing : Ongoing casinoGroupId start after) : Flushes waiting true [batch] after

theorem solo_batchIdOf (replies : ℕ → HttpReply) (around : Surroundings) (anchor : WalletOutbox)
    (state : Sending) :
    ∃ after, (batchIdOf anchor).solo (sending replies around) state =
        (.ok (anchor.batchId.getD state.world.uuids), after) ∧
      after.world.db = state.world.db ∧ after.posted = state.posted ∧
      (anchor.batchId ≠ none → after.world.uuids = state.world.uuids) := by
  unfold batchIdOf
  cases anchor.batchId with
  | none =>
      obtain ⟨after, ran, db, _, posted⟩ := solo_randomUUID replies around state
      exact ⟨after, ran, db, posted, fun assigned => absurd rfl assigned⟩
  | some batchId => exact ⟨state, rfl, rfl, rfl, fun _ => rfl⟩

/-- The database once the rows of the batch have its id. -/
def assigned (anchor : WalletOutbox) (batchId : ℕ) (entries : List WalletOutbox) (db : Database) :
    Database :=
  if anchor.batchId = none then assignBatch (entries.map WalletOutbox.key) batchId db else db

theorem solo_assignBatchId (replies : ℕ → HttpReply) (around : Surroundings)
    (anchor : WalletOutbox) (batchId : ℕ) (entries : List WalletOutbox) (state : Sending) :
    ∃ after, (assignBatchId anchor batchId entries).solo (sending replies around) state =
        (.ok (), after) ∧
      after.world.db = assigned anchor batchId entries state.world.db ∧
      after.world.uuids = state.world.uuids ∧ after.posted = state.posted := by
  unfold assignBatchId assigned
  split
  · obtain ⟨id, now, runs⟩ := solo_transact replies around
      (.assignBatch (entries.map WalletOutbox.key) batchId) state
    exact runs () _ rfl
  · exact ⟨state, rfl, rfl, rfl, rfl⟩

theorem keys_assigned (anchor : WalletOutbox) (batchId : ℕ) (entries : List WalletOutbox)
    (db : Database) : (waitingRows casinoGroupId (assigned anchor batchId entries db)).map
      Waiting.key = (waitingRows casinoGroupId db).map Waiting.key := by
  unfold assigned
  split
  · exact keys_assignBatch _ _
  · rfl

theorem filter_assigned (anchor : WalletOutbox) (batchId : ℕ) (entries : List WalletOutbox)
    (db : Database) :
    (waitingRows casinoGroupId (assigned anchor batchId entries db)).filter
        (fun waiting => waiting.key ∉ entries.map WalletOutbox.key) =
      (waitingRows casinoGroupId db).filter
        fun waiting => waiting.key ∉ entries.map WalletOutbox.key := by
  unfold assigned
  split
  · exact filter_waitingRows_modify casinoGroupId db _
      (fun row => { row with batchId := some batchId }) fun _ => rfl
  · rfl

theorem key_mem_entriesOf {db : Database} (undelayed : Undelayed casinoGroupId db)
    (batchId : Option ℕ) (now : Time) (moment : Moment) {waiting : Waiting}
    (member : waiting ∈ waitingRows casinoGroupId db) :
    waiting.key ∈ (entriesOf casinoGroupId batchId now db moment).map WalletOutbox.key ↔
      waiting.batchId = batchId := by
  obtain ⟨row, stored, pending, rfl⟩ := mem_waitingRows.mp member
  have listed : ∀ entry, entry ∈ entriesOf casinoGroupId batchId now db moment →
      entry ∈ db.ledger.walletOutbox ∧ entry.batchId = batchId := by
    intro entry chosen
    obtain ⟨due, own⟩ := List.mem_filter.mp chosen
    exact ⟨(mem_dueRows.mp due).1, by simpa using (Bool.and_eq_true_iff.mp own).2⟩
  constructor
  · intro key
    obtain ⟨entry, chosen, same⟩ := List.mem_map.mp key
    obtain ⟨there, own⟩ := listed entry chosen
    obtain rfl := Table.eq_of_key there stored same
    exact own
  · intro own
    rw [← isDue_of_undelayed undelayed now stored, Bool.and_eq_true] at pending
    refine List.mem_map.mpr ⟨row, List.mem_filter.mpr ⟨mem_dueRows.mpr ⟨stored, pending.1⟩, ?_⟩, rfl⟩
    rw [pending.2, Bool.true_and]
    exact decide_eq_true own

/-- A completed batch leaves the other rows waiting. -/
theorem waitingRows_completed {db : Database} (undelayed : Undelayed casinoGroupId db)
    (anchor : WalletOutbox) (batchId : ℕ) (now : Time) (moment : Moment) :
    waitingRows casinoGroupId (completeBatch
        ((entriesOf casinoGroupId anchor.batchId now db moment).map WalletOutbox.key) batchId
        (assigned anchor batchId (entriesOf casinoGroupId anchor.batchId now db moment) db)) =
      (settlementDepot replies casinoGroupId start).others (waitingRows casinoGroupId db)
        anchor.batchId := by
  rw [waitingRows_completeBatch, filter_assigned]
  refine List.filter_congr fun waiting member => ?_
  rw [decide_eq_decide, not_iff_not]
  exact key_mem_entriesOf undelayed _ _ _ member

theorem undelayed_assigned {db : Database} (undelayed : Undelayed casinoGroupId db)
    (anchor : WalletOutbox) (batchId : ℕ) (entries : List WalletOutbox) :
    Undelayed casinoGroupId (assigned anchor batchId entries db) := by
  unfold assigned
  split
  · intro row stored pending
    rw [← Table.mem_rows, rows_assignBatch] at stored
    obtain ⟨old, there, same⟩ := List.mem_map.mp stored
    subst same
    split at pending
    · next chosen =>
        rw [if_pos chosen]
        exact undelayed old there pending
    · next spared =>
        rw [if_neg spared]
        exact undelayed old there pending
  · exact undelayed

theorem undelayed_completeBatch {db : Database} (undelayed : Undelayed casinoGroupId db)
    (keys : List (String × OutboxType)) (batchId : ℕ) :
    Undelayed casinoGroupId (completeBatch keys batchId db) := by
  intro row stored pending
  rw [← Table.mem_rows, rows_completeBatch] at stored
  obtain ⟨old, there, same⟩ := List.mem_map.mp stored
  subst same
  split at pending
  · simp [pendingSettlementOf, completed] at pending
  · next spared =>
      rw [if_neg spared]
      exact undelayed old there pending

theorem getWalletConfig_assigned (anchor : WalletOutbox) (batchId : ℕ)
    (entries : List WalletOutbox) (db : Database) :
    getWalletConfig (assigned anchor batchId entries db) casinoGroupId =
      getWalletConfig db casinoGroupId := by
  unfold assigned
  split <;> rfl

theorem has_assigned {db : Database} {key : String × OutboxType}
    (has : db.ledger.walletOutbox.Has key) (anchor : WalletOutbox) (batchId : ℕ)
    (entries : List WalletOutbox) :
    (assigned anchor batchId entries db).ledger.walletOutbox.Has key := by
  unfold assigned
  split
  · exact has.updateWhere _ (fun row => { row with batchId := some batchId }) fun _ => rfl
  · exact has

theorem sendable_congr {db other : Database} {payloads others : List (Option WalletTransactionRequest)}
    (config : getWalletConfig db casinoGroupId = getWalletConfig other casinoGroupId)
    (same : payloads.Perm others) :
    sendable casinoGroupId db payloads = sendable casinoGroupId other others := by
  rw [sendable, sendable, config, same.all_eq]

section Reaction

variable {rows : List Waiting} {batchId : Option ℕ}

theorem reaction_of_unsent (lacks : sendable casinoGroupId start.db
    (((settlementDepot replies casinoGroupId start).members rows batchId).map Waiting.payload) =
      false) : (settlementDepot replies casinoGroupId start).reactionTo rows batchId = .unsent :=
  if_neg (by simp [lacks])

theorem reaction_of_refused (sends : sendable casinoGroupId start.db
    (((settlementDepot replies casinoGroupId start).members rows batchId).map Waiting.payload) =
      true) (refuses : acceptsBatch replies (batchId.getD start.uuids) = false) :
    (settlementDepot replies casinoGroupId start).reactionTo rows batchId = .refused :=
  (if_pos sends).trans (if_neg (by simp [refuses]))

theorem reaction_of_accepted (sends : sendable casinoGroupId start.db
    (((settlementDepot replies casinoGroupId start).members rows batchId).map Waiting.payload) =
      true) (accepts : acceptsBatch replies (batchId.getD start.uuids) = true) :
    (settlementDepot replies casinoGroupId start).reactionTo rows batchId = .accepted :=
  (if_pos sends).trans (if_pos accepts)

end Reaction

/-- A flush once it has found the row to start from. -/
def flushBatch (casinoGroupId : String) (now : Time) (anchor : WalletOutbox) : Betting Bool := do
  let batchId ← batchIdOf anchor
  let entries ← Program.call (.read (entriesOf casinoGroupId anchor.batchId now))
  if entries = [] then return false
  else do
    assignBatchId anchor batchId entries
    deliverBatch casinoGroupId batchId entries

theorem flushSettlementBatchForGroup_eq (casinoGroupId : String) :
    flushSettlementBatchForGroup casinoGroupId = (do
      let first ← Program.call (.read fun db moment =>
        (moment.now, anchorOf casinoGroupId db moment))
      match first.2 with
      | none => return false
      | some anchor => flushBatch casinoGroupId first.1 anchor) := rfl

variable (replies) in
theorem perm_payloads (ongoing : Ongoing casinoGroupId start state) (batchId : Option ℕ)
    (now : Time) (moment : Moment) :
    ((entriesOf casinoGroupId batchId now state.world.db moment).map WalletOutbox.payload).Perm
      (((settlementDepot replies casinoGroupId start).members
        (waitingRows casinoGroupId state.world.db) batchId).map Waiting.payload) := by
  have mapped := (perm_entriesOf ongoing.undelayed batchId now moment).map Waiting.payload
  rwa [List.map_map] at mapped

section Sent

variable {anchor : WalletOutbox} {batchId : ℕ} {now : Time} {moment : Moment}
  {entries : List WalletOutbox} {marked after : Sending}

/-- After an accepted batch the loop goes on with the other rows. -/
theorem Ongoing.completed (ongoing : Ongoing casinoGroupId start state)
    (rows : waitingRows casinoGroupId after.world.db =
      (settlementDepot replies casinoGroupId start).others (waitingRows casinoGroupId state.world.db)
        anchor.batchId)
    (written : after.world.db = completeBatch (entries.map WalletOutbox.key) batchId
      (assigned anchor batchId entries state.world.db))
    (drawn : anchor.batchId ≠ none → after.world.uuids = state.world.uuids) :
    Ongoing casinoGroupId start after := by
  constructor
  · rw [written]
    exact undelayed_completeBatch (undelayed_assigned ongoing.undelayed _ _ _) _ _
  · rw [written]
    exact (getWalletConfig_assigned _ _ _ _).trans ongoing.config
  · intro row member none_
    rw [rows] at member
    obtain ⟨waits, apart⟩ := Draining.Depot.mem_others.mp member
    have assigned : anchor.batchId ≠ none := fun missing => apart (none_.trans missing.symm)
    rw [drawn assigned]
    exact ongoing.fresh row waits none_

/-- What was posted and written for the batch of the anchor is what a flush may do. -/
theorem flushes_of_posts (ongoing : Ongoing casinoGroupId start state)
    (picked : First around anchor.waiting (waitingRows casinoGroupId state.world.db))
    (named : anchor.batchId.getD start.uuids = batchId)
    (chosen : entriesOf casinoGroupId anchor.batchId now state.world.db moment = entries)
    (changed : marked.world.db = assigned anchor batchId entries state.world.db)
    (drawn : anchor.batchId ≠ none → marked.world.uuids = state.world.uuids)
    {batches : List PostedBatch} {outcome : Except Failure Unit} {sent : Bool}
    (posts : Posts replies casinoGroupId batchId entries marked.world.db batches outcome)
    (result : ConcludesBatch casinoGroupId batchId entries marked after sent outcome) :
    Flushes replies around casinoGroupId start (waitingRows casinoGroupId state.world.db) sent
      batches after := by
  have payloads := perm_payloads replies ongoing anchor.batchId now moment
  rw [chosen] at payloads
  have sends : sendable casinoGroupId marked.world.db (entries.map WalletOutbox.payload) =
      sendable casinoGroupId start.db (((settlementDepot replies casinoGroupId start).members
        (waitingRows casinoGroupId state.world.db) anchor.batchId).map Waiting.payload) := by
    refine sendable_congr ?_ payloads
    rw [changed, getWalletConfig_assigned, ongoing.config]
  have carries : ∀ transactions : List WalletTransactionRequest,
      entries.map WalletOutbox.payload = transactions.map some →
      (⟨casinoGroupId, batchId, transactions⟩ : PostedBatch).Carries casinoGroupId start
        (anchor.waiting.batchId, (settlementDepot replies casinoGroupId start).members
          (waitingRows casinoGroupId state.world.db) anchor.batchId) :=
    fun transactions carried => ⟨rfl, named.symm, carried ▸ payloads⟩
  have keys : waitingRows casinoGroupId after.world.db =
      waitingRows casinoGroupId marked.world.db →
      (waitingRows casinoGroupId after.world.db).map Waiting.key =
        (waitingRows casinoGroupId state.world.db).map Waiting.key := by
    intro still
    rw [still, changed, keys_assigned]
  cases posts with
  | unsent failure lacks =>
      obtain ⟨rfl, still⟩ := result
      rw [sends] at lacks
      exact .unsent picked (reaction_of_unsent lacks) (keys still)
  | refused failure transactions sent_ refuses carried =>
      obtain ⟨rfl, still⟩ := result
      rw [sends] at sent_
      rw [← named] at refuses
      exact .refused picked (reaction_of_refused sent_ refuses) (carries _ carried) (keys still)
  | accepted transactions sent_ accepts carried =>
      obtain ⟨rfl, last, written⟩ := result
      rw [sends] at sent_
      rw [← named] at accepts
      rw [changed] at written
      have rows : waitingRows casinoGroupId after.world.db =
          (settlementDepot replies casinoGroupId start).others
            (waitingRows casinoGroupId state.world.db) anchor.batchId := by
        rw [written, ← chosen]
        exact waitingRows_completed ongoing.undelayed _ _ _ _
      exact .accepted picked (reaction_of_accepted sent_ accepts) (carries _ carried) rows
        (ongoing.completed rows written fun numbered => last.trans (drawn numbered))

end Sent

theorem solo_flushBatch (ongoing : Ongoing casinoGroupId start state) {anchor : WalletOutbox}
    (picked : First around anchor.waiting (waitingRows casinoGroupId state.world.db)) (now : Time) :
    ∃ sent log after, (flushBatch casinoGroupId now anchor).solo (sending replies around) state =
        (.ok sent, after) ∧ after.posted = state.posted ++ log ∧
      Flushes replies around casinoGroupId start (waitingRows casinoGroupId state.world.db) sent log
        after := by
  obtain ⟨drawn, numbered, db, posted, uuids⟩ := solo_batchIdOf replies around anchor state
  obtain ⟨moment, looked, read, _, same⟩ := solo_read replies around
    (entriesOf casinoGroupId anchor.batchId now) drawn
  have here : anchor.waiting ∈ waitingRows casinoGroupId state.world.db := picked.1
  have id : anchor.batchId.getD state.world.uuids = anchor.batchId.getD start.uuids := by
    cases batch : anchor.batchId with
    | none => exact ongoing.fresh _ here batch
    | some batchId => rfl
  rw [db] at read
  rw [id] at numbered
  generalize named : anchor.batchId.getD start.uuids = batchId at numbered
  generalize chosen : entriesOf casinoGroupId anchor.batchId now state.world.db moment = entries
    at read
  have nonempty : entries ≠ [] := by
    rintro rfl
    have own := (key_mem_entriesOf ongoing.undelayed anchor.batchId now moment here).mpr rfl
    rw [chosen] at own
    cases own
  obtain ⟨marked, ran, changed, kept, log⟩ :=
    solo_assignBatchId replies around anchor batchId entries looked
  rw [same.db, db] at changed
  have there : ∀ entry ∈ entries, marked.world.db.ledger.walletOutbox.Has entry.key := by
    intro entry member
    rw [changed]
    rw [← chosen] at member
    have due := (mem_dueRows.mp (List.mem_of_mem_filter member)).1
    exact has_assigned ⟨entry, due, rfl⟩ _ _ _
  obtain ⟨outcome, batches, sent, after, delivered, posts, appended, result⟩ :=
    solo_deliverBatch replies around casinoGroupId batchId there
  refine ⟨sent, batches, after, ?_, ?_, ?_⟩
  · unfold flushBatch
    rw [solo_bind_ok numbered, solo_bind_ok read, if_neg nonempty, solo_bind_ok ran]
    exact delivered
  · rw [appended, log, same.posted, posted]
  · exact flushes_of_posts ongoing picked named chosen changed
      (fun given => kept.trans (same.uuids.trans (uuids given))) posts result

/-- A flush posts the batch of a row that waits longest, and returns whether it was accepted. -/
theorem solo_flush (replies : ℕ → HttpReply) (around : Surroundings)
    (ongoing : Ongoing casinoGroupId start state) :
    ∃ sent log after, (flushSettlementBatchForGroup casinoGroupId).solo (sending replies around)
        state = (.ok sent, after) ∧ after.posted = state.posted ++ log ∧
      Flushes replies around casinoGroupId start (waitingRows casinoGroupId state.world.db) sent log
        after := by
  obtain ⟨moment, looked, read, rank, same⟩ := solo_read replies around
    (fun db moment => (moment.now, anchorOf casinoGroupId db moment)) state
  rw [flushSettlementBatchForGroup_eq, solo_bind_ok read]
  dsimp only
  cases first : anchorOf casinoGroupId state.world.db moment with
  | none =>
      have empty := anchorOf_eq_none ongoing.undelayed first
      refine ⟨false, [], looked, rfl, by rw [same.posted, List.append_nil], .idle empty ?_⟩
      rw [same.db]
      exact empty
  | some anchor =>
      obtain ⟨stored, pending, oldest⟩ := anchorOf_eq_some ongoing.undelayed first
      have picked : First around anchor.waiting (waitingRows casinoGroupId state.world.db) := by
        refine ⟨mem_waitingRows.mpr ⟨anchor, stored, pending, rfl⟩, state.calls, ?_⟩
        rw [← rank]
        exact oldest
      rw [← same.db] at picked
      have later : Ongoing casinoGroupId start looked := by
        refine ⟨?_, ?_, ?_⟩
        · rw [same.db]
          exact ongoing.undelayed
        · rw [same.db]
          exact ongoing.config
        · rw [same.db, same.uuids]
          exact ongoing.fresh
      obtain ⟨sent, log, after, ran, posted, flushes⟩ :=
        solo_flushBatch later picked moment.now
      rw [same.posted] at posted
      rw [same.db] at flushes
      exact ⟨sent, log, after, ran, posted, flushes⟩

/-- The loop of flushes drains the rows that wait, and posts what is drained. -/
theorem solo_flushUpTo (replies : ℕ → HttpReply) (around : Surroundings) (limit : ℕ)
    (ongoing : Ongoing casinoGroupId start state) :
    ∃ count after log drained left, (flushUpTo casinoGroupId limit).solo (sending replies around)
        state = (.ok count, after) ∧ after.posted = state.posted ++ log ∧
      (settlementDepot replies casinoGroupId start).Drains (First around) limit
        (waitingRows casinoGroupId state.world.db) drained left ∧
      (waitingRows casinoGroupId after.world.db).map Waiting.key = left.map Waiting.key ∧
      List.Forall₂ (PostedBatch.Carries casinoGroupId start) log drained := by
  induction limit generalizing state with
  | zero =>
      exact ⟨0, state, [], [], _, rfl, (List.append_nil _).symm, .full _, rfl, .nil⟩
  | succ limit ih =>
      obtain ⟨sent, log, flushed, ran, posted, flushes⟩ := solo_flush replies around ongoing
      unfold flushUpTo
      rw [solo_bind_ok ran]
      cases flushes with
      | idle empty still =>
          refine ⟨0, flushed, [], [], [], rfl, posted, ?_, by rw [still], .nil⟩
          rw [empty]
          exact .idle limit
      | unsent picked reaction keys =>
          exact ⟨0, flushed, [], [], _, rfl, posted, .unsent limit picked reaction, keys, .nil⟩
      | refused picked reaction carries keys =>
          exact ⟨0, flushed, _, _, _, rfl, posted, .refused limit picked reaction, keys,
            .cons carries .nil⟩
      | @accepted anchor batch _ picked reaction carries rows later =>
          obtain ⟨count, after, more, drained, left, finished, appended, drains, keys, others⟩ :=
            ih later
          rw [rows] at drains
          refine ⟨count + 1, after, batch :: more, _, left, ?_, ?_,
            .accepted picked reaction drains, keys, .cons carries others⟩
          · rw [if_pos rfl, solo_bind_ok finished]
            rfl
          · rw [appended, posted, List.append_assoc, List.singleton_append]

end Flush

end SportsBetting
