import SportsBetting.Data.Grouping
import SportsBetting.Data.Ranking
import SportsBetting.Ledger
import Mathlib.Order.Bounds.Basic

/-!
# The settlements that wait for the wallet

Staff see the pending rows of a tenant and the batches they are sent in. The batches are
counted while the rows are read; rows without a batch are counted under a name of their own.
-/

namespace SportsBetting.StaffSettlementService

open Numeral

section Rows

/-- What the payload is read for: reading from `null` throws, and what is no transaction has no
amount. -/
inductive StoredPayload
  | null
  | stored (amount : Option String)
  deriving DecidableEq

/-- A row of the outbox, where the batch is named by any text. -/
structure QueueRow where
  id : String
  betId : String
  casinoGroupId : String
  type : OutboxType
  transactionCode : String
  batchId : Option String
  payload : StoredPayload
  status : WalletOutboxStatus
  attempts : ℤ
  lastError : Option String
  nextRetryAt : Option Time
  createdAt : Time
  updatedAt : Time
  deriving DecidableEq

structure QueueBet where
  id : String
  userId : String
  username : String
  status : BetStatus
  stake : Numeric 12 2
  payoutAmount : Option (Numeric 14 2)
  currency : String
  settledAt : Option Time
  deriving DecidableEq

structure QueueItem where
  outboxId : String
  betId : String
  batchId : Option String
  transactionCode : String
  outboxStatus : WalletOutboxStatus
  attempts : ℤ
  lastError : Option String
  nextRetryAt : Option Time
  retryDue : Bool
  createdAt : Time
  updatedAt : Time
  walletAmount : Option String
  bet : QueueBet
  deriving DecidableEq

structure BatchStats where
  batchId : String
  count : ℕ
  oldestCreatedAt : Time
  deriving DecidableEq

structure QueueBatch where
  batchId : Option String
  count : ℕ
  oldestCreatedAt : Time
  deriving DecidableEq

structure QueueSummary where
  pendingCount : ℕ
  batchCount : ℕ
  retryingCount : ℕ
  dueNowCount : ℕ
  deriving DecidableEq

structure SettlementQueue where
  casinoGroupId : String
  summary : QueueSummary
  batches : List QueueBatch
  items : List QueueItem
  deriving DecidableEq

end Rows

section Queries

variable (collate : String → String → Bool) (casinoGroupId : String)

def waitsForWallet (row : QueueRow) : Bool :=
  row.casinoGroupId = casinoGroupId ∧ row.type = .walletSettle ∧ row.status = .pending

/-- By batch, as the database collates texts, then by age; rows without a batch come last. -/
def queuedBefore (first second : QueueRow) : Bool :=
  match first.batchId, second.batchId with
  | some batchId, some other =>
      if batchId = other then decide (first.createdAt ≤ second.createdAt) else collate batchId other
  | some _, none => true
  | none, some _ => false
  | none, none => decide (first.createdAt ≤ second.createdAt)

def waitingSettlements (rows : List QueueRow) : List QueueRow :=
  ((rows.filter (waitsForWallet casinoGroupId)).insertionSort
    fun first second => queuedBefore collate first second = true).take 200

/-- The bets of the rows that belong to the tenant. -/
def betById (bets : Table Bet Bet.id) (rows : List QueueRow) (betId : String) : Option Bet :=
  let betIds := (rows.map QueueRow.betId).dedup
  (bets.rows.filter fun bet => bet.id ∈ betIds ∧ bet.casinoGroupId = casinoGroupId).find?
    fun bet => bet.id = betId

end Queries

/-- The rows whose bet is found. -/
def ownedRows (casinoGroupId : String) (bets : Table Bet Bet.id) (rows : List QueueRow) :
    List (QueueRow × Bet) :=
  rows.filterMap fun row => (betById casinoGroupId bets rows row.betId).map fun bet => (row, bet)

def deserializedAmount : StoredPayload → Except Failure (Option String)
  | .null => .error (.error "Cannot read properties of null (reading 'createdAt')")
  | .stored amount => .ok amount

def queueItem (now : Time) (row : QueueRow) (bet : Bet) : QueueItem where
  outboxId := row.id
  betId := row.betId
  batchId := row.batchId
  transactionCode := row.transactionCode
  outboxStatus := row.status
  attempts := row.attempts
  lastError := row.lastError
  nextRetryAt := row.nextRetryAt
  retryDue :=
    match row.nextRetryAt with
    | none => true
    | some nextRetryAt => decide (nextRetryAt ≤ now)
  createdAt := row.createdAt
  updatedAt := row.updatedAt
  walletAmount :=
    match deserializedAmount row.payload with
    | .ok amount => amount
    | .error _ => none
  bet :=
    { id := bet.id, userId := bet.userId, username := bet.username, status := bet.status
      stake := bet.stake, payoutAmount := bet.payoutAmount, currency := bet.currency
      settledAt := bet.settledAt }

/-- The row is counted in its batch. -/
def countInBatch (batchStats : Table BatchStats BatchStats.batchId) (row : QueueRow) :
    Table BatchStats BatchStats.batchId :=
  let batchKey := row.batchId.getD "unassigned"
  match batchStats.get? batchKey with
  | none => batchStats.put { batchId := batchKey, count := 1, oldestCreatedAt := row.createdAt }
  | some existing =>
      batchStats.put { existing with
        count := existing.count + 1
        oldestCreatedAt :=
          if row.createdAt < existing.oldestCreatedAt then row.createdAt
          else existing.oldestCreatedAt }

/-- The rows become items one after the other, each counted on the way. -/
def queueItems (now : Time) : List (QueueRow × Bet) → Table BatchStats BatchStats.batchId →
    List QueueItem × Table BatchStats BatchStats.batchId
  | [], batchStats => ([], batchStats)
  | (row, bet) :: rows, batchStats =>
      let (items, after) := queueItems now rows (countInBatch batchStats row)
      (queueItem now row bet :: items, after)

def batchName (batchId : String) : Option String :=
  if batchId = "unassigned" then none else some batchId

/-- Times are compared as ISO texts of the same length, which order as the times do. -/
def queueBatches (batchStats : Table BatchStats BatchStats.batchId) : List QueueBatch :=
  (batchStats.rows.map fun batch =>
    { batchId := batchName batch.batchId, count := batch.count
      oldestCreatedAt := batch.oldestCreatedAt }).insertionSort
    fun first second => first.oldestCreatedAt ≤ second.oldestCreatedAt

def listWalletSettlementQueue (collate : String → String → Bool) (casinoGroupId : String)
    (stored : List QueueRow) (bets : Table Bet Bet.id) (now : Time) : SettlementQueue :=
  let rows := waitingSettlements collate casinoGroupId stored
  let (items, batchStats) := queueItems now (ownedRows casinoGroupId bets rows) .empty
  let batches := queueBatches batchStats
  { casinoGroupId
    summary :=
      { pendingCount := items.length
        batchCount := batches.length
        retryingCount := (items.filter fun item => 0 < item.attempts).length
        dueNowCount := (items.filter QueueItem.retryDue).length }
    batches
    items }

/-- The items of a batch make its row. -/
def batching : Grouping QueueItem BatchStats.batchId where
  key item := some (item.batchId.getD "unassigned")
  start item :=
    { batchId := item.batchId.getD "unassigned", count := 0, oldestCreatedAt := item.createdAt }
  add batch item :=
    { batch with
      count := batch.count + 1
      oldestCreatedAt := min batch.oldestCreatedAt item.createdAt }
  key_start _ _ named := Option.some.inj named
  key_add _ _ := rfl

section Batches

variable {items : List QueueItem} {batch : BatchStats}

theorem countInBatch_eq (now : Time) (batchStats : Table BatchStats BatchStats.batchId) (row : QueueRow)
    (bet : Bet) :
    countInBatch batchStats row = batching.gatherInto batchStats (queueItem now row bet) := by
  unfold countInBatch Grouping.gatherInto
  dsimp only [batching, queueItem]
  cases batchStats.get? (row.batchId.getD "unassigned") with
  | none => simp
  | some existing =>
      dsimp only [Option.getD_some]
      rw [min_def]
      congr 2
      split
      · next earlier => rw [if_neg (not_le.mpr earlier)]
      · next later => rw [if_pos (not_lt.mp later)]

/-- The batches that were counted are those of the items. -/
theorem queueItems_eq (now : Time) (rows : List (QueueRow × Bet))
    (batchStats : Table BatchStats BatchStats.batchId) :
    queueItems now rows batchStats =
      (rows.map fun row => queueItem now row.1 row.2,
        (rows.map fun row => queueItem now row.1 row.2).foldl batching.gatherInto batchStats) := by
  induction rows generalizing batchStats with
  | nil => rfl
  | cons row rows ih =>
      obtain ⟨row, bet⟩ := row
      rw [queueItems, ih, countInBatch_eq now batchStats row bet]
      rfl

/-- A batch has the number of its items, and the time of the oldest of them. -/
theorem stats_of_row? (made : batching.row? items = some batch) :
    batch.count = items.length ∧
      IsLeast {time | ∃ item ∈ items, item.createdAt = time} batch.oldestCreatedAt := by
  induction items using List.reverseRecOn generalizing batch with
  | nil => cases made
  | append_singleton items item ih =>
      have times : {time | ∃ other ∈ items ++ [item], other.createdAt = time} =
          insert item.createdAt {time | ∃ other ∈ items, other.createdAt = time} := by
        ext time
        simp [or_and_right, exists_or, or_comm, eq_comm]
      rw [Grouping.row?_append] at made
      obtain rfl := Option.some.inj made
      rw [times]
      cases earlier : batching.row? items with
      | none =>
          cases items with
          | cons first rest => cases earlier
          | nil => simp [batching]
      | some before =>
          obtain ⟨count, least⟩ := ih earlier
          constructor
          · simp [batching, count]
          · dsimp only [batching, Option.getD_some]
            rw [min_comm]
            exact least.insert item.createdAt

theorem batchName_injective : Function.Injective batchName := by
  intro first second same
  unfold batchName at same
  split at same <;> split at same <;> simp_all

theorem batchName_getD {batchId : Option String} (told : batchId ≠ some "unassigned") :
    batchName (batchId.getD "unassigned") = batchId := by
  cases batchId with
  | none => rfl
  | some batchId => exact if_neg fun same => told (congrArg some same)

/-- The items of a batch are the ones with its name. -/
theorem members_eq (told : ∀ item ∈ items, item.batchId ≠ some "unassigned") (batchKey : String) :
    batching.members batchKey items =
      items.filter fun item => item.batchId = batchName batchKey := by
  apply List.filter_congr
  intro item member
  have name := batchName_getD (told item member)
  simp only [batching, Option.some.injEq, decide_eq_decide]
  constructor
  · rintro rfl
    exact name.symm
  · intro same
    exact batchName_injective (name.trans same)

theorem mem_queueBatches {batchStats : Table BatchStats BatchStats.batchId} {batch : QueueBatch} :
    batch ∈ queueBatches batchStats ↔ ∃ stats ∈ batchStats,
      ⟨batchName stats.batchId, stats.count, stats.oldestCreatedAt⟩ = batch := by
  unfold queueBatches
  rw [List.mem_insertionSort, List.mem_map]
  rfl

/-- The batches are those of the items: one for each name, with the number of its items and the
time of the oldest of them, the oldest batch first. -/
structure Partitions (batches : List QueueBatch) (items : List QueueItem) : Prop where
  distinct : (batches.map QueueBatch.batchId).Nodup
  named : ∀ batchId, batchId ∈ batches.map QueueBatch.batchId ↔
    ∃ item ∈ items, item.batchId = batchId
  counted : ∀ batch ∈ batches, batch.count = items.countP fun item => item.batchId = batch.batchId
  total : (batches.map QueueBatch.count).sum = items.length
  oldest : ∀ batch ∈ batches, IsLeast
    {time | ∃ item ∈ items, item.batchId = batch.batchId ∧ item.createdAt = time}
    batch.oldestCreatedAt
  ordered : batches.Pairwise fun first second => first.oldestCreatedAt ≤ second.oldestCreatedAt

theorem queueBatches_perm (batchStats : Table BatchStats BatchStats.batchId) :
    (queueBatches batchStats).Perm (batchStats.rows.map fun batch =>
      { batchId := batchName batch.batchId, count := batch.count
        oldestCreatedAt := batch.oldestCreatedAt }) :=
  List.perm_insertionSort _ _

theorem stats_of_mem {stats : BatchStats} (stored : stats ∈ batching.gather items)
    (told : ∀ item ∈ items, item.batchId ≠ some "unassigned") :
    stats.count = (items.filter fun item => item.batchId = batchName stats.batchId).length ∧
      IsLeast {time | ∃ item ∈ items, item.batchId = batchName stats.batchId ∧
        item.createdAt = time} stats.oldestCreatedAt := by
  have made := stats_of_row? (Grouping.mem_gather.mp stored)
  rw [members_eq told] at made
  simpa [and_assoc] using made

theorem partitions_gather (told : ∀ item ∈ items, item.batchId ≠ some "unassigned") :
    Partitions (queueBatches (batching.gather items)) items := by
  have perm := queueBatches_perm (batching.gather items)
  constructor
  case distinct =>
    rw [(perm.map _).nodup_iff, List.map_map]
    have names := (batching.gather items).unique.map batchName_injective
    rwa [List.map_map] at names
  case named =>
    intro batchId
    constructor
    · intro member
      obtain ⟨batch, listed, rfl⟩ := List.mem_map.mp member
      obtain ⟨stats, stored, rfl⟩ := mem_queueBatches.mp listed
      obtain ⟨_, ⟨item, own, same, _⟩, _⟩ := stats_of_mem stored told
      exact ⟨item, own, same⟩
    · rintro ⟨item, own, rfl⟩
      have has : (batching.gather items).Has (item.batchId.getD "unassigned") :=
        Grouping.has_gather own rfl
      obtain ⟨stats, stored, named⟩ := has
      apply List.mem_map.mpr
      refine ⟨_, mem_queueBatches.mpr ⟨stats, stored, rfl⟩, ?_⟩
      dsimp only
      rw [named, batchName_getD (told item own)]
  case counted =>
    intro batch listed
    obtain ⟨stats, stored, rfl⟩ := mem_queueBatches.mp listed
    rw [List.countP_eq_length_filter]
    exact (stats_of_mem stored told).1
  case total =>
    have sizes : ∀ stats ∈ (batching.gather items).rows, stats.count =
        ((batching.members stats.batchId items).map fun _ => 1).sum := by
      intro stats stored
      rw [members_eq told]
      simpa using (stats_of_mem stored told).1
    have each : ((batching.gather items).rows.map fun stats =>
        ((batching.members stats.batchId items).map fun _ => 1).sum).sum =
          ((items.filter fun item => (batching.key item).isSome).map fun _ => 1).sum :=
      Grouping.sum_gather (fun _ => 1) items
    have all : (items.filter fun item => (batching.key item).isSome) = items :=
      List.filter_eq_self.mpr fun _ _ => rfl
    have ones : (items.map fun _ => 1).sum = items.length := by simp
    rw [← List.map_congr_left sizes, all, ones] at each
    rw [(perm.map _).sum_eq, List.map_map]
    exact each
  case oldest =>
    intro batch listed
    obtain ⟨stats, stored, rfl⟩ := mem_queueBatches.mp listed
    exact (stats_of_mem stored told).2
  case ordered => exact Ranking.pairwise_sorted QueueBatch.oldestCreatedAt _

end Batches

section Listing

variable {casinoGroupId : String} {stored rows : List QueueRow} {bets : Table Bet Bet.id}

/-- Up to two hundred rows are all read. -/
theorem waitingSettlements_perm (collate : String → String → Bool)
    (few : (stored.filter (waitsForWallet casinoGroupId)).length ≤ 200) :
    (waitingSettlements collate casinoGroupId stored).Perm
      (stored.filter (waitsForWallet casinoGroupId)) := by
  unfold waitingSettlements
  rw [List.take_of_length_le]
  · exact List.perm_insertionSort _ _
  · rwa [List.length_insertionSort]

theorem isSome_betById {row : QueueRow} {bet : Bet} (member : row ∈ rows)
    (placed : bet ∈ bets) (named : bet.id = row.betId) (own : bet.casinoGroupId = casinoGroupId) :
    (betById casinoGroupId bets rows row.betId).isSome := by
  unfold betById
  rw [List.find?_isSome]
  refine ⟨bet, ?_, by simpa using named⟩
  apply List.mem_filter.mpr
  refine ⟨placed, ?_⟩
  have asked : bet.id ∈ rows.map QueueRow.betId := List.mem_map.mpr ⟨row, member, named.symm⟩
  simp [List.mem_dedup.mpr asked, own]

theorem ownedRows_rows
    (placed : ∀ row ∈ rows, ∃ bet ∈ bets, bet.id = row.betId ∧ bet.casinoGroupId = casinoGroupId) :
    (ownedRows casinoGroupId bets rows).map Prod.fst = rows := by
  unfold ownedRows
  rw [List.map_filterMap]
  have each : ∀ row ∈ rows, Option.map Prod.fst
      ((betById casinoGroupId bets rows row.betId).map fun bet => (row, bet)) = some row := by
    intro row member
    obtain ⟨bet, own, named, group⟩ := placed row member
    obtain ⟨shown, known⟩ := Option.isSome_iff_exists.mp (isSome_betById member own named group)
    rw [known]
    rfl
  rw [List.filterMap_congr each, List.filterMap_some]

/-- The queue lists the rows: its items are theirs, its batches are those of its items, and the
summary counts the items. -/
structure Lists (rows : List QueueRow) (queue : SettlementQueue) : Prop where
  items : (queue.items.map fun item =>
      (item.outboxId, item.batchId, item.createdAt, item.attempts, item.nextRetryAt)).Perm
    (rows.map fun row => (row.id, row.batchId, row.createdAt, row.attempts, row.nextRetryAt))
  batches : Partitions queue.batches queue.items
  pending : queue.summary.pendingCount = queue.items.length
  batched : queue.summary.batchCount = queue.batches.length
  retrying : queue.summary.retryingCount = queue.items.countP fun item => 0 < item.attempts
  due : queue.summary.dueNowCount = queue.items.countP fun item => item.retryDue

/-- Up to two hundred pending rows with their bets are all listed, batch by batch. -/
theorem listWalletSettlementQueue_lists (collate : String → String → Bool) (now : Time)
    (few : (stored.filter (waitsForWallet casinoGroupId)).length ≤ 200)
    (placed : ∀ row ∈ stored, waitsForWallet casinoGroupId row = true →
      ∃ bet ∈ bets, bet.id = row.betId ∧ bet.casinoGroupId = casinoGroupId)
    (told : ∀ row ∈ stored, waitsForWallet casinoGroupId row = true →
      row.batchId ≠ some "unassigned") :
    Lists (stored.filter (waitsForWallet casinoGroupId))
      (listWalletSettlementQueue collate casinoGroupId stored bets now) := by
  have perm := waitingSettlements_perm collate few
  have waiting : ∀ row ∈ waitingSettlements collate casinoGroupId stored,
      row ∈ stored ∧ waitsForWallet casinoGroupId row = true := fun row member =>
    List.mem_filter.mp (perm.mem_iff.mp member)
  have rows : (ownedRows casinoGroupId bets
      (waitingSettlements collate casinoGroupId stored)).map Prod.fst =
        waitingSettlements collate casinoGroupId stored :=
    ownedRows_rows fun row member => placed row (waiting row member).1 (waiting row member).2
  have named : ∀ item ∈ (ownedRows casinoGroupId bets
      (waitingSettlements collate casinoGroupId stored)).map fun row => queueItem now row.1 row.2,
      item.batchId ≠ some "unassigned" := by
    intro item member
    obtain ⟨row, owned, rfl⟩ := List.mem_map.mp member
    have read := List.mem_map_of_mem (f := Prod.fst) owned
    rw [rows] at read
    exact told row.1 (waiting row.1 read).1 (waiting row.1 read).2
  unfold listWalletSettlementQueue
  simp only [queueItems_eq]
  constructor
  case items =>
    have shown := perm.map fun row =>
      (row.id, row.batchId, row.createdAt, row.attempts, row.nextRetryAt)
    rw [← rows, List.map_map] at shown
    rw [List.map_map]
    exact shown
  case batches => exact partitions_gather named
  case pending => rfl
  case batched => rfl
  case retrying => exact List.countP_eq_length_filter.symm
  case due =>
    rw [List.countP_eq_length_filter]

end Listing

/-- Two bets of one batch, and a third that has none yet. -/
def wonBet (id : String) : Bet where
  id := id
  casinoGroupId := "group"
  userId := "ada"
  username := "ada"
  idempotencyKey := id
  stake := .ofUnits 1000
  currency := "USD"
  status := .won
  combinedOdds := .ofUnits 1910
  potentialPayout := .ofUnits 1910
  walletReservationId := none
  rejectionReason := none
  payoutAmount := some (.ofUnits 1910)
  settledAt := some 5000
  settlementNote := none
  createdAt := 0
  legs := []

def wonBets : Table Bet Bet.id := ⟨[wonBet "first", wonBet "second", wonBet "third"], by decide⟩

def payoutRow (betId : String) (batchId : Option String) (attempts : ℤ) (createdAt : Time) :
    QueueRow where
  id := betId ++ "-payout"
  betId := betId
  casinoGroupId := "group"
  type := .walletSettle
  transactionCode := betId ++ "-won"
  batchId := batchId
  payload := .stored (some "19.10")
  status := .pending
  attempts := attempts
  lastError := none
  nextRetryAt := if attempts = 0 then none else some (createdAt + 60000)
  createdAt := createdAt
  updatedAt := createdAt

def payoutRows : List QueueRow :=
  [payoutRow "first" (some "batch") 1 5200, payoutRow "second" none 0 5100,
    payoutRow "third" (some "batch") 0 5000]

theorem payoutRows_listed :
    Lists (payoutRows.filter (waitsForWallet "group"))
        (listWalletSettlementQueue (fun first second => decide (first ≤ second)) "group" payoutRows
          wonBets 6000) ∧
      (listWalletSettlementQueue (fun first second => decide (first ≤ second)) "group" payoutRows
        wonBets 6000).batches = [⟨some "batch", 2, 5000⟩, ⟨none, 1, 5100⟩] :=
  ⟨listWalletSettlementQueue_lists _ _ (by decide) (by decide) (by decide), by decide +kernel⟩

end SportsBetting.StaffSettlementService
