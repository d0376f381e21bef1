import SportsBetting.Backoffice.StaffBets
import SportsBetting.Bets.Actors
import SportsBetting.Wallet.Flush

/-!
# Transmitting the settlements of a tenant again

Staff ask for all that is pending to be posted at once. The loop of flushes ends
with the first batch that is refused, and after a hundred that are not.
-/

namespace SportsBetting.StaffSettlementService

open Async Program Wallet WalletHttpClient WalletOutboxService Draining.Depot

variable (replies : ℕ → HttpReply) (around : Surroundings) (casinoGroupId staffUserId : String)
  (world : World)

/-- The request from start to end, while nobody else writes. -/
def retryAlone : Except Failure Transmission × Sending :=
  (retryWalletSettlementTransmission casinoGroupId staffUserId).solo (sending replies around)
    ⟨world, 0, []⟩

/-- Every pending batch is posted, and the rows of the refused ones stay pending. -/
structure Transmits (after : Sending) : Prop where
  posted : ∀ row ∈ waitingRows casinoGroupId world.db, ∃ batch ∈ after.posted,
    batch.Carries casinoGroupId world (row.batchId,
      (waitingRows casinoGroupId world.db).filter fun mate => mate.batchId = row.batchId)
  left : ∀ key, key ∈ (waitingRows casinoGroupId after.world.db).map Waiting.key ↔
    ∃ row ∈ waitingRows casinoGroupId world.db, row.key = key ∧
      acceptsBatch replies (row.batchId.getD world.uuids) = false

/-- However much time passes, and however the database orders rows of the same time. -/
def AlwaysTransmits : Prop :=
  ∀ around, Transmits replies casinoGroupId world
    (retryAlone replies around casinoGroupId staffUserId world).2

variable {replies around casinoGroupId staffUserId world}

section Run

theorem solo_record (replies : ℕ → HttpReply) (around : Surroundings) (casinoGroupId : String)
    (entry : AuditEntry) (state : Sending) :
    ∃ after, (StaffBetsService.record entry).solo (sending replies around) state = (.ok (), after) ∧
      waitingRows casinoGroupId after.world.db = waitingRows casinoGroupId state.world.db ∧
      after.posted = state.posted := by
  obtain ⟨id, now, runs⟩ := solo_transact replies around (.recordAudit entry) state
  obtain ⟨after, ran, db, _, posted⟩ := runs () _ rfl
  exact ⟨after, solo_handle_ok ran _, by rw [db]; rfl, posted⟩

theorem waitingRows_eq_nil : waitingRows casinoGroupId world.db = [] ↔
    (world.db.ledger.walletOutbox.rows.filter (pendingSettlementOf casinoGroupId)).length = 0 := by
  rw [waitingRows, List.map_eq_nil_iff, List.length_eq_zero_iff]

/-- The request returns, and drains the rows that are pending up to a hundred batches. -/
theorem retryAlone_drains (replies : ℕ → HttpReply) (around : Surroundings)
    (casinoGroupId staffUserId : String) (world : World) :
    ∃ sent after drained left, retryAlone replies around casinoGroupId staffUserId world =
        (.ok sent, after) ∧
      (settlementDepot replies casinoGroupId world).Drains (First around) 100
        (waitingRows casinoGroupId world.db) drained left ∧
      (waitingRows casinoGroupId after.world.db).map Waiting.key = left.map Waiting.key ∧
      List.Forall₂ (PostedBatch.Carries casinoGroupId world) after.posted drained := by
  obtain ⟨counted, before, same⟩ := solo_view replies around (fun db =>
    (db.ledger.walletOutbox.rows.filter (pendingSettlementOf casinoGroupId)).length) ⟨world, 0, []⟩
  unfold retryAlone retryWalletSettlementTransmission countPending
  rw [solo_bind_ok before]
  by_cases empty : waitingRows casinoGroupId world.db = []
  · rw [if_pos (waitingRows_eq_nil.mp empty)]
    refine ⟨_, counted, [], [], rfl, ?_, ?_, ?_⟩
    · rw [empty]
      exact .idle 99
    · rw [same.db, empty]
    · rw [same.posted]
      exact .nil
  · rw [if_neg (mt waitingRows_eq_nil.mpr empty)]
    obtain ⟨id, now, runs⟩ := solo_transact replies around (.clearRetries casinoGroupId) counted
    obtain ⟨cleared, ran, db, uuids, posted⟩ := runs () _ rfl
    rw [same.db] at db
    have ongoing : Ongoing casinoGroupId world cleared := by
      refine ⟨?_, ?_, fun _ _ _ => uuids.trans same.uuids⟩
      · rw [db]
        exact undelayed_clearRetries
      · rw [db]
        rfl
    have rows : waitingRows casinoGroupId cleared.world.db = waitingRows casinoGroupId world.db := by
      rw [db]
      exact waitingRows_clearRetries
    obtain ⟨count, flushed, log, drained, left, finished, appended, drains, keys, carried⟩ :=
      solo_flushUpTo replies around 100 ongoing
    obtain ⟨recounted, again, still⟩ := solo_view replies around (fun db =>
      (db.ledger.walletOutbox.rows.filter (pendingSettlementOf casinoGroupId)).length) flushed
    rw [solo_bind_ok ran, flushSettlementBatchesForCasinoGroup, solo_bind_ok finished,
      solo_bind_ok again]
    obtain ⟨after, recorded, last, silent⟩ := solo_record replies around casinoGroupId
      (retryEntry casinoGroupId staffUserId _) recounted
    rw [solo_bind_ok recorded]
    refine ⟨_, after, drained, left, rfl, rows ▸ drains, ?_, ?_⟩
    · rw [last, still.db]
      exact keys
    · rw [silent, still.posted, appended, posted, same.posted]
      exact carried

end Run

section Outcome

theorem exists_related {α β : Type} {related : α → β → Prop} {first : List α} {second : List β}
    (each : List.Forall₂ related first second) :
    ∀ item ∈ second, ∃ other ∈ first, related other item := by
  induction each with
  | nil => simp
  | cons same _ ih =>
      intro item member
      rcases List.mem_cons.mp member with rfl | later
      · exact ⟨_, List.mem_cons_self, same⟩
      · obtain ⟨other, listed, own⟩ := ih item later
        exact ⟨other, List.mem_cons_of_mem _ listed, own⟩

theorem First.oldest (anchor : Waiting) (rows : List Waiting) (first : First around anchor rows) :
    (settlementDepot replies casinoGroupId world).Oldest anchor rows := by
  obtain ⟨member, calls, before⟩ := first
  exact ⟨member, fun row listed => (before row listed).elim le_of_lt fun same => same.1.le⟩

theorem reaction_refused_iff {rows : List Waiting} {batchId : Option ℕ}
    (sends : (settlementDepot replies casinoGroupId world).reactionTo rows batchId ≠ .unsent) :
    (settlementDepot replies casinoGroupId world).reactionTo rows batchId = .refused ↔
      acceptsBatch replies (batchId.getD world.uuids) = false := by
  cases sent : sendable casinoGroupId world.db
      (((settlementDepot replies casinoGroupId world).members rows batchId).map
        Waiting.payload) with
  | false => exact absurd (reaction_of_unsent sent) sends
  | true =>
      cases accepts : acceptsBatch replies (batchId.getD world.uuids) with
      | false => simp [reaction_of_refused sent accepts]
      | true => simp [reaction_of_accepted sent accepts]

theorem alwaysTransmits_of_unhindered (clear : (settlementDepot replies casinoGroupId
    world).Unhindered 100 (waitingRows casinoGroupId world.db)) :
    AlwaysTransmits replies casinoGroupId staffUserId world := by
  intro around
  obtain ⟨sent, after, drained, left, ran, drains, keys, carried⟩ :=
    retryAlone_drains replies around casinoGroupId staffUserId world
  have delivered := drains.delivers First.oldest clear
  rw [ran]
  constructor
  · intro row member
    exact exists_related carried _ (delivered.posted row member)
  · intro key
    have refused : ∀ row, row ∈ left ↔ row ∈ waitingRows casinoGroupId world.db ∧
        acceptsBatch replies (row.batchId.getD world.uuids) = false := by
      intro row
      rw [delivered.left]
      exact and_congr_right fun member => reaction_refused_iff (clear.sendable row member)
    rw [keys, List.mem_map]
    constructor
    · rintro ⟨row, member, own⟩
      obtain ⟨there, refuses⟩ := (refused row).mp member
      exact ⟨row, there, own, refuses⟩
    · rintro ⟨row, there, own, refuses⟩
      exact ⟨row, (refused row).mpr ⟨there, refuses⟩, own⟩

/-- Batches that are posted under one id are one batch, if the next id is not used. -/
theorem eq_of_getD {next : ℕ} {one other : Option ℕ} (unused : one ≠ some next)
    (otherUnused : other ≠ some next) (same : one.getD next = other.getD next) : one = other := by
  cases one with
  | none =>
      cases other with
      | none => rfl
      | some id => exact absurd (congrArg some same.symm) otherUnused
  | some id =>
      cases other with
      | none => exact absurd (congrArg some same) unused
      | some twin => exact congrArg some same

/-- Where everything is posted, the batch of each row is among those that were drained. -/
theorem drained_of_transmits {after : Sending} {drained : List (Option ℕ × List Waiting)}
    {left : List Waiting}
    (unused : ∀ row ∈ waitingRows casinoGroupId world.db, row.batchId ≠ some world.uuids)
    (drains : (settlementDepot replies casinoGroupId world).Drains (First around) 100
      (waitingRows casinoGroupId world.db) drained left)
    (carried : List.Forall₂ (PostedBatch.Carries casinoGroupId world) after.posted drained)
    (transmits : Transmits replies casinoGroupId world after) :
    ∀ row ∈ waitingRows casinoGroupId world.db, row.batchId ∈ drained.map Prod.fst := by
  intro row member
  obtain ⟨batch, posted, own⟩ := transmits.posted row member
  obtain ⟨pair, listed, carries⟩ := exists_related carried.flip batch posted
  obtain ⟨known, _, _⟩ := drains.posted_members (fun _ _ first => first.1) pair listed
  obtain ⟨other, there, same⟩ := mem_groups.mp known
  have ids : pair.1.getD world.uuids = row.batchId.getD world.uuids :=
    carries.2.1.symm.trans own.2.1
  have otherUnused : pair.1 ≠ some world.uuids := same ▸ unused other there
  have equal : pair.1 = row.batchId := eq_of_getD otherUnused (unused row member) ids
  rw [← equal]
  exact List.mem_map_of_mem listed

end Outcome

section Order

/-- Among rows of the same time, the database puts the rows of this bet first. -/
def favouring (betId : String) : Surroundings where
  elapsed _ := 0
  choices _ := { Sample.plainly "" with rank := fun other => if other = betId then 0 else 1 }
  faultless _ := rfl

theorem eq_of_betId {first second : Waiting} (member : first ∈ waitingRows casinoGroupId world.db)
    (other : second ∈ waitingRows casinoGroupId world.db) (same : first.key.1 = second.key.1) :
    first = second := by
  obtain ⟨row, stored, pending, rfl⟩ := mem_waitingRows.mp member
  obtain ⟨twin, there, waits, rfl⟩ := mem_waitingRows.mp other
  simp only [pendingSettlementOf, Bool.and_eq_true, decide_eq_true_eq] at pending waits
  have key : row.key = twin.key := Prod.ext same (pending.1.2.trans waits.1.2.symm)
  rw [Table.eq_of_key stored there key]

theorem favoured {blocked anchor : Waiting} {rest : List Waiting}
    (sub : rest ⊆ waitingRows casinoGroupId world.db)
    (first : First (favouring blocked.key.1) anchor rest) (member : blocked ∈ rest)
    (old : blocked.createdAt ≤ anchor.createdAt) : anchor = blocked := by
  obtain ⟨own, calls, before⟩ := first
  rcases before blocked member with less | ⟨_, rank⟩
  · exact absurd less (not_lt.mpr old)
  · apply eq_of_betId (sub own) (sub member)
    by_contra differs
    simp [favouring, differs] at rank

theorem unhindered_of_alwaysTransmits
    (unused : ∀ row ∈ waitingRows casinoGroupId world.db, row.batchId ≠ some world.uuids)
    (always : AlwaysTransmits replies casinoGroupId staffUserId world) :
    (settlementDepot replies casinoGroupId world).Unhindered 100
      (waitingRows casinoGroupId world.db) := by
  have present : ∀ around (anchor : Waiting) rows, First around anchor rows → anchor ∈ rows :=
    fun _ _ _ first => first.1
  have run : ∀ around, ∃ drained left, (settlementDepot replies casinoGroupId world).Drains
      (First around) 100 (waitingRows casinoGroupId world.db) drained left ∧
      ∀ row ∈ waitingRows casinoGroupId world.db, row.batchId ∈ drained.map Prod.fst := by
    intro around
    obtain ⟨_, after, drained, left, ran, drains, _, carried⟩ :=
      retryAlone_drains replies around casinoGroupId staffUserId world
    have transmits := always around
    rw [ran] at transmits
    exact ⟨drained, left, drains, drained_of_transmits unused drains carried transmits⟩
  constructor
  · intro row member
    obtain ⟨drained, left, drains, posted⟩ := run (favouring "")
    obtain ⟨pair, listed, same⟩ := List.mem_map.mp (posted row member)
    have sends := (drains.posted_members (present _) pair listed).2.2
    rwa [same] at sends
  · obtain ⟨drained, left, drains, posted⟩ := run (favouring "")
    exact drains.few posted
  · intro refused member reaction other there differs
    by_contra unordered
    push Not at unordered
    obtain ⟨blocked, listed, same, older⟩ := exists_blocked member unordered
    obtain ⟨drained, left, drains, posted⟩ := run (favouring blocked.key.1)
    refine drains.not_posted (present _) (fun _ _ => favoured) listed ?_ ?_ older (posted other there)
    · rw [same]
      exact reaction
    · rw [same]
      exact differs

end Order

/-- Whatever is pending is transmitted if and only if every batch can be sent, there are at most
a hundred of them, and a refused batch is younger than all others. -/
theorem alwaysTransmits_iff
    (unused : ∀ row ∈ waitingRows casinoGroupId world.db, row.batchId ≠ some world.uuids) :
    AlwaysTransmits replies casinoGroupId staffUserId world ↔
      (settlementDepot replies casinoGroupId world).Unhindered 100
        (waitingRows casinoGroupId world.db) :=
  ⟨unhindered_of_alwaysTransmits unused, alwaysTransmits_of_unhindered⟩

section Samples

/-- The credit of a bet that was won. -/
def wonRow (betId : String) (batchId : ℕ) (createdAt : Time) : WalletOutbox where
  betId := betId
  casinoGroupId := "group"
  type := .walletSettle
  transactionCode := .settlement betId .won
  batchId := some batchId
  payload := some ⟨"user", "group", betId, .settlement betId .won, "match", "league", 1, true, false,
    "20.00", "", createdAt⟩
  status := .pending
  attempts := 1
  lastError := none
  nextRetryAt := some 60000
  createdAt := createdAt

/-- Two batches of one row each are pending. -/
def twoBatches : World :=
  { Sample.world with
    db := { Sample.world.db with
      ledger := { Ledger.empty with
        walletOutbox := ⟨[wonRow "first" 0 1, wonRow "second" 1 2], by decide +kernel⟩ } }
    uuids := 2 }

/-- The wallet accepts all batches but this one. -/
def refusing (refused batchId : ℕ) : HttpReply :=
  if batchId = refused then .failure (some 500) none
  else .response (some ⟨true, .absent, some 0⟩)

/-- With the older batch refused, the other one is never posted. -/
theorem younger_batch_stranded :
    ¬ AlwaysTransmits (refusing 0) "group" "staff" twoBatches := by
  intro always
  obtain ⟨batch, posted, _, id, _⟩ := (always (favouring "")).posted
    (wonRow "second" 1 2).waiting (by decide +kernel)
  have only : (retryAlone (refusing 0) (favouring "") "group" "staff" twoBatches).2.posted.map
      PostedBatch.batchId = [0] := by decide +kernel
  have member : batch.batchId ∈ [0] := only ▸ List.mem_map_of_mem posted
  rw [id] at member
  exact absurd member (by decide)

theorem older_batch_transmitted :
    AlwaysTransmits (refusing 1) "group" "staff" twoBatches := by
  refine (alwaysTransmits_iff (by decide +kernel)).mpr ⟨?_, ?_, ?_⟩
  · decide +kernel
  · decide +kernel
  · decide +kernel

end Samples

end SportsBetting.StaffSettlementService
