import SportsBetting.Settlement.Service
import SportsBetting.Wallet.Calls

/-!
# What settlement calls

Grading only reads. A run settles the bets that it graded, and delivers.
-/

namespace SportsBetting

open Async Program SettlementService WalletOutboxService

/-- Reads that depend neither on the clock nor on the order of rows. -/
def BettingCall.Viewing {Reply : Type} : BettingCall Reply → Prop
  | .read look => ∀ db first second, look db first = look db second
  | _ => False

/-- Reads, deliveries, and the settlement of bets. -/
def BettingCall.Settles {Reply : Type} : BettingCall Reply → Prop
  | .write (.settleBet ..) => True
  | request => request.Posting

theorem BettingCall.Viewing.settles {Reply : Type} {request : BettingCall Reply}
    (viewing : request.Viewing) : request.Settles := by
  cases request with
  | read look => trivial
  | write | randomUUID | getBalance | postTransaction | postBatch => exact viewing.elim

theorem BettingCall.Posting.settles {Reply : Type} {request : BettingCall Reply}
    (posting : request.Posting) : request.Settles := by
  cases request with
  | write transaction =>
      cases transaction with
      | settleBet => trivial
      | _ => exact posting
  | read | randomUUID | getBalance | postTransaction | postBatch => trivial

variable {runtime : Text.Runtime} {α : Type}

section Grading

theorem view_viewing (look : Database → α) : (view look).CallsOnly BettingCall.Viewing :=
  (callsOnly_call _).mpr fun _ _ _ => rfl

theorem gradeBet_viewing (betId : String) :
    (gradeBet runtime betId).CallsOnly BettingCall.Viewing := by
  apply CallsOnly.bind (view_viewing _)
  intro bet?
  cases bet? with
  | none => trivial
  | some bet =>
      apply CallsOnly.bind
      · apply CallsOnly.foldlM
        intro contexts leg
        apply CallsOnly.bind
        · apply CallsOnly.bind (view_viewing _)
          intro event?
          apply CallsOnly.bind (view_viewing _)
          intro market?
          split
          · split
            · trivial
            · exact CallsOnly.bind (view_viewing _) fun _ => trivial
          · trivial
        · intro _
          trivial
      · intro _
        trivial

theorem gradeBets_viewing (betIds : List String) :
    (gradeBets runtime betIds).CallsOnly BettingCall.Viewing :=
  CallsOnly.foldlM (fun _ betId => by
    apply CallsOnly.bind (gradeBet_viewing betId)
    exact fun _ => trivial) betIds []

end Grading

section Runs

theorem settles_of_viewing {program : Betting α} (viewing : program.CallsOnly BettingCall.Viewing) :
    program.CallsOnly BettingCall.Settles :=
  viewing.mono fun _ => BettingCall.Viewing.settles

theorem settles_of_posting {program : Betting α} (posting : program.CallsOnly BettingCall.Posting) :
    program.CallsOnly BettingCall.Settles :=
  posting.mono fun _ => BettingCall.Posting.settles

theorem batchIdFor_posting (batchIdByGroup : List (String × ℕ)) (casinoGroupId : String) :
    (batchIdFor batchIdByGroup casinoGroupId).CallsOnly BettingCall.Posting := by
  unfold batchIdFor
  split
  · trivial
  · exact CallsOnly.bind randomUUID_posting fun _ => trivial

theorem applySettlements_settles (graded : List GradedBet) :
    (applySettlements graded).CallsOnly BettingCall.Settles := by
  apply CallsOnly.bind
  · apply CallsOnly.foldlM
    intro batchIdByGroup entry
    apply CallsOnly.bind (settles_of_posting (batchIdFor_posting batchIdByGroup _))
    rintro ⟨batchId, batchIdByGroup⟩
    have settled : (transact (.settleBet entry batchId)).CallsOnly BettingCall.Settles :=
      (callsOnly_call _).mpr trivial
    exact CallsOnly.bind settled fun _ => trivial
  · intro _
    exact CallsOnly.bind (settles_of_posting flushSettlementBatches_posting) fun _ => trivial

theorem settleBatch_settles : (settleBatch runtime).CallsOnly BettingCall.Settles := by
  apply CallsOnly.bind (settles_of_posting (read_posting _))
  intro bets
  apply CallsOnly.bind (settles_of_viewing (gradeBets_viewing _))
  intro graded
  split
  · trivial
  · exact CallsOnly.bind (applySettlements_settles _) fun _ => trivial

theorem trySettleBet_settles (betId : String) :
    (trySettleBet runtime betId).CallsOnly BettingCall.Settles := by
  apply CallsOnly.bind (settles_of_viewing (gradeBet_viewing betId))
  intro graded
  cases graded with
  | none => trivial
  | some graded => exact CallsOnly.bind (applySettlements_settles _) fun _ => trivial

theorem settleBetsForEvent_settles (eventId casinoGroupId : String) :
    (settleBetsForEvent runtime eventId casinoGroupId).CallsOnly BettingCall.Settles := by
  apply CallsOnly.bind (settles_of_posting (read_posting _))
  intro bets
  apply CallsOnly.bind
  · apply CallsOnly.foldlM
    intro settled betId
    exact CallsOnly.bind (trySettleBet_settles betId) fun _ => trivial
  · intro _
    trivial

end Runs

end SportsBetting
