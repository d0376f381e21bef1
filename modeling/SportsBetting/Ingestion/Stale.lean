import SportsBetting.Ingestion.Results

/-!
# Bets that wait for a result

A run that comes to the stale bets leaves a note on each accepted bet with an overdue event
and clears the notes of the other accepted bets.
-/

namespace SportsBetting.ResultsIngestService

open Async

section Notes

variable (staleHours : ℕ) (cutoff : Time) (db : Database)

/-- One of the events of the bet has started before the cutoff, and has not ended. -/
def Overdue (bet : Bet) : Prop :=
  ∃ leg ∈ bet.legs, ∃ event ∈ db.catalog.events, event.providerRef = leg.eventId ∧
    event.status ≠ .ended ∧ ∃ fixture ∈ db.catalog.fixtures,
      fixture.providerRef = event.fixture ∧ fixture.startsAt < cutoff

def isOverdue (bet : Bet) : Bool := overdue cutoff (bet.legs.map BetLeg.eventId).eraseDups db

theorem isOverdue_iff {bet : Bet} : isOverdue cutoff db bet = true ↔ Overdue cutoff db bet := by
  simp only [isOverdue, overdue, Overdue, List.any_eq_true, Bool.and_eq_true, decide_eq_true_eq,
    List.mem_eraseDups, List.mem_map, Option.any_eq_true, Table.get?_eq_some_iff, Table.mem_rows]
  constructor
  · rintro ⟨event, stored, ⟨⟨leg, member, same⟩, waits⟩, fixture, ⟨present, own⟩, early⟩
    exact ⟨leg, member, event, stored, same.symm, waits, fixture, present, own, early⟩
  · rintro ⟨leg, member, event, stored, same, waits, fixture, present, own, early⟩
    exact ⟨event, stored, ⟨⟨leg, member, same.symm⟩, waits⟩, fixture, ⟨present, own⟩, early⟩

/-- The bet with the note that it is left with. -/
def renoted (bet : Bet) : Bet :=
  { bet with settlementNote :=
      if isOverdue cutoff db bet then some (staleNote staleHours)
      else if bet.settlementNote.getD "" = "" then bet.settlementNote else none }

/-- The bet is overdue, and its note does not say so. -/
def isNews (bet : Bet) : Bool :=
  isOverdue cutoff db bet && bet.settlementNote ≠ some (staleNote staleHours)

def noteBets (chosen : Bet → Bool) : Database :=
  { db with ledger := db.ledger.modifyBets chosen (renoted staleHours cutoff db) }

def isAccepted (bet : Bet) : Bool := bet.status = .accepted

end Notes

section Rows

variable {staleHours : ℕ} {cutoff : Time} {db : Database} {bet : Bet}

theorem ledger_eq {first second : Ledger} (bets : first.bets.rows = second.bets.rows)
    (outbox : first.walletOutbox = second.walletOutbox) : first = second := by
  obtain ⟨⟨rows, _⟩, _, _⟩ := first
  obtain ⟨⟨others, _⟩, _, _⟩ := second
  obtain rfl : rows = others := bets
  obtain rfl := outbox
  rfl

/-- Which rows are noted is all that matters, and of them those that change. -/
theorem noteBets_congr {chosen others : Bet → Bool}
    (same : ∀ bet ∈ db.ledger.bets, chosen bet ≠ others bet →
      renoted staleHours cutoff db bet = bet) :
    noteBets staleHours cutoff db chosen = noteBets staleHours cutoff db others := by
  unfold noteBets
  congr 1
  refine ledger_eq (List.map_congr_left fun bet stored => ?_) rfl
  by_cases agree : chosen bet = others bet
  · rw [agree]
  · rw [same bet stored agree]
    simp

/-- One more bet is noted. -/
theorem updateSettlementNote_noted (staleHours : ℕ) (cutoff : Time) {ids : List String}
    (stored : bet ∈ db.ledger.bets) (fresh : bet.id ∉ ids) :
    updateSettlementNote (noteBets staleHours cutoff db fun bet => bet.id ∈ ids) bet.id
        (renoted staleHours cutoff db bet).settlementNote =
      .ok (noteBets staleHours cutoff db fun other => other.id ∈ ids ++ [bet.id]) := by
  have present : (noteBets staleHours cutoff db fun bet => bet.id ∈ ids).ledger.bets.get? bet.id =
      (db.ledger.bets.get? bet.id).map fun other =>
        if other.id ∈ ids then renoted staleHours cutoff db other else other := by
    refine (Table.get?_updateWhere db.ledger.bets (fun bet => bet.id ∈ ids)
      (renoted staleHours cutoff db) (fun _ => rfl) bet.id).trans ?_
    simp only [decide_eq_true_eq]
  unfold updateSettlementNote
  rw [if_neg (by rw [present, Table.get?_of_mem stored]; simp)]
  congr 1
  unfold noteBets
  congr 1
  refine ledger_eq ?_ rfl
  refine (List.map_map ..).trans (List.map_congr_left fun other member => ?_)
  by_cases own : other.id = bet.id
  · obtain rfl : other = bet := Table.eq_of_key (Table.mem_rows.mp member) stored own
    simp [fresh, renoted]
  · simp only [List.mem_append, List.mem_singleton, own, or_false, Function.comp_apply]
    by_cases before : other.id ∈ ids
    · simp [before, renoted, own]
    · simp [before, own]

theorem mem_noteBets {chosen : Bet → Bool} :
    bet ∈ (noteBets staleHours cutoff db chosen).ledger.bets ↔ ∃ old ∈ db.ledger.bets,
      (if chosen old then renoted staleHours cutoff db old else old) = bet := by
  change bet ∈ db.ledger.bets.updateWhere chosen (renoted staleHours cutoff db) (fun _ => rfl) ↔ _
  exact Table.mem_updateWhere

theorem isOverdue_congr {after : Database} (same : after.catalog = db.catalog) (bet : Bet) :
    isOverdue cutoff after bet = isOverdue cutoff db bet := by
  unfold isOverdue overdue
  rw [same]

end Rows

section Loop

variable {staleHours : ℕ} {cutoff : Time} {db : Database} {bet : Bet} {ids : List String}

/-- A bet that is left as it is may count as noted. -/
theorem noteBets_spared (stored : bet ∈ db.ledger.bets)
    (same : renoted staleHours cutoff db bet = bet) :
    noteBets staleHours cutoff db (fun bet => bet.id ∈ ids) =
      noteBets staleHours cutoff db fun other => other.id ∈ ids ++ [bet.id] := by
  refine noteBets_congr fun other present differs => ?_
  have own : other.id = bet.id := by
    by_contra apart
    exact differs (by simp [apart])
  rwa [Table.eq_of_key present stored own]

theorem eval_flagStaleBet (staleHours : ℕ) (cutoff : Time) (stored : bet ∈ db.ledger.bets)
    (fresh : bet.id ∉ ids) (flagged : ℕ) :
    (flagStaleBet staleHours cutoff flagged bet).eval
        (noteBets staleHours cutoff db fun bet => bet.id ∈ ids) =
      (.ok (flagged + if isNews staleHours cutoff db bet then 1 else 0),
        noteBets staleHours cutoff db fun other => other.id ∈ ids ++ [bet.id]) := by
  have written := updateSettlementNote_noted staleHours cutoff stored fresh
  refine (Program.eval_read_bind _ _ _).trans ?_
  change (if isOverdue cutoff db bet then _ else _ : Service ℕ).eval _ = _
  cases late : isOverdue cutoff db bet with
  | true =>
      rw [if_pos rfl]
      by_cases known : bet.settlementNote = some (staleNote staleHours)
      · have same : renoted staleHours cutoff db bet = bet := by simp [renoted, late, ← known]
        rw [if_pos known, noteBets_spared stored same]
        simp [isNews, late, known]
      · have note : (renoted staleHours cutoff db bet).settlementNote =
            some (staleNote staleHours) := by
          simp [renoted, late]
        rw [note] at written
        rw [if_neg known]
        refine (Program.eval_attempt_bind_ok written _).trans ?_
        simp [isNews, late, known]
  | false =>
      rw [if_neg (by simp)]
      by_cases bare : bet.settlementNote.getD "" = ""
      · have same : renoted staleHours cutoff db bet = bet := by simp [renoted, late, bare]
        rw [if_pos bare, noteBets_spared stored same]
        simp [isNews, late]
      · have note : (renoted staleHours cutoff db bet).settlementNote = none := by
          simp [renoted, late, bare]
        rw [note] at written
        rw [if_neg bare]
        refine (Program.eval_attempt_bind_ok written _).trans ?_
        simp [isNews, late]

/-- The bets of the loop are noted one after the other. -/
theorem eval_flagLoop (staleHours : ℕ) (cutoff : Time) {bets : List Bet}
    (stored : ∀ bet ∈ bets, bet ∈ db.ledger.bets) (distinct : (bets.map Bet.id).Nodup) (fresh : ∀ bet ∈ bets, bet.id ∉ ids) (flagged : ℕ) :
    (bets.foldlM (flagStaleBet staleHours cutoff) flagged).eval
        (noteBets staleHours cutoff db fun bet => bet.id ∈ ids) =
      (.ok (flagged + bets.countP (isNews staleHours cutoff db)),
        noteBets staleHours cutoff db fun bet => bet.id ∈ ids ++ bets.map Bet.id) := by
  induction bets generalizing ids flagged with
  | nil => simp
  | cons bet rest ih =>
      obtain ⟨apart, distinct⟩ := List.nodup_cons.mp distinct
      have others : ∀ other ∈ rest, other.id ∉ ids ++ [bet.id] := by
        intro other member
        have differs : other.id ≠ bet.id := fun same => apart (same ▸ List.mem_map_of_mem member)
        simp [fresh other (List.mem_cons_of_mem _ member), differs]
      have first := eval_flagStaleBet staleHours cutoff
        (stored bet List.mem_cons_self) (fresh bet List.mem_cons_self) flagged
      rw [List.foldlM_cons, Program.eval_bind, first]
      dsimp only
      rw [ih (fun other member => stored other (List.mem_cons_of_mem _ member)) distinct others]
      rw [List.countP_cons, List.map_cons, List.append_cons ids bet.id (rest.map Bet.id)]
      congr 2
      ring

/-- **What the check comes to.** -/
theorem eval_flagStaleBets (staleHours : ℕ) (now : Time) (db : Database) :
    let cutoff := now - staleHours * 60 * 60 * 1000
    (flagStaleBets staleHours now).eval db =
      (.ok ((db.ledger.bets.rows.filter isAccepted).countP (isNews staleHours cutoff db)),
        noteBets staleHours cutoff db isAccepted) := by
  intro cutoff
  have stored : ∀ bet ∈ db.ledger.bets.rows.filter isAccepted, bet ∈ db.ledger.bets :=
    fun bet member => Table.mem_rows.mp (List.mem_filter.mp member).1
  have distinct : ((db.ledger.bets.rows.filter isAccepted).map Bet.id).Nodup :=
    (List.Sublist.map Bet.id List.filter_sublist).nodup db.ledger.bets.unique
  have nothing : noteBets staleHours cutoff db (fun bet => bet.id ∈ ([] : List String)) = db := by
    have still : db.ledger.modifyBets (fun bet => bet.id ∈ ([] : List String))
        (renoted staleHours cutoff db) = db.ledger :=
      ledger_eq (by simp [Ledger.modifyBets, Table.updateWhere]) rfl
    rw [noteBets, still]
  have fresh : ∀ bet ∈ db.ledger.bets.rows.filter isAccepted, bet.id ∉ ([] : List String) :=
    fun _ _ => List.not_mem_nil
  have loop := eval_flagLoop staleHours cutoff stored distinct fresh 0
  rw [nothing, Nat.zero_add, List.nil_append] at loop
  refine (Program.eval_read_bind _ _ db).trans (loop.trans ?_)
  congr 1
  refine noteBets_congr fun bet present differs => absurd ?_ differs
  have listed : bet.id ∈ (db.ledger.bets.rows.filter isAccepted).map Bet.id ↔
      isAccepted bet = true := by
    constructor
    · intro member
      obtain ⟨other, kept, same⟩ := List.mem_map.mp member
      obtain ⟨accepted, own⟩ := List.mem_filter.mp kept
      rwa [Table.eq_of_key (Table.mem_rows.mp accepted) present same] at own
    · exact fun accepted => List.mem_map_of_mem (List.mem_filter.mpr ⟨present, accepted⟩)
  exact Bool.eq_iff_iff.mpr (by simpa using listed)

end Loop

end SportsBetting.ResultsIngestService
