import SportsBetting.Async.Solo
import SportsBetting.Bets.Gap
import SportsBetting.Settlement.Races
import Mathlib.Data.Finset.Card

/-!
# Settlement runs and the bets that wait

A run looks at the oldest accepted bets only, and leaves those that it can not
grade where they are. It gets on if one of them can be graded.
-/

namespace SportsBetting

open Async Ledger SettlementService Text

section Alone

/-- One call after the other takes the next choice, and nothing else happens. -/
def inOrder (choices : ℕ → Choice) : Answers BettingCall Failure (World × ℕ) :=
  fun request state =>
    let (reply, after) := state.1.answer (choices state.2) request
    (reply, after, state.2 + 1)

def Faultless (choices : ℕ → Choice) : Prop := ∀ count, (choices count).fault = .none

/-- A settlement run from start to end: what it returns, and what it leaves. -/
def settleAlone (runtime : Runtime) (choices : ℕ → Choice) (world : World) :
    Except Failure ℕ × World :=
  let (outcome, after) := (settleBatch runtime).solo (inOrder choices) (world, 0)
  (outcome, after.1)

/-- The grade that a bet gets from the database. -/
def grade (runtime : Runtime) (db : Database) (betId : String) : Option GradedBet :=
  (findAccepted db betId).bind fun bet =>
    gradeContexts runtime bet (bet.legs.map (legContext db))

/-- The bets that a run looks at. -/
def oldestBets (world : World) (choices : ℕ → Choice) : List Bet :=
  (acceptedBets world.db ⟨world.clock, (choices 0).rank⟩ fun _ => true).take BATCH_SIZE

open Program

variable {runtime : Runtime} {world : World} {choices : ℕ → Choice} {α : Type}

theorem readFrom_grade (db : Database) (moment : Moment) (betId : String) :
    readFrom db moment (gradeBet runtime betId) = some (.ok (grade runtime db betId)) := by
  unfold gradeBet grade
  rw [readFrom_bind db moment _ rfl]
  cases bet? : findAccepted db betId with
  | none =>
      simp only [bet?]
      rfl
  | some bet =>
      simp only [bet?]
      rw [readFrom_bind db moment _ (readFrom_loadLegContexts db moment _)]
      rfl

theorem readFrom_gradeBets (db : Database) (moment : Moment) (betIds : List String) :
    readFrom db moment (gradeBets runtime betIds) =
      some (.ok (betIds.filterMap (grade runtime db))) := by
  have each : ∀ graded betId, readFrom db moment (do
      let result ← gradeBet runtime betId
      return graded ++ result.toList) = some (.ok (graded ++ (grade runtime db betId).toList)) := by
    intro graded betId
    rw [readFrom_bind db moment _ (readFrom_grade db moment betId)]
    rfl
  have appended : ∀ graded, betIds.foldl
      (fun graded betId => graded ++ (grade runtime db betId).toList) graded =
        graded ++ betIds.filterMap (grade runtime db) := by
    induction betIds with
    | nil => simp
    | cons betId rest ih =>
        intro graded
        rw [List.foldl_cons, ih, List.filterMap_cons]
        cases grade runtime db betId <;> simp
  rw [gradeBets, readFrom_foldlM db moment each, appended, List.nil_append]

/-- Without faults, a program that only views returns what it reads. -/
theorem solo_of_readFrom (faultless : Faultless choices) {program : Betting α} {moment : Moment}
    {outcome : Except Failure α} (viewing : program.CallsOnly BettingCall.Viewing)
    (read : readFrom world.db moment program = some outcome) (count : ℕ) :
    ∃ later, program.solo (inOrder choices) (world, count) = (outcome, world, later) := by
  induction program generalizing count with
  | done ended =>
      obtain rfl := Option.some.inj read
      exact ⟨count, rfl⟩
  | await request next ih =>
      cases request with
      | read look =>
          have seen : inOrder choices (.read look) (world, count) =
              (.ok (look world.db moment), world, count + 1) := by
            simp only [inOrder, World.answer, faultless count]
            rw [viewing.1 world.db _ moment]
          unfold solo
          rw [seen]
          exact ih _ (viewing.2 _) read (count + 1)
      | write | randomUUID | getBalance | postTransaction | postBatch => cases read

end Alone

section Settled

/-- The bet of the entry is settled. -/
def Ledger.Entry.isSettled (entry : Entry) : Bool :=
  match entry.bet with
  | some bet => bet.status = .won || bet.status = .lost || bet.status = .void
  | none => false

theorem Ledger.Entry.isSettled_iff {entry : Entry} : entry.isSettled = true ↔
    ∃ bet, entry.bet = some bet ∧ (bet.status = .won ∨ bet.status = .lost ∨ bet.status = .void) := by
  unfold isSettled
  cases entry.bet with
  | none => simp
  | some bet => simp [or_assoc]

theorem Ledger.Entry.isAccepted_of_settled {entry : Entry} (settled : entry.isSettled = true) :
    entry.isAccepted = false := by
  obtain ⟨bet, stored, status⟩ := isSettled_iff.mp settled
  unfold isAccepted
  rw [stored]
  rcases status with won | lost | void <;> simp [*]

/-- The bet was accepted before, and is settled now. -/
def Settles (before after : Database) (betId : String) : Prop :=
  (before.ledger.entry betId).isAccepted = true ∧ (after.ledger.entry betId).isSettled = true

/-- Bets are left alone or settled, and the catalog is what it was. -/
structure OnlySettles (before after : Database) : Prop where
  catalog : after.catalog = before.catalog
  bets : ∀ betId, (after.ledger.entry betId).bet = (before.ledger.entry betId).bet ∨
    Settles before after betId

/-- Calls that settle no other bets than those that were accepted before. -/
def BettingCall.Settling (before : Database) {Reply : Type} : BettingCall Reply → Prop
  | .write (.settleBet graded _) => (before.ledger.entry graded.bet.id).isAccepted = true
  | .write transaction => transaction.RowsOnly
  | _ => True

variable {before : Database} {world : World} {choices : ℕ → Choice} {Reply : Type}

/-- What one call of a settlement run does to a bet. -/
theorem settling_entry (world : World) {request : BettingCall Reply}
    (settling : request.Settling before) (choice : Choice) (betId : String) :
    ((world.answer choice request).2.db.ledger.entry betId).bet =
        (world.db.ledger.entry betId).bet ∨
      (before.ledger.entry betId).isAccepted = true ∧
        ((world.answer choice request).2.db.ledger.entry betId).isSettled = true := by
  refine World.answer_ledger world (fun ledger =>
    (ledger.entry betId).bet = (world.db.ledger.entry betId).bet ∨
      (before.ledger.entry betId).isAccepted = true ∧ (ledger.entry betId).isSettled = true)
    choice request ?_ (.inl rfl)
  intro write same _ reply db ran
  subst same
  cases write with
  | settleBet graded batchId =>
      obtain ⟨old, credit, built, _, _, _, now, others⟩ := settleBet_ok ran
      obtain ⟨_, _, _, status, _⟩ := settlementCredit_ok built
      by_cases own : betId = graded.bet.id
      · subst own
        refine .inr ⟨settling, Entry.isSettled_iff.mpr ⟨_, now, ?_⟩⟩
        dsimp only [Credit.update]
        rw [status]
        cases graded.betResult <;> simp [WalletSettlementOutcome.status]
      · exact .inl (by rw [others betId own])
  | createBet | acceptBet | rejectBet | voidBet => exact settling.elim
  | setTransactionCode | scheduleRetry | completeRow | assignBatch | completeBatch | clearRetries |
      recordAudit =>
      refine .inl ?_
      rw [Write.entry_of_rowsOnly ran trivial]
      simp [Entry.map]

theorem isSettled_answer {request : BettingCall Reply} (settling : request.Settling before)
    (choice : Choice) {betId : String}
    (settled : (world.db.ledger.entry betId).isSettled = true) :
    ((world.answer choice request).2.db.ledger.entry betId).isSettled = true := by
  rcases settling_entry world settling choice betId with same | ⟨_, now⟩
  · unfold Entry.isSettled at settled ⊢
    rwa [same]
  · exact now

theorem onlySettles_answer {request : BettingCall Reply} (settling : request.Settling before)
    (choice : Choice) (only : OnlySettles before world.db) :
    OnlySettles before (world.answer choice request).2.db := by
  refine ⟨(World.answer_catalog world choice request).trans only.catalog, fun betId => ?_⟩
  rcases settling_entry world settling choice betId with same | now
  · rcases only.bets betId with unchanged | ⟨accepted, settled⟩
    · exact .inl (same.trans unchanged)
    · exact .inr ⟨accepted, isSettled_answer settling choice settled⟩
  · exact .inr now

end Settled

section Run

open Program WalletOutboxService

variable {runtime : Runtime} {before : Database} {world : World} {choices : ℕ → Choice} {α : Type}

theorem BettingCall.Posting.settling {Reply : Type} {request : BettingCall Reply}
    (posting : request.Posting) : request.Settling before := by
  cases request with
  | write transaction => cases transaction <;> first | exact posting.elim | trivial
  | read | randomUUID | getBalance | postTransaction | postBatch => trivial

theorem persist_settling {graded : List GradedBet}
    (accepted : ∀ entry ∈ graded, (before.ledger.entry entry.bet.id).isAccepted = true)
    (batchIdByGroup : List (String × ℕ)) :
    (graded.foldlM (fun batchIdByGroup entry => do
      let (batchId, batchIdByGroup) ← batchIdFor batchIdByGroup entry.bet.casinoGroupId
      let _ ← transact (.settleBet entry batchId)
      return batchIdByGroup : List (String × ℕ) → GradedBet → Betting (List (String × ℕ)))
      batchIdByGroup).CallsOnly (BettingCall.Settling before) := by
  induction graded generalizing batchIdByGroup with
  | nil => trivial
  | cons entry rest ih =>
      rw [List.foldlM_cons]
      apply CallsOnly.bind
      · apply CallsOnly.bind
        · exact (batchIdFor_posting batchIdByGroup _).mono fun _ => BettingCall.Posting.settling
        · rintro ⟨batchId, batchIdByGroup⟩
          have own : (BettingCall.write (.settleBet entry batchId)).Settling before :=
            accepted entry List.mem_cons_self
          exact CallsOnly.bind ((callsOnly_call _).mpr own) fun _ => trivial
      · exact fun batchIdByGroup =>
          ih (fun other member => accepted other (List.mem_cons_of_mem _ member)) batchIdByGroup

theorem flush_settling : flushSettlementBatches.CallsOnly (BettingCall.Settling before) :=
  flushSettlementBatches_posting.mono fun _ => BettingCall.Posting.settling

theorem applySettlements_settling {graded : List GradedBet}
    (accepted : ∀ entry ∈ graded, (before.ledger.entry entry.bet.id).isAccepted = true) :
    (applySettlements graded).CallsOnly (BettingCall.Settling before) :=
  CallsOnly.bind (persist_settling accepted []) fun _ =>
    CallsOnly.bind flush_settling fun _ => trivial

/-- A settlement that is carried out settles its bet. -/
theorem settled_of_written {entry : GradedBet} {batchId : ℕ} {bet : Bet}
    {state after : World × ℕ} (wrote : (transact (.settleBet entry batchId)).solo (inOrder choices)
      state = (.ok bet, after)) :
    (after.1.db.ledger.entry entry.bet.id).isSettled = true := by
  have answered : inOrder choices (.write (.settleBet entry batchId)) state = (.ok bet, after) :=
    wrote
  simp only [inOrder, World.answer] at answered
  rcases state.1.commit_cases (choices state.2).fault (fun db =>
    (Write.settleBet entry batchId).run (choices state.2).freshId state.1.clock db) with
    ⟨failure, failed, _⟩ | ⟨reply, db, ran, done | lost⟩
  · simp [failed] at answered
  · rw [done] at answered
    obtain ⟨_, rfl⟩ := Prod.mk.inj answered
    obtain ⟨old, credit, built, _, _, _, now, _⟩ := settleBet_ok ran
    obtain ⟨_, _, _, status, _⟩ := settlementCredit_ok built
    refine Entry.isSettled_iff.mpr ⟨_, now, ?_⟩
    dsimp only [Credit.update]
    rw [status]
    cases entry.betResult <;> simp [WalletSettlementOutcome.status]
  · simp [lost] at answered

/-- A run that returns has settled the first bet it graded. -/
theorem settles_first {first : GradedBet} {rest : List GradedBet} {state : World × ℕ}
    (accepted : ∀ entry ∈ rest, (before.ledger.entry entry.bet.id).isAccepted = true)
    (returned : ((applySettlements (first :: rest)).solo (inOrder choices) state).1 = .ok ()) :
    (((applySettlements (first :: rest)).solo (inOrder choices) state).2.1.db.ledger.entry
      first.bet.id).isSettled = true := by
  unfold applySettlements persistGradedSettlements at returned ⊢
  simp only [List.foldlM_cons, bind_assoc, pure_bind] at returned ⊢
  obtain ⟨⟨batchId, batchIdByGroup⟩, drawn, drew⟩ := solo_bind_returns returned
  rw [solo_bind_ok drew] at returned ⊢
  obtain ⟨bet, after, wrote⟩ := solo_bind_returns returned
  rw [solo_bind_ok wrote]
  have keeps : ∀ {Reply : Type} (request : BettingCall Reply) (state : World × ℕ),
      request.Settling before → (state.1.db.ledger.entry first.bet.id).isSettled = true →
        ((inOrder choices request state).2.1.db.ledger.entry first.bet.id).isSettled = true :=
    fun _ _ settling settled => isSettled_answer settling _ settled
  refine solo_keeps keeps ?_ (settled_of_written wrote)
  apply CallsOnly.bind
  · exact persist_settling accepted batchIdByGroup
  · exact fun _ => CallsOnly.bind flush_settling fun _ => trivial

/-- The grades that a run finds. -/
def gradedOldest (runtime : Runtime) (world : World) (choices : ℕ → Choice) : List GradedBet :=
  ((oldestBets world choices).map Bet.id).filterMap (grade runtime world.db)

/-- What is graded is the stored bet, with its legs in order. -/
theorem bet_of_grade {db : Database} {betId : String} {graded : GradedBet}
    (passes : grade runtime db betId = some graded) :
    ∃ bet, (db.ledger.entry betId).bet = some bet ∧ bet.status = .accepted ∧ bet.id = betId ∧
      graded.bet = { bet with legs := sortLegs bet.legs } := by
  unfold grade findAccepted at passes
  obtain ⟨bet, accepted, all⟩ := Option.bind_eq_some_iff.mp passes
  obtain ⟨stored, there, rfl⟩ := Option.map_eq_some_iff.mp accepted
  obtain ⟨row, status⟩ := Option.filter_eq_some_iff.mp there
  exact ⟨stored, row, by simpa using status, (Table.get?_eq_some_iff.mp row).2,
    (Premises.gradeContexts_some all).1⟩

theorem accepted_of_grade {db : Database} {betId : String} {graded : GradedBet}
    (passes : grade runtime db betId = some graded) :
    graded.bet.id = betId ∧ (db.ledger.entry betId).isAccepted = true := by
  obtain ⟨bet, stored, status, own, same⟩ := bet_of_grade passes
  rw [same]
  exact ⟨own, Entry.isAccepted_iff.mpr ⟨bet, stored, status⟩⟩

theorem accepted_of_gradedOldest {entry : GradedBet}
    (member : entry ∈ gradedOldest runtime world choices) :
    (world.db.ledger.entry entry.bet.id).isAccepted = true := by
  obtain ⟨betId, _, passes⟩ := List.mem_filterMap.mp member
  obtain ⟨rfl, accepted⟩ := accepted_of_grade passes
  exact accepted

/-- The run comes to storing what it has graded. -/
theorem solo_settleBatch (runtime : Runtime) (world : World) (faultless : Faultless choices) :
    ∃ later, (settleBatch runtime).solo (inOrder choices) (world, 0) =
      (if gradedOldest runtime world choices = [] then return 0
        else do
          applySettlements (gradedOldest runtime world choices)
          return (gradedOldest runtime world choices).length : Betting ℕ).solo (inOrder choices)
        (world, later) := by
  have first : (Program.call (.read fun db moment =>
      (acceptedBets db moment fun _ => true).take BATCH_SIZE) : Betting (List Bet)).solo
      (inOrder choices) (world, 0) = (.ok (oldestBets world choices), world, 1) := by
    simp only [Program.call, solo, inOrder, World.answer, faultless 0]
    rfl
  obtain ⟨later, second⟩ := solo_of_readFrom faultless
    (gradeBets_viewing ((oldestBets world choices).map Bet.id))
    (readFrom_gradeBets world.db ⟨0, fun _ => 0⟩ _) 1
  refine ⟨later, ?_⟩
  unfold settleBatch
  rw [solo_bind_ok first, solo_bind_ok second]
  rfl

theorem settleAlone_idle (faultless : Faultless choices)
    (nothing : gradedOldest runtime world choices = []) :
    settleAlone runtime choices world = (.ok 0, world) := by
  obtain ⟨later, runs⟩ := solo_settleBatch runtime world faultless
  unfold settleAlone
  rw [runs, if_pos nothing]
  rfl

theorem settleAlone_settles (faultless : Faultless choices) {first : GradedBet}
    {rest : List GradedBet} (graded : gradedOldest runtime world choices = first :: rest)
    {count : ℕ} (returned : (settleAlone runtime choices world).1 = .ok count) :
    Settles world.db (settleAlone runtime choices world).2.db first.bet.id := by
  have accepted : ∀ entry ∈ first :: rest,
      (world.db.ledger.entry entry.bet.id).isAccepted = true := by
    rw [← graded]
    exact fun entry => accepted_of_gradedOldest
  refine ⟨accepted first List.mem_cons_self, ?_⟩
  obtain ⟨later, runs⟩ := solo_settleBatch runtime world faultless
  unfold settleAlone at returned ⊢
  rw [runs, graded, if_neg (List.cons_ne_nil _ _)] at returned ⊢
  obtain ⟨⟨⟩, after, applied⟩ := solo_bind_returns returned
  have others : ∀ entry ∈ rest, (world.db.ledger.entry entry.bet.id).isAccepted = true :=
    fun entry member => accepted entry (List.mem_cons_of_mem _ member)
  have settled := settles_first others (congrArg Prod.fst applied)
  rw [applied] at settled
  rw [solo_bind_ok applied]
  exact settled

theorem onlySettles_settleAlone (faultless : Faultless choices) :
    OnlySettles world.db (settleAlone runtime choices world).2.db := by
  obtain ⟨later, runs⟩ := solo_settleBatch runtime world faultless
  have keeps : ∀ {Reply : Type} (request : BettingCall Reply) (state : World × ℕ),
      request.Settling world.db → OnlySettles world.db state.1.db →
        OnlySettles world.db (inOrder choices request state).2.1.db :=
    fun _ _ settling only => onlySettles_answer settling _ only
  have start : OnlySettles world.db (world, later).1.db := ⟨rfl, fun _ => .inl rfl⟩
  unfold settleAlone
  rw [runs]
  refine solo_keeps keeps ?_ start
  split
  · trivial
  · apply CallsOnly.bind
    · exact applySettlements_settling fun entry => accepted_of_gradedOldest
    · exact fun _ => trivial

end Run

section Progress

variable {runtime : Runtime} {world : World} {choices : ℕ → Choice}

/-- Unless it fails, the run settles a bet. -/
def SettlesSome (runtime : Runtime) (choices : ℕ → Choice) (world : World) : Prop :=
  ∀ count, (settleAlone runtime choices world).1 = .ok count →
    ∃ betId, Settles world.db (settleAlone runtime choices world).2.db betId

/-- Some bet that the run looks at can be graded. -/
def OldestGradable (runtime : Runtime) (choices : ℕ → Choice) (world : World) : Prop :=
  ∃ bet ∈ oldestBets world choices, (grade runtime world.db bet.id).isSome

theorem gradedOldest_eq_nil : gradedOldest runtime world choices = [] ↔
    ¬ OldestGradable runtime choices world := by
  unfold gradedOldest OldestGradable
  rw [List.filterMap_eq_nil_iff]
  simp [Option.isSome_iff_ne_none]

theorem settlesSome_iff (faultless : Faultless choices) :
    SettlesSome runtime choices world ↔ OldestGradable runtime choices world := by
  constructor
  · intro settles
    by_contra stuck
    have idle := settleAlone_idle faultless (gradedOldest_eq_nil.mpr stuck)
    obtain ⟨betId, accepted, settled⟩ := settles 0 (by rw [idle])
    rw [idle] at settled
    exact absurd (accepted.symm.trans (Entry.isAccepted_of_settled settled)) (by simp)
  · intro gradable count returned
    cases graded : gradedOldest runtime world choices with
    | nil => exact absurd gradable (gradedOldest_eq_nil.mp graded)
    | cons first rest => exact ⟨_, settleAlone_settles faultless graded returned⟩

end Progress

section Backlog

variable {runtime : Runtime} {before after : Database} {world : World}

/-- One run after the other. -/
def settleRuns (runtime : Runtime) (world : World) : List (ℕ → Choice) → World
  | [] => world
  | choices :: rest => settleRuns runtime (settleAlone runtime choices world).2 rest

/-- None of the runs fails. -/
def AllReturn (runtime : Runtime) (world : World) : List (ℕ → Choice) → Prop
  | [] => True
  | choices :: rest => (∃ count, (settleAlone runtime choices world).1 = .ok count) ∧
      AllReturn runtime (settleAlone runtime choices world).2 rest

def acceptedIds (db : Database) : Finset String :=
  ((db.ledger.bets.rows.filter fun bet => bet.status = .accepted).map Bet.id).toFinset

/-- The accepted bets that can not be graded. -/
def waitingIds (runtime : Runtime) (db : Database) : Finset String :=
  (acceptedIds db).filter fun betId => (grade runtime db betId).isNone

theorem mem_acceptedIds {db : Database} {betId : String} :
    betId ∈ acceptedIds db ↔ (db.ledger.entry betId).isAccepted = true := by
  rw [Entry.isAccepted_iff]
  simp only [acceptedIds, List.mem_toFinset, List.mem_map, List.mem_filter, Table.mem_rows,
    decide_eq_true_eq, Ledger.entry_bet]
  constructor
  · rintro ⟨bet, ⟨member, status⟩, own⟩
    exact ⟨bet, ⟨member, own⟩, status⟩
  · rintro ⟨bet, ⟨member, own⟩, status⟩
    exact ⟨bet, ⟨member, status⟩, own⟩

/-- Fewer waiting bets than a run looks at leave it one that can be graded. -/
theorem oldestGradable_of_few (choices : ℕ → Choice)
    (few : (waitingIds runtime world.db).card < BATCH_SIZE) {betId : String}
    (accepted : (world.db.ledger.entry betId).isAccepted = true)
    (gradable : (grade runtime world.db betId).isSome = true) :
    OldestGradable runtime choices world := by
  by_contra stuck
  have waits : ∀ bet ∈ oldestBets world choices, (grade runtime world.db bet.id).isNone = true := by
    intro bet member
    by_contra passes
    exact stuck ⟨bet, member, by simpa [Option.isSome_iff_ne_none] using passes⟩
  have each : ∀ bet ∈ acceptedBets world.db ⟨world.clock, (choices 0).rank⟩ fun _ => true,
      (world.db.ledger.entry bet.id).isAccepted = true := by
    intro bet member
    simp only [acceptedBets, List.mem_insertionSort, List.mem_filter, Bool.and_true,
      decide_eq_true_eq, Table.mem_rows] at member
    exact Entry.isAccepted_iff.mpr ⟨bet, Ledger.entry_bet.mpr ⟨member.1, rfl⟩, member.2⟩
  by_cases long : BATCH_SIZE ≤
      (acceptedBets world.db ⟨world.clock, (choices 0).rank⟩ fun _ => true).length
  · have distinct : ((oldestBets world choices).map Bet.id).Nodup :=
      ((List.take_sublist _ _).map Bet.id).nodup (nodup_acceptedBets world.db _ _)
    have within : ((oldestBets world choices).map Bet.id).toFinset ⊆
        waitingIds runtime world.db := by
      intro other member
      obtain ⟨bet, looked, rfl⟩ := List.mem_map.mp (List.mem_toFinset.mp member)
      exact Finset.mem_filter.mpr
        ⟨mem_acceptedIds.mpr (each bet (List.mem_of_mem_take looked)), waits bet looked⟩
    have card := Finset.card_le_card within
    rw [List.toFinset_card_of_nodup distinct, List.length_map, oldestBets, List.length_take,
      min_eq_left long] at card
    omega
  · obtain ⟨bet, stored, status⟩ := Entry.isAccepted_iff.mp accepted
    obtain ⟨member, rfl⟩ := Ledger.entry_bet.mp stored
    have looked : bet ∈ oldestBets world choices := by
      rw [oldestBets, List.take_of_length_le (by omega)]
      simp only [acceptedBets, List.mem_insertionSort, List.mem_filter, Bool.and_true,
        decide_eq_true_eq, Table.mem_rows]
      exact ⟨member, status⟩
    have none_ := waits bet looked
    rw [Option.isNone_iff_eq_none] at none_
    rw [none_] at gradable
    cases gradable

/-- A bet that is left alone is graded as before. -/
theorem grade_congr (catalog : after.catalog = before.catalog) {betId : String}
    (same : (after.ledger.entry betId).bet = (before.ledger.entry betId).bet) :
    grade runtime after betId = grade runtime before betId := by
  have contexts : legContext after = legContext before := by
    funext leg
    simp only [legContext, findEvent, catalog]
  have stored : after.ledger.bets.get? betId = before.ledger.bets.get? betId := same
  simp only [grade, findAccepted, contexts, stored]

namespace OnlySettles

theorem same_of_accepted (only : OnlySettles before after) {betId : String}
    (accepted : (after.ledger.entry betId).isAccepted = true) :
    (after.ledger.entry betId).bet = (before.ledger.entry betId).bet := by
  rcases only.bets betId with same | ⟨_, settled⟩
  · exact same
  · exact absurd (accepted.symm.trans (Entry.isAccepted_of_settled settled)) (by simp)

theorem acceptedIds_subset (only : OnlySettles before after) :
    acceptedIds after ⊆ acceptedIds before := by
  intro betId member
  have accepted := mem_acceptedIds.mp member
  refine mem_acceptedIds.mpr ?_
  unfold Entry.isAccepted at accepted ⊢
  rwa [only.same_of_accepted (mem_acceptedIds.mp member)] at accepted

theorem waitingIds_subset (only : OnlySettles before after) :
    waitingIds runtime after ⊆ waitingIds runtime before := by
  intro betId member
  obtain ⟨accepted, waits⟩ := Finset.mem_filter.mp member
  refine Finset.mem_filter.mpr ⟨only.acceptedIds_subset accepted, ?_⟩
  rwa [grade_congr only.catalog (only.same_of_accepted (mem_acceptedIds.mp accepted))] at waits

theorem settled_later (only : OnlySettles before after) {betId : String}
    (settled : (before.ledger.entry betId).isSettled = true) :
    (after.ledger.entry betId).isSettled = true := by
  rcases only.bets betId with same | ⟨_, now⟩
  · unfold Entry.isSettled at settled ⊢
    rwa [same]
  · exact now

end OnlySettles

theorem settled_settleRuns {runs : List (ℕ → Choice)}
    (faultless : ∀ choices ∈ runs, Faultless choices) {betId : String}
    (settled : (world.db.ledger.entry betId).isSettled = true) :
    ((settleRuns runtime world runs).db.ledger.entry betId).isSettled = true := by
  induction runs generalizing world with
  | nil => exact settled
  | cons choices rest ih =>
      have only : OnlySettles world.db (settleAlone runtime choices world).2.db :=
        onlySettles_settleAlone (faultless choices List.mem_cons_self)
      exact ih (fun other member => faultless other (List.mem_cons_of_mem _ member))
        (only.settled_later settled)

/-- Each run settles a bet as long as one can be graded, so that all are settled in the end. -/
theorem gradable_settled {runs : List (ℕ → Choice)}
    (faultless : ∀ choices ∈ runs, Faultless choices)
    (few : (waitingIds runtime world.db).card < BATCH_SIZE)
    (enough : (acceptedIds world.db).card ≤ runs.length)
    (returned : AllReturn runtime world runs) {betId : String}
    (accepted : (world.db.ledger.entry betId).isAccepted = true)
    (gradable : (grade runtime world.db betId).isSome = true) :
    ((settleRuns runtime world runs).db.ledger.entry betId).isSettled = true := by
  induction runs generalizing world with
  | nil =>
      have nonempty : 0 < (acceptedIds world.db).card :=
        Finset.card_pos.mpr ⟨betId, mem_acceptedIds.mpr accepted⟩
      rw [List.length_nil] at enough
      omega
  | cons choices rest ih =>
      obtain ⟨⟨count, first⟩, others⟩ := returned
      have plain := faultless choices List.mem_cons_self
      have rest_plain : ∀ other ∈ rest, Faultless other :=
        fun other member => faultless other (List.mem_cons_of_mem _ member)
      have only : OnlySettles world.db (settleAlone runtime choices world).2.db :=
        onlySettles_settleAlone plain
      rcases only.bets betId with same | ⟨_, settled⟩
      · obtain ⟨other, was, settled⟩ := (settlesSome_iff plain).mpr
          (oldestGradable_of_few choices few accepted gradable) count first
        have fewer : acceptedIds (settleAlone runtime choices world).2.db ⊂
            acceptedIds world.db := by
          refine Finset.ssubset_iff_subset_ne.mpr ⟨only.acceptedIds_subset, fun equal => ?_⟩
          have still := mem_acceptedIds.mp (equal ▸ mem_acceptedIds.mpr was)
          exact absurd (still.symm.trans (Entry.isAccepted_of_settled settled)) (by simp)
        have decreases := Finset.card_lt_card fewer
        rw [List.length_cons] at enough
        refine ih rest_plain ?_ (by omega) others ?_ ?_
        · exact (Finset.card_le_card only.waitingIds_subset).trans_lt few
        · unfold Entry.isAccepted at accepted ⊢
          rwa [same]
        · rwa [grade_congr only.catalog same]
      · exact settled_settleRuns rest_plain settled

end Backlog

section Repeated

variable {runtime : Runtime} {world : World}

/-- A run settles a bet if and only if one of the fifty oldest can be graded; and where fewer
than fifty wait for their results, repeated runs settle every bet that can be graded. -/
theorem settlement_gets_on :
    (∀ choices, Faultless choices →
      (SettlesSome runtime choices world ↔ OldestGradable runtime choices world)) ∧
    ((waitingIds runtime world.db).card < BATCH_SIZE → ∀ runs : List (ℕ → Choice),
      (∀ choices ∈ runs, Faultless choices) → (acceptedIds world.db).card ≤ runs.length →
      AllReturn runtime world runs → ∀ betId, (grade runtime world.db betId).isSome = true →
        ((settleRuns runtime world runs).db.ledger.entry betId).isSettled = true) := by
  refine ⟨fun choices faultless => settlesSome_iff faultless, ?_⟩
  intro few runs faultless enough returned betId gradable
  obtain ⟨graded, passes⟩ := Option.isSome_iff_exists.mp gradable
  exact gradable_settled faultless few enough returned (accepted_of_grade passes).2 gradable

end Repeated

section Sample

open Sample

/-- The match has ended, and another one is still played. -/
def twoMatches : Catalog :=
  { catalog .ended .settled with
    fixtures := ⟨[⟨"match", "league", "ants", "bees", 0, .ended⟩,
      ⟨"replay", "league", "ants", "bees", 0, .live⟩], by simp⟩
    events := ⟨[⟨"match", "match", .ended, some 2, some 1, none, none⟩,
      ⟨"replay", "replay", .live, none, none, none, none⟩], by simp⟩
    markets := ⟨[⟨"winner", "match", .matchResult, .settled, none⟩,
      ⟨"next", "replay", .matchResult, .open, none⟩], by simp⟩
    selections := ⟨[⟨"winner:ants", "winner", "Ants", .open, .ofUnits 2000⟩,
      ⟨"next:ants", "next", "Ants", .open, .ofUnits 2000⟩], by simp⟩ }

/-- An accepted bet on the ants. -/
def antsBet (id : String) (createdAt : Time) (eventId marketId : String) : Bet where
  id := id
  casinoGroupId := "group"
  userId := "user"
  username := "player"
  idempotencyKey := id
  stake := .ofUnits 1000
  currency := "EUR"
  status := .accepted
  combinedOdds := .ofUnits 2000
  potentialPayout := .ofUnits 2000
  walletReservationId := none
  rejectionReason := none
  payoutAmount := none
  settledAt := none
  settlementNote := none
  createdAt := createdAt
  legs := [⟨marketId ++ ":ants", marketId, eventId, "Ants", .ofUnits 2000, 0, .pending,
    some .matchResult, none, some "Ants", some "Bees", none, none, none, none, none⟩]

/-- So many bets wait for the other match, and one bet on this match came last. -/
def backlog (waiting : List Bet) (unique : ((waiting ++ [antsBet "last" 9 "match" "winner"]).map
    Bet.id).Nodup) (placements : ((waiting ++ [antsBet "last" 9 "match" "winner"]).map
    Bet.placement).Nodup) : World :=
  { world with db := {
    catalog := twoMatches
    ledger := ⟨⟨waiting ++ [antsBet "last" 9 "match" "winner"], unique⟩, .empty, placements⟩
    audit := [] } }

def fullBacklog : World :=
  backlog ((List.range 50).map fun number => antsBet (toString number) 1 "replay" "next")
    (by decide +kernel) (by decide +kernel)

def shortBacklog : World :=
  backlog [antsBet "first" 1 "replay" "next"] (by decide +kernel) (by decide +kernel)

def plainChoices : ℕ → Choice := fun _ => plainly ""

theorem plainChoices_faultless : Faultless plainChoices := fun _ => rfl

theorem shortBacklog_settled :
    ((settleRuns asciiRuntime shortBacklog [plainChoices, plainChoices]).db.ledger.entry
      "last").isSettled = true := by
  refine settlement_gets_on.2 (by decide +kernel) _ ?_ (by decide +kernel) ?_ "last"
    (by decide +kernel)
  · intro choices member
    obtain rfl : choices = plainChoices := by simpa using member
    exact plainChoices_faultless
  · exact ⟨⟨1, by decide +kernel⟩, ⟨0, by decide +kernel⟩, trivial⟩

/-- The newest bet can be graded, and no run ever gets to it. -/
theorem fullBacklog_stuck :
    (grade asciiRuntime fullBacklog.db "last").isSome = true ∧ Faultless plainChoices ∧
      ¬ SettlesSome asciiRuntime plainChoices fullBacklog := by
  refine ⟨by decide +kernel, plainChoices_faultless, ?_⟩
  rw [settlesSome_iff plainChoices_faultless]
  have none_gradable : ∀ bet ∈ oldestBets fullBacklog plainChoices,
      (grade asciiRuntime fullBacklog.db bet.id).isNone = true := by decide +kernel
  rintro ⟨bet, looked, passes⟩
  rw [Option.isSome_iff_ne_none] at passes
  exact passes (Option.isNone_iff_eq_none.mp (none_gradable bet looked))

end Sample

end SportsBetting
