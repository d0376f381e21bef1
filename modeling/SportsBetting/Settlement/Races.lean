import SportsBetting.Bets.Lifecycle
import SportsBetting.Bets.Numbering
import SportsBetting.Settlement.Grading

/-!
# Settlement runs that overlap

The transaction of a settlement writes the legs and the bet first and creates the
outbox row last, under a key that is unique. Of all runs that graded a bet, the
one that creates the row decides it, and the others leave no trace.
-/

namespace SportsBetting

open Async Ledger SettlementService Text Numeral

section Entries

/-- Until it has its settlement row, and from then on, a bet stays as it is. -/
structure Ledger.Entry.Settles (before after : Entry) : Prop where
  stays : after.settle = none → before.settle = none
  bet : before.settle ≠ none ∨ after.settle = none → after.bet = before.bet

namespace Ledger.Entry.Settles

theorem refl (entry : Entry) : entry.Settles entry := ⟨id, fun _ => rfl⟩

theorem trans {first second third : Entry} (earlier : first.Settles second)
    (later : second.Settles third) : first.Settles third := by
  refine ⟨fun free => earlier.stays (later.stays free), ?_⟩
  rintro (taken | free)
  · have stillTaken : second.settle ≠ none := fun free => taken (earlier.stays free)
    rw [later.bet (.inl stillTaken), earlier.bet (.inl taken)]
  · rw [later.bet (.inr free), earlier.bet (.inr (later.stays free))]

theorem map (entry : Entry) (onRow : WalletOutbox → WalletOutbox) :
    entry.Settles (entry.map (fun bet => bet) onRow) := by
  constructor
  · intro free
    simpa [Entry.map] using free
  · intro _
    simp [Entry.map]

end Ledger.Entry.Settles

variable {id : String} {now : Time} {db after : Database} {Reply : Type}

/-- What a settlement that is carried out does to its bet. -/
theorem settleBet_ok {graded : GradedBet} {batchId : ℕ} {bet : Bet}
    (settled : settleBet graded batchId now db = .ok (bet, after)) :
    ∃ old credit, settlementCredit graded batchId now = .ok credit ∧
      (db.ledger.entry graded.bet.id).bet = some old ∧
      (db.ledger.entry graded.bet.id).settle = none ∧
      (after.ledger.entry graded.bet.id).settle ≠ none ∧
      (after.ledger.entry graded.bet.id).bet = some (credit.update now old) ∧
      ∀ other, other ≠ graded.bet.id → after.ledger.entry other = db.ledger.entry other := by
  obtain ⟨credit, built, committed⟩ := Except.bind_eq_ok.mp settled
  obtain ⟨_, _, own, _, _, row⟩ := settlementCredit_ok built
  obtain ⟨old, stored, free, _, entries⟩ := Credit.commit_ok (settlementCredit_own built) committed
  have type : credit.row.type = .walletSettle := by rw [row]; rfl
  rw [own] at stored free entries
  rw [type] at free
  refine ⟨old, credit, built, stored, free, ?_, ?_, fun other apart => ?_⟩
  · have taken : (after.ledger.entry graded.bet.id).row .walletSettle = some credit.row := by
      rw [entries, Function.update_self, Entry.setRow_row, if_pos type]
    exact fun free => Option.some_ne_none _ (taken.symm.trans free)
  · rw [entries, Function.update_self, Entry.setRow_bet, Entry.setBet_bet]
  · rw [entries, Function.update_of_ne apart]

/-- A row of another type leaves the places of settlement rows as they are. -/
theorem taken_of_update {betId other : String} {bet : Bet} {row : WalletOutbox}
    (entries : after.ledger.entry = Function.update db.ledger.entry betId
      (((db.ledger.entry betId).setBet bet).setRow row)) (type : row.type ≠ .walletSettle)
    (taken : (after.ledger.entry other).settle ≠ none) : (db.ledger.entry other).settle ≠ none := by
  rw [entries] at taken
  by_cases here : other = betId
  · subst here
    have same : (((db.ledger.entry other).setBet bet).setRow row).row .walletSettle =
        (db.ledger.entry other).row .walletSettle := by
      rw [Entry.setRow_row, if_neg type, Entry.setBet_row]
    rw [Function.update_self] at taken
    exact fun free => taken (same.trans free)
  · rwa [Function.update_of_ne here] at taken

theorem debit_ne_settle {betId : String} {row : WalletOutbox}
    (reserved : (db.ledger.entry betId).row .walletReserve = some row) :
    row.type ≠ .walletSettle := by
  rw [(entry_row.mp reserved).2.2]
  exact OutboxType.noConfusion

end Entries

section Contract

/-- What settlement runs promise each other: a bet changes only with its settlement
row, and whoever would create the row has graded the bet as it still is. -/
def Ready (runtime : Runtime) (seen : Database → Prop) (graded : GradedBet) (world : World) :
    Prop :=
  (world.db.ledger.entry graded.bet.id).settle = none →
    ∃ bet, (world.db.ledger.entry graded.bet.id).bet = some bet ∧
      GradedFrom runtime seen bet graded

@[reducible] def settling (runtime : Runtime) (seen : Database → Prop) :
    Contract bettingMachine where
  invariant _ := True
  rely _ before after :=
    ∀ betId, (before.db.ledger.entry betId).Settles (after.db.ledger.entry betId)
  proper request world :=
    match request with
    | .write (.settleBet graded _) => Ready runtime seen graded world
    | request => request.Delivering
  admits world _ _ := seen world.db

variable {runtime : Runtime} {seen : Database → Prop}

theorem proper_of_delivering {Reply : Type} {request : BettingCall Reply} (world : World)
    (delivering : request.Delivering) : (settling runtime seen).proper request world := by
  cases request with
  | write transaction => cases transaction <;> first | exact delivering.elim | trivial
  | read | randomUUID | getBalance | postTransaction | postBatch => trivial

theorem settles_answer {Reply : Type} {request : BettingCall Reply} {world : World}
    (choice : Choice) (proper : (settling runtime seen).proper request world) (betId : String) :
    (world.db.ledger.entry betId).Settles
      ((world.answer choice request).2.db.ledger.entry betId) := by
  refine World.answer_ledger world (fun ledger => (world.db.ledger.entry betId).Settles
    (ledger.entry betId)) choice request ?_ (.refl _)
  rintro write rfl _ reply after ran
  cases write with
  | settleBet graded batchId =>
      obtain ⟨old, credit, _, _, free, taken, _, others⟩ := settleBet_ok ran
      by_cases here : betId = graded.bet.id
      · subst here
        exact ⟨fun still => absurd still taken, fun either =>
          either.elim (absurd free) fun still => absurd still taken⟩
      · rw [others betId here]
        exact .refl _
  | createBet | acceptBet | rejectBet | voidBet => exact proper.elim
  | setTransactionCode | scheduleRetry | completeRow | assignBatch | completeBatch | clearRetries
    | recordAudit =>
      rw [Write.entry_of_rowsOnly ran trivial]
      exact .map _ _

theorem settles_happen (happening : Happening) (world : World) (betId : String) :
    (world.db.ledger.entry betId).Settles ((world.happen happening).db.ledger.entry betId) := by
  cases happening <;> exact .refl _

theorem settling_stable : (settling runtime seen).Stable where
  refl _ _ _ := .refl _
  trans _ _ _ _ earlier later betId := (earlier betId).trans (later betId)
  keeps _ _ _ _ _ _ := trivial
  sound _ _ _ := trivial
  event _ happening world _ := settles_happen happening world

theorem settling_protects {guard : Guard bettingMachine}
    (admits : ∀ (config : Config bettingMachine) choice {Reply : Type}
      (request : BettingCall Reply), guard config choice request → seen config.state.db) :
    (settling runtime seen).Protects guard where
  admits := admits
  others config index choice _ request next _ _ _ proper other program _ _ := by
    cases program with
    | done outcome => trivial
    | await waits next => exact settles_answer choice proper

/-- Until it is settled, the bet stays as it was read. -/
def Unsettled (bet : Bet) (world : World) : Prop :=
  (world.db.ledger.entry bet.id).settle = none → (world.db.ledger.entry bet.id).bet = some bet

theorem Unsettled.later {bet : Bet} {before after : World} (unsettled : Unsettled bet before)
    (settles : ∀ betId, (before.db.ledger.entry betId).Settles (after.db.ledger.entry betId)) :
    Unsettled bet after := by
  intro free
  rw [(settles bet.id).bet (.inr free), unsettled ((settles bet.id).stays free)]

theorem settling_grades : Grades (settling runtime seen) runtime seen Unsettled where
  sees admitted := admitted
  delivers world delivering := proper_of_delivering world delivering
  settles := by
    rintro graded _ world ⟨bet, unsettled, own⟩ free
    have same : graded.bet.id = bet.id := by rw [own.sorted]
    rw [same] at free ⊢
    exact ⟨bet, unsettled free, own⟩
  finds stored _ _ := entry_of_bet stored
  lasting bet := {
    waits := fun _ _ _ settles unsettled => unsettled.later settles
    calls := fun _ choice _ proper unsettled => unsettled.later (settles_answer choice proper) }

end Contract

section Programs

variable {runtime : Runtime} {seen : Database → Prop}

/-- The results worker, the settlement worker, staff runs and manual results settle through
these; staff may also send what is pending. -/
def Actor.settles : Actor → Prop
  | .pollSettlement | .settleBatch | .trySettleBet _ | .settleBetsForEvent ..
  | .retryWalletSettlementTransmission .. => True
  | _ => False

theorem settling_actor {actor : Actor} (settles : actor.settles)
    (config : BetValidation.EnvConfig) (world : World) :
    (settling runtime seen).Runs (actor.program config runtime) world := by
  cases actor with
  | placeBet | pollOutbox | voidBet => exact settles.elim
  | pollSettlement =>
      exact Contract.Runs.handle (Contract.Runs.void settling_grades.runs_settleBatch)
        fun _ _ => trivial
  | settleBatch => exact Contract.Runs.void settling_grades.runs_settleBatch
  | trySettleBet betId => exact Contract.Runs.void (settling_grades.runs_trySettleBet betId)
  | settleBetsForEvent eventId casinoGroupId =>
      exact Contract.Runs.void (settling_grades.runs_settleBetsForEvent eventId casinoGroupId)
  | retryWalletSettlementTransmission casinoGroupId staffUserId =>
      exact Contract.Runs.void (settling_grades.runs_delivering
        (retryWalletSettlementTransmission_delivering casinoGroupId staffUserId))

theorem settling_start (config : BetValidation.EnvConfig) (world : World) {actors : List Actor}
    (settles : ∀ actor ∈ actors, actor.settles) :
    (settling runtime seen).Healthy (Actor.start config runtime world actors) := by
  refine ⟨trivial, fun program member => ?_⟩
  obtain ⟨actor, listed, rfl⟩ := List.mem_map.mp member
  exact settling_actor (settles actor listed) config world

end Programs

section Outcomes

/-- The bet shows this grade, leg by leg. -/
structure Bet.ShowsGrade (bet : Bet) (graded : GradedBet) : Prop where
  status : bet.status = graded.betResult.status
  payoutAmount : bet.payoutAmount = some graded.payoutAmount
  outcomes : (sortLegs bet.legs).map BetLeg.outcome = graded.legResults.map toLegOutcome

/-- Legs that are told apart by their place get the outcomes in order. -/
theorem outcome_setLegOutcomes {legs : List BetLeg} {outcomes : List BetLegOutcome}
    (apart : (legs.map BetLeg.legOrder).Nodup) (all : outcomes.length = legs.length) :
    (setLegOutcomes ((legs.map BetLeg.legOrder).zip outcomes) legs).map BetLeg.outcome =
      outcomes := by
  induction legs generalizing outcomes with
  | nil =>
      rw [List.length_eq_zero_iff.mp all]
      rfl
  | cons leg rest ih =>
      cases outcomes with
      | nil => cases all
      | cons outcome others =>
          obtain ⟨fresh, apart⟩ := List.nodup_cons.mp apart
          have tail : setLegOutcomes ((leg.legOrder, outcome) :: (rest.map BetLeg.legOrder).zip others)
              rest = setLegOutcomes ((rest.map BetLeg.legOrder).zip others) rest := by
            refine List.map_congr_left fun other member => ?_
            have differs : (other.legOrder == leg.legOrder) = false := by
              rw [beq_eq_false_iff_ne]
              exact fun same => fresh (List.mem_map.mpr ⟨other, member, same⟩)
            rw [List.lookup_cons, differs]
          calc (setLegOutcomes (((leg :: rest).map BetLeg.legOrder).zip (outcome :: others))
                  (leg :: rest)).map BetLeg.outcome
              = outcome :: (setLegOutcomes ((leg.legOrder, outcome) ::
                  (rest.map BetLeg.legOrder).zip others) rest).map BetLeg.outcome := by
                simp [setLegOutcomes]
            _ = outcome :: others := by rw [tail, ih apart (Nat.succ.inj all)]

theorem sortLegs_of_numbered {legs : List BetLeg} (numbered : Numbered legs) :
    sortLegs legs = legs := by
  apply List.Pairwise.insertionSort_eq
  have ordered : (legs.map BetLeg.legOrder).Pairwise (· ≤ ·) := by
    rw [numbered]
    exact List.pairwise_le_range
  exact List.pairwise_map.mp ordered

/-- A settlement that is carried out leaves the bet with the grade it brought. -/
theorem showsGrade_of_settled {runtime : Runtime} {seen : Database → Prop} {bet : Bet}
    {graded : GradedBet} {batchId : ℕ} {now : Time} {credit : Credit}
    (built : settlementCredit graded batchId now = .ok credit)
    (own : GradedFrom runtime seen bet graded) (numbered : Numbered bet.legs) :
    (credit.update now bet).ShowsGrade graded := by
  unfold settlementCredit at built
  obtain ⟨transaction, _, built⟩ := Except.bind_eq_ok.mp built
  obtain rfl := Except.pure_eq_ok.mp built
  have same : graded.bet.legs = bet.legs := by
    rw [own.sorted]
    exact sortLegs_of_numbered numbered
  refine ⟨rfl, rfl, ?_⟩
  dsimp only [Credit.update]
  rw [sortLegs_of_numbered (numbered.setLegOutcomes _), same]
  apply outcome_setLegOutcomes numbered.nodup
  rw [List.length_map, own.length, same]

end Outcomes

section Run

/-- The settlement rows that the outbox has for a bet. -/
def settleRows (ledger : Ledger) (betId : String) : List WalletOutbox :=
  ledger.walletOutbox.rows.filter fun row => row.betId = betId && row.type = .walletSettle

theorem mem_settleRows {ledger : Ledger} {betId : String} {row : WalletOutbox} :
    row ∈ settleRows ledger betId ↔ (ledger.entry betId).settle = some row := by
  have settle : (ledger.entry betId).settle = (ledger.entry betId).row .walletSettle := rfl
  rw [settle, entry_row]
  simp [settleRows, Table.mem_rows]

theorem settleRows_eq_nil {ledger : Ledger} {betId : String} :
    settleRows ledger betId = [] ↔ (ledger.entry betId).settle = none := by
  rw [List.eq_nil_iff_forall_not_mem, Option.eq_none_iff_forall_ne_some]
  exact forall_congr' fun row => not_congr mem_settleRows

theorem settleRows_length (ledger : Ledger) (betId : String) :
    (settleRows ledger betId).length ≤ 1 := by
  have distinct : (settleRows ledger betId).Nodup :=
    (List.filter_sublist.nodup ledger.walletOutbox.unique.of_map)
  match rows : settleRows ledger betId with
  | [] | [_] => simp
  | first :: second :: rest =>
      have one : first ∈ settleRows ledger betId := by simp [rows]
      have two : second ∈ settleRows ledger betId := by simp [rows]
      have same := (mem_settleRows.mp one).symm.trans (mem_settleRows.mp two)
      rw [rows, Option.some.inj same] at distinct
      simp at distinct

/-- In this move, a program of the pool asks for the settlement of the bet as it graded it. -/
def Asks (config : Config bettingMachine) (move : Move bettingMachine) (graded : GradedBet) : Prop :=
  ∃ index choice batchId next, move = .run index choice ∧
    config.pool[index]? = some (.await (.write (.settleBet graded batchId)) next)

/-- A state that the services can have brought about since the deployment. -/
def Reached (config : BetValidation.EnvConfig) (runtime : Runtime) (world : World) : Prop :=
  ∃ catalog clock balances actors moves,
    world = ((Actor.start config runtime (.deployed catalog clock balances) actors).run moves).state

variable {config : BetValidation.EnvConfig} {runtime : Runtime} {world : World}
  {actors : List Actor} {start : Config bettingMachine}

/-- The databases that the run passes through. -/
def passing (start : Config bettingMachine) (moves : List (Move bettingMachine)) :
    Database → Prop := fun db => ∃ passed, start.Passes moves passed ∧ passed.db = db

variable {moves : List (Move bettingMachine)}

theorem settling_run (pool : start = Actor.start config runtime world actors)
    (settles : ∀ actor ∈ actors, actor.settles) (earlier later : List (Move bettingMachine))
    (split : moves = earlier ++ later) :
    (settling runtime (passing start moves)).Healthy (start.run earlier) ∧
      ∀ betId, (entries (start.run earlier) betId).Settles (entries (start.run moves) betId) := by
  have protects : (settling runtime (passing start moves)).Protects
      (fun before _ _ => start.Passes moves before.state) :=
    settling_protects fun before _ _ _ passed => ⟨before.state, passed, rfl⟩
  have followed := start.follows_passes moves
  have healthy : (settling runtime (passing start moves)).Healthy start :=
    pool ▸ settling_start config world settles
  rw [split] at followed
  obtain ⟨first, rest⟩ := (Config.follows_append _ _ _ _).mp followed
  subst split
  have here := healthy.run settling_stable protects first
  refine ⟨here, ?_⟩
  rw [Config.run_append]
  exact here.run_relates settling_stable protects
    (fun before after => ∀ betId, (before.db.ledger.entry betId).Settles
      (after.db.ledger.entry betId))
    (fun _ _ => .refl _) (fun one two betId => (one betId).trans (two betId))
    (fun _ choice _ _ proper _ => settles_answer choice proper)
    (fun happening world _ => settles_happen happening world) rest

/-- A run that asks too late changes nothing on the bet. -/
theorem late_changes_nothing {config : Config bettingMachine} {move : Move bettingMachine}
    {graded : GradedBet} (asks : Asks config move graded)
    (taken : (entries config graded.bet.id).settle ≠ none) :
    entries (config.step move) graded.bet.id = entries config graded.bet.id := by
  obtain ⟨index, choice, batchId, next, rfl, waiting⟩ := asks
  rw [Config.step_run waiting]
  refine World.answer_ledger config.state
    (fun ledger => ledger.entry graded.bet.id = entries config graded.bet.id) choice _ ?_ rfl
  rintro _ ⟨⟩ _ reply db ran
  obtain ⟨_, _, _, _, free, _⟩ := settleBet_ok ran
  exact absurd free taken

/-- The only move that creates a settlement row is that of a run that asks for it. -/
theorem asks_of_created {now : Config bettingMachine} {move : Move bettingMachine} {betId : String}
    (free : (entries now betId).settle = none)
    (created : (entries (now.step move) betId).settle ≠ none) :
    ∃ graded time credit batchId bet, Asks now move graded ∧ graded.bet.id = betId ∧
      settlementCredit graded batchId time = .ok credit ∧ (entries now betId).bet = some bet ∧
      (entries (now.step move) betId).bet = some (credit.update time bet) := by
  rcases now.step_cases move with same | ⟨index, choice, _, request, next, rfl, waiting⟩ |
    ⟨happening, rfl⟩
  · rw [same] at created
    exact absurd free created
  · rw [Config.step_run waiting] at created ⊢
    refine World.answer_ledger now.state (fun ledger => (ledger.entry betId).settle ≠ none →
      ∃ graded time credit batchId bet, Asks now (.run index choice) graded ∧
        graded.bet.id = betId ∧ settlementCredit graded batchId time = .ok credit ∧
        (entries now betId).bet = some bet ∧
        (ledger.entry betId).bet = some (credit.update time bet)) choice request ?_
      (absurd free) created
    rintro write rfl _ reply after ran taken
    cases write with
    | settleBet graded batchId =>
        obtain ⟨old, credit, built, stored, _, _, updated, others⟩ := settleBet_ok ran
        by_cases here : betId = graded.bet.id
        · subst here
          exact ⟨graded, _, credit, batchId, old, ⟨index, choice, batchId, next, rfl, waiting⟩, rfl,
            built, stored, updated⟩
        · rw [others betId here] at taken
          exact absurd free taken
    | createBet data code =>
        obtain ⟨rfl, _, _, entries⟩ := createBet_ok ran
        exact absurd free (taken_of_update entries (by simp [reserveRow]) taken)
    | acceptBet betId reservation =>
        obtain ⟨_, row, _, reserved, _, entries⟩ := acceptBet_ok ran
        have debit : row.type ≠ .walletSettle := debit_ne_settle reserved
        exact absurd free (taken_of_update entries debit taken)
    | rejectBet betId reason =>
        obtain ⟨_, row, _, reserved, _, entries⟩ := rejectBet_ok ran
        have debit : row.type ≠ .walletSettle := debit_ne_settle reserved
        exact absurd free (taken_of_update entries debit taken)
    | voidBet bet casinoGroupId reason =>
        obtain ⟨credit, built, committed⟩ := Except.bind_eq_ok.mp ran
        obtain ⟨_, _, _, _, _, row⟩ := staffVoidCredit_ok built
        obtain ⟨_, _, _, _, entries⟩ := Credit.commit_ok (staffVoidCredit_own built) committed
        exact absurd free (taken_of_update entries (by simp [row, creditRow]) taken)
    | setTransactionCode | scheduleRetry | completeRow | assignBatch | completeBatch | clearRetries
      | recordAudit =>
        rw [Write.entry_of_rowsOnly ran trivial] at taken
        refine absurd ?_ taken
        simpa [Entry.map, entries] using free
  · cases happening <;> exact absurd free created

/-- Whoever asks before the bet is settled has graded it as it is. -/
theorem graded_of_asks (pool : start = Actor.start config runtime world actors)
    (settles : ∀ actor ∈ actors, actor.settles) {earlier later : List (Move bettingMachine)}
    {move : Move bettingMachine} (split : moves = earlier ++ move :: later) {graded : GradedBet}
    (asks : Asks (start.run earlier) move graded)
    (free : (entries (start.run earlier) graded.bet.id).settle = none) {bet : Bet}
    (stored : (entries (start.run earlier) graded.bet.id).bet = some bet) :
    GradedFrom runtime (passing start moves) bet graded := by
  obtain ⟨index, choice, batchId, next, rfl, waiting⟩ := asks
  have healthy := (settling_run pool settles earlier _ split).1
  obtain ⟨same, there, own⟩ := healthy.proper settling_stable waiting free
  obtain rfl := Option.some.inj (stored.symm.trans there)
  exact own

/-- Of all settlement runs that overlap on a bet, whatever happens to the scores between
their reads, at most one creates its settlement row; from then on the bet shows the grade
of that run, leg by leg, and a run that asks later changes nothing. -/
theorem settled_by_one_run (reached : Reached config runtime world)
    (settles : ∀ actor ∈ actors, actor.settles) (moves : List (Move bettingMachine))
    (betId : String) :
    let start := Actor.start config runtime world actors
    let rows := fun moves => settleRows (start.run moves).state.db.ledger betId
    (rows moves).length ≤ 1 ∧
    (rows [] = [] → rows moves ≠ [] → ∃ earlier move later graded bet settled,
      moves = earlier ++ move :: later ∧ rows earlier = [] ∧ rows (earlier ++ [move]) ≠ [] ∧
      Asks (start.run earlier) move graded ∧ graded.bet.id = betId ∧
      (entries start betId).bet = some bet ∧
      GradedFrom runtime (passing start moves) bet graded ∧
      (entries (start.run moves) betId).bet = some settled ∧ settled.ShowsGrade graded) ∧
    (rows [] ≠ [] ∨ rows moves = [] →
      (entries (start.run moves) betId).bet = (entries start betId).bet) ∧
    ∀ earlier move later graded, moves = earlier ++ move :: later →
      Asks (start.run earlier) move graded → graded.bet.id = betId → rows earlier ≠ [] →
        entries (start.run (earlier ++ [move])) betId = entries (start.run earlier) betId := by
  intro start rows
  have free_iff : ∀ moves, rows moves = [] ↔ (entries (start.run moves) betId).settle = none :=
    fun _ => settleRows_eq_nil
  have pool : start = Actor.start config runtime world actors := rfl
  have kept : ∀ moves earlier later, moves = earlier ++ later →
      (entries (start.run earlier) betId).Settles (entries (start.run moves) betId) :=
    fun moves earlier later split => (settling_run pool settles earlier later split).2 betId
  refine ⟨settleRows_length _ _, fun free taken => ?_, fun either => ?_, ?_⟩
  · rw [free_iff] at free
    rw [ne_eq, free_iff] at taken
    have fresh : ¬ (entries start betId).settle ≠ none := not_not.mpr free
    obtain ⟨earlier, move, later, split, still, now⟩ := Config.exists_turn
      (fun config => (entries config betId).settle ≠ none) fresh taken
    rw [not_not] at still
    have after : (start.run earlier).step move = start.run (earlier ++ [move]) := by
      rw [Config.run_append]
      rfl
    obtain ⟨graded, time, credit, batchId, bet, asks, own, built, stored, updated⟩ :=
      asks_of_created still now
    have grade := graded_of_asks pool settles split asks (own ▸ still) (own ▸ stored)
    rw [after] at now updated
    have before := (kept earlier [] earlier rfl).bet (.inr still)
    have last := (kept moves (earlier ++ [move]) later (by simp [split])).bet (.inl now)
    obtain ⟨catalog, clock, balances, others, past, rfl⟩ := reached
    have numbered := allNumbered_run config runtime catalog clock balances others past betId bet
      (before.symm.trans stored)
    refine ⟨earlier, move, later, graded, bet, credit.update time bet, split, (free_iff _).mpr still,
      ?_, asks, own, before.symm.trans stored, grade, last.trans updated,
      showsGrade_of_settled built grade numbered⟩
    rw [ne_eq, free_iff]
    exact now
  · apply (kept moves [] moves rfl).bet
    rcases either with taken | free
    · rw [ne_eq, free_iff] at taken
      exact .inl taken
    · exact .inr ((free_iff _).mp free)
  · rintro earlier move later graded split asks rfl taken
    rw [ne_eq, free_iff] at taken
    rw [Config.run_append]
    exact late_changes_nothing asks taken

end Run

section Sample

open Sample

/-- Two runs work on the bet while the score is corrected: the ants have lost after all. -/
def overlap : Config bettingMachine :=
  Actor.start ⟨"1", "100", "1000"⟩ asciiRuntime endedMatch [.settleBatch, .pollSettlement]

def correctedCatalog : Catalog :=
  { catalog .ended .settled with
    events := ⟨[⟨"match", "match", .ended, some 2, some 3, none, none⟩], by simp⟩ }

/-- The first run grades the bet as won, the second one as lost, and asks first. -/
def corrected : List (Move bettingMachine) :=
  calls 0 5 "" ++ [.occur (.catalog correctedCatalog)] ++ calls 1 6 "" ++ calls 0 1 ""

theorem overlapping_runs_agree :
    (settleRows (overlap.run corrected).state.db.ledger "bet").length ≤ 1 ∧
      ((entries (overlap.run corrected) "bet").bet.map fun bet =>
        (bet.status, bet.payoutAmount.map Numeric.units, bet.legs.map BetLeg.outcome)) =
        some (.lost, some 0, [.lost]) := by
  have reached : Reached ⟨"1", "100", "1000"⟩ asciiRuntime endedMatch := ⟨_, _, _, _, _, rfl⟩
  have settles : ∀ actor ∈ [Actor.settleBatch, .pollSettlement], actor.settles := by
    simp [Actor.settles]
  exact ⟨(settled_by_one_run reached settles corrected "bet").1, by decide +kernel⟩

end Sample

end SportsBetting
