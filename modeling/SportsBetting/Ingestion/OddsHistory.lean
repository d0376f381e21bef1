import SportsBetting.Async.Window
import SportsBetting.Feed.WellFormed
import SportsBetting.Ingestion.Ended
import Mathlib.Data.List.Chain

/-!
# The odds history

A selection is written first and its odds are recorded after that, whenever the listed price
differs from the stored one. The stored one is rounded and the listed one is not.
-/

namespace SportsBetting.Ingestion

open Async Numeral OddsApi Text

section History

/-- The recorded prices of a selection, oldest first. -/
def priceHistory (db : Database) (selection : String) : List (Numeric 10 3) :=
  (db.catalog.oddsSnapshots.filter fun odds => odds.selection = selection).map OddsSnapshot.price

/-- The history of every selection changes from row to row, and ends with its price. -/
structure Recorded (db : Database) : Prop where
  listed : ∀ odds ∈ db.catalog.oddsSnapshots, db.catalog.selections.Has odds.selection
  changes : ∀ selection, (priceHistory db selection).IsChain (· ≠ ·)
  newest : ∀ selection ∈ db.catalog.selections,
    (priceHistory db selection.providerRef).getLast? = some selection.price

variable {db after : Database}

theorem priceHistory_congr (same : after.catalog.oddsSnapshots = db.catalog.oddsSnapshots)
    (selection : String) : priceHistory after selection = priceHistory db selection := by
  unfold priceHistory
  rw [same]

theorem Recorded.of_same (recorded : Recorded db)
    (selections : after.catalog.selections = db.catalog.selections)
    (odds : after.catalog.oddsSnapshots = db.catalog.oddsSnapshots) : Recorded after where
  listed := by
    rw [selections, odds]
    exact recorded.listed
  changes selection := by
    rw [priceHistory_congr odds]
    exact recorded.changes selection
  newest := by
    rw [selections]
    intro selection stored
    rw [priceHistory_congr odds]
    exact recorded.newest selection stored

/-- Where every selection comes from one with its price, the history still fits. -/
theorem Recorded.reprice (recorded : Recorded db)
    (odds : after.catalog.oddsSnapshots = db.catalog.oddsSnapshots)
    (has : ∀ ref, db.catalog.selections.Has ref → after.catalog.selections.Has ref)
    (prices : ∀ selection ∈ after.catalog.selections, ∃ old ∈ db.catalog.selections,
      old.providerRef = selection.providerRef ∧ old.price = selection.price) : Recorded after where
  listed := by
    rw [odds]
    exact fun row member => has _ (recorded.listed row member)
  changes selection := by
    rw [priceHistory_congr odds]
    exact recorded.changes selection
  newest selection stored := by
    obtain ⟨old, present, ref, price⟩ := prices selection stored
    rw [priceHistory_congr odds, ← ref, ← price]
    exact recorded.newest old present

theorem Recorded.settleSelections (recorded : Recorded db) (eventRef : String) :
    Recorded (settleSelections db eventRef) := by
  refine recorded.reprice rfl (fun ref has => has.updateWhere _ (fun selection =>
    { selection with status := .settled }) fun _ => rfl) ?_
  intro selection stored
  rcases mem_settleSelections stored with ⟨old, present, _, rfl⟩ | ⟨present, _⟩
  · exact ⟨old, present, rfl, rfl⟩
  · exact ⟨selection, present, rfl, rfl⟩

theorem filter_spared (odds : List OddsSnapshot) (gone : String → Bool) (selection : String) :
    ((odds.filter fun row => !gone row.selection).filter fun row => row.selection = selection) =
      if gone selection then [] else odds.filter fun row => row.selection = selection := by
  rw [List.filter_filter]
  by_cases lost : gone selection = true
  · rw [if_pos lost, List.filter_eq_nil_iff]
    rintro row _ kept
    simp only [Bool.and_eq_true, decide_eq_true_iff, Bool.not_eq_true'] at kept
    rw [kept.1, lost] at kept
    cases kept.2
  · rw [if_neg lost]
    refine List.filter_congr fun row _ => ?_
    by_cases same : row.selection = selection
    · simp [same, lost]
    · simp [same]

/-- A purge takes the history of a selection away with the selection. -/
theorem odds_purged (fixtures : List String) :
    (cascadeFixtures fixtures db.catalog).oddsSnapshots = db.catalog.oddsSnapshots.filter fun row =>
      !(fixtureOfSelection db row.selection).any fun fixture => decide (fixture ∈ fixtures) := by
  refine List.filter_congr fun row _ => ?_
  unfold fixtureOfSelection
  dsimp only
  cases stored : db.catalog.selections.get? row.selection with
  | none => rfl
  | some selection =>
      cases market : db.catalog.markets.get? selection.market with
      | none => simp [market]
      | some found => cases event : db.catalog.events.get? found.event <;> simp [market, event]

theorem selections_purged {fixtures : List String} {selection : Selection} :
    selection ∈ (cascadeFixtures fixtures db.catalog).selections ↔
      selection ∈ db.catalog.selections ∧ ((fixtureOfSelection db selection.providerRef).any
        fun fixture => decide (fixture ∈ fixtures)) = false := by
  refine Table.mem_deleteWhere.trans (and_congr_right fun stored => ?_)
  unfold fixtureOfSelection
  rw [Table.get?_of_mem stored]
  cases market : db.catalog.markets.get? selection.market with
  | none => simp [market]
  | some found => cases event : db.catalog.events.get? found.event <;> simp [market, event]

theorem Recorded.purge (recorded : Recorded db) (ledger : Ledger) (fixtures : List String) :
    Recorded { db with ledger, catalog := cascadeFixtures fixtures db.catalog } := by
  have history : ∀ selection,
      priceHistory { db with ledger, catalog := cascadeFixtures fixtures db.catalog } selection =
        if (fixtureOfSelection db selection).any fun fixture => decide (fixture ∈ fixtures) then []
        else priceHistory db selection := by
    intro selection
    unfold priceHistory
    dsimp only
    rw [odds_purged, filter_spared db.catalog.oddsSnapshots fun selection =>
      (fixtureOfSelection db selection).any fun fixture => decide (fixture ∈ fixtures)]
    split <;> rfl
  constructor
  · intro odds member
    rw [odds_purged] at member
    obtain ⟨member, kept⟩ := List.mem_filter.mp member
    obtain ⟨selection, stored, same⟩ := recorded.listed odds member
    exact ⟨selection, selections_purged.mpr ⟨stored, by simpa [same] using kept⟩, same⟩
  · intro selection
    rw [history]
    split
    · exact .nil
    · exact recorded.changes selection
  · intro selection stored
    obtain ⟨old, kept⟩ := selections_purged.mp stored
    rw [history, kept]
    exact recorded.newest selection old

/-- A row that is written with the price it has leaves the history as it fits. -/
theorem Recorded.rewrite (recorded : Recorded db) {row old : Selection}
    (present : old ∈ db.catalog.selections) (ref : old.providerRef = row.providerRef)
    (price : old.price = row.price) :
    Recorded { db with catalog.selections := db.catalog.selections.put row } := by
  refine recorded.reprice rfl (fun ref has => has.put _) fun selection stored => ?_
  rcases Table.mem_put.mp stored with rfl | ⟨kept, _⟩
  · exact ⟨old, present, ref, price⟩
  · exact ⟨selection, kept, rfl, rfl⟩

theorem priceHistory_append (selection : String) (price : Numeric 10 3)
    (other : String) (same : after.catalog.oddsSnapshots = db.catalog.oddsSnapshots ++
      [⟨selection, price⟩]) : priceHistory after other =
        priceHistory db other ++ if selection = other then [price] else [] := by
  unfold priceHistory
  rw [same, List.filter_append, List.map_append]
  congr 1
  by_cases own : selection = other
  · simp [own]
  · simp [own]

/-- A new price is written and then recorded. -/
theorem Recorded.record (recorded : Recorded db) {row : Selection}
    (new : ∀ old ∈ db.catalog.selections, old.providerRef = row.providerRef → old.price ≠ row.price) :
    Recorded { db with
      catalog.selections := db.catalog.selections.put row
      catalog.oddsSnapshots := db.catalog.oddsSnapshots ++ [⟨row.providerRef, row.price⟩] } := by
  have history : ∀ selection, priceHistory { db with
      catalog.selections := db.catalog.selections.put row
      catalog.oddsSnapshots := db.catalog.oddsSnapshots ++ [⟨row.providerRef, row.price⟩] } selection =
        priceHistory db selection ++ if row.providerRef = selection then [row.price] else [] :=
    fun selection => priceHistory_append row.providerRef row.price selection rfl
  constructor
  · intro odds member
    rcases List.mem_append.mp member with before | here
    · exact (recorded.listed odds before).put _
    · obtain rfl := List.mem_singleton.mp here
      exact Table.has_put_self _ _
  · intro selection
    rw [history selection]
    refine (recorded.changes selection).append (by split <;> simp) ?_
    intro last ends first begins
    split at begins
    · next same =>
        obtain rfl : row.price = first := by simpa using begins
        obtain ⟨odds, member, _⟩ := List.mem_map.mp (List.mem_of_mem_getLast? ends)
        obtain ⟨listed, of⟩ := List.mem_filter.mp member
        obtain ⟨old, stored, ref⟩ := recorded.listed odds listed
        have own : old.providerRef = selection := ref.trans (by simpa using of)
        have newest := recorded.newest old stored
        rw [own, Option.mem_def.mp ends] at newest
        rw [Option.some.inj newest]
        exact new old stored (own.trans same.symm)
    · simp at begins
  · intro selection stored
    rw [history]
    rcases Table.mem_put.mp stored with rfl | ⟨old, differs⟩
    · simp
    · rw [if_neg (Ne.symm differs), List.append_nil]
      exact recorded.newest selection old

end History

section Window

/-- The second of the two writes. -/
inductive RecordsOdds : {Reply : Type} → Query Database Failure Reply → Prop
  | intro (selection : String) (number : ℚ) :
      RecordsOdds (Query.attempt fun db => createOddsSnapshot db selection number)

/-- The first of them. -/
inductive WritesPrice : {Reply : Type} → Query Database Failure Reply → Prop
  | intro (selection : NormalizedSelection) :
      WritesPrice (Query.attempt fun db => upsertSelection db selection)

/-- No fault comes between the two. -/
def Undivided {Reply : Type} (fault : Fault) (query : Query Database Failure Reply) : Prop :=
  (WritesPrice query → fault ≠ .unacknowledged) ∧ (RecordsOdds query → fault ≠ .refused)

/-- Neither a fault nor the end of the session comes between the two. -/
structure Unbroken (session : Session databaseMachine) (db : Database) : Prop where
  followed : Config.Follows (fun _ fault query => Undivided fault query : Guard databaseMachine)
    ⟨db, [session.program]⟩ session.moves
  outside : ∀ (Reply : Type) (query : Query Database Failure Reply) next,
    (Config.run ⟨db, [session.program]⟩ session.moves).pool = [.await query next] →
      ¬ RecordsOdds query

/-- The history fits wherever the next query does not record odds. -/
abbrev Tracks {α : Type} (post : α → Database → Prop) (service : Service α) (db : Database) : Prop :=
  Closes Failure.database Recorded RecordsOdds Undivided post service db

variable {db : Database} {α : Type}

/-- A service that keeps the history all along. -/
theorem tracks_of_keeps {invariant : Database → Prop} {post : α → Database → Prop}
    {service : Service α} (implied : ∀ db, invariant db → Recorded db) (start : invariant db)
    (safe : Keeps invariant post service db) :
    Tracks (fun value after => invariant after ∧ post value after) service db :=
  Closes.of_upholds (implied db start) (Upholds.weaken implied start safe)

end Window

section Selections

variable {db : Database}

theorem toColumn_value (price : Numeric 10 3) :
    (toColumn price.value : Except Failure (Numeric 10 3)) = .ok price := by
  obtain ⟨stored, kept, same⟩ : ∃ stored : Numeric 10 3,
      Numeric.store 10 3 price.value = some stored ∧ stored.value = price.value :=
    Numeric.store_value price le_rfl le_rfl
  obtain rfl := Numeric.value_injective same
  simp only [toColumn, kept]

/-- A listed price that rounds to the stored one is the stored one. -/
def PriceExact (selection : NormalizedSelection) (stored : Option Selection) : Prop :=
  ∀ row ∈ stored, ∀ number, newDecimal selection.price = .ok number →
    toColumn number = .ok row.price → row.price.value = number

/-- A price with at most three decimals is not rounded. -/
theorem priceExact_of_decimals {selection : NormalizedSelection} (stored : Option Selection)
    (decimals : ∀ number, newDecimal selection.price = .ok number → HasDecimals 3 number) :
    PriceExact selection stored := by
  intro row _ number parsed column
  exact (Numeric.store_exact_iff (store_of_toColumn column)).mpr (decimals number parsed)

variable (marketRefs : List String) (prices : Table Selection Selection.providerRef)

/-- A write of the stored price adds nothing to the history. -/
theorem upsertSelection_tracks (recorded : Recorded db) (counts : ℕ × ℕ)
    {selection : NormalizedSelection} {number : ℚ}
    (parsed : newDecimal selection.price = .ok number)
    (same : ((db.catalog.selections.get? selection.providerRef).map fun row => row.price.value) =
      some number) :
    Tracks (fun _ after => ∀ other, other ≠ selection.providerRef →
        after.catalog.selections.get? other = db.catalog.selections.get? other)
      ((attempt fun db => upsertSelection db selection) >>= fun _ => pure counts) db := by
  refine Closes.of_upholds recorded (Upholds.bind (Upholds.attempt recorded ?_) ?_)
  · intro written done
    obtain ⟨price, column, rfl⟩ := upsertSelection_price parsed done
    obtain ⟨old, found, value⟩ := Option.map_eq_some_iff.mp same
    obtain ⟨present, named⟩ := Table.get?_eq_some_iff.mp found
    rw [← value, toColumn_value] at column
    exact recorded.rewrite present named (Except.ok.inj column)
  · rintro _ written kept done
    obtain ⟨price, _, rfl⟩ := upsertSelection_price parsed done
    refine Upholds.pure kept fun other differs => ?_
    exact (Table.get?_put _ _ _).trans (if_neg differs.symm)

/-- A new price is written and recorded. -/
theorem createOddsSnapshot_tracks (recorded : Recorded db) (counts : ℕ × ℕ)
    {selection : NormalizedSelection} {number : ℚ}
    (parsed : newDecimal selection.price = .ok number)
    (new : ∀ price : Numeric 10 3, toColumn number = .ok price →
      ∀ old ∈ db.catalog.selections, old.providerRef = selection.providerRef →
      old.price ≠ price) :
    Tracks (fun _ after => ∀ other, other ≠ selection.providerRef →
        after.catalog.selections.get? other = db.catalog.selections.get? other)
      ((attempt fun db => upsertSelection db selection) >>= fun _ => do
        attempt fun db => createOddsSnapshot db selection.providerRef number
        publish
        pure counts) db := by
  have finish : ∀ written, upsertSelection db selection = .ok written → ∃ final,
      createOddsSnapshot written selection.providerRef number = .ok final ∧
      Recorded final ∧ ∀ other, other ≠ selection.providerRef →
        final.catalog.selections.get? other = db.catalog.selections.get? other := by
    intro written done
    obtain ⟨price, column, rfl⟩ := upsertSelection_price parsed done
    refine ⟨_, createOddsSnapshot_price column, recorded.record (new price column), ?_⟩
    intro other differs
    exact (Table.get?_put _ _ _).trans (if_neg differs.symm)
  refine Closes.pair recorded (fun _ => .intro _ _) ?_ ?_ ?_ ?_ ?_
  · exact fun admits => admits.1 (.intro selection) rfl
  · exact fun _ admits => admits.2 (.intro _ _) rfl
  · intro failure failed
    cases done : upsertSelection db selection with
    | ok written => simp [Query.attempt, done] at failed
    | error failure => simpa only [Query.attempt, done] using recorded
  · intro _ stored
    cases done : upsertSelection db selection with
    | error failure => simp [Query.attempt, done] at stored
    | ok written =>
        obtain ⟨final, made, kept, _⟩ := finish written done
        simpa only [Query.attempt, done, made] using kept
  · intro _ _ stored _
    cases done : upsertSelection db selection with
    | error failure => simp [Query.attempt, done] at stored
    | ok written =>
        obtain ⟨final, made, kept, rest⟩ := finish written done
        simp only [Query.attempt, done, made]
        refine Closes.of_upholds kept (Upholds.bind (keeps_publish kept) ?_)
        rintro _ later sound rfl
        exact Upholds.pure sound rest

/-- The loop body writes one selection, and records its odds if the price read before differs. -/
theorem ingestSelection_tracks (recorded : Recorded db) (counts : ℕ × ℕ)
    {selection : NormalizedSelection}
    (read : db.catalog.selections.get? selection.providerRef = prices.get? selection.providerRef)
    (exact_ : PriceExact selection (prices.get? selection.providerRef)) :
    Tracks (fun _ after => ∀ other, other ≠ selection.providerRef →
        after.catalog.selections.get? other = db.catalog.selections.get? other)
      (ingestSelection marketRefs (fun ref => (prices.get? ref).map fun row => row.price.value)
        counts selection) db := by
  unfold ingestSelection
  split
  · cases parsed : newDecimal selection.price with
    | error failure =>
        refine ⟨recorded, ?_⟩
        intro _ impossible
        cases impossible
    | ok number =>
        dsimp only
        rw [← read] at exact_
        by_cases same : ((prices.get? selection.providerRef).map fun row => row.price.value) =
            some number
        · simp only [if_pos same]
          exact upsertSelection_tracks recorded _ parsed (read ▸ same)
        · simp only [if_neg same]
          apply createOddsSnapshot_tracks recorded _ parsed
          rintro price column old present named rfl
          have found := Table.get?_eq_some_iff.mpr ⟨present, named⟩
          refine same ?_
          rw [← read, found, Option.map_some, exact_ old found number parsed column]
  · exact Closes.pure recorded fun _ _ => rfl

/-- A price that is not exact is recorded beside an equal one. -/
theorem ingestSelection_repeats (recorded : Recorded db) (counts : ℕ × ℕ)
    {selection : NormalizedSelection} {row : Selection} {number : ℚ}
    (known : selection.marketProviderRef ∈ marketRefs) (stored : row ∈ db.catalog.selections)
    (own : row.providerRef = selection.providerRef)
    (parsed : newDecimal selection.price = .ok number) (column : toColumn number = .ok row.price)
    (differs : row.price.value ≠ number) :
    Returns (fun _ after => ¬ Recorded after) (ingestSelection marketRefs
      (fun ref => (db.catalog.selections.get? ref).map fun row => row.price.value) counts selection)
      db := by
  have found : db.catalog.selections.get? selection.providerRef = some row :=
    Table.get?_eq_some_iff.mpr ⟨stored, own⟩
  have changed : ((db.catalog.selections.get? selection.providerRef).map fun row =>
      row.price.value) ≠ some number := by
    rw [found]
    exact fun same => differs (Option.some.inj same)
  unfold ingestSelection
  rw [if_pos known, parsed]
  refine Upholds.bind (Upholds.attempt trivial fun _ _ => trivial) ?_
  rintro _ written _ done
  obtain ⟨price, column', rfl⟩ := upsertSelection_price parsed done
  obtain rfl := Except.ok.inj (column.symm.trans column')
  rw [if_neg changed]
  refine Upholds.bind (Upholds.attempt trivial fun _ _ => trivial) ?_
  rintro _ after _ made
  rw [createOddsSnapshot_price column] at made
  obtain rfl := Except.ok.inj made
  refine Upholds.bind (keeps_publish trivial) ?_
  rintro _ later _ rfl
  refine Upholds.pure trivial fun again => ?_
  have changes := again.changes selection.providerRef
  rw [priceHistory_append selection.providerRef row.price selection.providerRef rfl,
    if_pos rfl, ← own] at changes
  have last := recorded.newest row stored
  exact (List.isChain_append.mp changes).2.2 _ last _ rfl rfl

/-- The prices that the database stores are told from the listed ones. -/
def PricesExact (snapshot : ProviderSnapshot) (db : Database) : Prop :=
  ∀ selection ∈ snapshot.selections,
    PriceExact selection (db.catalog.selections.get? selection.providerRef)

theorem ingestSelections_tracks {snapshot : ProviderSnapshot} (recorded : Recorded db)
    (once : (snapshot.selections.map NormalizedSelection.providerRef).Nodup)
    (exact_ : PricesExact snapshot db) :
    Tracks (fun _ _ => True) (snapshot.selections.foldlM (ingestSelection marketRefs fun ref =>
      (db.catalog.selections.get? ref).map fun row => row.price.value) (0, 0)) db := by
  refine Contract.Safe.mono (fun _ _ held => ⟨held.1, fun _ _ => trivial⟩) (Closes.foldlM
    (fun rest _ now => (rest.map NormalizedSelection.providerRef).Nodup ∧
      rest ⊆ snapshot.selections ∧ ∀ selection ∈ rest,
        now.catalog.selections.get? selection.providerRef =
          db.catalog.selections.get? selection.providerRef) ?_ recorded
    ⟨once, List.Subset.refl _, fun _ _ => rfl⟩)
  rintro selection rest counts now sound ⟨distinct, listed, unread⟩
  obtain ⟨here, later⟩ := List.cons_subset.mp listed
  rw [List.map_cons, List.nodup_cons] at distinct
  refine Contract.Safe.mono (fun _ after held => ⟨held.1, fun counts returned => ?_⟩)
    (ingestSelection_tracks marketRefs db.catalog.selections sound counts
      (unread selection List.mem_cons_self) (exact_ selection here))
  have others := held.2 counts returned
  refine ⟨distinct.2, later, fun other among => ?_⟩
  rw [others other.providerRef fun same => distinct.1 (same ▸ List.mem_map_of_mem among)]
  exact unread other (List.mem_cons_of_mem _ among)

end Selections

section Phases

variable {snapshot : ProviderSnapshot} {db after : Database}

/-- What holds until the selections are written. -/
def Ready (snapshot : ProviderSnapshot) (db : Database) : Prop :=
  Recorded db ∧ PricesExact snapshot db

theorem Ready.of_same (ready : Ready snapshot db)
    (selections : after.catalog.selections = db.catalog.selections)
    (odds : after.catalog.oddsSnapshots = db.catalog.oddsSnapshots) : Ready snapshot after := by
  refine ⟨ready.1.of_same selections odds, ?_⟩
  unfold PricesExact
  rw [selections]
  exact ready.2

theorem Ready.settleSelections (ready : Ready snapshot db) (eventRef : String) :
    Ready snapshot (settleSelections db eventRef) := by
  refine ⟨ready.1.settleSelections eventRef, fun selection listed row found => ?_⟩
  unfold Ingestion.settleSelections at found
  dsimp only at found
  rw [Table.get?_updateWhere, Option.mem_def, Option.map_eq_some_iff] at found
  obtain ⟨old, stored, rfl⟩ := found
  have price : (if selectionOfEvent db eventRef old then { old with status := .settled }
      else old).price = old.price := by split <;> rfl
  rw [price]
  exact ready.2 selection listed old stored

theorem Ready.purge (ready : Ready snapshot db) (ledger : Ledger) (fixtures : List String) :
    Ready snapshot { db with ledger, catalog := cascadeFixtures fixtures db.catalog } := by
  refine ⟨ready.1.purge ledger fixtures, fun selection listed row found => ?_⟩
  obtain ⟨stored, named⟩ := Table.get?_eq_some_iff.mp found
  exact ready.2 selection listed row
    (Table.get?_eq_some_iff.mpr ⟨(Table.mem_deleteWhere.mp stored).1, named⟩)

/-- The live phase. -/
theorem ingestLiveData_tracks
    (once : (snapshot.selections.map NormalizedSelection.providerRef).Nodup)
    (ready : Ready snapshot db) : Tracks (fun _ _ => True) (ingestLiveData snapshot) db := by
  have implied : ∀ db, Ready snapshot db → Recorded db := fun _ ready => ready.1
  unfold ingestLiveData
  refine Closes.bind (tracks_of_keeps implied ready (Upholds.read ready)) ?_
  rintro fixtureRefs now _ ⟨ready, _⟩
  refine Closes.bind (tracks_of_keeps implied ready (keeps_ingestEvents snapshot ?_ ?_ ?_ fixtureRefs
    ready)) ?_
  · intro event _ db after ready done
    obtain rfl := upsertEvent_ok done
    exact ready.of_same rfl rfl
  · exact fun event _ _ db ready => ready.of_same rfl rfl
  · exact fun event _ _ db ready => ready.settleSelections event.providerRef
  rintro _ now _ ⟨ready, _⟩
  refine Closes.bind (tracks_of_keeps implied ready (Upholds.read ready)) ?_
  rintro eventRefs now _ ⟨ready, _⟩
  refine Closes.bind (tracks_of_keeps implied ready (keeps_ingestMarkets snapshot
    (fun _ => Ready snapshot) (fun _ _ ready => ready) eventRefs ?_ (fun _ _ _ _ ready => ready)
    ready)) ?_
  · intro market rest db after _ _ ready done
    obtain ⟨line, _, rfl⟩ := upsertMarket_ok done
    exact ready.of_same rfl rfl
  rintro _ now _ ⟨ready, _⟩
  refine Closes.bind (tracks_of_keeps implied ready (Upholds.read ready)) ?_
  rintro marketRefs now _ ⟨ready, _⟩
  refine Closes.bind (tracks_of_keeps implied ready (Upholds.read ready)) ?_
  rintro prices now _ ⟨ready, rfl, rfl⟩
  exact Closes.bind (ingestSelections_tracks marketRefs ready.1 once ready.2)
    fun _ _ sound _ => Closes.pure sound trivial

end Phases

section Runs

variable {runtime : Runtime} {isOddsApi : Bool} {db : Database}

/-- What the fixtures phase and the live phase make of the snapshot of a run. -/
theorem fixturesThenLive_tracks {snapshot : ProviderSnapshot} (purgeStale : Bool) {α : Type}
    (summary : ℕ → LiveCounts → α)
    (once : (snapshot.selections.map NormalizedSelection.providerRef).Nodup)
    (ready : Ready snapshot db) : Tracks (fun _ _ => True) (do
      let fixtureCount ← upsertFixturesFromSnapshot runtime isOddsApi snapshot purgeStale
      let live ← ingestLiveData snapshot
      pure (summary fixtureCount live)) db := by
  refine Closes.bind (tracks_of_keeps (fun _ ready => ready.1) ready
    (keeps_upsertFixturesFromSnapshot runtime isOddsApi snapshot purgeStale ?_ (fun _ ready => ready)
      ?_ ready)) ?_
  · exact fun _ _ only ready =>
      ready.of_same only.unpriced.selections only.unpriced.oddsSnapshots
  · exact fun _ _ db fixtures ledger ready _ => ready.purge ledger fixtures
  rintro count now _ ⟨ready, _⟩
  exact Closes.bind (ingestLiveData_tracks once ready) fun _ _ sound _ => Closes.pure sound trivial

theorem run_tracks (run : IngestRun) (recorded : Recorded db)
    (meets : ∀ snapshot, run.Fetches db snapshot →
      (snapshot.selections.map NormalizedSelection.providerRef).Nodup ∧ PricesExact snapshot db) :
    Tracks (fun _ _ => True) (run.program runtime isOddsApi) db := by
  have implied : ∀ snapshot db, Ready snapshot db → Recorded db := fun _ _ ready => ready.1
  have aside : ∀ snapshot first second, Unscheduled first second → Ready snapshot first →
      Ready snapshot second := fun _ _ _ aside ready =>
    ready.of_same aside.selections aside.oddsSnapshots
  cases run with
  | catalog fetched =>
      refine Closes.void ?_
      unfold ingestFixtures
      cases fetched with
      | error failure => exact ⟨recorded, fun _ impossible => nomatch impossible⟩
      | ok snapshot =>
          obtain ⟨once, exact_⟩ := meets snapshot rfl
          refine Closes.bind (tracks_of_keeps (implied snapshot) ⟨recorded, exact_⟩
            (keeps_upsertCatalog snapshot (aside snapshot) ⟨recorded, exact_⟩)) ?_
          rintro _ now _ ⟨ready, _⟩
          refine Closes.bind (tracks_of_keeps (implied snapshot) ready
            (keeps_syncTenantLeagues
              (fun first second only => aside snapshot first second only.unscheduled) _ _ ready)) ?_
          rintro _ now _ ⟨ready, _⟩
          refine Closes.bind (tracks_of_keeps (implied snapshot) ready
            (keeps_syncTenantLeagues
              (fun first second only => aside snapshot first second only.unscheduled) _ _ ready)) ?_
          rintro _ now _ ⟨ready, _⟩
          exact fixturesThenLive_tracks true _ once ready
  | live now prestartMinutes fetchLiveSnapshot =>
      refine Closes.void ?_
      unfold ingestLiveTick
      refine Closes.bind (Closes.of_upholds recorded (Upholds.read recorded)) ?_
      rintro sportKeys mid _ ⟨rfl, rfl⟩
      split
      · exact Closes.pure recorded trivial
      cases fetchLiveSnapshot with
      | none => exact ⟨recorded, fun _ impossible => nomatch impossible⟩
      | some fetch =>
          dsimp only
          split
          · exact ⟨recorded, fun _ impossible => nomatch impossible⟩
          · next snapshot fetched =>
              obtain ⟨once, exact_⟩ := meets snapshot fetched
              refine Closes.bind (tracks_of_keeps (implied snapshot) ⟨recorded, exact_⟩
                (keeps_upsertCatalog snapshot (aside snapshot) ⟨recorded, exact_⟩)) ?_
              rintro _ later _ ⟨ready, _⟩
              exact fixturesThenLive_tracks false _ once ready
  | results snapshot =>
      obtain ⟨once, exact_⟩ := meets snapshot rfl
      exact Closes.void (ingestLiveData_tracks once ⟨recorded, exact_⟩)

/-- The snapshot was mapped from what the feed answered, whatever its ids. -/
def FromMapper (snapshot : ProviderSnapshot) : Prop :=
  ∃ runtime now input, snapshot = mapOddsApiToSnapshot runtime now input

variable (runtime isOddsApi) in
/-- A run of feed data whose listed prices tell the stored ones, not broken off in between. -/
def Exactly (db : Database) (session : Session databaseMachine) : Prop :=
  Meets runtime isOddsApi (fun _ snapshot db => FromMapper snapshot ∧ PricesExact snapshot db)
    db session ∧ Unbroken session db

theorem Recorded.session {session : Session databaseMachine} (recorded : Recorded db)
    (exactly : Exactly runtime isOddsApi db session) : Recorded (session.result db) := by
  obtain ⟨⟨run, same, meets⟩, unbroken⟩ := exactly
  have safe : Tracks (fun _ _ => True) session.program db := by
    rw [same]
    refine run_tracks run recorded fun snapshot fetched => ?_
    obtain ⟨⟨runtime, now, input, rfl⟩, exact_⟩ := meets snapshot fetched
    exact ⟨Table.unique _, exact_⟩
  exact safe.result unbroken.followed unbroken.outside

/-- **The odds history**: from a catalog without selections on, through every sequence of runs,
complete or not, whose prices tell the stored ones and that stop nowhere between a price and its
record, the history of a selection changes from row to row and ends with its price. -/
theorem odds_history {sessions : List (Session databaseMachine)}
    (selections : ∀ selection, selection ∉ db.catalog.selections)
    (odds : db.catalog.oddsSnapshots = [])
    (each : Session.Each (Exactly runtime isOddsApi) sessions db) :
    Recorded (Session.runAll sessions db) := by
  have start : Recorded db := by
    refine ⟨by simp [odds], fun selection => ?_, fun selection stored =>
      absurd stored (selections selection)⟩
    unfold priceHistory
    rw [odds]
    exact .nil
  have step : ∀ db session, Recorded db → Exactly runtime isOddsApi db session →
      Recorded (session.result db) := fun _ _ recorded exactly => recorded.session exactly
  exact Session.runAll_preserves step start each

/-- A session that meets no fault and returns is not broken off. -/
theorem unbroken_of_returned {session : Session databaseMachine}
    (plain : ∀ move ∈ session.moves, move = .run 0 Fault.none) (returned : session.Returned db) :
    Unbroken session db where
  followed := by
    have follows : ∀ (moves : List (Move databaseMachine)) config,
        (∀ move ∈ moves, move = .run 0 Fault.none) →
        Config.Follows (fun _ fault query => Undivided fault query) config moves := by
      intro moves
      induction moves with
      | nil => exact fun _ _ => trivial
      | cons move rest ih =>
          intro config plain
          refine ⟨?_, ih _ fun other among => plain other (List.mem_cons_of_mem _ among)⟩
          rw [plain move List.mem_cons_self]
          simp only [Config.Permits]
          split
          · exact ⟨fun _ => nofun, fun _ => nofun⟩
          · trivial
    exact follows session.moves _ plain
  outside Reply query next waiting := by
    unfold Session.Returned at returned
    rw [waiting] at returned
    simp [Program.outcome] at returned

end Runs

section Sample

/-- One outcome of one game at this price. -/
def priceFeed (price : Decimal) : MapOddsApiInput where
  sportKeys := ["basketball_nba"]
  apiSports := []
  oddsBySport _ := [⟨"game", "0", "Lakers", "Celtics",
    [⟨"book", [⟨"h2h", [⟨"Lakers", price, none⟩]⟩]⟩]⟩]
  scoresBySport _ := []
  marketKeys := ["h2h"]

def pricing (price : Decimal) : IngestRun :=
  .catalog (.ok (mapOddsApiToSnapshot asciiRuntime 1 (priceFeed price)))

def ingestPrice (price : Decimal) : Session databaseMachine :=
  (pricing price).session asciiRuntime true 40

theorem ingestPrice_exactly {price : Decimal} {db : Database}
    (decimals : ∀ selection ∈ (mapOddsApiToSnapshot asciiRuntime 1 (priceFeed price)).selections,
      ∀ number, newDecimal selection.price = .ok number → HasDecimals 3 number)
    (returned : (ingestPrice price).Returned db) :
    Exactly asciiRuntime true db (ingestPrice price) := by
  refine ⟨⟨pricing price, rfl, ?_⟩, unbroken_of_returned ?_ returned⟩
  · intro snapshot fetched
    obtain rfl := Except.ok.inj fetched
    exact ⟨⟨_, _, _, rfl⟩, fun selection listed =>
      priceExact_of_decimals _ (decimals selection listed)⟩
  · exact fun move member => List.eq_of_mem_replicate member

theorem decimals_of_decide {selections : List NormalizedSelection}
    (all : ∀ selection ∈ selections, (match newDecimal selection.price with
      | .ok number => decide (HasDecimals 3 number)
      | .error _ => true) = true) :
    ∀ selection ∈ selections, ∀ number, newDecimal selection.price = .ok number →
      HasDecimals 3 number := by
  intro selection listed number parsed
  have holds := all selection listed
  rw [parsed] at holds
  exact of_decide_eq_true holds

/-- A price that moves and then stays is recorded twice. -/
theorem moved_price_recorded : Recorded (Session.runAll
    [ingestPrice ⟨1915, -3, by decide⟩, ingestPrice ⟨192, -2, by decide⟩,
      ingestPrice ⟨192, -2, by decide⟩] freshDatabase) := by
  suffices each : Session.Each (Exactly asciiRuntime true)
      [ingestPrice ⟨1915, -3, by decide⟩, ingestPrice ⟨192, -2, by decide⟩,
        ingestPrice ⟨192, -2, by decide⟩] freshDatabase from
    odds_history (fun _ => (Table.mem_empty _).mp) rfl each
  refine ⟨ingestPrice_exactly (decimals_of_decide ?_) ?_,
    ingestPrice_exactly (decimals_of_decide ?_) ?_,
    ingestPrice_exactly (decimals_of_decide ?_) ?_, trivial⟩
  all_goals decide +kernel

/-- A price that the column rounds is recorded again by every run. -/
theorem rounded_price_recorded_again :
    ¬ ∀ sessions : List (Session databaseMachine), Session.Each (fun db session =>
        Meets asciiRuntime true (fun _ snapshot _ => FromMapper snapshot) db session ∧
          session.Returned db) sessions freshDatabase →
      Recorded (Session.runAll sessions freshDatabase) := by
  intro claim
  have meets : ∀ db, Meets asciiRuntime true (fun _ snapshot _ => FromMapper snapshot) db
      (ingestPrice ⟨191667, -5, by decide⟩) := by
    refine fun db => ⟨pricing ⟨191667, -5, by decide⟩, rfl, fun snapshot fetched => ?_⟩
    obtain rfl := Except.ok.inj fetched
    exact ⟨_, _, _, rfl⟩
  have recorded := claim
    [ingestPrice ⟨191667, -5, by decide⟩, ingestPrice ⟨191667, -5, by decide⟩]
    ⟨⟨meets _, by decide +kernel⟩, ⟨meets _, by decide +kernel⟩, trivial⟩
  have twice : priceHistory (Session.runAll
      [ingestPrice ⟨191667, -5, by decide⟩, ingestPrice ⟨191667, -5, by decide⟩] freshDatabase)
      "game:book:h2h:lakers:np" = [⟨1917, by decide⟩, ⟨1917, by decide⟩] := by decide +kernel
  have changes := recorded.changes "game:book:h2h:lakers:np"
  rw [twice] at changes
  simp at changes

end Sample

end SportsBetting.Ingestion
