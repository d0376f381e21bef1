import SportsBetting.Bets.Validation
import SportsBetting.Ingestion.Trace

/-!
# Totals lines and the labels of their selections

A totals selection is labelled with its point; the line belongs to its market.
The reference of the market does not contain the point, so a line move rewrites
the market and leaves the selections with the former point behind.
-/

namespace SportsBetting.Ingestion

open Async BetValidation Numeral Text

/-- The name that the feed gives to the over or the under at a point. -/
def Labelled (name : String) (point : Decimal) : Prop :=
  name = "Over " ++ point.text ∨ name = "Under " ++ point.text

instance (name : String) (point : Decimal) : Decidable (Labelled name point) :=
  inferInstanceAs (Decidable (_ ∨ _))

theorem Labelled.value_eq {name : String} {first second : Decimal} (one : Labelled name first)
    (other : Labelled name second) : first.value = second.value := by
  apply Decimal.value_eq_of_text
  apply String.toList_inj.mp
  rcases one with rfl | rfl
  · rcases other with same | same
    · simpa using congrArg String.toList same
    · simpa using congrArg String.toList same
  · rcases other with same | same
    · simpa using congrArg String.toList same
    · simpa using congrArg String.toList same

def LineIs (point : Decimal) (line : Option (Numeric 6 2)) : Prop :=
  ∃ stored, line = some stored ∧ stored.value = point.value

/-- Every open totals selection shows the line of its market. -/
def Truthful (db : Database) : Prop :=
  ∀ selection ∈ db.catalog.selections, ∀ market ∈ db.catalog.markets,
    market.providerRef = selection.market → selection.status = .open → market.type = .total →
      market.status = .open → ∀ point, Labelled selection.name point → LineIs point market.line

structure LinesShown (db : Database) : Prop where
  linked : Linked db
  truthful : Truthful db

/-- The database or the snapshot has an open selection of this name on the market. -/
def ShowsLabel (snapshot : ProviderSnapshot) (db : Database) (marketRef name : String) : Prop :=
  (∃ selection ∈ db.catalog.selections, selection.market = marketRef ∧ selection.status = .open ∧
    selection.name = name) ∨
    ∃ listed ∈ snapshot.selections, listed.marketProviderRef = marketRef ∧ listed.status = .open ∧
      listed.name = name

/-- The snapshot moves no totals line away from a point that is still on offer, and
adds no selection at another point to a totals market that it leaves as it is. -/
structure LinesAgree (snapshot : ProviderSnapshot) (db : Database) : Prop where
  listed : ∀ market ∈ snapshot.markets, market.type = .total → market.status = .open →
    ∀ line, lineColumn market.line = .ok line →
    ∀ name, ShowsLabel snapshot db market.providerRef name → ∀ point, Labelled name point →
      LineIs point line
  stored : ∀ market ∈ db.catalog.markets, market.type = .total → market.status = .open →
    (∀ listed ∈ snapshot.markets, listed.providerRef = market.providerRef →
      listed.eventProviderRef ≠ market.event) →
    ∀ selection ∈ snapshot.selections, selection.marketProviderRef = market.providerRef →
      selection.status = .open → ∀ point, Labelled selection.name point → LineIs point market.line

section Traced

variable {purged : String → Prop} {snapshot : ProviderSnapshot} {db after : Database}

/-- An open market of a run with an open selection stored before. -/
theorem LinesAgree.kept (agree : LinesAgree snapshot db) (truthful : Truthful db)
    {selection : Selection} (stored : selection ∈ db.catalog.selections)
    (selectionOpen : selection.status = .open) {market : Market}
    (origin : KeptMarket db market ∨ ListedMarket snapshot market)
    (on : market.providerRef = selection.market) (total : market.type = .total)
    (marketOpen : market.status = .open) {point : Decimal}
    (label : Labelled selection.name point) : LineIs point market.line := by
  rcases origin with kept | ⟨listed, member, line, column, rfl⟩
  · exact truthful selection stored market (kept.of_open marketOpen) on selectionOpen total
      marketOpen point label
  · exact agree.listed listed member total marketOpen line column selection.name
      (.inl ⟨selection, stored, on.symm, selectionOpen, rfl⟩) point label

theorem LinesAgree.truthful (agree : LinesAgree snapshot db) (shown : LinesShown db)
    (traced : Traced purged snapshot db after) : Truthful after := by
  intro selection stored market present on selectionOpen total marketOpen point label
  have origin := traced.markets market present
  rcases traced.selections with kept | ⟨written, either⟩
  · exact agree.kept shown.truthful ((kept selection stored).of_open selectionOpen) selectionOpen origin
      on total marketOpen label
  rcases either selection stored with kept | ⟨listed, member, price, rfl⟩
  · exact agree.kept shown.truthful (kept.of_open selectionOpen) selectionOpen origin on total marketOpen
      label
  rcases written market present with ⟨listing, among, line, column, rfl⟩ | ⟨kept, relisted⟩
  · exact agree.listed listing among total marketOpen line column listed.name
      (.inr ⟨listed, member, on.symm, selectionOpen, rfl⟩) point label
  · -- The market was not rewritten, so the snapshot does not list it for its own event.
    obtain ⟨event, known, of⟩ := traced.linked shown.linked market present
    apply agree.stored market (kept.of_open marketOpen) total marketOpen ?_ listed member on.symm
      selectionOpen point label
    intro listing among same under
    rcases relisted listing among same with impossible | unknown
    · cases impossible
    · exact unknown event known (of.trans under.symm)

theorem LinesShown.of_games (shown : LinesShown db) (same : SameGames db after) :
    LinesShown after := by
  constructor
  · unfold Linked
    rw [same.markets, same.events]
    exact shown.linked
  · unfold Truthful
    rw [same.selections, same.markets]
    exact shown.truthful

end Traced

/-- **A bet on a total is placed at the line it shows**, after every history of
ingest runs whose lines agree with the labels on offer. -/
theorem placed_at_shown_line {runtime : Runtime} {isOddsApi : Bool} {config : EnvConfig}
    {db after : Database} {sessions : List (Session databaseMachine)}
    (markets : ∀ market, market ∉ db.catalog.markets)
    (selections : ∀ selection, selection ∉ db.catalog.selections)
    (each : Session.Each (Meets runtime isOddsApi fun _ snapshot db => LinesAgree snapshot db)
      sessions db)
    (reached : after = Session.runAll sessions db)
    {casinoGroupId stakeRaw : String} {selectionIds : List String} {rows : List SelectionRow}
    {quote : ValidatedBetQuote}
    (found : rows.Perm (findSelections after casinoGroupId selectionIds))
    (accepted : validatePlacement config selectionIds stakeRaw rows = .ok quote) :
    ∀ leg ∈ quote.legs, leg.snapshot.marketType = .total → ∀ point,
      Labelled leg.selectionName point →
        ∃ text, leg.snapshot.marketLine = some text ∧ parse text = some point.value := by
  have start : LinesShown db := by
    constructor
    · exact fun market stored => absurd stored (markets market)
    · exact fun selection stored => absurd stored (selections selection)
  have kept : LinesShown after := by
    rw [reached]
    apply history_keeps ?_ ?_ start each
    · exact fun db after same shown => shown.of_games same
    · exact fun run snapshot db after agree traced shown =>
        ⟨traced.linked shown.linked, agree.truthful shown traced⟩
  intro leg placed total point label
  obtain ⟨selection, stored, market, present, on, selectionOpen, marketOpen, name, type, line⟩ :=
    leg_of_accepted found accepted placed
  rw [name] at label
  obtain ⟨column, same, value⟩ := kept.truthful selection stored market present on selectionOpen
    (type.symm.trans total) marketOpen point label
  refine ⟨toFixed 2 column.value, ?_, ?_⟩
  · rw [line, same]
    rfl
  · rw [column.parse_toFixed, value]

section Sample

/-- The totals of the game at another point. -/
def movedTotals : ProviderSnapshot :=
  OddsApi.mapOddsApiToSnapshot asciiRuntime 1 (totalsFeed (.ofDigits 2215 (-1)) [] ["totals"])

def ingestTotals (snapshot : ProviderSnapshot) : Session databaseMachine :=
  (IngestRun.catalog (.ok snapshot)).session asciiRuntime true 40

/-- A bet on over 220.5 after these runs. -/
def overAfter (snapshots : List ProviderSnapshot) : Except Failure ValidatedBetQuote :=
  validatePlacement ⟨"1", "100", "1000"⟩ ["game:book:totals:over:220.5"] "10"
    (findSelections (Session.runAll (snapshots.map ingestTotals) freshDatabase) "group"
      ["game:book:totals:over:220.5"])

/-- Where every total on offer has one and the same point, the lines agree. -/
theorem linesAgree_of_point {snapshot : ProviderSnapshot} {db : Database} (point : Decimal)
    (line : Numeric 6 2) (exact_ : line.value = point.value)
    (storedSelections : ∀ selection ∈ db.catalog.selections.rows, Labelled selection.name point)
    (listedSelections : ∀ selection ∈ snapshot.selections, Labelled selection.name point)
    (storedMarkets : ∀ market ∈ db.catalog.markets.rows, market.line = some line)
    (listedMarkets : ∀ market ∈ snapshot.markets, lineColumn market.line = .ok (some line)) :
    LinesAgree snapshot db := by
  constructor
  · intro market member _ _ column stored name shows other label
    rw [listedMarkets market member] at stored
    obtain rfl := Except.ok.inj stored
    refine ⟨line, rfl, exact_.trans ?_⟩
    rcases shows with ⟨selection, present, _, _, rfl⟩ | ⟨selection, present, _, _, rfl⟩
    · exact (storedSelections selection present).value_eq label
    · exact (listedSelections selection present).value_eq label
  · intro market present _ _ _ selection member _ _ other label
    exact ⟨line, storedMarkets market present,
      exact_.trans ((listedSelections selection member).value_eq label)⟩

/-- Ingested twice at the same point, the leg carries the line that it shows. -/
theorem placed_at_unmoved_line : ∃ quote, overAfter [openTotals, openTotals] = .ok quote ∧
    ∀ leg ∈ quote.legs, leg.snapshot.marketType = .total → ∀ point,
      Labelled leg.selectionName point →
        ∃ text, leg.snapshot.marketLine = some text ∧ parse text = some point.value := by
  have agree : ∀ db : Database, (∀ selection ∈ db.catalog.selections.rows,
      Labelled selection.name ⟨2205, -1, by decide⟩) →
      (∀ market ∈ db.catalog.markets.rows, market.line = some ⟨22050, by decide⟩) →
      LinesAgree openTotals db := fun db selections markets =>
    linesAgree_of_point ⟨2205, -1, by decide⟩ ⟨22050, by decide⟩ (by decide +kernel) selections
      (by decide +kernel) markets (by decide +kernel)
  have each : Session.Each
      (Meets asciiRuntime true fun _ snapshot db => LinesAgree snapshot db)
      ([openTotals, openTotals].map ingestTotals) freshDatabase := by
    refine ⟨⟨.catalog (.ok openTotals), rfl, ?_⟩, ⟨.catalog (.ok openTotals), rfl, ?_⟩, trivial⟩
    · intro snapshot fetched
      obtain rfl := Except.ok.inj fetched
      exact agree _ (by decide +kernel) (by decide +kernel)
    · intro snapshot fetched
      obtain rfl := Except.ok.inj fetched
      exact agree _ (by decide +kernel) (by decide +kernel)
  have accepts : (overAfter [openTotals, openTotals]).toBool = true := by decide +kernel
  cases accepted : overAfter [openTotals, openTotals] with
  | error failure => simp [accepted, Except.toBool] at accepts
  | ok quote =>
      refine ⟨quote, rfl, placed_at_shown_line ?_ ?_ each rfl (List.Perm.refl _) accepted⟩
      · exact fun market => (Table.mem_empty market).mp
      · exact fun selection => (Table.mem_empty selection).mp

/-- After the line has moved to 221.5, a bet on over 220.5 is still accepted, and carries 221.5. -/
theorem placed_at_moved_line : ∃ quote, overAfter [openTotals, movedTotals] = .ok quote ∧
    ∃ leg ∈ quote.legs, leg.snapshot.marketType = .total ∧
      Labelled leg.selectionName ⟨2205, -1, by decide⟩ ∧
      leg.snapshot.marketLine = some "221.50" ∧
      parse "221.50" ≠ some (Decimal.value ⟨2205, -1, by decide⟩) := by
  have legs : (overAfter [openTotals, movedTotals]).map (fun quote => quote.legs.map fun leg =>
      (leg.snapshot.marketType, leg.selectionName, leg.snapshot.marketLine)) =
      .ok [(.total, "Over 220.5", some "221.50")] := by
    decide +kernel
  cases accepted : overAfter [openTotals, movedTotals] with
  | error failure => simp [accepted, Except.map] at legs
  | ok quote =>
      refine ⟨quote, rfl, ?_⟩
      simp only [accepted, Except.map, Except.ok.injEq] at legs
      obtain ⟨leg, placed, same⟩ : ∃ leg ∈ quote.legs, (leg.snapshot.marketType, leg.selectionName,
          leg.snapshot.marketLine) = (MarketType.total, "Over 220.5", some "221.50") := by
        apply List.mem_map.mp
        rw [legs]
        exact List.mem_singleton.mpr rfl
      simp only [Prod.mk.injEq] at same
      obtain ⟨type, name, line⟩ := same
      exact ⟨leg, placed, type, name ▸ .inl (by decide +kernel), line, by decide +kernel⟩

end Sample

end SportsBetting.Ingestion
