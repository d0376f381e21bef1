import SportsBetting.Feed.Entries

/-!
# What the mapping of the odds feed keeps apart

Outcomes and teams are told apart by their slugs only. Outcomes that come to one
reference are one selection, and the one that the feed lists last counts.
-/

namespace SportsBetting.OddsApi

open Numeral Text

section Slugs

variable {runtime : Runtime}

theorem mem_underscoreRuns {letters : List Char} {inRun : Bool} {symbol : Char}
    (member : symbol ∈ underscoreRuns inRun letters) :
    isSlugCharacter symbol = true ∨ symbol = '_' := by
  induction letters generalizing inRun with
  | nil => cases member
  | cons first rest ih =>
      unfold underscoreRuns at member
      split at member
      · next plain =>
          rcases List.mem_cons.mp member with rfl | later
          · exact .inl plain
          · exact ih later
      · split at member
        · exact ih member
        · rcases List.mem_cons.mp member with rfl | later
          · exact .inr rfl
          · exact ih later

theorem dropUnderscore_subset (letters : List Char) : dropUnderscore letters ⊆ letters := by
  unfold dropUnderscore
  split
  · exact List.subset_cons_self _ _
  · exact List.Subset.refl _

theorem mem_slugify {value : String} {symbol : Char}
    (member : symbol ∈ (slugify runtime value).toList) :
    isSlugCharacter symbol = true ∨ symbol = '_' := by
  unfold slugify at member
  rw [String.toList_ofList] at member
  have inner := dropUnderscore_subset _ (List.mem_reverse.mp (List.mem_of_mem_take member))
  exact mem_underscoreRuns (dropUnderscore_subset _ (List.mem_reverse.mp inner))

theorem colon_not_mem_slugify (value : String) : ':' ∉ (slugify runtime value).toList := by
  intro member
  rcases mem_slugify member with plain | same
  · exact absurd plain (by decide)
  · exact absurd same (by decide)

end Slugs

section References

variable {runtime : Runtime} {eventId bookmakerKey marketKey : String}
  {first second : OddsApiOutcome}

theorem pointPart_inj {one other : Option Decimal} :
    (one.map Decimal.text).getD "np" = (other.map Decimal.text).getD "np" ↔ one = other := by
  have plain : ∀ point : Decimal, point.text ≠ "np" := by
    intro point same
    have read := Decimal.parse_text point
    have unreadable : parse "np" = none := by decide
    rw [same, unreadable] at read
    cases read
  cases one with
  | none =>
      cases other with
      | none => simp
      | some point => simpa using (plain point).symm
  | some point =>
      cases other with
      | none => simpa using plain point
      | some twin => simp [Decimal.text_inj]

/-- In one market a reference tells the slug of the name and the point, and no more. -/
theorem selectionProviderRef_inj :
    selectionProviderRef runtime eventId bookmakerKey marketKey first =
        selectionProviderRef runtime eventId bookmakerKey marketKey second ↔
      slugify runtime first.name = slugify runtime second.name ∧ first.point = second.point := by
  constructor
  · intro same
    simp only [selectionProviderRef, String.append_assoc, String.append_right_inj] at same
    have read : ∀ name tail, before ':' (slugify runtime name ++ (":" ++ tail)) =
        slugify runtime name := by
      intro name tail
      rw [← String.append_assoc]
      exact before_append (colon_not_mem_slugify name) tail
    have slug := congrArg (before ':') same
    rw [read, read] at slug
    rw [slug, String.append_right_inj, String.append_right_inj] at same
    exact ⟨slug, pointPart_inj.mp same⟩
  · rintro ⟨slug, point⟩
    rw [selectionProviderRef, selectionProviderRef, slug, point]

theorem teamKey_inj {sportKey one other : String} :
    teamKey runtime sportKey one = teamKey runtime sportKey other ↔
      slugify runtime one = slugify runtime other := by
  unfold teamKey
  constructor
  · intro same
    exact (String.append_right_inj _).mp same
  · intro slug
    rw [slug]

end References

section Listed

/-- An outcome of a market of the bookmaker that was chosen for an event. -/
structure ListedOutcome where
  event : OddsApiEventOdds
  bookmaker : OddsApiBookmaker
  isEnded : Bool
  market : OddsApiMarket
  outcome : OddsApiOutcome

variable (runtime : Runtime) (now : Time) (input : MapOddsApiInput)

def ListedOutcome.entry (listed : ListedOutcome) : NormalizedSelection :=
  selectionEntry runtime listed.event listed.bookmaker listed.isEnded listed.market listed.outcome

def ListedOutcome.ref (listed : ListedOutcome) : String := (listed.entry runtime).providerRef

def isEnabled (market : OddsApiMarket) : Bool :=
  decide (market.key ∈ input.marketKeys) && (ODDS_API_MARKET_TYPE_MAP market.key).isSome

def marketOutcomes (event : OddsApiEventOdds) (bookmaker : OddsApiBookmaker) (isEnded : Bool)
    (market : OddsApiMarket) : List ListedOutcome :=
  if isEnabled input market then
    market.outcomes.map fun outcome => ⟨event, bookmaker, isEnded, market, outcome⟩
  else []

def eventOutcomes (sportKey : String) (event : OddsApiEventOdds) : List ListedOutcome :=
  let score := (scoresByEventId input).get? event.id
  let isEnded := decide (eventStatus runtime now event.commence_time score = .ended)
  match pickBookmaker event.bookmakers (configOf runtime input.apiSports sportKey).bookmaker with
  | none => []
  | some bookmaker => bookmaker.markets.flatMap (marketOutcomes input event bookmaker isEnded)

/-- What the feed lists in enabled markets of the chosen bookmakers, in the order of the feed. -/
def listedOutcomes : List ListedOutcome :=
  input.sportKeys.flatMap fun sportKey =>
    (input.oddsBySport sportKey).flatMap (eventOutcomes runtime now input sportKey)

/-- The names under a key, in the odds and in the scores. -/
def teamNames (sportKey : String) : List String :=
  ((input.oddsBySport sportKey).flatMap fun event => [event.home_team, event.away_team]) ++
    (input.scoresBySport sportKey).flatMap fun score => [score.home_team, score.away_team]

variable {runtime now input}

abbrev putAll (runtime : Runtime) (listed : List ListedOutcome)
    (selections : Table NormalizedSelection NormalizedSelection.providerRef) :
    Table NormalizedSelection NormalizedSelection.providerRef :=
  (listed.map (ListedOutcome.entry runtime)).foldl Table.put selections

/-- If each step puts its own outcomes, the steps put them one after the other. -/
theorem selections_foldl {Item : Type} {step : SnapshotMaps → Item → SnapshotMaps}
    {outcomes : Item → List ListedOutcome}
    (each : ∀ maps item, (step maps item).selections =
      putAll runtime (outcomes item) maps.selections) (items : List Item) (maps : SnapshotMaps) :
    (items.foldl step maps).selections = putAll runtime (items.flatMap outcomes) maps.selections := by
  induction items generalizing maps with
  | nil => rfl
  | cons item rest ih =>
      rw [List.foldl_cons, ih, each, List.flatMap_cons]
      simp only [putAll, List.map_append, List.foldl_append]

theorem selections_addMarket (event : OddsApiEventOdds) (bookmaker : OddsApiBookmaker)
    (isEnded : Bool) (maps : SnapshotMaps) (market : OddsApiMarket) :
    (addMarket runtime input event bookmaker isEnded maps market).selections =
      putAll runtime (marketOutcomes input event bookmaker isEnded market) maps.selections := by
  unfold addMarket marketOutcomes isEnabled
  cases decide (market.key ∈ input.marketKeys) with
  | false => rfl
  | true =>
      cases ODDS_API_MARKET_TYPE_MAP market.key with
      | none => rfl
      | some type =>
          simp only [Bool.true_and, Option.isSome_some, if_true, putAll, List.map_map,
            List.foldl_map]
          rfl

theorem selections_addOdds (sportKey : String) (maps : SnapshotMaps) (event : OddsApiEventOdds) :
    (addOdds runtime now input sportKey (configOf runtime input.apiSports sportKey) maps
      event).selections = putAll runtime (eventOutcomes runtime now input sportKey event)
        maps.selections := by
  unfold addOdds eventOutcomes
  dsimp only
  cases pickBookmaker event.bookmakers (configOf runtime input.apiSports sportKey).bookmaker with
  | none => rfl
  | some bookmaker => exact selections_foldl (selections_addMarket event bookmaker _) _ _

theorem selections_addScore (sportKey : String) (config : OddsApiSportConfig)
    (maps : SnapshotMaps) (score : OddsApiEventScore) :
    (addScore runtime now input sportKey config maps score).selections =
      putAll runtime [] maps.selections := by
  unfold addScore
  dsimp only
  split <;> rfl

theorem selections_addSport (maps : SnapshotMaps) (sportKey : String) :
    (addSport runtime now input maps sportKey).selections =
      putAll runtime ((input.oddsBySport sportKey).flatMap (eventOutcomes runtime now input sportKey))
        maps.selections := by
  have silent : ((input.scoresBySport sportKey).flatMap fun _ => ([] : List ListedOutcome)) = [] := by
    simp
  unfold addSport
  dsimp only
  refine (selections_foldl (selections_addScore sportKey _) _ _).trans ?_
  rw [silent]
  exact selections_foldl (selections_addOdds sportKey) _ _

/-- The selections of a snapshot are what the feed lists, put one after the other. -/
theorem selections_mapOddsApiToSnapshot (runtime : Runtime) (now : Time) (input : MapOddsApiInput) :
    (mapOddsApiToSnapshot runtime now input).selections =
      (putAll runtime (listedOutcomes runtime now input) .empty).rows :=
  congrArg Table.rows (selections_foldl selections_addSport _ _)

/-- The last that the feed lists under a reference. -/
def lastUnder (runtime : Runtime) (now : Time) (input : MapOddsApiInput) (ref : String) :
    Option ListedOutcome :=
  (listedOutcomes runtime now input).reverse.find? fun listed => listed.ref runtime = ref

/-- A selection is in the snapshot exactly if the last listing under its reference makes it. -/
theorem mem_selections {selection : NormalizedSelection} :
    selection ∈ (mapOddsApiToSnapshot runtime now input).selections ↔
      (lastUnder runtime now input selection.providerRef).map (ListedOutcome.entry runtime) =
        some selection := by
  have present : selection ∈ putAll runtime (listedOutcomes runtime now input) .empty ↔
      (putAll runtime (listedOutcomes runtime now input) .empty).get? selection.providerRef =
        some selection := by
    rw [Table.get?_eq_some_iff]
    exact (and_iff_left rfl).symm
  rw [selections_mapOddsApiToSnapshot, Table.mem_rows, present, putAll, Table.get?_foldl_put,
    ← List.map_reverse, List.find?_map]
  have none_ : (Table.empty : Table NormalizedSelection NormalizedSelection.providerRef).get?
      selection.providerRef = none := rfl
  rw [none_, Option.or_none]
  rfl

end Listed

section Lossless

variable (runtime : Runtime) (now : Time) (input : MapOddsApiInput)

/-- The bookmaker lists each market once, and the market lists the outcome's name and point once. -/
structure ListedOutcome.Sole (listed : ListedOutcome) : Prop where
  market : (listed.bookmaker.markets.map OddsApiMarket.key).Nodup
  outcome : ∀ other ∈ listed.market.outcomes, other.name = listed.outcome.name →
    other.point = listed.outcome.point → other = listed.outcome

/-- Different outcomes and different teams stay apart, with what the feed says of each. -/
structure LosesNothing : Prop where
  refs : ∀ listed ∈ listedOutcomes runtime now input,
    (listed.bookmaker.markets.map OddsApiMarket.key).Nodup →
    ∀ other ∈ listed.market.outcomes,
      (other.name, other.point) ≠ (listed.outcome.name, listed.outcome.point) →
        selectionProviderRef runtime listed.event.id listed.bookmaker.key listed.market.key other ≠
          listed.ref runtime
  selections : ∀ listed ∈ listedOutcomes runtime now input, listed.Sole →
    listed.entry runtime ∈ (mapOddsApiToSnapshot runtime now input).selections
  teams : ∀ sportKey ∈ input.sportKeys, ∀ one ∈ teamNames input sportKey,
    ∀ other ∈ teamNames input sportKey, one ≠ other →
      teamKey runtime sportKey one ≠ teamKey runtime sportKey other

/-- Different names have different slugs where only the slug tells them apart, and an outcome is
the last that the feed lists under its reference. -/
structure ToldApart : Prop where
  names : ∀ listed ∈ listedOutcomes runtime now input,
    (listed.bookmaker.markets.map OddsApiMarket.key).Nodup →
    ∀ other ∈ listed.market.outcomes, other.point = listed.outcome.point →
      slugify runtime other.name = slugify runtime listed.outcome.name →
        other.name = listed.outcome.name
  last : ∀ listed ∈ listedOutcomes runtime now input, listed.Sole →
    ∀ latest ∈ lastUnder runtime now input (listed.ref runtime),
      latest.entry runtime = listed.entry runtime
  teams : ∀ sportKey ∈ input.sportKeys, ∀ one ∈ teamNames input sportKey,
    ∀ other ∈ teamNames input sportKey, slugify runtime one = slugify runtime other → one = other

variable {runtime now input}

theorem exists_lastUnder {listed : ListedOutcome}
    (member : listed ∈ listedOutcomes runtime now input) :
    ∃ latest, lastUnder runtime now input (listed.ref runtime) = some latest := by
  rw [← Option.isSome_iff_exists, lastUnder, List.find?_isSome]
  exact ⟨listed, List.mem_reverse.mpr member, decide_eq_true rfl⟩

/-- Nothing of the feed is lost exactly if slugs and references tell everything apart. -/
theorem losesNothing_iff (runtime : Runtime) (now : Time) (input : MapOddsApiInput) :
    LosesNothing runtime now input ↔ ToldApart runtime now input := by
  constructor
  · intro lossless
    constructor
    · intro listed member once other there point slug
      by_contra differs
      have apart : (other.name, other.point) ≠ (listed.outcome.name, listed.outcome.point) :=
        fun same => differs (Prod.mk.inj same).1
      exact lossless.refs listed member once other there apart
        (selectionProviderRef_inj.mpr ⟨slug, point⟩)
    · intro listed member sole latest last
      have kept := mem_selections.mp (lossless.selections listed member sole)
      have found : lastUnder runtime now input (listed.entry runtime).providerRef = some latest :=
        last
      rw [found] at kept
      exact Option.some.inj kept
    · intro sportKey listed one first other second slug
      by_contra differs
      exact lossless.teams sportKey listed one first other second differs (teamKey_inj.mpr slug)
  · intro apart
    constructor
    · intro listed member once other there differs same
      obtain ⟨slug, point⟩ := selectionProviderRef_inj.mp same
      exact differs (Prod.ext (apart.names listed member once other there point slug) point)
    · intro listed member sole
      obtain ⟨latest, last⟩ := exists_lastUnder member
      refine mem_selections.mpr ?_
      have found : lastUnder runtime now input (listed.entry runtime).providerRef = some latest :=
        last
      rw [found, Option.map_some, apart.last listed member sole latest last]
    · intro sportKey listed one first other second differs same
      exact differs (apart.teams sportKey listed one first other second (teamKey_inj.mp same))

end Lossless

section Sample

/-- A game of two teams whose names have no Latin letter, at 1.9 and at 2.1. -/
def kanjiFeed : MapOddsApiInput where
  sportKeys := ["soccer_japan_j_league"]
  apiSports := []
  oddsBySport _ := [⟨"derby", "9", "東京", "大阪",
    [⟨"book", [⟨"h2h",
      [⟨"東京", .ofDigits 19 (-1), none⟩, ⟨"大阪", .ofDigits 21 (-1), none⟩]⟩]⟩]⟩]
  scoresBySport _ := []
  marketKeys := ["h2h"]

theorem kanjiFeed_loses : ¬ LosesNothing asciiRuntime 0 kanjiFeed ∧
    (mapOddsApiToSnapshot asciiRuntime 0 kanjiFeed).selections.map
      (fun selection => (selection.name, selection.price)) = [("大阪", "2.1")] ∧
    (mapOddsApiToSnapshot asciiRuntime 0 kanjiFeed).teams.map NormalizedTeam.name = ["大阪"] := by
  refine ⟨?_, by decide +kernel, by decide +kernel⟩
  intro lossless
  have apart := lossless.teams "soccer_japan_j_league" (by decide) "東京" (by decide) "大阪"
    (by decide) (by decide)
  exact apart (by decide)

end Sample

end SportsBetting.OddsApi
