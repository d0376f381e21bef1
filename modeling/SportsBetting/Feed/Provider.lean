import SportsBetting.Data.Outcome
import SportsBetting.Feed.Entries

/-!
# The odds provider

A catalog fetch asks for the sports of the API and maps those that are configured.
A live fetch maps the keys it is given, with sports made up from the keys alone.
-/

namespace SportsBetting.OddsApi

open Text

section SportKeys

/-- An entry of the reply to `/sports`. -/
structure OddsApiSportEntry extends OddsApiSport where
  active : Bool
  has_outrights : Bool

def ODDS_API_ALL_REGIONS : String := "us,us2,uk,eu,au"

def resolveRegions (runtime : Runtime) (configured : String) : String :=
  if runtime.toLowerCase (trim configured) = "all" then ODDS_API_ALL_REGIONS else configured

def isIngestibleSport (sport : OddsApiSportEntry) : Bool := sport.active && !sport.has_outrights

/-- A set lists its members in the order of their first insertion. -/
def addKey (resolved : List String) (key : String) : List String :=
  if key ∈ resolved then resolved else resolved ++ [key]

def resolveSportKeys (configured : List String) (apiSports : List OddsApiSportEntry) :
    List String :=
  let keys := (apiSports.filter isIngestibleSport).map fun sport => sport.key
  if configured = ["all"] then keys
  else configured.foldl (fun resolved entry =>
    if entry = "all" then resolved
    else if entry ∈ keys then addKey resolved entry
    else (keys.filter fun key => startsWith key (entry ++ "_")).foldl addKey resolved) []

theorem mem_addKey {resolved : List String} {key other : String} :
    other ∈ addKey resolved key ↔ other ∈ resolved ∨ other = key := by
  unfold addKey
  split
  · next present =>
      refine ⟨.inl, fun member => member.elim id fun same => ?_⟩
      rw [same]
      exact present
  · simp

theorem mem_foldl_addKey {keys resolved : List String} {other : String} :
    other ∈ keys.foldl addKey resolved ↔ other ∈ resolved ∨ other ∈ keys := by
  induction keys generalizing resolved with
  | nil => simp
  | cons key rest ih => rw [List.foldl_cons, ih, mem_addKey, List.mem_cons, or_assoc]

/-- Only sports of the API are resolved. -/
theorem exists_of_mem_resolveSportKeys {configured : List String}
    {apiSports : List OddsApiSportEntry} {key : String}
    (resolved : key ∈ resolveSportKeys configured apiSports) :
    ∃ sport ∈ apiSports, sport.key = key := by
  have listed : key ∈ (apiSports.filter isIngestibleSport).map fun sport => sport.key := by
    unfold resolveSportKeys at resolved
    dsimp only at resolved
    split at resolved
    · exact resolved
    · revert resolved key
      generalize (apiSports.filter isIngestibleSport).map (fun sport => sport.key) = keys
      refine List.foldlRecOn (motive := fun resolved => ∀ {key : String}, key ∈ resolved → key ∈ keys)
        configured _ (by simp) ?_
      intro passed sound entry _ key
      split_ifs with every active
      · exact sound
      · intro member
        rcases mem_addKey.mp member with earlier | rfl
        · exact sound earlier
        · exact active
      · intro member
        rcases mem_foldl_addKey.mp member with earlier | prefixed
        · exact sound earlier
        · exact List.mem_of_mem_filter prefixed
  obtain ⟨sport, kept, same⟩ := List.mem_map.mp listed
  exact ⟨sport, List.mem_of_mem_filter kept, same⟩

end SportKeys

section Synthetic

variable (toUpperCase : Char → String)

/-- The first UTF-16 code unit in upper case. Half of a surrogate pair has none. -/
def capitalize (text : String) : String :=
  match text.toList with
  | [] => ""
  | first :: rest =>
      if first.toNat < 0x10000 then toUpperCase first ++ String.ofList rest else text

/-- Minimal catalog row for mapping when `/sports` is not called on a live tick. -/
def syntheticOddsApiSport (sportKey : String) : OddsApiSportEntry where
  key := sportKey
  group := capitalize toUpperCase (before '_' sportKey)
  title := sportKey
  active := true
  has_outrights := false

end Synthetic

section Provider

structure EnvConfig where
  ODDS_API_KEY : Option String
  ODDS_API_SPORT_KEYS : List String
  ODDS_API_REGIONS : String
  ODDS_API_MARKETS : List String

/-- How the API answers during a fetch: the last time, where it is asked twice. -/
structure Api where
  fetchSports : Except Failure (List OddsApiSportEntry)
  fetchOdds (sportKey regions : String) (markets : List String) :
    Except Failure (List OddsApiEventOdds)
  fetchScores (sportKey : String) : Except Failure (List OddsApiEventScore)

def EMPTY_PROVIDER_SNAPSHOT : ProviderSnapshot := ⟨[], [], [], [], [], [], []⟩

variable (runtime : Runtime) (toUpperCase : Char → String) (config : EnvConfig) (now : Time)
  (api : Api)

/-- A feed that fails is skipped. -/
def buildInput (sportKeys : List String) (apiSports : List OddsApiSportEntry) :
    MapOddsApiInput where
  sportKeys := sportKeys
  apiSports := apiSports.map OddsApiSportEntry.toOddsApiSport
  oddsBySport sportKey :=
    let sport := apiSports.find? fun sport => sport.key = sportKey
    let region := (resolveSportConfig runtime sportKey
      (sport.map OddsApiSportEntry.toOddsApiSport)).region
    let globalRegions := resolveRegions runtime config.ODDS_API_REGIONS
    let regions := if region = "" then globalRegions else resolveRegions runtime region
    ((api.fetchOdds sportKey regions config.ODDS_API_MARKETS).toOption).getD []
  scoresBySport sportKey := ((api.fetchScores sportKey).toOption).getD []
  marketKeys := config.ODDS_API_MARKETS.filter fun key => (ODDS_API_MARKET_TYPE_MAP key).isSome

def buildSnapshot (sportKeys : List String) (apiSports : List OddsApiSportEntry) :
    ProviderSnapshot :=
  mapOddsApiToSnapshot runtime now (buildInput runtime config api sportKeys apiSports)

def requireApiKey : Except Failure String :=
  match config.ODDS_API_KEY with
  | some apiKey =>
      if apiKey = "" then .error (.error "ODDS_API_KEY is required for OddsApiProvider")
      else .ok apiKey
  | none => .error (.error "ODDS_API_KEY is required for OddsApiProvider")

def fetchSnapshot : Except Failure ProviderSnapshot := do
  let _ ← requireApiKey config
  let apiSports ← api.fetchSports
  let sportKeys := resolveSportKeys config.ODDS_API_SPORT_KEYS apiSports
  return buildSnapshot runtime config now api sportKeys apiSports

def fetchLiveSnapshot (sportKeys : List String) : Except Failure ProviderSnapshot :=
  if sportKeys = [] then .ok EMPTY_PROVIDER_SNAPSHOT
  else do
    let _ ← requireApiKey config
    return buildSnapshot runtime config now api sportKeys
      (sportKeys.map (syntheticOddsApiSport toUpperCase))

end Provider

section Agreement

variable {runtime : Runtime} {toUpperCase : Char → String} {apiSports : List OddsApiSportEntry}
  {ingested polled : List String} {key : String}

theorem before_of_configured (configured : (ODDS_API_SPORT_CONFIG key).isSome = true) :
    before '_' key = key := by
  unfold ODDS_API_SPORT_CONFIG at configured
  split at configured
  · next member =>
      simp only [List.mem_cons, List.not_mem_nil, or_false] at member
      rcases member with rfl | rfl | rfl | rfl <;> decide
  · cases configured

theorem eq_of_configured {config : OddsApiSportConfig}
    (configured : ODDS_API_SPORT_CONFIG key = some config) : config = groupConfig key := by
  unfold ODDS_API_SPORT_CONFIG at configured
  split at configured
  · exact (Option.some.inj configured).symm
  · cases configured

theorem resolveSportConfig_groupSportKey (runtime : Runtime) (key : String) (sport : OddsApiSport) :
    (resolveSportConfig runtime key (some sport)).groupSportKey =
      if (ODDS_API_SPORT_CONFIG (before '_' key)).isSome then before '_' key
      else slugify runtime sport.group := by
  unfold resolveSportConfig
  dsimp only
  cases whole : ODDS_API_SPORT_CONFIG key with
  | some config =>
      have same := before_of_configured (by rw [whole]; rfl : (ODDS_API_SPORT_CONFIG key).isSome)
      rw [same, whole, eq_of_configured whole]
      rfl
  | none =>
      cases group : ODDS_API_SPORT_CONFIG (before '_' key) with
      | none => rfl
      | some config =>
          have part : before '_' key ≠ key := by
            intro same
            rw [same, whole] at group
            cases group
          rw [decide_eq_true part, eq_of_configured group]
          rfl

theorem resolveSportConfig_leagueName (runtime : Runtime) (key : String) (sport : OddsApiSport) :
    (resolveSportConfig runtime key (some sport)).leagueName =
      if (ODDS_API_SPORT_CONFIG key).isSome then orElse sport.title key else sport.title := by
  unfold resolveSportConfig
  dsimp only
  cases whole : ODDS_API_SPORT_CONFIG key with
  | some config =>
      rw [eq_of_configured whole]
      rfl
  | none =>
      dsimp only
      split <;> rfl

theorem resolveSportConfig_regionName (runtime : Runtime) (key : String)
    (sport : Option OddsApiSport) : (resolveSportConfig runtime key sport).regionName = "" := by
  unfold resolveSportConfig
  dsimp only
  cases whole : ODDS_API_SPORT_CONFIG key with
  | some config =>
      rw [eq_of_configured whole]
      rfl
  | none =>
      dsimp only
      split
      · next config group _ =>
          rw [eq_of_configured group]
          rfl
      · rfl

/-- The sports that the mapper is given. -/
abbrev plainSports (apiSports : List OddsApiSportEntry) : List OddsApiSport :=
  apiSports.map OddsApiSportEntry.toOddsApiSport

abbrev syntheticSports (toUpperCase : Char → String) (sportKeys : List String) : List OddsApiSport :=
  plainSports (sportKeys.map (syntheticOddsApiSport toUpperCase))

theorem sportOf_synthetic (member : key ∈ polled) :
    sportOf (syntheticSports toUpperCase polled)
      key = some (syntheticOddsApiSport toUpperCase key).toOddsApiSport := by
  have own : ∀ sport ∈ syntheticSports toUpperCase polled, sport.key = key →
      sport = (syntheticOddsApiSport toUpperCase key).toOddsApiSport := by
    intro sport listed same
    obtain ⟨_, among, rfl⟩ := List.mem_map.mp listed
    obtain ⟨other, _, rfl⟩ := List.mem_map.mp among
    rw [← same]
    rfl
  unfold sportOf
  cases search : List.find? _ _ with
  | none =>
      have listed := List.mem_map_of_mem (f := OddsApiSportEntry.toOddsApiSport)
        (List.mem_map_of_mem (f := syntheticOddsApiSport toUpperCase) member)
      have differs := List.find?_eq_none.mp search _ (List.mem_reverse.mpr listed)
      exact absurd (decide_eq_true (rfl : key = key)) differs
  | some sport =>
      have listed := List.mem_reverse.mp (List.mem_of_find?_eq_some search)
      rw [own sport listed (by simpa using List.find?_some search)]

theorem exists_sportOf {apiSports : List OddsApiSport}
    (listed : ∃ sport ∈ apiSports, sport.key = key) : ∃ sport, sportOf apiSports key = some sport := by
  obtain ⟨sport, member, same⟩ := listed
  cases search : sportOf apiSports key with
  | none =>
      have absent := List.find?_eq_none.mp search sport (List.mem_reverse.mpr member)
      exact absurd same (by simpa using absent)
  | some other => exact ⟨other, rfl⟩

/-- A key that another key and a name make up starts like the other key. -/
theorem before_teamKey (runtime : Runtime) (key name : String) :
    before '_' (teamKey runtime key name) = before '_' key := by
  unfold teamKey before
  congr 1
  rw [String.toList_append, String.toList_append, List.append_assoc]
  induction key.toList with
  | nil => rfl
  | cons symbol rest ih =>
      by_cases other : symbol = '_'
      · simp [other]
      · simpa [other] using ih

/-- The API says of the polled keys what can be read off the keys themselves: their titles,
the groups of all ingested keys that start alike, and the name of each group. -/
structure Foreseen (runtime : Runtime) (toUpperCase : Char → String)
    (apiSports : List OddsApiSportEntry) (ingested polled : List String) : Prop where
  titles : ∀ key ∈ polled, ∀ sport ∈ sportOf (plainSports apiSports) key,
    sport.title = key ∨ (ODDS_API_SPORT_CONFIG key).isSome ∧ sport.title = ""
  groups : ∀ key ∈ polled, ∀ other ∈ ingested, before '_' other = before '_' key →
    ∀ sport ∈ sportOf (plainSports apiSports) other,
      (ODDS_API_SPORT_CONFIG (before '_' key)).isSome ∨
        slugify runtime sport.group = slugify runtime (capitalize toUpperCase (before '_' key))
  names : ∀ group,
    ∀ key ∈ leader runtime (syntheticSports toUpperCase polled) polled group,
    ∀ first ∈ leader runtime (plainSports apiSports) ingested group,
    ∀ sport ∈ sportOf (plainSports apiSports) first,
      sport.group = capitalize toUpperCase (before '_' key)

/-- What the second snapshot says of the catalog, the first one says as well. -/
structure Repeats (catalog live : ProviderSnapshot) : Prop where
  sports : ∀ sport ∈ live.sports, sport ∈ catalog.sports
  leagues : ∀ league ∈ live.leagues, league ∈ catalog.leagues
  teams : ∀ team ∈ live.teams, ∀ other ∈ catalog.teams, other.key = team.key →
    other.sportKey = team.sportKey

section Foreseen

variable (foreseen : Foreseen runtime toUpperCase apiSports ingested polled)
  (known : ∀ key ∈ ingested, ∃ sport ∈ apiSports, sport.key = key)

include foreseen known in
theorem Foreseen.group {other : String} (member : key ∈ polled) (among : other ∈ ingested)
    (alike : before '_' other = before '_' key) :
    (configOf runtime (syntheticSports toUpperCase polled) key).groupSportKey =
      (configOf runtime (plainSports apiSports) other).groupSportKey := by
  obtain ⟨entry, listed, named⟩ := known other among
  obtain ⟨sport, said⟩ : ∃ sport, sportOf (plainSports apiSports) other = some sport :=
    exists_sportOf ⟨_, List.mem_map_of_mem listed, named⟩
  unfold configOf
  rw [sportOf_synthetic member, said, resolveSportConfig_groupSportKey,
    resolveSportConfig_groupSportKey, alike]
  rcases foreseen.groups key member other among alike sport said with configured | same
  · rw [if_pos configured, if_pos configured]
  · rw [same]
    rfl

include foreseen known in
theorem Foreseen.leagueEntry (member : key ∈ polled) (among : key ∈ ingested) :
    leagueEntry runtime (syntheticSports toUpperCase polled) key =
      leagueEntry runtime (plainSports apiSports) key := by
  obtain ⟨entry, listed, named⟩ := known key among
  obtain ⟨sport, said⟩ : ∃ sport, sportOf (plainSports apiSports) key = some sport :=
    exists_sportOf ⟨_, List.mem_map_of_mem listed, named⟩
  have group := foreseen.group known member among rfl
  have name : (configOf runtime (syntheticSports toUpperCase polled) key).leagueName =
      (configOf runtime (plainSports apiSports) key).leagueName := by
    unfold configOf
    rw [sportOf_synthetic member, said, resolveSportConfig_leagueName, resolveSportConfig_leagueName]
    rcases foreseen.titles key member sport said with same | ⟨configured, blank⟩
    · rw [same]
      rfl
    · rw [if_pos configured, if_pos configured, blank]
      simp only [orElse, if_true]
      exact ite_self key
  unfold OddsApi.leagueEntry
  dsimp only
  rw [group, name]
  simp [configOf, resolveSportConfig_regionName]

include foreseen known in
theorem Foreseen.sportEntry {first group : String}
    (here : key ∈ leader runtime (syntheticSports toUpperCase polled) polled group)
    (there : first ∈ leader runtime (plainSports apiSports) ingested group) :
    sportEntry runtime (syntheticSports toUpperCase polled) key =
      sportEntry runtime (plainSports apiSports) first := by
  have member : key ∈ polled := List.mem_of_find?_eq_some here
  obtain ⟨entry, listed, named⟩ := known first (List.mem_of_find?_eq_some there)
  obtain ⟨sport, said⟩ : ∃ sport, sportOf (plainSports apiSports) first = some sport :=
    exists_sportOf ⟨_, List.mem_map_of_mem listed, named⟩
  unfold OddsApi.sportEntry
  dsimp only
  rw [group_of_mem_leader here, group_of_mem_leader there, sportOf_synthetic member, said]
  simp [foreseen.names group key here first there sport said, syntheticOddsApiSport]

include foreseen known in
/-- **Where the keys foretell the API, the two mapping paths agree.** -/
theorem repeats_of_foreseen (config : EnvConfig) (now later : Time) (api answers : Api)
    (inside : ∀ key ∈ polled, key ∈ ingested) :
    Repeats (buildSnapshot runtime config now api ingested apiSports)
      (buildSnapshot runtime config later answers polled
        (polled.map (syntheticOddsApiSport toUpperCase))) := by
  have catalog : Entries runtime (plainSports apiSports) ingested _ :=
    entries_mapOddsApiToSnapshot runtime now (buildInput runtime config api ingested apiSports)
  have live : Entries runtime (syntheticSports toUpperCase polled) polled _ :=
    entries_mapOddsApiToSnapshot runtime later
      (buildInput runtime config answers polled (polled.map (syntheticOddsApiSport toUpperCase)))
  constructor
  · intro sport listed
    obtain ⟨key, here, rfl⟩ := (live.sports sport).mp listed
    have member : key ∈ polled := List.mem_of_find?_eq_some here
    have group := foreseen.group known member (inside key member) rfl
    obtain ⟨first, there⟩ := exists_leader runtime (plainSports apiSports) (inside key member)
    rw [← group, group_of_mem_leader here] at there
    exact (catalog.sports _).mpr ⟨first, there, foreseen.sportEntry known here there⟩
  · intro league listed
    obtain ⟨key, member, rfl⟩ := (live.leagues league).mp listed
    exact (catalog.leagues _).mpr
      ⟨key, inside key member, foreseen.leagueEntry known member (inside key member)⟩
  · intro team listed other written same
    obtain ⟨key, member, name, rfl⟩ := live.teams team listed
    obtain ⟨under, among, named, rfl⟩ := catalog.teams other written
    have alike : before '_' under = before '_' key := by
      rw [← before_teamKey runtime under named, ← before_teamKey runtime key name]
      exact congrArg (before '_') same
    exact (foreseen.group known member among alike).symm

end Foreseen

end Agreement

end SportsBetting.OddsApi
