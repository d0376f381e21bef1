import SportsBetting.Backoffice.Product
import SportsBetting.Feed.Provider

/-!
# Leagues that the ingest brings in

The ingest reads the configured entries against the sports that are active, the
back office reads them against the catalog. An entry that is no key of a reply
stands there for a group of keys. Once it is a key of the catalog, it no longer
stands for them in the back office.
-/

namespace SportsBetting.Product

open Async Text OddsApi

section Scope

/-- An entry stands for itself where it is a key, and else for the keys that it begins. -/
def StandsFor (keys : List String) (entry key : String) : Prop :=
  if entry ∈ keys then key = entry else key ∈ keys ∧ startsWith key (entry ++ "_") = true

theorem standsFor_self {keys : List String} {key : String} (member : key ∈ keys) :
    StandsFor keys key key := by
  rw [StandsFor, if_pos member]

theorem standsFor_group {keys : List String} {entry key : String} (absent : entry ∉ keys)
    (member : key ∈ keys) (begins : startsWith key (entry ++ "_") = true) :
    StandsFor keys entry key := by
  rw [StandsFor, if_neg absent]
  exact ⟨member, begins⟩

/-- What the entries stand for among the keys. -/
def InScope (configured keys : List String) (key : String) : Prop :=
  if configured = ["all"] then key ∈ keys
  else ∃ entry ∈ configured, entry ≠ "all" ∧ StandsFor keys entry key

def ingestibleKeys (apiSports : List OddsApiSportEntry) : List String :=
  (apiSports.filter isIngestibleSport).map fun sport => sport.key

variable {configured : List String} {key : String}

theorem mem_foldl_resolve {keys entries resolved : List String} :
    key ∈ entries.foldl (fun resolved entry =>
      if entry = "all" then resolved
      else if entry ∈ keys then addKey resolved entry
      else (keys.filter fun key => startsWith key (entry ++ "_")).foldl addKey resolved) resolved ↔
    key ∈ resolved ∨ ∃ entry ∈ entries, entry ≠ "all" ∧ StandsFor keys entry key := by
  induction entries generalizing resolved with
  | nil => simp
  | cons entry rest ih =>
      rw [List.foldl_cons, ih, List.exists_mem_cons_iff]
      by_cases all : entry = "all"
      · simp [all]
      by_cases known : entry ∈ keys
      · rw [if_neg all, if_pos known, mem_addKey, or_assoc, StandsFor, if_pos known]
        simp [all]
      · rw [if_neg all, if_neg known, mem_foldl_addKey, List.mem_filter, or_assoc, StandsFor,
          if_neg known]
        simp [all]

theorem mem_resolveSportKeys {apiSports : List OddsApiSportEntry} :
    key ∈ resolveSportKeys configured apiSports ↔
      InScope configured (ingestibleKeys apiSports) key := by
  unfold resolveSportKeys InScope
  dsimp only
  split
  · rfl
  · rw [← ingestibleKeys, mem_foldl_resolve]
    simp

theorem mem_resolveCatalogLeagueKeys {catalog : List String} :
    key ∈ resolveCatalogLeagueKeys configured catalog ↔ InScope configured catalog key := by
  unfold resolveCatalogLeagueKeys InScope
  split
  · rfl
  · simp only [List.mem_eraseDups, List.mem_flatMap]
    refine exists_congr fun entry => and_congr_right fun _ => ?_
    unfold StandsFor
    by_cases all : entry = "all"
    · simp [all]
    · rw [if_neg all]
      split
      · simp [all]
      · simp [all]

/-- No key of a group is the entry that asks for all. -/
theorem ne_all_of_startsWith {entry : String} (begins : startsWith key (entry ++ "_") = true) :
    key ≠ "all" := by
  rintro rfl
  rw [startsWith, List.isPrefixOf_iff_prefix, String.toList_append] at begins
  have inside : '_' ∈ "all".toList := begins.subset (List.mem_append_right _ (by decide))
  exact absurd inside (by decide)

end Scope

section Catalog

variable {configured keys catalog : List String}

/-- The key is configured, or begins with an entry that is no key of the catalog. -/
def Reached (configured catalog : List String) (key : String) : Prop :=
  key ∈ configured ∨ ∃ entry ∈ configured, entry ≠ "all" ∧ entry ∉ catalog ∧
    startsWith key (entry ++ "_") = true

/-- Where an entry stands for a group of the keys and is itself a key of the
catalog, the group is reached without it. -/
def Unshadowed (configured keys catalog : List String) : Prop :=
  ∀ entry ∈ configured, entry ≠ "all" → entry ∉ keys → entry ∈ catalog →
    ∀ key ∈ keys, startsWith key (entry ++ "_") = true → Reached configured catalog key

theorem Reached.inScope {key : String} (reached : Reached configured catalog key)
    (named : key ≠ "all") (stored : key ∈ catalog) : InScope configured catalog key := by
  unfold InScope
  split
  · exact stored
  · rcases reached with own | ⟨entry, listed, named, unknown, begins⟩
    · exact ⟨key, own, named, standsFor_self stored⟩
    · exact ⟨entry, listed, named, standsFor_group unknown stored begins⟩

/-- A key that the catalog has in scope is reached, unless every entry asks for all. -/
theorem InScope.reached {key : String} (chosen : configured ≠ ["all"])
    (covered : InScope configured catalog key) : Reached configured catalog key := by
  rw [InScope, if_neg chosen] at covered
  obtain ⟨entry, listed, named, stands⟩ := covered
  unfold StandsFor at stands
  split at stands
  · exact .inl (stands ▸ listed)
  · next unknown => exact .inr ⟨entry, listed, named, unknown, stands.2⟩

/-- A catalog that holds what is in scope among the keys has it in its own scope
exactly if no entry is shadowed. -/
theorem inScope_iff_unshadowed (stored : ∀ key, InScope configured keys key → key ∈ catalog) :
    (∀ key, InScope configured keys key → InScope configured catalog key) ↔
      Unshadowed configured keys catalog := by
  constructor
  · intro kept entry listed named absent known key member begins
    have chosen : configured ≠ ["all"] := by
      rintro rfl
      exact named (List.mem_singleton.mp listed)
    have covered : InScope configured keys key := by
      rw [InScope, if_neg chosen]
      exact ⟨entry, listed, named, standsFor_group absent member begins⟩
    exact (kept key covered).reached chosen
  · intro unshadowed key covered
    have held := stored key covered
    by_cases all : configured = ["all"]
    · rwa [InScope, if_pos all]
    rw [InScope, if_neg all] at covered
    obtain ⟨entry, listed, named, stands⟩ := covered
    unfold StandsFor at stands
    split at stands
    · subst stands
      exact Reached.inScope (.inl listed) named held
    · next absent =>
        have reached : Reached configured catalog key := by
          by_cases known : entry ∈ catalog
          · exact unshadowed entry listed named absent known key stands.1 stands.2
          · exact .inr ⟨entry, listed, named, known, stands.2⟩
        exact reached.inScope (ne_all_of_startsWith stands.2) held

end Catalog

section History

/-- Every key that the ingest resolved from a reply. -/
def ingested (configured : List String) (replies : List (List OddsApiSportEntry)) :
    List String :=
  replies.flatMap (resolveSportKeys configured)

/-- Staff can manage every league that the ingest brings in. -/
def Managed (configured : List String) (replies : List (List OddsApiSportEntry))
    (catalog : List String) : Prop :=
  ∀ reply ∈ replies,
    resolveSportKeys configured reply ⊆ resolveCatalogLeagueKeys configured catalog

instance (configured : List String) (replies : List (List OddsApiSportEntry))
    (catalog : List String) : Decidable (Managed configured replies catalog) :=
  inferInstanceAs (Decidable (∀ reply ∈ replies,
    resolveSportKeys configured reply ⊆ resolveCatalogLeagueKeys configured catalog))

theorem managed_iff_unshadowed (configured catalog : List String)
    (replies : List (List OddsApiSportEntry)) (stored : ingested configured replies ⊆ catalog) :
    Managed configured replies catalog ↔
      ∀ reply ∈ replies, Unshadowed configured (ingestibleKeys reply) catalog := by
  refine forall_congr' fun reply => forall_congr' fun received => ?_
  have held : ∀ key, InScope configured (ingestibleKeys reply) key → key ∈ catalog := by
    intro key covered
    apply stored
    exact List.mem_flatMap.mpr ⟨reply, received, mem_resolveSportKeys.mpr covered⟩
  rw [← inScope_iff_unshadowed held]
  refine forall_congr' fun key => ?_
  rw [mem_resolveSportKeys, mem_resolveCatalogLeagueKeys]

/-- The season, and after it a reply that has the league's summer games only. -/
def seasons : List (List OddsApiSportEntry) :=
  [[⟨⟨"basketball_nba", "Basketball", "NBA"⟩, true, false⟩],
    [⟨⟨"basketball_nba", "Basketball", "NBA"⟩, false, false⟩,
      ⟨⟨"basketball_nba_summer_league", "Basketball", "NBA Summer League"⟩, true, false⟩]]

theorem summer_league_unmanaged :
    ingested ["basketball_nba"] seasons ⊆ ["basketball_nba", "basketball_nba_summer_league"] ∧
      ¬ Managed ["basketball_nba"] seasons
        ["basketball_nba", "basketball_nba_summer_league"] := by
  decide +kernel

theorem group_managed :
    Managed ["basketball"] seasons ["basketball_nba", "basketball_nba_summer_league"] := by
  refine (managed_iff_unshadowed _ _ _ (by decide +kernel)).mpr ?_
  intro reply _ entry listed _ _ known
  obtain rfl := List.mem_singleton.mp listed
  exact absurd known (by decide)

end History

end SportsBetting.Product
