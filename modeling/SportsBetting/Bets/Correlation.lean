import SportsBetting.Bets.Actors
import SportsBetting.Bets.Quotes

/-!
# Legs on one event

The check collects the events of the legs and does not look at them: a quote may multiply
outcomes of one match as if they were independent.
-/

namespace SportsBetting.BetValidation

open Numeral

variable {db : Database} {casinoGroupId : String}

/-- The event that a selection is on. -/
def eventOf (db : Database) (selectionId : String) : Option String := do
  let selection ← db.catalog.selections.get? selectionId
  let market ← db.catalog.markets.get? selection.market
  return market.event

/-- No two legs of the quote are on one event. -/
def ValidatedBetQuote.Uncorrelated (quote : ValidatedBetQuote) : Prop :=
  (quote.legs.map ValidatedLeg.eventId).Nodup

theorem eventOf_joined {selection : Selection} {row : SelectionRow}
    (stored : selection ∈ db.catalog.selections)
    (joined : joinSelection db casinoGroupId selection = some row) :
    eventOf db selection.providerRef = some row.event.providerRef := by
  obtain ⟨_, market, on, _, of⟩ := joinSelection_ok joined
  have market? : db.catalog.markets.get? selection.market = some row.market :=
    Table.get?_eq_some_iff.mpr ⟨market, on⟩
  simp [eventOf, Table.get?_of_mem stored, market?, of]

theorem validateLeg_ids {row : SelectionRow} {leg : ValidatedLeg}
    (accepted : validateLeg row = .ok leg) :
    leg.selectionId = row.selection.providerRef ∧ leg.eventId = row.event.providerRef := by
  unfold validateLeg at accepted
  split_ifs at accepted
  obtain rfl := Except.ok.inj accepted
  exact ⟨rfl, rfl⟩

/-- Joining keeps the order of the selections and their references. -/
theorem refs_sublist (wanted : List Selection) :
    ((wanted.filterMap (joinSelection db casinoGroupId)).map
      fun row => row.selection.providerRef).Sublist (wanted.map Selection.providerRef) := by
  induction wanted with
  | nil => exact .slnil
  | cons selection rest ih =>
      cases joined : joinSelection db casinoGroupId selection with
      | none =>
          rw [List.filterMap_cons_none joined]
          exact ih.cons _
      | some row =>
          rw [List.filterMap_cons_some joined, List.map_cons, List.map_cons,
            (joinSelection_ok joined).1]
          exact ih.cons_cons _

/-- The rows of an accepted request are the requested selections, in some order. -/
theorem perm_of_accepted {config : EnvConfig} {selectionIds : List String} {stakeRaw : String}
    {rows : List SelectionRow} {quote : ValidatedBetQuote}
    (found_ : rows.Perm (findSelections db casinoGroupId selectionIds))
    (accepted : validatePlacement config selectionIds stakeRaw rows = .ok quote) :
    (rows.map fun row => row.selection.providerRef).Perm selectionIds := by
  obtain ⟨distinct, all, _⟩ := validatePlacement_ok accepted
  refine (found_.map _).trans ?_
  have listed : ∀ row ∈ findSelections db casinoGroupId selectionIds,
      row.selection.providerRef ∈ selectionIds := by
    intro row member
    obtain ⟨selection, kept, joined⟩ := List.mem_filterMap.mp member
    obtain ⟨rfl, _⟩ := joinSelection_ok joined
    simpa using (List.mem_filter.mp kept).2
  have keys : ((findSelections db casinoGroupId selectionIds).map
      fun row => row.selection.providerRef).Nodup :=
    ((refs_sublist _).trans (List.Sublist.map _ List.filter_sublist)).nodup
      db.catalog.selections.unique
  have inside : ((findSelections db casinoGroupId selectionIds).map
      fun row => row.selection.providerRef) ⊆ selectionIds := by
    intro ref member
    obtain ⟨row, present, rfl⟩ := List.mem_map.mp member
    exact listed row present
  refine (keys.subperm inside).perm_of_length_le ?_
  rw [List.length_map, ← found_.length_eq, all]

/-- **No two legs of an accepted quote are on one event** exactly where no two of the
requested selections are. -/
theorem uncorrelated_iff {config : EnvConfig} {selectionIds : List String} {stakeRaw : String}
    {rows : List SelectionRow} {quote : ValidatedBetQuote}
    (found_ : rows.Perm (findSelections db casinoGroupId selectionIds))
    (accepted : validatePlacement config selectionIds stakeRaw rows = .ok quote) :
    quote.Uncorrelated ↔ (selectionIds.map (eventOf db)).Nodup := by
  obtain ⟨_, _, legs⟩ := validatePlacement_ok accepted
  have events : ∀ row ∈ rows,
      eventOf db row.selection.providerRef = some row.event.providerRef := by
    intro row member
    obtain ⟨selection, stored, joined⟩ := mem_findSelections (found_.mem_iff.mp member)
    have event := eventOf_joined stored joined
    obtain ⟨rfl, _⟩ := joinSelection_ok joined
    exact event
  have same := ((perm_of_accepted found_ accepted).map (eventOf db)).nodup_iff
  have kept : (quote.legs.map fun leg => some leg.eventId) =
      rows.map fun row => eventOf db row.selection.providerRef :=
    Except.map_eq_of_mapM_eq_ok legs fun row member leg passed => by
      rw [events row member, (validateLeg_ids passed).2]
  have listed : (rows.map fun row => row.selection.providerRef).map (eventOf db) =
      (quote.legs.map ValidatedLeg.eventId).map some := by
    rw [List.map_map, List.map_map]
    exact kept.symm
  rw [listed] at same
  rw [ValidatedBetQuote.Uncorrelated, ← same]
  exact (List.nodup_map_iff (Option.some_injective _)).symm

/-- Both teams of the one match can be bet on. -/
def bothTeams : Database :=
  { Sample.world.db with
    catalog := { Sample.catalog .live .open with
      selections := ⟨[⟨"winner:ants", "winner", "Ants", .open, .ofUnits 2000⟩,
        ⟨"winner:bees", "winner", "Bees", .open, .ofUnits 3000⟩], by simp⟩ } }

/-- A bet on both teams to win the same match is accepted at six times the stake. -/
theorem both_teams_accepted : ∃ quote,
    validatePlacement plainConfig ["winner:ants", "winner:bees"] "10"
      (findSelections bothTeams "group" ["winner:ants", "winner:bees"]) = .ok quote ∧
    quote.legs.map ValidatedLeg.eventId = ["match", "match"] ∧ quote.potentialPayout = 60 ∧
      ¬ quote.Uncorrelated := by
  have checked : accepts (validatePlacement plainConfig ["winner:ants", "winner:bees"] "10"
      (findSelections bothTeams "group" ["winner:ants", "winner:bees"]))
      (fun quote => quote.legs.map ValidatedLeg.eventId = ["match", "match"] &&
        quote.potentialPayout = 60) = true := by decide +kernel
  obtain ⟨quote, accepted, numbers⟩ := exists_of_accepts checked
  simp only [Bool.and_eq_true, decide_eq_true_eq] at numbers
  refine ⟨quote, accepted, numbers.1, numbers.2, ?_⟩
  rw [ValidatedBetQuote.Uncorrelated, numbers.1]
  decide

/-- A second match, with a market of its own. -/
def twoMatches : Database :=
  { Sample.world.db with
    catalog := { Sample.catalog .live .open with
      fixtures := ⟨[⟨"match", "league", "ants", "bees", 0, .live⟩,
        ⟨"return", "league", "bees", "ants", 0, .live⟩], by simp⟩
      events := ⟨[⟨"match", "match", .live, some 2, some 1, none, none⟩,
        ⟨"return", "return", .live, some 0, some 0, none, none⟩], by simp⟩
      markets := ⟨[⟨"winner", "match", .matchResult, .open, none⟩,
        ⟨"return winner", "return", .matchResult, .open, none⟩], by simp⟩
      selections := ⟨[⟨"winner:ants", "winner", "Ants", .open, .ofUnits 2000⟩,
        ⟨"return:bees", "return winner", "Bees", .open, .ofUnits 3000⟩], by simp⟩ } }

theorem two_matches_uncorrelated : ∃ quote,
    validatePlacement plainConfig ["winner:ants", "return:bees"] "10"
      (findSelections twoMatches "group" ["winner:ants", "return:bees"]) = .ok quote ∧
    quote.legs.length = 2 ∧ quote.Uncorrelated := by
  have checked : accepts (validatePlacement plainConfig ["winner:ants", "return:bees"] "10"
      (findSelections twoMatches "group" ["winner:ants", "return:bees"]))
      (fun quote => quote.legs.length = 2) = true := by
    decide +kernel
  obtain ⟨quote, accepted, legs⟩ := exists_of_accepts checked
  exact ⟨quote, accepted, by simpa using legs,
    (uncorrelated_iff (List.Perm.refl _) accepted).mpr (by decide +kernel)⟩

end SportsBetting.BetValidation
