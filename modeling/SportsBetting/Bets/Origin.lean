import SportsBetting.Bets.Service

/-!
# Where the legs of a bet come from

Each leg of a placed bet froze the row that the placement read for its selection.
-/

namespace SportsBetting

open Async BetValidation BetsService

/-- The row that a placement reads for the leg. -/
def placedRow (placed : Database) (casinoGroupId : String) (leg : BetLeg) : Option SelectionRow := do
  let selection ← placed.catalog.selections.get? leg.selectionId
  joinSelection placed casinoGroupId selection

/-- What grading needs of the row is stored with the leg. -/
structure BetLeg.Froze (leg : BetLeg) (row : SelectionRow) : Prop where
  marketType : leg.marketType = some row.market.type
  marketLine : leg.marketLine = row.market.line
  homeTeamName : leg.homeTeamName = some row.homeTeam.name
  awayTeamName : leg.awayTeamName = some row.awayTeam.name
  selectionName : leg.selectionName = row.selection.name

/-- The legs were placed from this database. -/
def PlacedFrom (placed : Database) (casinoGroupId : String) (legs : List BetLeg) : Prop :=
  ∀ leg ∈ legs, ∃ row, placedRow placed casinoGroupId leg = some row ∧ leg.Froze row

section Placement

theorem legData_ok {quoted : ValidatedLeg} {legOrder : ℕ} {leg : BetLeg}
    (built : legData quoted legOrder = .ok leg) :
    leg.selectionId = quoted.selectionId ∧ leg.selectionName = quoted.selectionName ∧
      leg.marketType = some quoted.snapshot.marketType ∧
      lineColumn quoted.snapshot.marketLine = .ok leg.marketLine ∧
      leg.homeTeamName = some quoted.snapshot.homeTeamName ∧
      leg.awayTeamName = some quoted.snapshot.awayTeamName := by
  unfold legData legSnapshotCreateData at built
  obtain ⟨line, column, built⟩ := Except.bind_eq_ok.mp built
  obtain rfl := Except.pure_eq_ok.mp built
  exact ⟨rfl, rfl, rfl, column, rfl, rfl⟩

theorem validateLeg_selectionId {row : SelectionRow} {quoted : ValidatedLeg}
    (accepted : validateLeg row = .ok quoted) : quoted.selectionId = row.selection.providerRef := by
  unfold validateLeg at accepted
  split_ifs at accepted
  obtain rfl := Except.ok.inj accepted
  rfl

/-- A validated leg stores its row: the line survives its way through text and column. -/
theorem froze_of_validated {row : SelectionRow} {quoted : ValidatedLeg} {legOrder : ℕ} {leg : BetLeg}
    (accepted : validateLeg row = .ok quoted) (built : legData quoted legOrder = .ok leg) :
    leg.Froze row := by
  obtain ⟨_, _, _, name, snapshot⟩ := validateLeg_ok accepted
  obtain ⟨_, selectionName, type, line, home, away⟩ := legData_ok built
  rw [snapshot] at type line home away
  have same := lineColumn_lineText row.market.line
  exact ⟨type, Except.ok.inj (line.symm.trans same), home, away, selectionName.trans name⟩

theorem placedFrom_of_quote {config : EnvConfig} {placed : Database} {user : UserContext}
    {idempotencyKey : String} {selectionIds : List String} {stake : ℚ} {rows : List SelectionRow}
    {quote : ValidatedBetQuote} {data : BetData}
    (found : rows.Perm (findSelections placed user.casinoGroupId selectionIds))
    (accepted : validateRows config selectionIds stake rows = .ok quote)
    (built : betData user idempotencyKey quote = .ok data) :
    PlacedFrom placed data.casinoGroupId data.legs := by
  obtain ⟨_, _, stored, group⟩ := betData_ok built
  intro leg member
  obtain ⟨⟨quoted, index⟩, listed, data⟩ := (Except.mapM_eq_ok stored).2 leg member
  obtain ⟨row, read, passed⟩ := (Except.mapM_eq_ok (validateRows_ok accepted).2).2 quoted
    (List.fst_mem_of_mem_zipIdx listed)
  obtain ⟨selection, there, joined⟩ := mem_findSelections (found.mem_iff.mp read)
  refine ⟨row, ?_, froze_of_validated passed data⟩
  have own : leg.selectionId = selection.providerRef := by
    rw [(legData_ok data).1, validateLeg_selectionId passed, (joinSelection_ok joined).1]
  simp [placedRow, own, Table.get?_of_mem there, joined, group]

end Placement

end SportsBetting
