import SportsBetting.Settlement.Service

/-!
# Payouts of slips

One void leg voids the whole slip, whatever the others are: the stake goes back even
for a slip that has lost.
-/

namespace SportsBetting

open Numeral SettlementService

/-- Lost, void, won: the better result has the higher rank. -/
def LegResult.rank : LegResult → ℕ
  | .lost => 0
  | .void => 1
  | .won => 2

/-- What a slip with these results pays. -/
def payout (stake : Numeric 12 2) (potentialPayout : Numeric 14 2) (legResults : List LegResult) :
    ℚ :=
  (payoutForResult stake potentialPayout (aggregateBetResult legResults)).value

section Replacement

variable {stake : Numeric 12 2} {potentialPayout : Numeric 14 2} {first last : List LegResult}
  {result better : LegResult}

/-- What one leg and the others make of a slip. -/
theorem aggregateBetResult_insert (first last : List LegResult) (result : LegResult) :
    aggregateBetResult (first ++ result :: last) =
      if result = .void ∨ .void ∈ first ++ last then .void
      else if result = .lost ∨ .lost ∈ first ++ last then .lost
      else .won := by
  have member : ∀ other, other ∈ first ++ result :: last ↔
      result = other ∨ other ∈ first ++ last := by
    intro other
    simp only [List.mem_append, List.mem_cons]
    constructor
    · rintro (early | rfl | late)
      · exact .inr (.inl early)
      · exact .inl rfl
      · exact .inr (.inr late)
    · rintro (rfl | early | late)
      · exact .inr (.inl rfl)
      · exact .inl early
      · exact .inr (.inr late)
  simp only [aggregateBetResult, member]

theorem payout_insert (first last : List LegResult) (result : LegResult) :
    payout stake potentialPayout (first ++ result :: last) =
      if result = .void ∨ .void ∈ first ++ last then stake.value
      else if result = .lost ∨ .lost ∈ first ++ last then 0
      else potentialPayout.value := by
  unfold payout
  rw [aggregateBetResult_insert]
  split
  · rfl
  · split
    · simp [payoutForResult]
    · rfl

/-- The only void leg of a slip with a lost leg is won instead. -/
def LastVoidWon (first last : List LegResult) (result better : LegResult) : Prop :=
  result = .void ∧ better = .won ∧ .void ∉ first ++ last ∧ .lost ∈ first ++ last

instance (first last : List LegResult) (result better : LegResult) :
    Decidable (LastVoidWon first last result better) :=
  inferInstanceAs (Decidable (_ ∧ _ ∧ _ ∧ _))

/-- A better result of one leg does not lower the payout, unless it wins the only void leg
of a slip with a lost leg: then the slip pays nothing instead of the stake. -/
theorem payout_of_better (worse : result.rank < better.rank) (paid : 0 ≤ stake.value)
    (covers : stake.value ≤ potentialPayout.value) :
    (¬ LastVoidWon first last result better →
      payout stake potentialPayout (first ++ result :: last) ≤
        payout stake potentialPayout (first ++ better :: last)) ∧
    (LastVoidWon first last result better →
      payout stake potentialPayout (first ++ result :: last) = stake.value ∧
        payout stake potentialPayout (first ++ better :: last) = 0) := by
  rw [payout_insert, payout_insert]
  constructor
  · intro usual
    by_cases void : LegResult.void ∈ first ++ last
    · simp only [void, or_true, if_true, le_refl]
    · by_cases lost : LegResult.lost ∈ first ++ last
      · cases result with
        | won => cases better <;> simp [LegResult.rank] at worse
        | void =>
            cases better with
            | won => exact absurd ⟨rfl, rfl, void, lost⟩ usual
            | _ => simp [LegResult.rank] at worse
        | lost => cases better <;> simp [void, lost, paid]
      · have pays := paid.trans covers
        cases result with
        | won => cases better <;> simp [LegResult.rank] at worse
        | void =>
            cases better with
            | won => simpa [void, lost] using covers
            | _ => simp [LegResult.rank] at worse
        | lost => cases better <;> simp [void, lost, paid, pays]
  · rintro ⟨rfl, rfl, void, lost⟩
    simp [void, lost]

theorem better_leg_pays_more :
    payout ⟨1000, by decide⟩ ⟨2500, by decide⟩ ([.won] ++ .lost :: []) ≤
      payout ⟨1000, by decide⟩ ⟨2500, by decide⟩ ([.won] ++ .won :: []) := by
  have usual : ¬ LastVoidWon [.won] [] .lost .won := by decide
  exact (payout_of_better (by decide) (by decide +kernel) (by decide +kernel)).1 usual

/-- A slip of a lost and a void leg pays the stake, and nothing once the void leg is won. -/
theorem better_leg_pays_less : LegResult.rank .void < LegResult.rank .won ∧
    payout ⟨1000, by decide⟩ ⟨2500, by decide⟩ [.lost, .won] <
      payout ⟨1000, by decide⟩ ⟨2500, by decide⟩ [.lost, .void] := by
  decide +kernel

end Replacement

end SportsBetting
