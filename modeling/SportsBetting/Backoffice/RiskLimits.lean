import SportsBetting.Backoffice.Accounted
import SportsBetting.Bets.Quotes

/-!
# Risk limits and placements

Placements are checked against the limits of the deployment only. The limits of a tenant
hold for its quotes as long as they ask for no more than that.
-/

namespace SportsBetting.Trading

open Async Numeral BetValidation Portal

/-- The quote keeps to every limit that is set. -/
structure Within (limit : RiskLimit) (quote : ValidatedBetQuote) : Prop where
  minStake : ∀ amount, limit.minStake = some amount → amount.value ≤ quote.stake
  maxStake : ∀ amount, limit.maxStake = some amount → quote.stake ≤ amount.value
  maxPayout : ∀ amount, limit.maxPayout = some amount → quote.potentialPayout ≤ amount.value

/-- The limits ask for no more than those of the deployment. -/
structure Slack (config : EnvConfig) (limit : RiskLimit) : Prop where
  minStake : ∀ amount, limit.minStake = some amount → ∀ minStake,
    newDecimal config.BET_MIN_STAKE = .ok minStake → amount.value ≤ minStake
  maxStake : ∀ amount, limit.maxStake = some amount → ∀ maxStake,
    newDecimal config.BET_MAX_STAKE = .ok maxStake → maxStake ≤ amount.value
  maxPayout : ∀ amount, limit.maxPayout = some amount → ∀ maxPayout,
    newDecimal config.BET_MAX_PAYOUT = .ok maxPayout → maxPayout ≤ amount.value

/-- The patch sets no limit that asks for more. -/
structure SlackPatch (config : EnvConfig) (patch : LimitPatch) : Prop where
  minStake : ∀ number amount, patch.minStake = some (some number) →
    Numeric.store 12 2 number = some amount → ∀ minStake,
      newDecimal config.BET_MIN_STAKE = .ok minStake → amount.value ≤ minStake
  maxStake : ∀ number amount, patch.maxStake = some (some number) →
    Numeric.store 12 2 number = some amount → ∀ maxStake,
      newDecimal config.BET_MAX_STAKE = .ok maxStake → maxStake ≤ amount.value
  maxPayout : ∀ number amount, patch.maxPayout = some (some number) →
    Numeric.store 14 2 number = some amount → ∀ maxPayout,
      newDecimal config.BET_MAX_PAYOUT = .ok maxPayout → maxPayout ≤ amount.value

variable {config : EnvConfig} {casinoGroupId : String}

/-- What the deployment asks for is enough for slack limits. -/
theorem Slack.within {limit : RiskLimit} {stakeRaw : String} {quote : ValidatedBetQuote}
    (slack : Slack config limit) (priced : Priced config stakeRaw quote) : Within limit quote := by
  obtain ⟨minStake, maxStake, min?, max?, atLeast, atMost⟩ := priced.stake
  obtain ⟨maxPayout, payout?, paid⟩ := priced.limit
  constructor
  · intro amount asked
    exact (slack.minStake amount asked minStake min?).trans atLeast
  · intro amount asked
    exact atMost.trans (slack.maxStake amount asked maxStake max?)
  · intro amount asked
    exact paid.trans (slack.maxPayout amount asked maxPayout payout?)

section Patching

/-- A column that holds a limit has kept it, or was set to it. -/
theorem patchColumn_some {precision scale : ℕ} {patch : Option (Option ℚ)}
    {stored patched : Option (Numeric precision scale)} {amount : Numeric precision scale}
    (applied : patchColumn patch stored = .ok patched) (asked : patched = some amount) :
    stored = some amount ∨
      ∃ number, patch = some (some number) ∧ Numeric.store precision scale number = some amount := by
  subst asked
  unfold patchColumn at applied
  split at applied
  · exact .inl (Except.ok.inj applied)
  · cases Except.ok.inj applied
  · next number =>
      refine .inr ⟨number, rfl, store_of_toColumn ?_⟩
      cases kept : (toColumn number : Except Failure (Numeric precision scale)) with
      | error failure =>
          rw [kept] at applied
          cases applied
      | ok column =>
          rw [kept] at applied
          cases applied
          rfl

theorem Slack.apply {limit patched : RiskLimit} {patch : LimitPatch} (slack : Slack config limit)
    (loose : SlackPatch config patch) (applied : patch.apply limit = .ok patched) :
    Slack config patched := by
  obtain ⟨minStake, min?, applied⟩ := Except.bind_eq_ok.mp applied
  obtain ⟨maxStake, max?, applied⟩ := Except.bind_eq_ok.mp applied
  obtain ⟨maxPayout, payout?, applied⟩ := Except.bind_eq_ok.mp applied
  obtain rfl := Except.pure_eq_ok.mp applied
  constructor
  · intro amount asked
    rcases patchColumn_some min? asked with kept | ⟨number, given, fits⟩
    · exact slack.minStake amount kept
    · exact loose.minStake number amount given fits
  · intro amount asked
    rcases patchColumn_some max? asked with kept | ⟨number, given, fits⟩
    · exact slack.maxStake amount kept
    · exact loose.maxStake number amount given fits
  · intro amount asked
    rcases patchColumn_some payout? asked with kept | ⟨number, given, fits⟩
    · exact slack.maxPayout amount kept
    · exact loose.maxPayout number amount given fits

/-- The limits of the tenant, where it has a row, are slack. -/
def SlackLimits (config : EnvConfig) (casinoGroupId : String) (limits : RiskLimits) : Prop :=
  ∀ limit, limits.get? (globalKey casinoGroupId) = some limit → Slack config limit

theorem SlackLimits.upsert {patching freshId : String} {patch : LimitPatch} {db : Database}
    {limits after : RiskLimits} {limit : RiskLimit} (slack : SlackLimits config casinoGroupId limits)
    (loose : patching = casinoGroupId → SlackPatch config patch)
    (upserted : upsertLimit patching patch freshId db limits = .ok (limit, after)) :
    SlackLimits config casinoGroupId after := by
  have key := (upsertLimit_ok upserted).2
  obtain ⟨old, found_, upserted⟩ := Except.bind_eq_ok.mp upserted
  obtain ⟨patched, applied, upserted⟩ := Except.bind_eq_ok.mp upserted
  obtain ⟨rfl, rfl⟩ := Prod.mk.inj (Except.pure_eq_ok.mp upserted)
  intro limit stored
  rw [Table.get?_put, key] at stored
  split at stored
  · next same =>
      obtain rfl := Option.some.inj stored
      obtain rfl : patching = casinoGroupId := (Prod.mk.inj same).1
      refine Slack.apply ?_ (loose rfl) applied
      unfold globalLimit at found_
      split at found_
      · next existing present =>
          obtain rfl := Except.ok.inj found_
          exact slack existing present
      · split at found_
        · cases found_
        · obtain rfl := Except.ok.inj found_
          constructor <;> intro amount never <;> cases never
  · exact slack limit stored

end Patching

section Runs

/-- A request of a tenant's staff to change its limits. -/
structure LimitsRequest where
  casinoGroupId : String
  dto : PatchRiskLimitsDto
  staffUserId : String

def LimitsRequest.program (request : LimitsRequest) : PortalService Unit :=
  (Portal.patchLimits request.casinoGroupId request.dto request.staffUserId).void

/-- The requests at work, in any order and interleaving. -/
def patching (portal : State) (requests : List LimitsRequest) : Config machine :=
  ⟨portal, requests.map LimitsRequest.program⟩

/-- A request for the tenant sets no limit that asks for more. -/
def LimitsRequest.Loose (config : EnvConfig) (casinoGroupId : String) (request : LimitsRequest) :
    Prop :=
  request.casinoGroupId = casinoGroupId → ∀ patch, request.dto.parse = .ok patch →
    SlackPatch config patch

/-- Whatever answers it gets, the call leaves slack limits slack. -/
def KeepsSlack (config : EnvConfig) (casinoGroupId : String) {Reply : Type} (call : Call Reply) :
    Prop :=
  ∀ choice portal, SlackLimits config casinoGroupId portal.limits →
    SlackLimits config casinoGroupId (State.perform choice call portal).2.limits

theorem keepsSlack_limits {Reply : Type} {query : String → Database → Query RiskLimits Failure Reply}
    (kept : ∀ freshId db limits, SlackLimits config casinoGroupId limits →
      SlackLimits config casinoGroupId (query freshId db limits).2) :
    KeepsSlack config casinoGroupId (.limits query) := by
  intro choice portal slack
  have after := kept choice.freshId portal.world.db portal.limits slack
  unfold State.perform
  dsimp only
  cases choice.fault with
  | none => exact after
  | refused => exact slack
  | unacknowledged => exact after

theorem patchLimits_keepsSlack {request : LimitsRequest}
    (loose : request.Loose config casinoGroupId) :
    request.program.CallsOnly (KeepsSlack config casinoGroupId) := by
  refine Program.CallsOnly.void (Program.CallsOnly.bind ?_ fun before => ?_)
  · exact (Program.callsOnly_call _).mpr (keepsSlack_limits fun _ _ _ slack => slack)
  · cases parsed : request.dto.parse with
    | error failure => trivial
    | ok patch =>
        refine Program.CallsOnly.bind ?_ fun limit => Program.CallsOnly.bind ?_ fun _ => trivial
        · refine (Program.callsOnly_call _).mpr (keepsSlack_limits fun freshId db limits slack => ?_)
          unfold Query.transaction
          split
          · next reply after upserted =>
              exact slack.upsert (fun same => loose same patch parsed) upserted
          · exact slack
        · unfold prisma
          refine Program.CallsOnly.mapCalls ?_ (Program.callsOnly_trivial _)
          exact fun _ _ choice portal slack => slack

/-- **Accepted quotes keep to the limits of the tenant** after any run of requests, none
of which asks for more than the deployment does. -/
theorem accepted_within_limits {requests : List LimitsRequest} {portal : State}
    (start : SlackLimits config casinoGroupId portal.limits)
    (loose : ∀ request ∈ requests, request.Loose config casinoGroupId)
    {moves : List (Move machine)} {limit : RiskLimit}
    (current : ((patching portal requests).run moves).state.limits.get? (globalKey casinoGroupId) =
      some limit)
    {selectionIds : List String} {stakeRaw : String} {rows : List SelectionRow}
    {quote : ValidatedBetQuote}
    (accepted : validatePlacement config selectionIds stakeRaw rows = .ok quote) :
    Within limit quote := by
  have pool : ∀ program ∈ (patching portal requests).pool,
      program.CallsOnly (KeepsSlack config casinoGroupId) := by
    intro program member
    obtain ⟨request, listed, rfl⟩ := List.mem_map.mp member
    exact patchLimits_keepsSlack (loose request listed)
  have slack : SlackLimits config casinoGroupId
      ((patching portal requests).run moves).state.limits :=
    Config.state_invariant Config.unguarded
      (fun portal : State => SlackLimits config casinoGroupId portal.limits)
      (fun _ choice _ _ kept _ slack => kept choice _ slack) (fun _ _ slack => slack)
      pool start (Config.follows_unguarded _ _)
  exact (slack limit current).within (priced_of_accepted accepted)

/-- Staff of the group set its greatest stake. -/
def setMaxStake (maxStake : String) : LimitsRequest :=
  ⟨"group", { maxStake := some (some maxStake) }, "staff"⟩

/-- The deployment takes stakes up to a hundred. -/
def hundred : EnvConfig := ⟨"1", "100", "1000"⟩

def patched (maxStake : String) : RiskLimits :=
  ((patching portal [setMaxStake maxStake]).run (answered [.none, .none, .none])).state.limits

/-- A bet of fifty of the group's players on the ants. -/
def fifty : Except Failure ValidatedBetQuote :=
  validatePlacement hundred ["winner:ants"] "50"
    (findSelections portal.world.db "group" ["winner:ants"])

/-- With a limit of ten on the stake, a bet of fifty is accepted. -/
theorem accepted_over_limit : ∃ limit quote,
    (patched "10").get? (globalKey "group") = some limit ∧ fifty = .ok quote ∧
      ¬ Within limit quote := by
  have limits : ((patched "10").get? (globalKey "group")).map RiskLimit.maxStake =
      some (some ⟨1000, by decide⟩) := by decide +kernel
  have checked : accepts fifty (fun quote => quote.stake = 50) = true := by decide +kernel
  obtain ⟨limit, current, asked⟩ := Option.map_eq_some_iff.mp limits
  obtain ⟨quote, accepted, staked⟩ := exists_of_accepts checked
  refine ⟨limit, quote, current, accepted, fun within => ?_⟩
  have atMost := within.maxStake _ asked
  rw [of_decide_eq_true staked] at atMost
  exact absurd atMost (by decide +kernel)

theorem accepted_under_limit : ∃ limit quote,
    (patched "500").get? (globalKey "group") = some limit ∧ fifty = .ok quote ∧
      Within limit quote := by
  have limits : ((patched "500").get? (globalKey "group")).isSome = true := by decide +kernel
  have checked : accepts fifty (fun _ => true) = true := by decide +kernel
  obtain ⟨limit, current⟩ := Option.isSome_iff_exists.mp limits
  obtain ⟨quote, accepted, _⟩ := exists_of_accepts checked
  have none_yet : SlackLimits hundred "group" portal.limits := fun _ never => nomatch never
  have asked : (setMaxStake "500").dto.parse = .ok ⟨none, some (some 500), none⟩ := by
    decide +kernel
  have most : newDecimal hundred.BET_MAX_STAKE = .ok 100 := by decide +kernel
  have loose : (setMaxStake "500").Loose hundred "group" := by
    intro _ patch parsed
    obtain rfl := Except.ok.inj (asked.symm.trans parsed)
    constructor
    · intro _ _ never
      cases never
    · intro number amount given stored maxStake read
      obtain rfl := Option.some.inj (Option.some.inj given)
      obtain rfl := Except.ok.inj (most.symm.trans read)
      have column : Numeric.store 12 2 500 = some ⟨50000, by decide⟩ := by decide +kernel
      obtain rfl := Option.some.inj (column.symm.trans stored)
      decide +kernel
    · intro _ _ never
      cases never
  refine ⟨limit, quote, current, accepted, ?_⟩
  refine accepted_within_limits none_yet ?_ current accepted
  intro request listed
  rw [List.mem_singleton.mp listed]
  exact loose

end Runs

end SportsBetting.Trading
