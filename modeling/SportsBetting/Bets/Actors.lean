import SportsBetting.Backoffice.StaffBets
import SportsBetting.Bets.Service
import SportsBetting.Settlement.Service

/-!
# Everyone who works on bets
-/

namespace SportsBetting

open Async BetValidation BetsService Text

inductive Actor
  | placeBet (user : UserContext) (idempotencyKey : String) (selectionIds : List String)
      (stake : String)
  | pollOutbox
  | pollSettlement
  | settleBatch
  | trySettleBet (betId : String)
  | settleBetsForEvent (eventId casinoGroupId : String)
  | voidBet (casinoGroupId betId reason staffUserId : String)
  | retryWalletSettlementTransmission (casinoGroupId staffUserId : String)

namespace Actor

variable (config : EnvConfig) (runtime : Runtime)

/-- Workers log their failures. -/
def poll {α : Type} (program : Betting α) : Betting Unit :=
  Program.handle program.void fun _ => return ()

def program : Actor → Betting Unit
  | .placeBet user idempotencyKey selectionIds stake =>
      (BetsService.placeBet config user idempotencyKey selectionIds stake).void
  | .pollOutbox => poll WalletOutboxService.processPending
  | .pollSettlement => poll (SettlementService.settleBatch runtime)
  | .settleBatch => (SettlementService.settleBatch runtime).void
  | .trySettleBet betId => (SettlementService.trySettleBet runtime betId).void
  | .settleBetsForEvent eventId casinoGroupId =>
      (SettlementService.settleBetsForEvent runtime eventId casinoGroupId).void
  | .voidBet casinoGroupId betId reason staffUserId =>
      (StaffBetsService.voidBet casinoGroupId betId reason staffUserId).void
  | .retryWalletSettlementTransmission casinoGroupId staffUserId =>
      (StaffSettlementService.retryWalletSettlementTransmission casinoGroupId staffUserId).void

/-- Settlement runs and staff voids. -/
def credits : Actor → Prop
  | .pollSettlement | .settleBatch | .trySettleBet _ | .settleBetsForEvent .. | .voidBet .. => True
  | _ => False

/-- All actors at work on one world. -/
def start (world : World) (actors : List Actor) : Config bettingMachine :=
  ⟨world, actors.map (program config runtime)⟩

end Actor

/-! A small deployment to run actors on. -/

namespace Sample

/-- One match, on whose winner bets are taken. -/
def catalog (event : EventStatus) (market : MarketStatus) : Catalog where
  sports := ⟨[⟨"soccer", "Soccer", "soccer", true⟩], by simp⟩
  leagues := ⟨[⟨"league", "soccer", "League", none, true⟩], by simp⟩
  teams := ⟨[⟨"ants", "soccer", "Ants", none⟩, ⟨"bees", "soccer", "Bees", none⟩], by simp⟩
  fixtures := ⟨[⟨"match", "league", "ants", "bees", 0, .live⟩], by simp⟩
  events := ⟨[⟨"match", "match", event, some 2, some 1, none, none⟩], by simp⟩
  markets := ⟨[⟨"winner", "match", .matchResult, market, none⟩], by simp⟩
  selections := ⟨[⟨"winner:ants", "winner", "Ants", .open, .ofUnits 2000⟩], by simp⟩
  oddsSnapshots := []
  casinoGroups := ⟨[⟨"group", "group", true, "EUR", some "merchant", some "secret",
    some "https://wallet", "Group", "UTC"⟩], by simp⟩
  casinoGroupLeagues := ⟨[⟨"group", "league", true, false⟩], by simp⟩

def world : World := .deployed (catalog .live .open) 0 fun _ _ => 100

def start (actors : List Actor) : Config bettingMachine :=
  Actor.start ⟨"1", "100", "1000"⟩ Text.asciiRuntime world actors

/-- The player bets ten on the ants. -/
def placeBet (idempotencyKey : String) : Actor :=
  .placeBet ⟨"user", "player", "group", "EUR"⟩ idempotencyKey ["winner:ants"] "10"

def staffVoid : Actor := .voidBet "group" "bet" "palpable error" "staff"

def plainly (freshId : String) : Choice where
  fault := .none
  freshId := freshId
  rank _ := 0
  exchange := ⟨true, none, false, .absent, ⟨true, .absent, some 0⟩, ⟨false, .absent, some 1⟩⟩

/-- So many calls of one actor, without any fault; a new bet gets this id. -/
def calls (index count : ℕ) (freshId : String) : List (Move bettingMachine) :=
  List.replicate count (.run index (plainly freshId))

/-- The ants have won. -/
def matchEnds : Move bettingMachine := .occur (.catalog (catalog .ended .settled))

end Sample

end SportsBetting
