import SportsBetting.Shared.CircuitTraffic
import SportsBetting.Wallet.Isolation
import Mathlib.Data.List.InsertIdx

/-!
# When the wallet's circuit opens

Calls of all tenants overlap in any way. The breaker cannot tell a refused player
from a wallet that is down: it opens once five replies in a row are not successes.
-/

namespace SportsBetting.Wallet

open Operations

/-- What reaches the client: a call, with the currency of the tenant if its wallet is configured,
or the reply to one of the requests in flight. -/
inductive ClientHappening
  | asked (request : WalletRequest) (currency : Option String)
  | replied (index : ℕ) (reply : HttpReply)

structure ClientEvent where
  elapsed : ℕ
  happening : ClientHappening

/-- The call is posted to the wallet, if the circuit lets it through. -/
def WalletRequest.posted : WalletRequest → Option String → Bool
  | .batch _ _ [], _ => false
  | _, currency => currency.isSome

/-- The breaker of the client, and its requests in flight. -/
def clientStep (traffic : Traffic WalletRequest) (event : ClientEvent) : Traffic WalletRequest :=
  match event.happening with
  | .asked request currency =>
      if request.posted currency then
        traffic.step breakerOptions WalletRequest.returns ⟨event.elapsed, .start request⟩
      else { traffic with now := traffic.now + event.elapsed }
  | .replied index reply =>
      traffic.step breakerOptions WalletRequest.returns ⟨event.elapsed, .settle index reply⟩

/-- The requests and their replies, in the order in which they arrive. -/
def arrivals : List WalletRequest → List ClientEvent → List (WalletRequest × HttpReply)
  | _, [] => []
  | pending, event :: events =>
      match event.happening with
      | .asked request currency =>
          arrivals (if request.posted currency then pending ++ [request] else pending) events
      | .replied index reply =>
          match pending[index]? with
          | none => arrivals pending events
          | some request => (request, reply) :: arrivals (pending.eraseIdx index) events

/-- Whether the replies are successes, in the order in which they arrive. -/
def successes (pending : List WalletRequest) (events : List ClientEvent) : List Bool :=
  (arrivals pending events).map fun (request, reply) => request.returns reply

def NeverOpens (traffic : Traffic WalletRequest) (events : List ClientEvent) : Prop :=
  Each clientStep (fun traffic event => (clientStep traffic event).breaker.state ≠ .open)
    traffic events

instance (traffic : Traffic WalletRequest) (events : List ClientEvent) :
    Decidable (NeverOpens traffic events) :=
  inferInstanceAs (Decidable (Each ..))

section Runs

variable {length count : ℕ} {outcomes : List Bool}

/-- A success ends the run of failures before it. -/
theorem run_success (short : count < length) :
    List.replicate length false <:+: List.replicate count false ++ true :: outcomes ↔
      List.replicate length false <:+: outcomes := by
  have apart : ∀ earlier, earlier < length →
      ¬ List.replicate length false <+: List.replicate earlier false ++ true :: outcomes := by
    intro earlier short begins
    have there := begins.getElem (i := earlier) (by simpa using short)
    simp at there
  induction count with
  | zero =>
      rw [List.replicate_zero, List.nil_append, List.infix_cons_iff]
      exact or_iff_right (apart 0 short)
  | succ count ih =>
      have rest := ih (Nat.lt_of_succ_lt short)
      rw [List.replicate_succ, List.cons_append, List.infix_cons_iff]
      exact (or_iff_right (apart (count + 1) short)).trans rest

theorem run_failure :
    List.replicate count false ++ false :: outcomes =
      List.replicate (count + 1) false ++ outcomes := by
  rw [List.replicate_succ', List.append_assoc, List.singleton_append]

theorem run_short (short : count < length) :
    ¬ List.replicate length false <:+: List.replicate count false := by
  intro inside
  have long := inside.length_le
  simp only [List.length_replicate] at long
  omega

end Runs

section Opening

variable {traffic : Traffic WalletRequest} {pending : List WalletRequest} {elapsed index : ℕ}
  {request : WalletRequest} {currency : Option String} {reply : HttpReply}
  {running : Running WalletRequest} {events : List ClientEvent}

theorem clientStep_unposted (unposted : request.posted currency = false) :
    clientStep traffic ⟨elapsed, .asked request currency⟩ =
      { traffic with now := traffic.now + elapsed } := by
  simp [clientStep, unposted]

theorem clientStep_posted (closed : traffic.breaker.state = .closed)
    (posted : request.posted currency = true) :
    clientStep traffic ⟨elapsed, .asked request currency⟩ =
      traffic.start (traffic.now + elapsed) request traffic.breaker := by
  have entered : traffic.breaker.enter breakerOptions (traffic.now + elapsed) =
      some traffic.breaker := by
    rw [CircuitBreaker.enter, closed]
  simp only [clientStep, posted, if_true, Traffic.step_start entered]

theorem clientStep_gone (gone : traffic.inFlight[index]? = none) :
    clientStep traffic ⟨elapsed, .replied index reply⟩ =
      { traffic with now := traffic.now + elapsed } :=
  Traffic.step_gone gone

theorem clientStep_success (flying : traffic.inFlight[index]? = some running)
    (success : running.call.returns reply = true) :
    clientStep traffic ⟨elapsed, .replied index reply⟩ =
      traffic.settle (traffic.now + elapsed) index traffic.breaker.onSuccess := by
  rw [← Traffic.settled_returns breakerOptions success]
  exact Traffic.step_settle flying

theorem clientStep_failure (flying : traffic.inFlight[index]? = some running)
    (failure : running.call.returns reply = false) :
    clientStep traffic ⟨elapsed, .replied index reply⟩ =
      traffic.settle (traffic.now + elapsed) index
        (traffic.breaker.onFailure breakerOptions (traffic.now + elapsed)) := by
  have ended : traffic.settled breakerOptions WalletRequest.returns (traffic.now + elapsed)
      running.call reply = traffic.breaker.onFailure breakerOptions (traffic.now + elapsed) :=
    if_neg (by simp [failure])
  rw [← ended]
  exact Traffic.step_settle flying

theorem successes_asked :
    successes pending (⟨elapsed, .asked request currency⟩ :: events) =
      successes (if request.posted currency then pending ++ [request] else pending) events := rfl

theorem successes_gone (gone : pending[index]? = none) :
    successes pending (⟨elapsed, .replied index reply⟩ :: events) = successes pending events := by
  simp only [successes, arrivals, gone]

theorem successes_replied (pends : pending[index]? = some request) :
    successes pending (⟨elapsed, .replied index reply⟩ :: events) =
      request.returns reply :: successes (pending.eraseIdx index) events := by
  simp only [successes, arrivals, pends, List.map_cons]

/-- The circuit is closed, after a few failures. -/
theorem neverOpens_iff_of_closed (closed : traffic.breaker.state = .closed)
    (few : traffic.breaker.failures < 5)
    (waiting : traffic.inFlight.map Running.call = pending) :
    NeverOpens traffic events ↔ ¬ List.replicate 5 false <:+:
      List.replicate traffic.breaker.failures false ++ successes pending events := by
  induction events generalizing traffic pending with
  | nil =>
      rw [successes, arrivals, List.map_nil, List.append_nil]
      exact iff_of_true trivial (run_short few)
  | cons event events ih =>
      obtain ⟨elapsed, happening⟩ := event
      rw [NeverOpens, Each, ne_eq]
      cases happening with
      | asked request currency =>
          rw [successes_asked]
          cases posted : request.posted currency with
          | false =>
              rw [clientStep_unposted posted, if_neg Bool.false_ne_true]
              exact (and_iff_right (by simp [closed])).trans (ih closed few waiting)
          | true =>
              rw [clientStep_posted closed posted, if_pos rfl]
              refine (and_iff_right (by simp [Traffic.start, closed])).trans (ih closed few ?_)
              simp [Traffic.start, waiting]
      | replied index reply =>
          cases flying : traffic.inFlight[index]? with
          | none =>
              have gone : pending[index]? = none := by simp [← waiting, flying]
              rw [successes_gone gone, clientStep_gone flying]
              exact (and_iff_right (by simp [closed])).trans (ih closed few waiting)
          | some running =>
              have pends : pending[index]? = some running.call := by simp [← waiting, flying]
              have left : (traffic.inFlight.eraseIdx index).map Running.call =
                  pending.eraseIdx index := by
                rw [← List.eraseIdx_map, waiting]
              rw [successes_replied pends]
              cases outcome : running.call.returns reply with
              | true =>
                  rw [clientStep_success flying outcome, run_success few]
                  have closes : CircuitState.closed ≠ .open := by decide
                  exact (and_iff_right closes).trans (ih rfl (Nat.zero_lt_succ 4) left)
              | false =>
                  rw [clientStep_failure flying outcome, run_failure]
                  by_cases full : 5 ≤ traffic.breaker.failures + 1
                  · have opened : (traffic.breaker.onFailure breakerOptions
                        (traffic.now + elapsed)).state = .open := by
                      simp [CircuitBreaker.onFailure, breakerOptions, full]
                    have length : traffic.breaker.failures + 1 = 5 := by omega
                    refine iff_of_false (fun never => never.1 opened) (not_not.mpr ?_)
                    rw [length]
                    exact List.infix_append_left
                  · have counted : traffic.breaker.onFailure breakerOptions
                        (traffic.now + elapsed) =
                          { traffic.breaker with failures := traffic.breaker.failures + 1 } := by
                      simp [CircuitBreaker.onFailure, breakerOptions, full, closed]
                    rw [counted]
                    refine (and_iff_right (by simp [Traffic.settle, closed])).trans ?_
                    exact ih closed (Nat.lt_of_not_le full) left

/-- Whatever calls of whatever tenants overlap: the circuit never opens exactly if no five
replies in a row are refused or fail. -/
theorem never_opens_iff (now : Time) (events : List ClientEvent) :
    NeverOpens (.idle now) events ↔ ¬ List.replicate 5 false <:+: successes [] events :=
  neverOpens_iff_of_closed rfl (Nat.zero_lt_succ 4) rfl

end Opening

section Sample

/-- A debit of ten. -/
def debit : WalletRequest :=
  .transaction ⟨"alice", "acme", "bet-1", .uuid 1, "event-1", "soccer_epl", 3, false, false, "-10",
    "stake 10 EUR", 0⟩

def insufficientFunds : HttpReply :=
  .response (some ⟨false, .text "INSUFFICIENT_FUNDS", some 1⟩)

/-- A player without funds tries five times. -/
def refusedBets : List ClientEvent :=
  (List.replicate 5 [⟨0, .asked debit (some "EUR")⟩, ⟨1, .replied 0 insufficientFunds⟩]).flatten

theorem refused_bets_open_circuit :
    (arrivals [] refusedBets).map Prod.snd = List.replicate 5 insufficientFunds ∧
    ¬ NeverOpens (.idle 0) refusedBets ∧
    (run clientStep (.idle 0) refusedBets).breaker.Refuses breakerOptions 6 := by
  decide +kernel

end Sample

end SportsBetting.Wallet
