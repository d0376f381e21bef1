import SportsBetting.Shared.CircuitBreaker
import SportsBetting.Wallet.Client

/-!
# The wallets of several tenants behind one breaker

The client posts to the wallet of each tenant through the same circuit breaker.
What a call results in depends on its own reply, and on whether the breaker lets
it through.
-/

namespace SportsBetting.Wallet

inductive WalletRequest
  | balance (casinoGroupId userCode : String)
  | transaction (request : WalletTransactionRequest)
  | batch (casinoGroupId : String) (batchId : ℕ) (transactions : List WalletTransactionRequest)

inductive WalletResult
  | balance (balance currency : String)
  | transaction (reservation : Reservation)
  | batch (batchId : ℕ)
  deriving DecidableEq

/-- A call of the client: the currency of the tenant if its wallet is configured, and what
the wallet replies, at which time, if it is asked. -/
structure WalletCall where
  request : WalletRequest
  currency : Option String
  startedAt : Time
  reply : HttpReply
  repliedAt : Time

section Client

def breakerOptions : CircuitBreakerOptions := ⟨5, 10000⟩

def WalletRequest.casinoGroupId : WalletRequest → String
  | .balance casinoGroupId _ => casinoGroupId
  | .transaction request => request.casinoGroupId
  | .batch casinoGroupId _ _ => casinoGroupId

/-- What the breaker counts as a success: a response that is not rejected. -/
def WalletRequest.returns : WalletRequest → HttpReply → Bool
  | .balance _ _, .response (some data) => isSuccess data
  | .transaction request, .response (some data) =>
      (parseTransactionResponse request data).toOption.isSome
  | .batch _ _ _, .response (some data) => acknowledges data
  | _, _ => false

def WalletRequest.read (currency : String) : WalletRequest → HttpReply → Except Failure WalletResult
  | .balance _ _, reply => (readBalance reply).map fun balance => .balance balance currency
  | .transaction request, reply => (readTransaction request reply).map .transaction
  | .batch _ batchId _, reply => (readBatch reply).map fun _ => .batch batchId

namespace WalletCall

variable (call : WalletCall)

def casinoGroupId : String := call.request.casinoGroupId

/-- The result of a call that is not posted. -/
def unposted : Option (Except Failure WalletResult) :=
  match call.request, call.currency with
  | .batch _ batchId [], _ => some (.ok (.batch batchId))
  | _, none => some (.error (.walletReserve "Merchant wallet API not configured" .unavailable))
  | _, some _ => none

def result (reply : HttpReply) : Except Failure WalletResult :=
  call.unposted.getD (call.request.read (call.currency.getD "") reply)

/-- The result where the breaker lets the call through. -/
def answered : Except Failure WalletResult := call.result call.reply

/-- The result where the circuit is open. -/
def refused : Except Failure WalletResult := call.result (.failure none none)

/-- One call of the client. -/
def serve (breaker : CircuitBreaker) : Except Failure WalletResult × CircuitBreaker :=
  match call.unposted with
  | some result => (result, breaker)
  | none =>
      match breaker.execute breakerOptions call.startedAt call.repliedAt
          (call.request.returns call.reply) with
      | none => (call.refused, breaker)
      | some after => (call.answered, after)

end WalletCall

/-- The results of the calls of a tenant, in a sequence of calls. -/
def resultsOf (tenant : String) : CircuitBreaker → List WalletCall → List (Except Failure WalletResult)
  | _, [] => []
  | breaker, call :: calls =>
      let served := call.serve breaker
      if call.casinoGroupId = tenant then served.1 :: resultsOf tenant served.2 calls
      else resultsOf tenant served.2 calls

/-- The calls of a tenant. -/
def callsOf (tenant : String) (calls : List WalletCall) : List WalletCall :=
  calls.filter fun call => call.casinoGroupId = tenant

end Client

section Alone

variable {call : WalletCall} {breaker : CircuitBreaker} {tenant : String}

theorem callsOf_cons_self (mine : call.casinoGroupId = tenant) (calls : List WalletCall) :
    callsOf tenant (call :: calls) = call :: callsOf tenant calls :=
  List.filter_cons_of_pos (by simpa using mine)

theorem callsOf_cons_other (others : call.casinoGroupId ≠ tenant) (calls : List WalletCall) :
    callsOf tenant (call :: calls) = callsOf tenant calls :=
  List.filter_cons_of_neg (by simpa using others)

theorem callsOf_eq_self {own : List WalletCall}
    (mine : ∀ call ∈ own, call.casinoGroupId = tenant) : callsOf tenant own = own := by
  rw [callsOf, List.filter_eq_self]
  exact fun call member => decide_eq_true (mine call member)

theorem serve_result : (call.serve breaker).1 =
    if breaker.Refuses breakerOptions call.startedAt then call.refused else call.answered := by
  unfold WalletCall.serve
  split
  · next result settled => simp [WalletCall.refused, WalletCall.answered, WalletCall.result, settled]
  · split
    · next refused => rw [if_pos (CircuitBreaker.execute_eq_none_iff.mp refused)]
    · next after ran =>
        rw [if_neg fun refuses => ?_]
        rw [CircuitBreaker.execute_eq_none_iff.mpr refuses] at ran
        cases ran

/-- At every call of the tenant, the breaker that all calls go through and one that only
its own go through both let the call through or both do not, unless the reply of the
wallet makes no difference. -/
def AdmittedAsAlone (tenant : String) : CircuitBreaker → CircuitBreaker → List WalletCall → Prop
  | _, _, [] => True
  | shared, own, call :: calls =>
      if call.casinoGroupId = tenant then
        ((shared.Refuses breakerOptions call.startedAt ↔ own.Refuses breakerOptions call.startedAt) ∨
          call.answered = call.refused) ∧
        AdmittedAsAlone tenant (call.serve shared).2 (call.serve own).2 calls
      else AdmittedAsAlone tenant (call.serve shared).2 own calls

instance decidableAdmittedAsAlone (tenant : String) :
    (shared own : CircuitBreaker) → (calls : List WalletCall) →
      Decidable (AdmittedAsAlone tenant shared own calls)
  | _, _, [] => .isTrue trivial
  | shared, own, call :: calls =>
      have := decidableAdmittedAsAlone tenant (call.serve shared).2 (call.serve own).2 calls
      have := decidableAdmittedAsAlone tenant (call.serve shared).2 own calls
      if mine : call.casinoGroupId = tenant then
        decidable_of_iff
          (((shared.Refuses breakerOptions call.startedAt ↔
              own.Refuses breakerOptions call.startedAt) ∨ call.answered = call.refused) ∧
            AdmittedAsAlone tenant (call.serve shared).2 (call.serve own).2 calls)
          (by simp only [AdmittedAsAlone, mine, if_true])
      else
        decidable_of_iff (AdmittedAsAlone tenant (call.serve shared).2 own calls)
          (by simp only [AdmittedAsAlone, mine, if_false])

/-- The results of a tenant are those of its calls alone exactly where they are admitted as
alone. -/
theorem resultsOf_eq_alone_iff (shared own : CircuitBreaker) (calls : List WalletCall) :
    resultsOf tenant shared calls = resultsOf tenant own (callsOf tenant calls) ↔
      AdmittedAsAlone tenant shared own calls := by
  induction calls generalizing shared own with
  | nil => simp [resultsOf, callsOf, AdmittedAsAlone]
  | cons call calls ih =>
      by_cases mine : call.casinoGroupId = tenant
      · have kept := callsOf_cons_self mine calls
        have same : (call.serve shared).1 = (call.serve own).1 ↔
            ((shared.Refuses breakerOptions call.startedAt ↔
              own.Refuses breakerOptions call.startedAt) ∨ call.answered = call.refused) := by
          rw [serve_result, serve_result]
          by_cases first : shared.Refuses breakerOptions call.startedAt <;>
            by_cases second : own.Refuses breakerOptions call.startedAt <;>
            simp [first, second, eq_comm]
        simp only [kept, resultsOf, AdmittedAsAlone, mine, if_true, List.cons.injEq, same, ih]
      · have dropped := callsOf_cons_other mine calls
        simp only [dropped, resultsOf, AdmittedAsAlone, mine, if_false, ih]

end Alone

section Others

variable {call : WalletCall} {breaker : CircuitBreaker} {tenant other : String}

/-- Calls are made one after the other. -/
def Timely (calls : List WalletCall) : Prop :=
  calls.Pairwise (fun first second => first.repliedAt ≤ second.startedAt) ∧
    ∀ call ∈ calls, call.startedAt ≤ call.repliedAt

instance (calls : List WalletCall) : Decidable (Timely calls) :=
  inferInstanceAs (Decidable (_ ∧ _))

/-- A balance lookup of another tenant at the time. -/
def lookup (other : String) (now : Time) (reply : HttpReply) : WalletCall :=
  ⟨.balance other "player", some "EUR", now, reply, now⟩

/-- Before each call, the wallet of the other tenant gives the replies. -/
def among (other : String) (replies : List HttpReply) (own : List WalletCall) : List WalletCall :=
  own.flatMap fun call => replies.map (lookup other call.startedAt) ++ [call]

theorem among_cons (other : String) (replies : List HttpReply) (call : WalletCall)
    (own : List WalletCall) : among other replies (call :: own) =
      replies.map (lookup other call.startedAt) ++ call :: among other replies own := by
  simp [among]

theorem lookups_of_others (apart : other ≠ tenant) (replies : List HttpReply) (now : Time) :
    ∀ call ∈ replies.map (lookup other now), call.casinoGroupId ≠ tenant := by
  intro call member
  obtain ⟨reply, _, rfl⟩ := List.mem_map.mp member
  exact apart

theorem callsOf_among (apart : other ≠ tenant) (replies : List HttpReply) {own : List WalletCall}
    (mine : ∀ call ∈ own, call.casinoGroupId = tenant) :
    callsOf tenant (among other replies own) = own := by
  induction own with
  | nil => rfl
  | cons call own ih =>
      have skipped : callsOf tenant (replies.map (lookup other call.startedAt)) = [] := by
        rw [callsOf, List.filter_eq_nil_iff]
        exact fun found member same =>
          lookups_of_others apart replies _ found member (of_decide_eq_true same)
      have split : callsOf tenant (among other replies (call :: own)) =
          callsOf tenant (replies.map (lookup other call.startedAt)) ++
            callsOf tenant (call :: among other replies own) := by
        rw [among_cons, callsOf, List.filter_append, callsOf, callsOf]
      rw [split, skipped, List.nil_append, callsOf_cons_self (mine call List.mem_cons_self)]
      exact congrArg _ (ih fun call member => mine call (List.mem_cons_of_mem _ member))

theorem among_of_both (replies : List HttpReply) {own : List WalletCall}
    (mine : ∀ call ∈ own, call.casinoGroupId = tenant) :
    ∀ call ∈ among other replies own, call.casinoGroupId = other ∨ call.casinoGroupId = tenant := by
  intro call present
  obtain ⟨known, member, present⟩ := List.mem_flatMap.mp present
  rcases List.mem_append.mp present with looked | same
  · obtain ⟨reply, _, rfl⟩ := List.mem_map.mp looked
    exact .inl rfl
  · rw [List.mem_singleton.mp same]
    exact .inr (mine known member)

theorem timely_among (replies : List HttpReply) {own : List WalletCall} (timely : Timely own) :
    Timely (among other replies own) := by
  have times : ∀ call ∈ own, ∀ found ∈ replies.map (lookup other call.startedAt) ++ [call],
      call.startedAt ≤ found.startedAt ∧ found.startedAt ≤ found.repliedAt ∧
        found.repliedAt ≤ call.repliedAt := by
    intro call member found present
    have order := timely.2 call member
    rcases List.mem_append.mp present with looked | same
    · obtain ⟨reply, _, rfl⟩ := List.mem_map.mp looked
      exact ⟨le_refl _, le_refl _, order⟩
    · rw [List.mem_singleton.mp same]
      exact ⟨le_refl _, order, le_refl _⟩
  refine ⟨List.pairwise_flatMap.mpr ⟨fun call member => ?_, ?_⟩, fun found present => ?_⟩
  · rw [List.pairwise_append]
    refine ⟨List.pairwise_map.mpr (List.pairwise_of_forall fun _ _ => le_refl _),
      List.pairwise_singleton _ _, fun looked before same last => ?_⟩
    obtain ⟨reply, _, rfl⟩ := List.mem_map.mp before
    rw [List.mem_singleton.mp last]
    exact le_refl _
  · refine timely.1.imp_of_mem fun {first second} one two order found here later there => ?_
    have before := (times first one found here).2.2
    have after := (times second two later there).1
    exact before.trans (order.trans after)
  · obtain ⟨call, member, present⟩ := List.mem_flatMap.mp present
    exact (times call member found present).2.1

/-- Calls of others only change the breaker. -/
theorem resultsOf_append_others {skipped : List WalletCall} (rest : List WalletCall)
    (others : ∀ call ∈ skipped, call.casinoGroupId ≠ tenant) :
    resultsOf tenant breaker (skipped ++ rest) =
      resultsOf tenant (skipped.foldl (fun breaker call => (call.serve breaker).2) breaker) rest := by
  induction skipped generalizing breaker with
  | nil => rfl
  | cons call skipped ih =>
      have differs := others call List.mem_cons_self
      rw [List.cons_append, resultsOf, if_neg differs]
      exact ih fun call member => others call (List.mem_cons_of_mem _ member)

theorem serve_lookup (now : Time) (reply : HttpReply) :
    ((lookup other now reply).serve breaker).2 = (breaker.execute breakerOptions now now
      ((WalletRequest.balance other "player").returns reply)).getD breaker := by
  cases ran : breaker.execute breakerOptions now now
      ((WalletRequest.balance other "player").returns reply) <;>
    simp [WalletCall.serve, lookup, WalletCall.unposted, ran]

/-- The other tenant's wallet is down. -/
def down : List HttpReply := List.replicate 5 (.failure none none)

theorem foldl_down (now : Time) (count : ℕ) :
    ((List.replicate count (HttpReply.failure none none)).map (lookup other now)).foldl
      (fun breaker call => (call.serve breaker).2) breaker =
        CircuitBreaker.failing breakerOptions now count breaker := by
  induction count generalizing breaker with
  | zero => rfl
  | succ count ih =>
      rw [List.replicate_succ, List.map_cons, List.foldl_cons, ih, serve_lookup]
      rfl

/-- While the other wallet is down, no call of the tenant is let through. -/
theorem resultsOf_among_down (apart : other ≠ tenant) {own : List WalletCall}
    (mine : ∀ call ∈ own, call.casinoGroupId = tenant) :
    resultsOf tenant breaker (among other down own) = own.map WalletCall.refused := by
  induction own generalizing breaker with
  | nil => rfl
  | cons call own ih =>
      have refuses : (CircuitBreaker.failing breakerOptions call.startedAt 5 breaker).Refuses
          breakerOptions call.startedAt :=
        CircuitBreaker.refuses_of_failing (by decide) (Nat.le_add_left 5 _) (by decide)
      rw [among_cons, resultsOf_append_others _ (lookups_of_others apart _ _), down, foldl_down,
        resultsOf, if_pos (mine call List.mem_cons_self), serve_result, if_pos refuses,
        List.map_cons]
      exact congrArg _ (ih fun call member => mine call (List.mem_cons_of_mem _ member))

/-- The other tenant's wallet answers. -/
def up : List HttpReply := [.response (some ⟨true, .text "0", some 0⟩)]

/-- One failure, if any, since the circuit was last closed. -/
def Steady (breaker : CircuitBreaker) : Prop := breaker.state = .closed ∧ breaker.failures ≤ 1

theorem Steady.enter (steady : Steady breaker) (now : Time) :
    breaker.enter breakerOptions now = some breaker := by
  rw [CircuitBreaker.enter, steady.1]

/-- After a success, the next call leaves the breaker steady. -/
theorem Steady.serve (steady : breaker.state = .closed ∧ breaker.failures = 0)
    (call : WalletCall) : Steady (call.serve breaker).2 := by
  have enters : breaker.enter breakerOptions call.startedAt = some breaker := by
    rw [CircuitBreaker.enter, steady.1]
  unfold WalletCall.serve
  cases call.unposted with
  | some result => exact ⟨steady.1, steady.2.trans_le (Nat.zero_le 1)⟩
  | none =>
      rw [CircuitBreaker.execute, enters, Option.map_some]
      dsimp only
      split
      · exact ⟨rfl, Nat.zero_le _⟩
      · simp [CircuitBreaker.onFailure, steady.1, steady.2, breakerOptions, Steady]

theorem Steady.foldl_up (steady : Steady breaker) (now : Time) :
    (up.map (lookup other now)).foldl (fun breaker call => (call.serve breaker).2) breaker =
      breaker.onSuccess := by
  rw [up, List.map_cons, List.foldl_cons, List.map_nil, List.foldl_nil, serve_lookup,
    CircuitBreaker.execute, steady.enter]
  rfl

/-- While the other wallet answers, all calls of the tenant are let through. -/
theorem resultsOf_among_up (apart : other ≠ tenant) {own : List WalletCall}
    (mine : ∀ call ∈ own, call.casinoGroupId = tenant) (steady : Steady breaker) :
    resultsOf tenant breaker (among other up own) = own.map WalletCall.answered := by
  induction own generalizing breaker with
  | nil => rfl
  | cons call own ih =>
      have admits : ¬ breaker.onSuccess.Refuses breakerOptions call.startedAt := by
        rw [CircuitBreaker.refuses_iff]
        exact fun both => nomatch both.1
      rw [among_cons, resultsOf_append_others _ (lookups_of_others apart _ _), steady.foldl_up,
        resultsOf, if_pos (mine call List.mem_cons_self), serve_result, if_neg admits,
        List.map_cons]
      refine congrArg _ (ih (fun call member => mine call (List.mem_cons_of_mem _ member)) ?_)
      exact Steady.serve ⟨rfl, rfl⟩ call

/-- Where no reply makes a difference, the breaker makes none. -/
theorem resultsOf_of_mute {calls : List WalletCall}
    (mute : ∀ call ∈ callsOf tenant calls, call.answered = call.refused) :
    resultsOf tenant breaker calls = (callsOf tenant calls).map WalletCall.answered := by
  induction calls generalizing breaker with
  | nil => rfl
  | cons call calls ih =>
      by_cases mine : call.casinoGroupId = tenant
      · rw [callsOf_cons_self mine] at mute ⊢
        have same := mute call List.mem_cons_self
        rw [resultsOf, if_pos mine, serve_result, ← same, ite_self, List.map_cons]
        exact congrArg _ (ih fun call member => mute call (List.mem_cons_of_mem _ member))
      · rw [callsOf_cons_other mine] at mute ⊢
        rw [resultsOf, if_neg mine]
        exact ih mute

/-- Whatever the wallet of another tenant replies, the results of a tenant's calls stay the
same exactly if no reply of its own wallet makes a difference. -/
theorem unaffected_iff_mute (apart : other ≠ tenant) {own : List WalletCall} (timely : Timely own)
    (mine : ∀ call ∈ own, call.casinoGroupId = tenant) :
    (∀ calls, Timely calls →
      (∀ call ∈ calls, call.casinoGroupId = other ∨ call.casinoGroupId = tenant) →
      callsOf tenant calls = own →
        resultsOf tenant .fresh calls = resultsOf tenant .fresh own) ↔
      ∀ call ∈ own, call.answered = call.refused := by
  constructor
  · intro unaffected call member
    have answered := unaffected _ (timely_among up timely) (among_of_both up mine)
      (callsOf_among apart up mine)
    have refused := unaffected _ (timely_among down timely) (among_of_both down mine)
      (callsOf_among apart down mine)
    rw [resultsOf_among_up apart mine ⟨rfl, Nat.zero_le _⟩] at answered
    rw [resultsOf_among_down apart mine, ← answered] at refused
    exact (List.map_inj_left.mp refused call member).symm
  · intro mute calls _ _ same
    rw [resultsOf_of_mute (same ▸ mute), resultsOf_of_mute ((callsOf_eq_self mine).symm ▸ mute),
      same, callsOf_eq_self mine]

/-- In each sequence of calls, a tenant's results are those of its calls alone exactly where
the shared breaker admits its calls as one of its own would; and they are so in every
sequence exactly if no reply of its wallet makes a difference. -/
theorem results_of_own_replies_iff (apart : other ≠ tenant) :
    (∀ calls, resultsOf tenant .fresh calls = resultsOf tenant .fresh (callsOf tenant calls) ↔
      AdmittedAsAlone tenant .fresh .fresh calls) ∧
    ∀ own, Timely own → (∀ call ∈ own, call.casinoGroupId = tenant) →
      ((∀ calls, Timely calls →
        (∀ call ∈ calls, call.casinoGroupId = other ∨ call.casinoGroupId = tenant) →
        callsOf tenant calls = own →
          resultsOf tenant .fresh calls = resultsOf tenant .fresh own) ↔
        ∀ call ∈ own, call.answered = call.refused) :=
  ⟨resultsOf_eq_alone_iff .fresh .fresh, fun _ => unaffected_iff_mute apart⟩

end Others

section Sample

/-- A balance lookup that the wallet answers. -/
def answeredLookup (now : Time) : WalletCall :=
  lookup "betzone" now (.response (some ⟨true, .text "100", some 0⟩))

def failedLookup (casinoGroupId : String) (now : Time) : WalletCall :=
  lookup casinoGroupId now (.failure none none)

/-- Five calls to the wallet of acme, which is down, then one of betzone. -/
def outage : List WalletCall :=
  List.replicate 5 (failedLookup "acme" 0) ++ [answeredLookup 1]

/-- The wallet of betzone fails five times, with an answer of acme in between. -/
def covered : List WalletCall :=
  List.replicate 4 (failedLookup "betzone" 0) ++
    [lookup "acme" 0 (.response (some ⟨true, .text "7", some 0⟩)), failedLookup "betzone" 0,
      answeredLookup 1]

theorem outage_shuts_out_other :
    resultsOf "betzone" .fresh outage = [.error serviceUnavailable] ∧
    resultsOf "betzone" .fresh (callsOf "betzone" outage) = [.ok (.balance "100" "EUR")] ∧
    (resultsOf "betzone" .fresh covered).getLast? = some (.ok (.balance "100" "EUR")) ∧
    (resultsOf "betzone" .fresh (callsOf "betzone" covered)).getLast? =
      some (.error serviceUnavailable) := by
  decide +kernel

/-- One call of each tenant, of which the other tenant's fails. -/
theorem alone_after_failure :
    resultsOf "betzone" .fresh [failedLookup "acme" 0, answeredLookup 1] =
      resultsOf "betzone" .fresh [answeredLookup 1] ∧
    ∃ calls, callsOf "betzone" calls = [answeredLookup 1] ∧
      resultsOf "betzone" .fresh calls ≠ resultsOf "betzone" .fresh [answeredLookup 1] := by
  have apart : "acme" ≠ "betzone" := by decide
  obtain ⟨each, every⟩ := results_of_own_replies_iff apart
  refine ⟨(each _).mpr (by decide +kernel), ?_⟩
  have telling : ¬ ∀ call ∈ [answeredLookup 1], call.answered = call.refused := by decide +kernel
  have affected := (every [answeredLookup 1] (by decide +kernel) (by decide +kernel)).not.mpr telling
  simp only [not_forall] at affected
  obtain ⟨calls, _, _, same, differs⟩ := affected
  exact ⟨calls, same, differs⟩

end Sample

end SportsBetting.Wallet
