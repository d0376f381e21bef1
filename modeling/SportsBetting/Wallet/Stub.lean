import SportsBetting.Data.Operations
import SportsBetting.Data.Table
import SportsBetting.Numeral.Rounding
import SportsBetting.Shared.BetMath
import SportsBetting.Wallet.Client

/-!
# The wallet in memory

Without a user service the app keeps the balances itself. A transaction code is
posted once, whoever it is for, and a debit is compared with the balance in cents.
-/

namespace SportsBetting.WalletStub

open Numeral Operations

structure Account where
  userCode : String
  balance : ℚ

/-- The balances that have moved, and the codes that were posted. -/
structure Stub where
  balances : Table Account Account.userCode
  postedCodes : List TransactionCode

/-- Sums and differences keep twenty significant digits. -/
def plus (first second : ℚ) : ℚ := roundSignificant 20 (first + second)

def minus (first second : ℚ) : ℚ := roundSignificant 20 (first - second)

section Client

variable (WALLET_STUB_BALANCE : String)

def Stub.empty : Stub := ⟨.empty, []⟩

def Stub.setBalance (stub : Stub) (userCode : String) (balance : ℚ) : Stub :=
  { stub with balances := stub.balances.put ⟨userCode, balance⟩ }

def Stub.addCode (stub : Stub) (code : TransactionCode) : Stub :=
  { stub with postedCodes := stub.postedCodes ++ [code] }

def balanceFor (userCode : String) (stub : Stub) : Except Failure ℚ :=
  match stub.balances.get? userCode with
  | some account => .ok account.balance
  | none => newDecimal WALLET_STUB_BALANCE

def getBalance (userCode : String) (stub : Stub) : Except Failure String :=
  (balanceFor WALLET_STUB_BALANCE userCode stub).map (toFixed 2)

/-- The stub after the amount is booked, or why it is not. -/
def book (request : WalletTransactionRequest) (stub : Stub) : Except Failure Stub := do
  let amount ← newDecimal request.amount
  let balance ← balanceFor WALLET_STUB_BALANCE request.userCode stub
  if amount < 0 then
    let stake := |amount|
    let covered ← stakeLessOrEqualBalance stake (toFixed 2 balance)
    if !covered then throw Wallet.insufficientBalance
    else return stub.setBalance request.userCode (minus balance stake)
  else if 0 < amount then return stub.setBalance request.userCode (plus balance amount)
  else return stub

def postTransaction (request : WalletTransactionRequest) (stub : Stub) :
    Except Failure Reservation × Stub :=
  if request.transactionCode ∈ stub.postedCodes then (.ok (.code request.transactionCode), stub)
  else
    match book WALLET_STUB_BALANCE request stub with
    | .error failure => (.error failure, stub)
    | .ok after => (.ok (.code request.transactionCode), after.addCode request.transactionCode)

/-- The transactions are posted one by one. -/
def postTransactionBatch : List WalletTransactionRequest → Stub → Except Failure Unit × Stub
  | [], stub => (.ok (), stub)
  | transaction :: transactions, stub =>
      match postTransaction WALLET_STUB_BALANCE transaction stub with
      | (.ok _, after) => postTransactionBatch transactions after
      | (.error failure, after) => (.error failure, after)

def postAll (transactions : List WalletTransactionRequest) (stub : Stub) : Stub :=
  transactions.foldl
    (fun stub transaction => (postTransaction WALLET_STUB_BALANCE transaction stub).2) stub

inductive WalletCall
  | postTransaction (request : WalletTransactionRequest)
  | postTransactionBatch (transactions : List WalletTransactionRequest)

def WalletCall.requests : WalletCall → List WalletTransactionRequest
  | .postTransaction request => [request]
  | .postTransactionBatch transactions => transactions

def WalletCall.perform (stub : Stub) : WalletCall → Stub
  | .postTransaction request => (WalletStub.postTransaction WALLET_STUB_BALANCE request stub).2
  | .postTransactionBatch transactions =>
      (WalletStub.postTransactionBatch WALLET_STUB_BALANCE transactions stub).2

/-- The transactions that are posted: those of a batch up to the first one that fails. -/
def reached : List WalletTransactionRequest → Stub → List WalletTransactionRequest
  | [], _ => []
  | transaction :: transactions, stub =>
      match WalletStub.postTransaction WALLET_STUB_BALANCE transaction stub with
      | (.ok _, after) => transaction :: reached transactions after
      | (.error _, _) => [transaction]

/-- The transactions of all calls, in the order in which they are posted. -/
def posted : List WalletCall → Stub → List WalletTransactionRequest
  | [], _ => []
  | call :: calls, stub =>
      reached WALLET_STUB_BALANCE call.requests stub ++
        posted calls (call.perform WALLET_STUB_BALANCE stub)

/-- The stub, and the transactions that were accepted: answered with success under a code that
had not been accepted before. -/
structure Ledger where
  stub : Stub
  accepted : List WalletTransactionRequest

def Ledger.codes (ledger : Ledger) : List TransactionCode :=
  ledger.accepted.map WalletTransactionRequest.transactionCode

def Ledger.post (ledger : Ledger) (request : WalletTransactionRequest) : Ledger :=
  let (outcome, stub) := WalletStub.postTransaction WALLET_STUB_BALANCE request ledger.stub
  { stub
    accepted :=
      if outcome.toBool && decide (request.transactionCode ∉ ledger.codes)
      then ledger.accepted ++ [request] else ledger.accepted }

def Ledger.empty : Ledger := ⟨.empty, []⟩

/-- What was accepted for a user, added up. -/
def Ledger.total (ledger : Ledger) (userCode : String) : ℚ :=
  ((ledger.accepted.filter fun request => request.userCode = userCode).map Wallet.amountOf).sum

end Client

section Calls

variable {WALLET_STUB_BALANCE : String} {request : WalletTransactionRequest} {stub after : Stub}
  {failure : Failure}

theorem unchanged_of_refused
    (refused : postTransaction WALLET_STUB_BALANCE request stub = (.error failure, after)) :
    after = stub := by
  unfold postTransaction at refused
  split at refused
  · cases refused
  · split at refused
    · exact (Prod.mk.inj refused).2.symm
    · cases refused

/-- A code that was posted is answered, and nothing is booked. -/
theorem postTransaction_again (known : request.transactionCode ∈ stub.postedCodes) :
    postTransaction WALLET_STUB_BALANCE request stub =
      (.ok (.code request.transactionCode), stub) := if_pos known

/-- A batch that fails has posted the transactions before the one that fails. -/
theorem batch_failed {transactions : List WalletTransactionRequest}
    (failed : postTransactionBatch WALLET_STUB_BALANCE transactions stub = (.error failure, after)) :
    ∃ earlier failing later, transactions = earlier ++ failing :: later ∧
      postTransactionBatch WALLET_STUB_BALANCE earlier stub = (.ok (), after) ∧
      postTransaction WALLET_STUB_BALANCE failing after = (.error failure, after) := by
  induction transactions generalizing stub with
  | nil => cases failed
  | cons transaction transactions ih =>
      unfold postTransactionBatch at failed
      split at failed
      · next answer middle accepted =>
          obtain ⟨earlier, failing, later, rfl, done, refused⟩ := ih failed
          refine ⟨transaction :: earlier, failing, later, rfl, ?_, refused⟩
          rw [postTransactionBatch, accepted]
          exact done
      · next failure' middle refused =>
          obtain ⟨same, rfl⟩ := Prod.mk.inj failed
          obtain rfl := Except.error.inj same
          obtain rfl := unchanged_of_refused refused
          exact ⟨[], transaction, transactions, rfl, rfl, refused⟩

theorem postAll_cons (transaction : WalletTransactionRequest)
    (transactions : List WalletTransactionRequest) (stub : Stub) :
    postAll WALLET_STUB_BALANCE (transaction :: transactions) stub =
      postAll WALLET_STUB_BALANCE transactions
        (postTransaction WALLET_STUB_BALANCE transaction stub).2 := rfl

theorem postAll_append (first second : List WalletTransactionRequest) (stub : Stub) :
    postAll WALLET_STUB_BALANCE (first ++ second) stub =
      postAll WALLET_STUB_BALANCE second (postAll WALLET_STUB_BALANCE first stub) :=
  List.foldl_append

theorem perform_batch (transactions : List WalletTransactionRequest) (stub : Stub) :
    (postTransactionBatch WALLET_STUB_BALANCE transactions stub).2 =
      postAll WALLET_STUB_BALANCE (reached WALLET_STUB_BALANCE transactions stub) stub := by
  induction transactions generalizing stub with
  | nil => rfl
  | cons transaction transactions ih =>
      unfold postTransactionBatch reached
      cases outcome : postTransaction WALLET_STUB_BALANCE transaction stub with
      | mk answer middle =>
          cases answer with
          | ok reservation =>
              rw [postAll_cons, outcome]
              exact ih middle
          | error failure =>
              rw [postAll_cons, outcome]
              rfl

/-- A call posts one transaction after the other. -/
theorem perform_eq (call : WalletCall) (stub : Stub) :
    call.perform WALLET_STUB_BALANCE stub =
      postAll WALLET_STUB_BALANCE (reached WALLET_STUB_BALANCE call.requests stub) stub := by
  cases call with
  | postTransaction request =>
      unfold WalletCall.perform WalletCall.requests reached
      cases outcome : postTransaction WALLET_STUB_BALANCE request stub with
      | mk answer middle => cases answer <;> simp [outcome, reached, postAll]
  | postTransactionBatch transactions => exact perform_batch transactions stub

theorem run_perform (calls : List WalletCall) (stub : Stub) :
    run (WalletCall.perform WALLET_STUB_BALANCE) stub calls =
      postAll WALLET_STUB_BALANCE (posted WALLET_STUB_BALANCE calls stub) stub := by
  induction calls generalizing stub with
  | nil => rfl
  | cons call calls ih =>
      rw [posted, postAll_append, ← perform_eq]
      exact ih (call.perform WALLET_STUB_BALANCE stub)

theorem mem_of_reached {transactions : List WalletTransactionRequest}
    (member : request ∈ reached WALLET_STUB_BALANCE transactions stub) :
    request ∈ transactions := by
  induction transactions generalizing stub with
  | nil => cases member
  | cons transaction transactions ih =>
      unfold reached at member
      split at member
      · rcases List.mem_cons.mp member with rfl | later
        · exact List.mem_cons_self
        · exact List.mem_cons_of_mem _ (ih later)
      · rw [List.mem_singleton.mp member]
        exact List.mem_cons_self

/-- What is posted was asked for in a call. -/
theorem exists_call_of_posted {calls : List WalletCall}
    (member : request ∈ posted WALLET_STUB_BALANCE calls stub) :
    ∃ call ∈ calls, request ∈ call.requests := by
  induction calls generalizing stub with
  | nil => cases member
  | cons call calls ih =>
      rcases List.mem_append.mp member with first | later
      · exact ⟨call, List.mem_cons_self, mem_of_reached first⟩
      · obtain ⟨other, called, asked⟩ := ih later
        exact ⟨other, List.mem_cons_of_mem _ called, asked⟩

theorem stub_run (requests : List WalletTransactionRequest) (ledger : Ledger) :
    (run (Ledger.post WALLET_STUB_BALANCE) ledger requests).stub =
      postAll WALLET_STUB_BALANCE requests ledger.stub := by
  induction requests generalizing ledger with
  | nil => rfl
  | cons request requests ih => exact ih (ledger.post WALLET_STUB_BALANCE request)

end Calls

section Amounts

variable {balance amount stake : ℚ}

/-- A balance is compared as it is printed. -/
theorem stakeLessOrEqualBalance_toFixed (stake balance : ℚ) :
    stakeLessOrEqualBalance stake (toFixed 2 balance) =
      .ok (decide (stake ≤ (roundHalfUp 2 balance : ℚ) / 10 ^ 2)) := by
  have read := parse_toFixed 2 balance
  have number : ∀ text, parse text = none → toFixed 2 balance ≠ text := by
    rintro text unreadable rfl
    rw [read] at unreadable
    cases unreadable
  have infinite := number "Infinity" (by decide)
  have negative := number "-Infinity" (by decide)
  have invalid := number "NaN" (by decide)
  unfold stakeLessOrEqualBalance newDecimal
  rw [if_neg infinite, if_neg (not_or.mpr ⟨negative, invalid⟩), read]
  rfl

theorem hasDecimals_add {scale : ℕ} (first : HasDecimals scale balance)
    (second : HasDecimals scale amount) : HasDecimals scale (balance + amount) := by
  obtain ⟨units, rfl⟩ := exists_units_of_hasDecimals first
  obtain ⟨more, rfl⟩ := exists_units_of_hasDecimals second
  have sum : (units / 10 ^ scale + more / 10 ^ scale : ℚ) = (units + more : ℤ) / 10 ^ scale := by
    push_cast
    ring
  rw [sum]
  exact hasDecimals_units_div scale (units + more)

/-- A number of cents below this bound is not rounded to twenty digits. -/
theorem roundSignificant_cents (cents : HasDecimals 2 amount) (nonneg : 0 ≤ amount)
    (small : amount < 10 ^ 17) : roundSignificant 20 amount = amount := by
  obtain ⟨units, rfl⟩ := exists_units_of_hasDecimals cents
  apply roundSignificant_exact
  have lower : (0 : ℚ) ≤ units := by linarith
  have upper : (units : ℚ) < 10 ^ 19 := by
    rw [div_lt_iff₀ (by norm_num)] at small
    linarith
  have lower : 0 ≤ units := by exact_mod_cast lower
  have upper : units < 10 ^ 19 := by exact_mod_cast upper
  omega

theorem minus_cents (cents : HasDecimals 2 balance) (stakes : HasDecimals 2 (-stake))
    (nonneg : 0 ≤ stake) (covered : stake ≤ balance) (small : balance < 10 ^ 17) :
    minus balance stake = balance - stake := by
  apply roundSignificant_cents
  · rw [sub_eq_add_neg]
    exact hasDecimals_add cents stakes
  · exact sub_nonneg.mpr covered
  · linarith

/-- A sum that is kept below the bound was not rounded. -/
theorem plus_cents (cents : HasDecimals 2 balance) (amounts : HasDecimals 2 amount)
    (nonneg : 0 ≤ balance + amount) (small : plus balance amount < 10 ^ 17) :
    plus balance amount = balance + amount := by
  apply roundSignificant_cents (hasDecimals_add cents amounts) nonneg
  by_contra large
  have short : (10 ^ 17 : ℤ).natAbs < 10 ^ 20 := by decide
  have reached : ((10 ^ 17 : ℤ) / 10 ^ 0 : ℚ) ≤ balance + amount := by
    push_cast
    linarith
  have kept := le_roundSignificant (by norm_num) short reached
  push_cast at kept
  unfold plus at small
  linarith

/-- A number of cents is compared as it is. -/
theorem roundHalfUp_cents (cents : HasDecimals 2 amount) :
    (roundHalfUp 2 amount : ℚ) / 10 ^ 2 = amount := by
  obtain ⟨units, rfl⟩ := exists_units_of_hasDecimals cents
  rw [roundHalfUp_exact]

end Amounts

section Books

variable {WALLET_STUB_BALANCE : String} {initial balance amount : ℚ} {ledger : Ledger}
  {stub : Stub} {request : WalletTransactionRequest}

/-- The request is for an amount in cents. -/
def InCents (request : WalletTransactionRequest) : Prop :=
  ∃ amount, newDecimal request.amount = .ok amount ∧ HasDecimals 2 amount

/-- No balance reaches the bound up to which decimals of cents are exact. -/
def Stub.Small (stub : Stub) : Prop := ∀ account ∈ stub.balances.rows, account.balance < 10 ^ 17

instance (stub : Stub) : Decidable stub.Small :=
  inferInstanceAs (Decidable (∀ account ∈ stub.balances.rows, account.balance < 10 ^ 17))

theorem balanceFor_setBalance (userCode other : String) :
    balanceFor WALLET_STUB_BALANCE other (stub.setBalance userCode balance) =
      if userCode = other then .ok balance else balanceFor WALLET_STUB_BALANCE other stub := by
  unfold balanceFor Stub.setBalance
  dsimp only
  rw [Table.get?_put]
  by_cases same : userCode = other
  · rw [if_pos same, if_pos same]
  · rw [if_neg same, if_neg same]

/-- An amount in cents is booked exactly, unless it is not covered. -/
theorem book_cents (read : newDecimal request.amount = .ok amount)
    (amounts : HasDecimals 2 amount)
    (held : balanceFor WALLET_STUB_BALANCE request.userCode stub = .ok balance)
    (cents : HasDecimals 2 balance) (nonneg : 0 ≤ balance) (small : balance < 10 ^ 17) :
    (∃ failure, book WALLET_STUB_BALANCE request stub = .error failure) ∨
      0 ≤ balance + amount ∧
        (amount = 0 ∧ book WALLET_STUB_BALANCE request stub = .ok stub ∨
          ∃ booked, (booked < 10 ^ 17 → booked = balance + amount) ∧
            book WALLET_STUB_BALANCE request stub =
              .ok (stub.setBalance request.userCode booked)) := by
  unfold book
  rw [read, held]
  simp only [stakeLessOrEqualBalance_toFixed, roundHalfUp_cents cents, bind, Except.bind, pure,
    Except.pure]
  rcases lt_trichotomy amount 0 with negative | rfl | positive
  · rw [if_pos negative]
    have size : |amount| = -amount := abs_of_neg negative
    by_cases covered : |amount| ≤ balance
    · refine .inr ⟨by linarith, .inr ⟨minus balance |amount|, fun _ => ?_, by simp [covered]⟩⟩
      rw [minus_cents cents (by rwa [size, neg_neg]) (abs_nonneg amount) covered small, size]
      ring
    · exact .inl ⟨Wallet.insufficientBalance, by simp [covered]; rfl⟩
  · exact .inr ⟨by linarith, .inl ⟨rfl, by simp⟩⟩
  · rw [if_neg (not_lt.mpr positive.le), if_pos positive]
    refine .inr ⟨by linarith, .inr ⟨plus balance amount, fun kept => ?_, rfl⟩⟩
    exact plus_cents cents amounts (by linarith) kept

@[simp] theorem Ledger.total_empty (userCode : String) : Ledger.empty.total userCode = 0 := rfl

theorem total_concat (request : WalletTransactionRequest) (stub : Stub) (userCode : String) :
    (⟨stub, ledger.accepted ++ [request]⟩ : Ledger).total userCode =
      ledger.total userCode + if request.userCode = userCode then Wallet.amountOf request else 0 := by
  unfold Ledger.total
  by_cases own : request.userCode = userCode
  · simp [own]
  · simp [own]

/-- What holds of the ledger at all times. -/
structure Ledger.Sound (WALLET_STUB_BALANCE : String) (initial : ℚ) (ledger : Ledger) : Prop where
  codes : ∀ code, code ∈ ledger.stub.postedCodes ↔ code ∈ ledger.codes
  once : ledger.codes.Nodup
  balances : ∀ userCode, balanceFor WALLET_STUB_BALANCE userCode ledger.stub =
    .ok (initial + ledger.total userCode)
  cents : ∀ userCode, HasDecimals 2 (initial + ledger.total userCode)
  nonneg : ∀ userCode, 0 ≤ initial + ledger.total userCode

theorem Ledger.Sound.small (sound : ledger.Sound WALLET_STUB_BALANCE initial)
    (start : initial < 10 ^ 17) (read : newDecimal WALLET_STUB_BALANCE = .ok initial)
    (small : ledger.stub.Small) (userCode : String) : initial + ledger.total userCode < 10 ^ 17 := by
  have held := sound.balances userCode
  unfold balanceFor at held
  split at held
  · next account known =>
      rw [← Except.ok.inj held]
      exact small account (Table.get?_eq_some_iff.mp known).1
  · rw [read] at held
    rwa [← Except.ok.inj held]

/-- A transaction changes nothing, or it is accepted under a new code. -/
theorem post_cases (codes : ∀ code, code ∈ ledger.stub.postedCodes ↔ code ∈ ledger.codes)
    (request : WalletTransactionRequest) :
    ledger.post WALLET_STUB_BALANCE request = ledger ∨
      request.transactionCode ∉ ledger.codes ∧
        ∃ booked, book WALLET_STUB_BALANCE request ledger.stub = .ok booked ∧
          ledger.post WALLET_STUB_BALANCE request =
            ⟨booked.addCode request.transactionCode, ledger.accepted ++ [request]⟩ := by
  unfold Ledger.post postTransaction
  by_cases known : request.transactionCode ∈ ledger.stub.postedCodes
  · rw [if_pos known]
    have accepted := (codes request.transactionCode).mp known
    simp [accepted]
  · rw [if_neg known]
    have fresh := mt (codes request.transactionCode).mpr known
    cases booked : book WALLET_STUB_BALANCE request ledger.stub with
    | error failure => exact .inl rfl
    | ok after => exact .inr ⟨fresh, after, rfl, by simp [Except.toBool, fresh]⟩

theorem amountOf_eq (read : newDecimal request.amount = .ok amount) :
    Wallet.amountOf request = amount := by
  unfold newDecimal at read
  split at read
  · next number parsed =>
      rw [Wallet.amountOf, parsed, Except.ok.inj read]
      rfl
  · cases read

/-- The balance of the user moves by the amount, and no other does. -/
theorem booked_balances {booked : Stub} {held : String → ℚ}
    (balances : ∀ userCode, balanceFor WALLET_STUB_BALANCE userCode stub = .ok (held userCode))
    (books : amount = 0 ∧ booked = stub ∨
      ∃ updated, (updated < 10 ^ 17 → updated = held request.userCode + amount) ∧
        booked = stub.setBalance request.userCode updated)
    (small : booked.Small) (userCode : String) :
    balanceFor WALLET_STUB_BALANCE userCode booked =
      .ok (held userCode + if request.userCode = userCode then amount else 0) := by
  rcases books with ⟨rfl, rfl⟩ | ⟨updated, moved, rfl⟩
  · rw [balances]
    simp
  · rw [balanceFor_setBalance]
    by_cases own : request.userCode = userCode
    · subst own
      rw [if_pos rfl, if_pos rfl, moved]
      exact small ⟨request.userCode, updated⟩ (Table.mem_put_self _ _)
    · rw [if_neg own, if_neg own, add_zero, balances]

theorem Ledger.Sound.post (sound : ledger.Sound WALLET_STUB_BALANCE initial)
    (start : initial < 10 ^ 17) (read : newDecimal WALLET_STUB_BALANCE = .ok initial)
    (cents : InCents request) (small : ledger.stub.Small)
    (small' : (ledger.post WALLET_STUB_BALANCE request).stub.Small) :
    (ledger.post WALLET_STUB_BALANCE request).Sound WALLET_STUB_BALANCE initial := by
  rcases post_cases sound.codes request with unchanged | ⟨fresh, booked, books, accepted⟩
  · rw [unchanged]
    exact sound
  · obtain ⟨amount, amount?, amounts⟩ := cents
    have covers := book_cents amount? amounts (sound.balances request.userCode)
      (sound.cents request.userCode) (sound.nonneg request.userCode)
      (sound.small start read small request.userCode)
    rw [books] at covers
    simp only [reduceCtorEq, exists_false, false_or, Except.ok.injEq] at covers
    obtain ⟨nonneg, moves⟩ := covers
    rw [accepted] at small' ⊢
    have balances := booked_balances sound.balances moves small'
    have totals : ∀ userCode, initial + Ledger.total
        ⟨booked.addCode request.transactionCode, ledger.accepted ++ [request]⟩ userCode =
          initial + ledger.total userCode + if request.userCode = userCode then amount else 0 := by
      intro userCode
      rw [total_concat, amountOf_eq amount?, add_assoc]
    have posted : booked.postedCodes = ledger.stub.postedCodes := by
      rcases moves with ⟨_, rfl⟩ | ⟨updated, _, rfl⟩
      · rfl
      · rfl
    constructor
    case codes =>
      intro code
      simp [Stub.addCode, Ledger.codes, posted, sound.codes]
    case once =>
      unfold Ledger.codes
      rw [List.map_append, List.map_singleton, ← List.concat_eq_append]
      exact sound.once.concat fresh
    case balances =>
      intro userCode
      rw [totals]
      exact balances userCode
    case cents =>
      intro userCode
      rw [totals]
      split
      · exact hasDecimals_add (sound.cents userCode) amounts
      · rw [add_zero]
        exact sound.cents userCode
    case nonneg =>
      intro userCode
      rw [totals]
      split
      · next own =>
          subst own
          exact nonneg
      · rw [add_zero]
        exact sound.nonneg userCode

/-- A ledger stays sound while transactions in cents are posted and no balance reaches the
bound. -/
theorem sound_run {requests : List WalletTransactionRequest} (nonneg : 0 ≤ initial)
    (cents : HasDecimals 2 initial) (start : initial < 10 ^ 17)
    (read : newDecimal WALLET_STUB_BALANCE = .ok initial)
    (inCents : ∀ request ∈ requests, InCents request)
    (small : ∀ earlier ∈ requests.inits, (postAll WALLET_STUB_BALANCE earlier .empty).Small) :
    (run (Ledger.post WALLET_STUB_BALANCE) .empty requests).Sound WALLET_STUB_BALANCE initial := by
  induction requests using List.reverseRecOn with
  | nil =>
      constructor
      case codes => simp [Ledger.empty, Ledger.codes, Stub.empty]
      case once => exact List.nodup_nil
      case balances =>
        intro userCode
        rw [run_nil, Ledger.total_empty, add_zero]
        exact read
      case cents =>
        intro userCode
        rwa [run_nil, Ledger.total_empty, add_zero]
      case nonneg =>
        intro userCode
        rwa [run_nil, Ledger.total_empty, add_zero]
  | append_singleton requests request ih =>
      have before : ∀ earlier ∈ requests.inits, earlier ∈ (requests ++ [request]).inits := by
        intro earlier member
        rw [List.mem_inits] at member ⊢
        exact member.trans (List.prefix_append requests [request])
      have whole : ∀ requests : List WalletTransactionRequest, requests ∈ requests.inits :=
        fun requests => (List.mem_inits _ _).mpr List.prefix_rfl
      rw [run_concat]
      apply Ledger.Sound.post _ start read
      · exact inCents request (by simp)
      · rw [stub_run]
        exact small requests (before requests (whole requests))
      · rw [← run_concat (Ledger.post WALLET_STUB_BALANCE), stub_run]
        exact small _ (whole _)
      · apply ih
        · exact fun other member => inCents other (List.mem_append_left _ member)
        · exact fun earlier member => small earlier (before earlier member)

/-- The balance of every user is the initial one and what was accepted for the user since. -/
theorem stub_balances (calls : List WalletCall)
    (read : newDecimal WALLET_STUB_BALANCE = .ok initial) (nonneg : 0 ≤ initial)
    (cents : HasDecimals 2 initial) (start : initial < 10 ^ 17)
    (inCents : ∀ call ∈ calls, ∀ request ∈ call.requests, InCents request)
    (small : ∀ earlier ∈ (posted WALLET_STUB_BALANCE calls .empty).inits,
      (postAll WALLET_STUB_BALANCE earlier .empty).Small) :
    let stub := run (WalletCall.perform WALLET_STUB_BALANCE) .empty calls
    let ledger := run (Ledger.post WALLET_STUB_BALANCE) .empty
      (posted WALLET_STUB_BALANCE calls .empty)
    (∀ userCode, balanceFor WALLET_STUB_BALANCE userCode stub =
        .ok (initial + ledger.total userCode) ∧ 0 ≤ initial + ledger.total userCode) ∧
      ledger.codes.Nodup ∧
      (∀ request : WalletTransactionRequest, request.transactionCode ∈ ledger.codes →
        postTransaction WALLET_STUB_BALANCE request stub =
          (.ok (.code request.transactionCode), stub)) ∧
      (∀ request failure after,
        postTransaction WALLET_STUB_BALANCE request stub = (.error failure, after) →
          after = stub) ∧
      ∀ transactions failure after,
        postTransactionBatch WALLET_STUB_BALANCE transactions stub = (.error failure, after) →
          ∃ earlier failing later, transactions = earlier ++ failing :: later ∧
            postTransactionBatch WALLET_STUB_BALANCE earlier stub = (.ok (), after) ∧
            postTransaction WALLET_STUB_BALANCE failing after = (.error failure, after) := by
  intro stub ledger
  have sound : ledger.Sound WALLET_STUB_BALANCE initial := by
    apply sound_run nonneg cents start read _ small
    intro request member
    obtain ⟨call, called, asked⟩ := exists_call_of_posted member
    exact inCents call called request asked
  have same : ledger.stub = stub := by
    rw [stub_run]
    exact (run_perform calls .empty).symm
  refine ⟨fun userCode => ⟨?_, sound.nonneg userCode⟩, sound.once, ?_, ?_, ?_⟩
  · rw [← same]
    exact sound.balances userCode
  · intro request accepted
    apply postTransaction_again
    rw [← same]
    exact (sound.codes _).mpr accepted
  · exact fun request failure after => unchanged_of_refused
  · exact fun transactions failure after => batch_failed

/-- A stake and the same stake once more, then a batch whose second transaction is refused. -/
def evening : List WalletCall :=
  let stake : WalletTransactionRequest :=
    { userCode := "ada", casinoGroupId := "group", roundId := "first"
      transactionCode := .uuid 1, historyId := "first", gameCode := "SPORTS", gameType := 1
      isFinished := false, isCanceled := false, amount := "-7.50", detail := "stake"
      createdAt := 0 }
  [.postTransaction stake, .postTransaction stake,
    .postTransactionBatch
      [{ stake with transactionCode := .settlement "first" .won, amount := "15.00" },
        { stake with transactionCode := .uuid 2, amount := "-100.00" },
        { stake with userCode := "bob", transactionCode := .uuid 3, amount := "-1.00" }]]

theorem stub_balances_evening :
    (∀ userCode, balanceFor "10.00" userCode (run (WalletCall.perform "10.00") .empty evening) =
      .ok (10 + (run (Ledger.post "10.00") .empty (posted "10.00" evening .empty)).total
        userCode)) ∧
    getBalance "10.00" "ada" (run (WalletCall.perform "10.00") .empty evening) = .ok "17.50" := by
  have read : newDecimal "10.00" = .ok 10 := by decide +kernel
  have inCents : ∀ call ∈ evening, ∀ request ∈ call.requests, InCents request := by
    have stake : ∀ request : WalletTransactionRequest, request.amount = "-7.50" →
        InCents request := by
      intro request same
      exact ⟨-15 / 2, by rw [same]; decide +kernel, by decide +kernel⟩
    simp only [evening, WalletCall.requests, List.forall_mem_cons, List.not_mem_nil]
    refine ⟨⟨stake _ rfl, by simp⟩, ⟨stake _ rfl, by simp⟩, ⟨?_, ?_, ?_, by simp⟩, by simp⟩
    · exact ⟨15, by decide +kernel, by decide +kernel⟩
    · exact ⟨-100, by decide +kernel, by decide +kernel⟩
    · exact ⟨-1, by decide +kernel, by decide +kernel⟩
  have holds := stub_balances evening read (by norm_num) (by decide +kernel) (by norm_num) inCents
    (by decide +kernel)
  exact ⟨fun userCode => (holds.1 userCode).1, by decide +kernel⟩

end Books

end SportsBetting.WalletStub
