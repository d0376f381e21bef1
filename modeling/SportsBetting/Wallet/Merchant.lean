import SportsBetting.Wallet.Client

/-!
# The merchant wallet

The wallet applies each transaction code of a group once and each batch all or
nothing, refuses a debit only when the balance is too low, and acknowledges
what it has already applied. The network may keep a request from the wallet and
may replace any reply.
-/

namespace SportsBetting.Wallet

open Numeral

structure Merchant where
  /-- By casino group and user code. -/
  balances : String → String → ℚ
  /-- Everything applied so far, in order. -/
  applied : List WalletTransactionRequest
  batches : List (String × ℕ)

/-- What is up to the merchant and to the network in one exchange. -/
structure Exchange where
  reached : Bool
  /-- Seen by the client instead of the reply. -/
  replaced : Option HttpReply
  /-- Credits and batches may be refused at will. -/
  refuse : Bool
  message : ResponseMessage
  repeated : MerchantWalletResponse
  refusal : MerchantWalletResponse

namespace Exchange

variable (exchange : Exchange)

/-- A new transaction is acknowledged by success. -/
def success : MerchantWalletResponse := ⟨true, exchange.message, some 0⟩

/-- A repeated one by success or by a message that names the duplicate. -/
def repeatReply : MerchantWalletResponse :=
  if acknowledges exchange.repeated then exchange.repeated else exchange.success

def refusalReply : MerchantWalletResponse :=
  if acknowledges exchange.refusal then ⟨false, .absent, some 1⟩ else exchange.refusal

theorem acknowledges_refusalReply : acknowledges exchange.refusalReply = false := by
  unfold refusalReply
  split
  · rfl
  · next refused => simpa using refused

end Exchange

namespace Merchant

variable (merchant : Merchant) (exchange : Exchange)

def hasApplied (casinoGroupId : String) (code : TransactionCode) : Bool :=
  merchant.applied.any fun done =>
    done.casinoGroupId = casinoGroupId && done.transactionCode = code

def apply (request : WalletTransactionRequest) : Merchant :=
  { merchant with
    balances := fun casinoGroupId userCode =>
      if casinoGroupId = request.casinoGroupId ∧ userCode = request.userCode then
        merchant.balances casinoGroupId userCode + amountOf request
      else merchant.balances casinoGroupId userCode
    applied := merchant.applied ++ [request] }

/-- The wallet refuses this new transaction. -/
def refuses (request : WalletTransactionRequest) : Bool :=
  if amountOf request < 0 then
    merchant.balances request.casinoGroupId request.userCode + amountOf request < 0
  else exchange.refuse

def transaction (request : WalletTransactionRequest) : MerchantWalletResponse × Merchant :=
  if merchant.hasApplied request.casinoGroupId request.transactionCode then
    (exchange.repeatReply, merchant)
  else if merchant.refuses exchange request then (exchange.refusalReply, merchant)
  else (exchange.success, merchant.apply request)

/-- Apply what has not been applied under its own code. -/
def applyNew (request : WalletTransactionRequest) : Merchant :=
  if merchant.hasApplied request.casinoGroupId request.transactionCode then merchant
  else merchant.apply request

def applyAll (transactions : List WalletTransactionRequest) : Merchant :=
  transactions.foldl applyNew merchant

def batchTransactions (casinoGroupId : String) (batchId : ℕ)
    (transactions : List WalletTransactionRequest) : MerchantWalletResponse × Merchant :=
  if (casinoGroupId, batchId) ∈ merchant.batches then (exchange.repeatReply, merchant)
  else if exchange.refuse then (exchange.refusalReply, merchant)
  else
    (exchange.success,
      { merchant.applyAll transactions with
        batches := merchant.batches ++ [(casinoGroupId, batchId)] })

/-- The reply that the client sees. -/
def deliver (answered : MerchantWalletResponse × Merchant) : HttpReply × Merchant :=
  if exchange.reached then
    (exchange.replaced.getD (.response (some answered.1)), answered.2)
  else (exchange.replaced.getD (.failure none none), merchant)

def post (request : WalletTransactionRequest) : HttpReply × Merchant :=
  merchant.deliver exchange (merchant.transaction exchange request)

def postBatch (casinoGroupId : String) (batchId : ℕ)
    (transactions : List WalletTransactionRequest) : HttpReply × Merchant :=
  merchant.deliver exchange (merchant.batchTransactions exchange casinoGroupId batchId transactions)

def balance (casinoGroupId userCode : String) : MerchantWalletResponse :=
  ⟨true, .text (toFixed 2 (merchant.balances casinoGroupId userCode)), some 0⟩

def setBalance (casinoGroupId userCode : String) (amount : ℚ) : Merchant :=
  { merchant with
    balances := fun group user =>
      if group = casinoGroupId ∧ user = userCode then amount else merchant.balances group user }

end Merchant

section Applied

variable {merchant : Merchant} {exchange : Exchange} {request : WalletTransactionRequest}

/-- Every code of a group is applied at most once. -/
def Merchant.AppliesOnce (merchant : Merchant) : Prop :=
  (merchant.applied.map fun done => (done.casinoGroupId, done.transactionCode)).Nodup

theorem hasApplied_iff {casinoGroupId : String} {code : TransactionCode} :
    merchant.hasApplied casinoGroupId code = true ↔
      ∃ done ∈ merchant.applied, done.casinoGroupId = casinoGroupId ∧ done.transactionCode = code := by
  simp [Merchant.hasApplied]

@[simp] theorem mem_apply {done : WalletTransactionRequest} :
    done ∈ (merchant.apply request).applied ↔ done ∈ merchant.applied ∨ done = request := by
  simp [Merchant.apply]

theorem appliesOnce_apply (once : merchant.AppliesOnce)
    (fresh : merchant.hasApplied request.casinoGroupId request.transactionCode = false) :
    (merchant.apply request).AppliesOnce := by
  unfold Merchant.AppliesOnce Merchant.apply
  rw [List.map_append, List.nodup_append]
  refine ⟨once, by simp, ?_⟩
  intro first before second new same
  obtain ⟨done, member, own⟩ := List.mem_map.mp before
  have key : (done.casinoGroupId, done.transactionCode) =
      (request.casinoGroupId, request.transactionCode) := by
    rw [own, same]
    simpa using new
  obtain ⟨group, code⟩ := Prod.mk.inj key
  have applied := hasApplied_iff.mpr ⟨done, member, group, code⟩
  rw [fresh] at applied
  cases applied

theorem deliver_cases (answered : MerchantWalletResponse × Merchant) :
    (merchant.deliver exchange answered).2 = merchant ∨
      (merchant.deliver exchange answered).2 = answered.2 := by
  unfold Merchant.deliver
  by_cases reached : exchange.reached = true
  · simp [reached]
  · simp [reached]

/-- A post changes nothing, or applies a transaction whose code is new. -/
theorem post_cases (merchant : Merchant) (exchange : Exchange)
    (request : WalletTransactionRequest) :
    (merchant.post exchange request).2 = merchant ∨
      merchant.hasApplied request.casinoGroupId request.transactionCode = false ∧
        (merchant.post exchange request).2 = merchant.apply request := by
  rcases deliver_cases (merchant.transaction exchange request) with same | done
  · exact .inl same
  · unfold Merchant.post
    rw [done]
    unfold Merchant.transaction
    by_cases applied : merchant.hasApplied request.casinoGroupId request.transactionCode = true
    · simp [applied]
    · by_cases refused : merchant.refuses exchange request = true
      · simp [applied, refused]
      · simp [applied, refused]

theorem postBatch_cases (merchant : Merchant) (exchange : Exchange) (casinoGroupId : String)
    (batchId : ℕ) (transactions : List WalletTransactionRequest) :
    (merchant.postBatch exchange casinoGroupId batchId transactions).2 = merchant ∨
      (casinoGroupId, batchId) ∉ merchant.batches ∧
        (merchant.postBatch exchange casinoGroupId batchId transactions).2 =
          { merchant.applyAll transactions with
            batches := merchant.batches ++ [(casinoGroupId, batchId)] } := by
  rcases deliver_cases (merchant.batchTransactions exchange casinoGroupId batchId transactions) with
    same | done
  · exact .inl same
  · unfold Merchant.postBatch
    rw [done]
    unfold Merchant.batchTransactions
    by_cases applied : (casinoGroupId, batchId) ∈ merchant.batches
    · simp [applied]
    · cases refused : exchange.refuse
      · simp [applied]
      · simp [applied]

theorem applyNew_cases (merchant : Merchant) (request : WalletTransactionRequest) :
    merchant.hasApplied request.casinoGroupId request.transactionCode = true ∧
      merchant.applyNew request = merchant ∨
    merchant.hasApplied request.casinoGroupId request.transactionCode = false ∧
      merchant.applyNew request = merchant.apply request := by
  unfold Merchant.applyNew
  cases applied : merchant.hasApplied request.casinoGroupId request.transactionCode
  · simp
  · simp

theorem appliesOnce_applyAll {transactions : List WalletTransactionRequest}
    (once : merchant.AppliesOnce) : (merchant.applyAll transactions).AppliesOnce := by
  induction transactions generalizing merchant with
  | nil => exact once
  | cons request rest ih =>
      apply ih
      rcases applyNew_cases merchant request with ⟨_, same⟩ | ⟨fresh, done⟩
      · rw [same]
        exact once
      · rw [done]
        exact appliesOnce_apply once fresh

/-- A batch applies nothing but its own transactions. -/
theorem mem_applyAll {transactions : List WalletTransactionRequest}
    {done : WalletTransactionRequest} (member : done ∈ (merchant.applyAll transactions).applied) :
    done ∈ merchant.applied ∨ done ∈ transactions := by
  induction transactions generalizing merchant with
  | nil => exact .inl member
  | cons request rest ih =>
      rcases ih member with before | later
      · rcases applyNew_cases merchant request with ⟨_, same⟩ | ⟨_, changed⟩
        · rw [same] at before
          exact .inl before
        · rw [changed, mem_apply] at before
          rcases before with old | rfl
          · exact .inl old
          · exact .inr List.mem_cons_self
      · exact .inr (List.mem_cons_of_mem _ later)

theorem applied_subset_applyAll (merchant : Merchant)
    (transactions : List WalletTransactionRequest) :
    merchant.applied ⊆ (merchant.applyAll transactions).applied := by
  induction transactions generalizing merchant with
  | nil => exact List.Subset.refl _
  | cons request rest ih =>
      refine List.Subset.trans ?_ (ih (merchant.applyNew request))
      intro done member
      rcases applyNew_cases merchant request with ⟨_, same⟩ | ⟨_, changed⟩
      · rwa [same]
      · rw [changed, mem_apply]
        exact .inl member

/-- What has been applied stays so. -/
theorem hasApplied_of_subset {later : Merchant} (grows : merchant.applied ⊆ later.applied)
    {casinoGroupId : String} {code : TransactionCode}
    (applied : merchant.hasApplied casinoGroupId code = true) :
    later.hasApplied casinoGroupId code = true := by
  obtain ⟨done, member, key⟩ := hasApplied_iff.mp applied
  exact hasApplied_iff.mpr ⟨done, grows member, key⟩

/-- A batch applies all of its transactions. -/
theorem hasApplied_applyAll {transactions : List WalletTransactionRequest}
    (member : request ∈ transactions) :
    (merchant.applyAll transactions).hasApplied request.casinoGroupId request.transactionCode =
      true := by
  induction transactions generalizing merchant with
  | nil => cases member
  | cons first rest ih =>
      rcases List.mem_cons.mp member with rfl | later
      · apply hasApplied_of_subset (applied_subset_applyAll (merchant.applyNew request) rest)
        rcases applyNew_cases merchant request with ⟨applied, same⟩ | ⟨_, changed⟩
        · rwa [same]
        · rw [changed]
          exact hasApplied_iff.mpr ⟨request, mem_apply.mpr (.inr rfl), rfl, rfl⟩
      · exact ih later

theorem applied_subset_post (merchant : Merchant) (exchange : Exchange)
    (request : WalletTransactionRequest) :
    merchant.applied ⊆ (merchant.post exchange request).2.applied := by
  intro done member
  rcases post_cases merchant exchange request with same | ⟨_, changed⟩
  · rwa [same]
  · rw [changed, mem_apply]
    exact .inl member

theorem applied_subset_postBatch (merchant : Merchant) (exchange : Exchange)
    (casinoGroupId : String) (batchId : ℕ) (transactions : List WalletTransactionRequest) :
    merchant.applied ⊆ (merchant.postBatch exchange casinoGroupId batchId transactions).2.applied := by
  intro done member
  rcases postBatch_cases merchant exchange casinoGroupId batchId transactions with
    same | ⟨_, changed⟩
  · rwa [same]
  · rw [changed]
    exact applied_subset_applyAll merchant transactions member

end Applied

end SportsBetting.Wallet
