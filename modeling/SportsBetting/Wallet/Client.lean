import SportsBetting.Data.Text
import SportsBetting.Numeral.Notation
import SportsBetting.Schema

/-!
# How wallet replies are read

A reply is what a POST to the merchant ends in: a response, or a failure with
the status and the body that came with it. An open circuit is a failure that
has neither.
-/

namespace SportsBetting.Wallet

open Numeral Text

inductive ResponseMessage
  | absent
  | text (value : String)
  | number (value : String)
  deriving DecidableEq

/-- A body that is not of this shape reads as one without success, message and code. -/
structure MerchantWalletResponse where
  success : Bool
  message : ResponseMessage
  errorCode : Option ℤ
  deriving DecidableEq

inductive HttpReply
  | response (data : Option MerchantWalletResponse)
  | failure (status : Option ℕ) (data : Option MerchantWalletResponse)
  deriving DecidableEq

/-- Capital letters as far as the word needs them: beyond ASCII, only the dotless i
has a capital that occurs in it. -/
def hintUpper (symbol : Char) : Char := if symbol = 'ı' then 'I' else symbol.toUpper

def isDuplicateTransaction (data : MerchantWalletResponse) : Bool :=
  match data.message with
  | .text message => data.errorCode ≠ some 0 &&
      includes (String.ofList (message.toList.map hintUpper)) "DUPLICATE"
  | _ => false

def isSuccess (data : MerchantWalletResponse) : Bool := data.success && data.errorCode = some 0

/-- The body acknowledges that the transaction, or batch, has been applied. -/
def acknowledges (data : MerchantWalletResponse) : Bool :=
  isSuccess data || isDuplicateTransaction data

/-- Amounts are written by our own builders, as decimals. -/
def amountOf (request : WalletTransactionRequest) : ℚ := (parse request.amount).getD 0

def serviceUnavailable : Failure := .walletReserve "Wallet service unavailable" .unavailable

def insufficientBalance : Failure := .walletReserve "Insufficient balance" .insufficientFunds

def parseTransactionResponse (request : WalletTransactionRequest) (data : MerchantWalletResponse) :
    Except Failure Reservation :=
  if isSuccess data then
    match data.message with
    | .text message => .ok (if message = "" then .code request.transactionCode else .message message)
    | _ => .ok (.code request.transactionCode)
  else if isDuplicateTransaction data then .ok (.code request.transactionCode)
  else if amountOf request < 0 then .error insufficientBalance
  else .error (.walletReserve "Wallet transaction rejected" .unavailable)

def readTransaction (request : WalletTransactionRequest) : HttpReply → Except Failure Reservation
  | .response (some data) => parseTransactionResponse request data
  | .response none => .error serviceUnavailable
  | .failure _ (some data) => parseTransactionResponse request data
  | .failure status none =>
      if status = some 402 ∨ status = some 409 ∨ status = some 400 then .error insufficientBalance
      else .error serviceUnavailable

def readBatch : HttpReply → Except Failure Unit
  | .response (some data) =>
      if acknowledges data then .ok ()
      else .error (.walletReserve "Wallet batch settlement rejected" .unavailable)
  | .failure _ (some data) => if acknowledges data then .ok () else .error serviceUnavailable
  | _ => .error serviceUnavailable

def readBalance : HttpReply → Except Failure String
  | .response (some data) =>
      if isSuccess data then
        .ok (match data.message with
          | .text message => message
          | .number message => message
          | .absent => "undefined")
      else .error (.walletReserve "Wallet balance lookup rejected" .unavailable)
  | _ => .error serviceUnavailable

/-- The reply makes the client take the debit for refused. -/
def ReadsAsRefusal (request : WalletTransactionRequest) (reply : HttpReply) : Prop :=
  readTransaction request reply = .error insufficientBalance

instance (request : WalletTransactionRequest) (reply : HttpReply) :
    Decidable (ReadsAsRefusal request reply) :=
  inferInstanceAs (Decidable (_ = _))

/-- Only a refusal is reported as one. -/
theorem insufficientFunds_of_readTransaction {request : WalletTransactionRequest}
    {reply : HttpReply} {message : String}
    (failed : readTransaction request reply = .error (.walletReserve message .insufficientFunds)) :
    ReadsAsRefusal request reply := by
  have parsed : ∀ data, parseTransactionResponse request data =
      .error (.walletReserve message .insufficientFunds) →
      parseTransactionResponse request data = .error insufficientBalance := by
    intro data
    unfold parseTransactionResponse
    split_ifs <;> simp [insufficientBalance]
    split <;> simp
  unfold ReadsAsRefusal
  cases reply with
  | response data =>
      cases data with
      | none => simp [readTransaction, serviceUnavailable] at failed
      | some data => exact parsed data failed
  | failure status data =>
      cases data with
      | some data => exact parsed data failed
      | none =>
          dsimp only [readTransaction] at failed ⊢
          by_cases refused : status = some 402 ∨ status = some 409 ∨ status = some 400
          · rw [if_pos refused]
          · rw [if_neg refused] at failed
            simp [serviceUnavailable] at failed

end SportsBetting.Wallet
