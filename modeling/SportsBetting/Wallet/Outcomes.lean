import SportsBetting.Wallet.Client

/-!
# Which outcomes of a debit reject the bet

A debit is rejected for good only where the client reads insufficient funds. It reads
that from the body of any error, whatever the status, and from any body that is not
known to be a success.
-/

namespace SportsBetting.Wallet

/-- What a reply can carry. Of a JSON object only three members are read. Other values have
no members, as a text has none; a falsy one reads as the empty text. -/
inductive ReplyBody
  | null
  | text (value : String)
  | object (success : Option Bool) (message : ResponseMessage) (errorCode : Option ℤ)
  deriving DecidableEq

namespace ReplyBody

/-- The members that are read: a text has none, and null can not be asked for any. -/
def members : ReplyBody → Option MerchantWalletResponse
  | .null => none
  | .text _ => some ⟨false, .absent, none⟩
  | .object success message errorCode => some ⟨success = some true, message, errorCode⟩

/-- The body of an error is only read if it is not empty. -/
def ofError : ReplyBody → Option MerchantWalletResponse
  | .text "" => none
  | body => body.members

/-- The wallet says that it has not applied the transaction. -/
def refuses : ReplyBody → Bool
  | .object success _ errorCode =>
      success = some false || errorCode.any fun code => code ≠ 0
  | _ => false

/-- The wallet says that it has applied the transaction, now or before. -/
def accepts (body : ReplyBody) : Bool := body.members.any acknowledges

end ReplyBody

inductive HttpOutcome
  | answered (status : ℕ) (body : ReplyBody)
  | timeout
  | connectionError
  | circuitOpen
  deriving DecidableEq

namespace HttpOutcome

def Successful (status : ℕ) : Prop := 200 ≤ status ∧ status < 300

instance (status : ℕ) : Decidable (Successful status) := inferInstanceAs (Decidable (_ ∧ _))

/-- A status other than 2xx is an error with the body of the reply. -/
def reply : HttpOutcome → HttpReply
  | .answered status body =>
      if Successful status then .response body.members else .failure (some status) body.ofError
  | _ => .failure none none

/-- The statuses that say that the debit is refused. -/
def RefusedStatus (status : ℕ) : Prop := status = 400 ∨ status = 402 ∨ status = 409

instance (status : ℕ) : Decidable (RefusedStatus status) :=
  inferInstanceAs (Decidable (_ ∨ _ ∨ _))

/-- A definite refusal. -/
def Refuses : HttpOutcome → Prop
  | .answered status body =>
      RefusedStatus status ∨ Successful status ∧ body.refuses = true ∧ body.accepts = false
  | _ => False

/-- What says nothing about the debit. -/
def Unclear : HttpOutcome → Prop
  | .answered status body =>
      (500 ≤ status ∧ status < 600 ∨ status = 401 ∨ status = 403 ∨ status = 404 ∨ status = 429) ∧
        body.accepts = false
  | _ => True

/-- The client does not take the outcome for a refusal that it is not. -/
def Legible : HttpOutcome → Prop
  | .answered status body =>
      if Successful status then body = .null ∨ body.accepts = true ∨ body.refuses = true
      else RefusedStatus status ∨ body = .null ∨ body = .text "" ∨ body.accepts = true
  | _ => True

instance (outcome : HttpOutcome) : Decidable outcome.Refuses := by
  cases outcome <;> (unfold Refuses; infer_instance)

instance (outcome : HttpOutcome) : Decidable outcome.Unclear := by
  cases outcome <;> (unfold Unclear; infer_instance)

instance (outcome : HttpOutcome) : Decidable outcome.Legible := by
  cases outcome <;> (unfold Legible; infer_instance)

end HttpOutcome

/-- What posting the transaction comes to. -/
def outcomeOf (request : WalletTransactionRequest) (outcome : HttpOutcome) :
    Except Failure Reservation :=
  readTransaction request outcome.reply

def FailsWith (code : WalletErrorCode) (result : Except Failure Reservation) : Prop :=
  ∃ message, result = .error (.walletReserve message code)

/-- Insufficient funds only after a definite refusal, and a retry where nothing is known. -/
def ReadsRefusals (request : WalletTransactionRequest) (outcome : HttpOutcome) : Prop :=
  (FailsWith .insufficientFunds (outcomeOf request outcome) → outcome.Refuses) ∧
    (outcome.Unclear → FailsWith .unavailable (outcomeOf request outcome))

section Debits

open HttpOutcome

variable {request : WalletTransactionRequest} {outcome : HttpOutcome}

theorem not_insufficient_of_ok {reservation : Reservation} :
    ¬ FailsWith .insufficientFunds (.ok reservation) := by
  rintro ⟨message, same⟩
  cases same

theorem unavailable_serviceUnavailable :
    FailsWith .unavailable (.error serviceUnavailable) := ⟨_, rfl⟩

theorem not_insufficient_serviceUnavailable :
    ¬ FailsWith .insufficientFunds (.error serviceUnavailable) := by
  rintro ⟨message, same⟩
  simp [serviceUnavailable] at same

/-- A debit whose body is read is applied, or refused. -/
theorem parse_debit (debit : amountOf request < 0) (data : MerchantWalletResponse) :
    if acknowledges data then ∃ reservation,
      parseTransactionResponse request data = .ok reservation
    else parseTransactionResponse request data = .error insufficientBalance := by
  unfold acknowledges parseTransactionResponse
  cases isSuccess data with
  | true =>
      simp only [Bool.true_or, if_true]
      split <;> exact ⟨_, rfl⟩
  | false =>
      cases isDuplicateTransaction data with
      | true => exact ⟨_, rfl⟩
      | false => simp [debit]

theorem read_members (debit : amountOf request < 0) (data : MerchantWalletResponse) :
    (acknowledges data = true ∧ ∃ reservation,
      parseTransactionResponse request data = .ok reservation) ∨
    acknowledges data = false ∧
      parseTransactionResponse request data = .error insufficientBalance := by
  have parsed := parse_debit debit data
  cases known : acknowledges data with
  | true => exact .inl ⟨rfl, by simpa [known] using parsed⟩
  | false => exact .inr ⟨rfl, by simpa [known] using parsed⟩

theorem insufficient_insufficientBalance :
    FailsWith .insufficientFunds (.error insufficientBalance) := ⟨_, rfl⟩

/-- The members of a body that is read, and whether they acknowledge the debit. -/
theorem ReplyBody.members_cases (body : ReplyBody) : body = .null ∧ body.members = none ∨
    ∃ data, body.members = some data ∧ acknowledges data = body.accepts := by
  cases body with
  | null => exact .inl ⟨rfl, rfl⟩
  | text value => exact .inr ⟨_, rfl, rfl⟩
  | object success message errorCode => exact .inr ⟨_, rfl, rfl⟩

theorem ReplyBody.ofError_cases (body : ReplyBody) :
    (body = .null ∨ body = .text "") ∧ body.ofError = none ∨
    body ≠ .null ∧ body ≠ .text "" ∧ body.ofError = body.members := by
  cases body with
  | null => exact .inl ⟨.inl rfl, rfl⟩
  | text value =>
      by_cases empty : value = ""
      · subst empty
        exact .inl ⟨.inr rfl, rfl⟩
      · refine .inr ⟨nofun, by simpa using empty, ?_⟩
        unfold ofError
        split
        · next same => exact absurd (ReplyBody.text.inj same) empty
        · rfl
  | object success message errorCode => exact .inr ⟨nofun, nofun, rfl⟩

theorem readsRefusals_successful (debit : amountOf request < 0) {status : ℕ} {body : ReplyBody}
    (successful : Successful status) :
    ReadsRefusals request (.answered status body) ↔ Legible (.answered status body) := by
  have clear : ¬ Unclear (.answered status body) := by
    rintro ⟨error, _⟩
    unfold Successful at successful
    omega
  have status_ : ¬ RefusedStatus status := by
    unfold Successful at successful
    unfold RefusedStatus
    omega
  have read : outcomeOf request (.answered status body) =
    readTransaction request (.response body.members) := by simp [outcomeOf, reply, successful]
  simp only [ReadsRefusals, Legible, Refuses, if_pos successful, read]
  rcases body.members_cases with ⟨rfl, none_⟩ | ⟨data, some_, same⟩
  · rw [none_]
    simp only [true_or, iff_true]
    exact ⟨fun failed => absurd failed not_insufficient_serviceUnavailable,
      fun unclear => absurd unclear clear⟩
  · rw [some_]
    have full : body ≠ .null := by
      rintro rfl
      cases some_
    rcases read_members debit data with ⟨known, reservation, parsed⟩ | ⟨unknown, parsed⟩
    · rw [known] at same
      simp only [readTransaction, parsed, ← same, true_or, or_true, iff_true]
      exact ⟨fun failed => absurd failed not_insufficient_of_ok,
        fun unclear => absurd unclear clear⟩
    · rw [unknown] at same
      simp only [readTransaction, parsed, ← same, full, false_or, Bool.false_eq_true]
      constructor
      · rintro ⟨refuses, _⟩
        rcases refuses insufficient_insufficientBalance with refused | ⟨_, refuses, _⟩
        · exact absurd refused status_
        · exact refuses
      · intro refuses
        exact ⟨fun _ => .inr ⟨successful, refuses, trivial⟩, fun unclear => absurd unclear clear⟩

theorem readsRefusals_failed (debit : amountOf request < 0) {status : ℕ} {body : ReplyBody}
    (failed : ¬ Successful status) :
    ReadsRefusals request (.answered status body) ↔ Legible (.answered status body) := by
  have read : outcomeOf request (.answered status body) =
    readTransaction request (.failure (some status) body.ofError) := by
      simp [outcomeOf, reply, failed]
  by_cases refused : RefusedStatus status
  · have clear : ¬ Unclear (.answered status body) := by
      rintro ⟨error, _⟩
      unfold RefusedStatus at refused
      omega
    simp only [ReadsRefusals, Legible, Refuses, if_neg failed, refused, true_or, implies_true,
      true_and, iff_true]
    exact fun unclear => absurd unclear clear
  · simp only [ReadsRefusals, Legible, Refuses, if_neg failed, read]
    simp only [refused, failed, false_and, or_false, false_or]
    rcases body.ofError_cases with ⟨empty, none_⟩ | ⟨full, spoken, some_⟩
    · have unread : readTransaction request (.failure (some status) none) =
          .error serviceUnavailable := by
        unfold RefusedStatus at refused
        have others : ¬ (some status = some 402 ∨ some status = some 409 ∨
            some status = some 400) := by
          simp only [Option.some.injEq]
          omega
        simp only [readTransaction, if_neg others]
      rw [none_, unread]
      have legible : body = .null ∨ body = .text "" ∨ body.accepts = true := by tauto
      simp only [legible, iff_true]
      exact ⟨not_insufficient_serviceUnavailable, fun _ => unavailable_serviceUnavailable⟩
    · rcases body.members_cases with ⟨rfl, _⟩ | ⟨data, members, same⟩
      · exact absurd rfl full
      · rw [some_, members]
        rcases read_members debit data with ⟨known, reservation, parsed⟩ |
          ⟨unknown, parsed⟩
        · rw [known] at same
          have accepts : body.accepts = true := same.symm
          simp only [readTransaction, parsed, accepts, or_true, iff_true]
          refine ⟨not_insufficient_of_ok, fun unclear => ?_⟩
          have refuses := unclear.2
          rw [accepts] at refuses
          cases refuses
        · rw [unknown] at same
          simp only [readTransaction, parsed, ← same, full, spoken, false_or, Bool.false_eq_true,
            iff_false]
          rintro ⟨never, _⟩
          exact never insufficient_insufficientBalance

/-- The client reads the outcome of a debit as it is meant exactly where the outcome is
legible: where a 2xx reply is null, accepts or refuses, and where an error of another status
than 400, 402 and 409 has no body, or one that accepts. -/
theorem readsRefusals_iff (debit : amountOf request < 0) :
    ReadsRefusals request outcome ↔ outcome.Legible := by
  cases outcome with
  | answered status body =>
      by_cases successful : Successful status
      · exact readsRefusals_successful debit successful
      · exact readsRefusals_failed debit successful
  | _ =>
      simp only [Legible, iff_true]
      exact ⟨fun failed => absurd failed not_insufficient_serviceUnavailable,
        fun _ => unavailable_serviceUnavailable⟩

end Debits

/-- A debit of five for a bet that waits for its stake. -/
def stakeDebit : WalletTransactionRequest where
  userCode := "ann"
  casinoGroupId := "group"
  roundId := "bet"
  transactionCode := .uuid 1
  historyId := "bet"
  gameCode := "sports"
  gameType := 0
  isFinished := false
  isCanceled := false
  amount := "-5.00"
  detail := ""
  createdAt := 0

theorem stakeDebit_timeout : ReadsRefusals stakeDebit .timeout :=
  (readsRefusals_iff (by decide +kernel)).mpr trivial

/-- The error page of an overloaded wallet rejects the bet. -/
theorem stakeDebit_errorPage :
    amountOf stakeDebit < 0 ∧
      ¬ ReadsRefusals stakeDebit (.answered 503 (.text "<html>Service Unavailable</html>")) := by
  refine ⟨by decide +kernel, ?_⟩
  rintro ⟨refused, _⟩
  have misread : FailsWith .insufficientFunds
      (outcomeOf stakeDebit (.answered 503 (.text "<html>Service Unavailable</html>"))) :=
    ⟨"Insufficient balance", by decide +kernel⟩
  have unrefused : ¬ HttpOutcome.Refuses
      (.answered 503 (.text "<html>Service Unavailable</html>")) := by decide
  exact unrefused (refused misread)

end SportsBetting.Wallet
