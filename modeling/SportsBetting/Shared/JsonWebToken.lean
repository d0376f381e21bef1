import Mathlib.Data.Int.Notation

/-!
# Signed tokens

A token carries its payload in the open, signed under a secret. Signing is a parameter.
-/

namespace Jwt

inductive Json
  | null
  | boolean (value : Bool)
  | number (value : ℤ)
  | text (value : String)
  | array (items : List Json)
  | object (members : List (String × Json))

abbrev Claims := List (String × Json)

inductive Payload
  | text (value : String)
  | claims (members : Claims)

/-- The payload has no end, or it is still to come. -/
def Payload.unexpired (now : ℤ) : Payload → Bool
  | .text _ => true
  | .claims members =>
      match members.lookup "exp" with
      | none => true
      | some (.number expiry) => now < expiry
      | some _ => false

/-- The payload has no start, or it has come. -/
def Payload.begun (now : ℤ) : Payload → Bool
  | .text _ => true
  | .claims members =>
      match members.lookup "nbf" with
      | none => true
      | some (.number start) => start ≤ now
      | some _ => false

/-- Times are in seconds. -/
structure Scheme where
  Token : Type
  /-- The token of a payload under a secret. -/
  sign : String → Payload → Token
  /-- How long a lifetime such as "15m" is, if it is one. -/
  seconds : String → Option ℤ
  verify : String → Token → ℤ → Option Payload
  payload_eq : ∀ {secret secret' payload payload'},
    sign secret payload = sign secret' payload' → payload = payload'
  verify_iff : ∀ {secret token now payload}, verify secret token now = some payload ↔
    token = sign secret payload ∧ payload.unexpired now = true

namespace Scheme

variable (jwt : Scheme)

/-- Claims with the time they are issued at and the time they end. -/
def stamped (claims : Claims) (now seconds : ℤ) : Claims :=
  claims ++ [("iat", .number now), ("exp", .number (now + seconds))]

/-- Sign claims that end after a lifetime. -/
def issue (secret expiresIn : String) (claims : Claims) (now : ℤ) : Option jwt.Token :=
  (jwt.seconds expiresIn).map fun seconds =>
    jwt.sign secret (.claims (stamped claims now seconds))

variable {jwt} {secret expiresIn : String} {claims : Claims} {issued now : ℤ} {token : jwt.Token}

/-- Nobody reads anything else from a token than the claims that were signed. -/
theorem verify_of_issue (signed : jwt.issue secret expiresIn claims issued = some token)
    {other : String} {payload : Payload} (verified : jwt.verify other token now = some payload) :
    ∃ seconds, jwt.seconds expiresIn = some seconds ∧
      payload = .claims (stamped claims issued seconds) := by
  obtain ⟨seconds, lasts, rfl⟩ := Option.map_eq_some_iff.mp signed
  exact ⟨seconds, lasts, (jwt.payload_eq (jwt.verify_iff.mp verified).1).symm⟩

/-- Claims that say nothing of their end are verified until then. -/
theorem verify_issued (signed : jwt.issue secret expiresIn claims issued = some token)
    (endless : claims.lookup "exp" = none) {seconds : ℤ}
    (lasts : jwt.seconds expiresIn = some seconds) (intime : now < issued + seconds) :
    jwt.verify secret token now = some (.claims (stamped claims issued seconds)) := by
  obtain ⟨other, same, rfl⟩ := Option.map_eq_some_iff.mp signed
  obtain rfl := Option.some.inj (lasts.symm.trans same)
  refine jwt.verify_iff.mpr ⟨rfl, ?_⟩
  have expiry : (stamped claims issued seconds).lookup "exp" = some (.number (issued + seconds)) := by
    unfold stamped
    rw [List.lookup_append, endless]
    rfl
  simp only [Payload.unexpired, expiry, intime, decide_true]

/-- Tokens that name their secret, for lifetimes that are told. -/
def plain (seconds : String → Option ℤ) : Scheme where
  Token := String × Payload
  sign := Prod.mk
  seconds := seconds
  verify secret token now :=
    if token.1 = secret ∧ token.2.unexpired now = true then some token.2 else none
  payload_eq same := (Prod.mk.inj same).2
  verify_iff := by
    intro secret token now payload
    constructor
    · intro verified
      split at verified
      · next accepted =>
          obtain rfl := Option.some.inj verified
          exact ⟨Prod.ext accepted.1 rfl, accepted.2⟩
      · cases verified
    · rintro ⟨rfl, unexpired⟩
      simp [unexpired]

end Scheme

/-- Tokens as texts, whose payload anyone can read. -/
structure Format extends Scheme where
  /-- The token that a text is, if it is one. -/
  parse : String → Option Token
  decode : Token → Option Payload
  decode_sign : ∀ secret payload, decode (sign secret payload) = some payload

namespace Format

variable (jwt : Format)

/-- Verification where clocks may differ by some seconds. -/
def verifyWithin (tolerance : ℤ) (secret : String) (token : jwt.Token) (now : ℤ) : Option Payload :=
  (jwt.verify secret token (now - tolerance)).filter (Payload.begun (now + tolerance))

variable {jwt}

theorem verifyWithin_eq_some {tolerance : ℤ} {secret : String} {token : jwt.Token} {now : ℤ}
    {payload : Payload} : jwt.verifyWithin tolerance secret token now = some payload ↔
      token = jwt.sign secret payload ∧ payload.unexpired (now - tolerance) = true ∧
        payload.begun (now + tolerance) = true := by
  rw [verifyWithin, Option.filter_eq_some_iff, jwt.verify_iff, and_assoc]

end Format

end Jwt
