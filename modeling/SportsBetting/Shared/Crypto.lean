import Mathlib.Logic.Basic

/-!
# Secrets at rest

The ciphers and digests are parameters. What is relied on is that a password
hash verifies the password that it was made of and no other.
-/

namespace SportsBetting

structure Crypto where
  /-- Under a fresh initialization vector. -/
  encrypt : String → String → String
  sha256 : String → String
  /-- Under a fresh salt. -/
  hashPassword : String → String → String
  verify : String → String → Bool
  verify_hash : ∀ salt password candidate,
    verify (hashPassword salt password) candidate = true ↔ candidate = password

/-- Everything is its own digest. -/
def plainCrypto : Crypto where
  encrypt _ plaintext := plaintext
  sha256 token := token
  hashPassword _ password := password
  verify hash candidate := candidate = hash
  verify_hash _ _ _ := decide_eq_true_iff

end SportsBetting
