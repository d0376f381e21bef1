import SportsBetting.Data.Base64
import SportsBetting.Data.Text
import SportsBetting.Schema
import SportsBetting.Shared.Crypto

/-!
# The envelope of a secret

A secret at rest is a version prefix and the base64 of its vector, its tag and its
ciphertext. The cipher is a parameter: what it opens is what it has sealed under the key.
-/

namespace SportsBetting

/-- Vectors have 12 bytes, and tags have 16. -/
structure Aead where
  /-- The ciphertext and the tag, from the key, the vector and the plaintext. -/
  encipher : Bytes → Bytes → Bytes → Bytes × Bytes
  /-- From the key, the vector, the tag and the ciphertext. -/
  decipher : Bytes → Bytes → Bytes → Bytes → Option Bytes
  tag_length : ∀ key iv plaintext, (encipher key iv plaintext).2.length = 16
  decipher_iff : ∀ {key iv tag ciphertext plaintext}, iv.length = 12 → tag.length = 16 →
    (decipher key iv tag ciphertext = some plaintext ↔ encipher key iv plaintext = (ciphertext, tag))

structure CryptoService where
  aead : Aead
  key : Bytes

namespace CryptoService

open Bytes

def IV_LENGTH : ℕ := 12

def PREFIX : String := "enc:v1:"

variable (service : CryptoService)

def envelope (iv tag encrypted : Bytes) : String :=
  PREFIX ++ Base64.encode (iv ++ tag ++ encrypted)

/-- Under a vector that is drawn for it. -/
def encrypt (iv : Bytes) (plaintext : String) : String :=
  let (encrypted, tag) := service.aead.encipher service.key iv (ofText plaintext)
  envelope iv tag encrypted

/-- The bytes behind the prefix. -/
def rawOf (value : String) : Bytes :=
  Base64.decode (String.ofList (value.toList.drop PREFIX.length))

def decrypt (value : String) : Except Failure String :=
  if Text.startsWith value PREFIX then
    let raw := rawOf value
    let iv := raw.take IV_LENGTH
    let tag := (raw.drop IV_LENGTH).take 16
    let encrypted := raw.drop (IV_LENGTH + 16)
    match service.aead.decipher service.key iv tag encrypted with
    | some plaintext => .ok (toText plaintext)
    | none => .error (.error "Unsupported state or unable to authenticate data")
  else .error (.error "Value is not encrypted with the expected scheme")

def isEncrypted (value : String) : Bool := Text.startsWith value PREFIX

/-- The service, for the vectors that are given in base64. -/
def crypto (base : Crypto) : Crypto :=
  { base with encrypt := fun vector => service.encrypt (Base64.decode vector) }

section Envelope

variable {service} {iv tag encrypted : Bytes}

@[simp] theorem startsWith_envelope : Text.startsWith (envelope iv tag encrypted) PREFIX = true := by
  simp [Text.startsWith, envelope, String.toList_append]

@[simp] theorem rawOf_envelope : rawOf (envelope iv tag encrypted) = iv ++ tag ++ encrypted := by
  have dropped : (envelope iv tag encrypted).toList.drop PREFIX.length =
      (Base64.encode (iv ++ tag ++ encrypted)).toList := by
    rw [envelope, String.toList_append, ← String.length_toList, List.drop_left]
  rw [rawOf, dropped, String.ofList_toList, Base64.decode_encode]

theorem encrypt_isEncrypted (plaintext : String) :
    isEncrypted (service.encrypt iv plaintext) = true := startsWith_envelope

theorem decrypt_encrypt (drawn : iv.length = IV_LENGTH) (plaintext : String) :
    service.decrypt (service.encrypt iv plaintext) = .ok plaintext := by
  have long := service.aead.tag_length service.key iv (ofText plaintext)
  cases sealed : service.aead.encipher service.key iv (ofText plaintext) with
  | mk encrypted tag =>
      rw [sealed] at long
      have opened : service.aead.decipher service.key iv tag encrypted = some (ofText plaintext) :=
        (service.aead.decipher_iff drawn long).mpr sealed
      have written : service.encrypt iv plaintext = envelope iv tag encrypted := by
        rw [encrypt, sealed]
      have vector : (iv ++ tag ++ encrypted).take IV_LENGTH = iv := by
        rw [List.append_assoc, ← drawn, List.take_left]
      have stamp : ((iv ++ tag ++ encrypted).drop IV_LENGTH).take 16 = tag := by
        rw [List.append_assoc, ← drawn, List.drop_left, ← long, List.take_left]
      have cipher : (iv ++ tag ++ encrypted).drop (IV_LENGTH + 16) = encrypted := by
        rw [← drawn, ← long, ← List.length_append, List.drop_left]
      rw [decrypt, written, if_pos startsWith_envelope, rawOf_envelope]
      simp only [vector, stamp, cipher, opened, toText_ofText]

/-- A value with a full tag is decrypted only if its bytes were sealed under the key. -/
theorem decrypt_ok {value plaintext : String} (whole : IV_LENGTH + 16 ≤ (rawOf value).length)
    (decrypted : service.decrypt value = .ok plaintext) :
    isEncrypted value = true ∧ ∃ iv tag encrypted bytes, rawOf value = iv ++ tag ++ encrypted ∧
      service.aead.encipher service.key iv bytes = (encrypted, tag) ∧ plaintext = toText bytes := by
  unfold decrypt at decrypted
  split at decrypted
  · next marked =>
      dsimp only at decrypted
      split at decrypted
      · next bytes opened =>
          refine ⟨marked, (rawOf value).take IV_LENGTH, ((rawOf value).drop IV_LENGTH).take 16,
            (rawOf value).drop (IV_LENGTH + 16), bytes, ?_, ?_, (Except.ok.inj decrypted).symm⟩
          · rw [List.append_assoc, ← List.drop_drop, List.take_append_drop, List.take_append_drop]
          · have vector : IV_LENGTH = 12 := rfl
            refine (service.aead.decipher_iff ?_ ?_).mp opened
            · rw [List.length_take]
              omega
            · rw [List.length_take, List.length_drop]
              omega
      · cases decrypted
  · cases decrypted

end Envelope

end CryptoService

end SportsBetting
