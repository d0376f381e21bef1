import Mathlib.Algebra.Order.Ring.Nat
import Mathlib.Data.List.TakeWhile

/-!
# Bytes as texts

Three bytes are four digits of base 64, and what is left over is padded. The decoder takes
the digits of both alphabets, up to the padding, and skips all else. The bytes of a text are
its UTF-8 encoding; reading one back, a replacement character stands for what is none.
-/

abbrev Bytes := List UInt8

namespace Bytes

namespace Base64

section Digits

def digits : Bytes → List ℕ
  | first :: second :: third :: rest =>
      let group := first.toNat * 65536 + second.toNat * 256 + third.toNat
      group / 262144 :: group / 4096 % 64 :: group / 64 % 64 :: group % 64 :: digits rest
  | [first, second] =>
      let group := first.toNat * 1024 + second.toNat * 4
      [group / 4096, group / 64 % 64, group % 64]
  | [first] => [first.toNat * 16 / 64, first.toNat * 16 % 64]
  | [] => []

/-- A digit that is left alone is dropped. -/
def ofDigits : List ℕ → Bytes
  | first :: second :: third :: fourth :: rest =>
      let group := first * 262144 + second * 4096 + third * 64 + fourth
      .ofNat (group / 65536) :: .ofNat (group / 256 % 256) :: .ofNat (group % 256) :: ofDigits rest
  | [first, second, third] =>
      let group := first * 4096 + second * 64 + third
      [.ofNat (group / 1024), .ofNat (group / 4 % 256)]
  | [first, second] => [.ofNat ((first * 64 + second) / 16)]
  | _ => []

theorem digits_lt (bytes : Bytes) : ∀ digit ∈ digits bytes, digit < 64 := by
  induction bytes using digits.induct with
  | case1 first second third rest ih =>
      have := first.toNat_lt
      have := second.toNat_lt
      have := third.toNat_lt
      intro digit member
      simp only [digits, List.mem_cons] at member
      rcases member with rfl | rfl | rfl | rfl | later
      · omega
      · omega
      · omega
      · omega
      · exact ih digit later
  | case2 first second =>
      have := first.toNat_lt
      have := second.toNat_lt
      simp only [digits, List.forall_mem_cons, List.not_mem_nil, false_implies, implies_true,
        and_true]
      omega
  | case3 first =>
      have := first.toNat_lt
      simp only [digits, List.forall_mem_cons, List.not_mem_nil, false_implies, implies_true,
        and_true]
      omega
  | case4 => exact fun _ never => absurd never List.not_mem_nil

theorem ofNat_eq_of_toNat {byte : UInt8} {number : ℕ} (same : number = byte.toNat) :
    UInt8.ofNat number = byte := by
  rw [same, UInt8.ofNat_toNat]

@[simp] theorem ofDigits_digits (bytes : Bytes) : ofDigits (digits bytes) = bytes := by
  induction bytes using digits.induct with
  | case1 first second third rest ih =>
      have := first.toNat_lt
      have := second.toNat_lt
      have := third.toNat_lt
      simp only [digits, ofDigits, ih, List.cons.injEq, and_true]
      refine ⟨?_, ?_, ?_⟩
      · exact ofNat_eq_of_toNat (by omega)
      · exact ofNat_eq_of_toNat (by omega)
      · exact ofNat_eq_of_toNat (by omega)
  | case2 first second =>
      have := first.toNat_lt
      have := second.toNat_lt
      simp only [digits, ofDigits, List.cons.injEq, and_true]
      refine ⟨?_, ?_⟩
      · exact ofNat_eq_of_toNat (by omega)
      · exact ofNat_eq_of_toNat (by omega)
  | case3 first =>
      have := first.toNat_lt
      simp only [digits, ofDigits, List.cons.injEq, and_true]
      exact ofNat_eq_of_toNat (by omega)
  | case4 => rfl

end Digits

section Symbols

def symbol (digit : ℕ) : Char :=
  if digit < 26 then .ofNat (65 + digit)
  else if digit < 52 then .ofNat (71 + digit)
  else if digit < 62 then .ofNat (digit - 4)
  else if digit = 62 then '+'
  else '/'

def digit? (symbol : Char) : Option ℕ :=
  if 'A' ≤ symbol ∧ symbol ≤ 'Z' then some (symbol.toNat - 65)
  else if 'a' ≤ symbol ∧ symbol ≤ 'z' then some (symbol.toNat - 71)
  else if '0' ≤ symbol ∧ symbol ≤ '9' then some (symbol.toNat + 4)
  else if symbol = '+' ∨ symbol = '-' then some 62
  else if symbol = '/' ∨ symbol = '_' then some 63
  else none

theorem digit?_symbol : ∀ digit < 64, digit? (symbol digit) = some digit ∧ symbol digit ≠ '=' := by
  decide

def padding (length : ℕ) : List Char := List.replicate ((3 - length % 3) % 3) '='

def encode (bytes : Bytes) : String :=
  String.ofList ((digits bytes).map symbol ++ padding bytes.length)

def decode (text : String) : Bytes :=
  ofDigits ((text.toList.takeWhile (· ≠ '=')).filterMap digit?)

theorem takeWhile_symbols {figures : List ℕ} (small : ∀ digit ∈ figures, digit < 64) (count : ℕ) :
    (figures.map symbol ++ List.replicate count '=').takeWhile (· ≠ '=') = figures.map symbol := by
  rw [List.takeWhile_append_of_pos]
  · cases count with
    | zero => simp
    | succ count => simp [List.replicate_succ]
  · intro character member
    obtain ⟨digit, figure, rfl⟩ := List.mem_map.mp member
    exact decide_eq_true (digit?_symbol digit (small digit figure)).2

theorem filterMap_symbols {figures : List ℕ} (small : ∀ digit ∈ figures, digit < 64) :
    (figures.map symbol).filterMap digit? = figures := by
  rw [List.filterMap_map]
  induction figures with
  | nil => rfl
  | cons digit figures ih =>
      have known : digit? (symbol digit) = some digit := (digit?_symbol digit (small digit (by simp))).1
      rw [List.filterMap_cons, Function.comp_apply, known]
      exact congrArg _ (ih fun later figure => small later (List.mem_cons_of_mem _ figure))

@[simp] theorem decode_encode (bytes : Bytes) : decode (encode bytes) = bytes := by
  have small := digits_lt bytes
  unfold decode encode padding
  rw [String.toList_ofList, takeWhile_symbols small, filterMap_symbols small, ofDigits_digits]

end Symbols

end Base64

section Utf8

def ofText (text : String) : Bytes := text.toUTF8.data.toList

/-- The ranges of the bytes that follow a byte in a character. -/
def following (lead : UInt8) : Option (List (UInt8 × UInt8)) :=
  if lead ≤ 0x7F then some []
  else if lead < 0xC2 then none
  else if lead ≤ 0xDF then some [(0x80, 0xBF)]
  else if lead = 0xE0 then some [(0xA0, 0xBF), (0x80, 0xBF)]
  else if lead = 0xED then some [(0x80, 0x9F), (0x80, 0xBF)]
  else if lead ≤ 0xEF then some [(0x80, 0xBF), (0x80, 0xBF)]
  else if lead = 0xF0 then some [(0x90, 0xBF), (0x80, 0xBF), (0x80, 0xBF)]
  else if lead ≤ 0xF3 then some [(0x80, 0xBF), (0x80, 0xBF), (0x80, 0xBF)]
  else if lead = 0xF4 then some [(0x80, 0x8F), (0x80, 0xBF), (0x80, 0xBF)]
  else none

/-- How many bytes lie in their ranges. -/
def inRange : List (UInt8 × UInt8) → Bytes → ℕ
  | (low, high) :: ranges, byte :: rest =>
      if low ≤ byte ∧ byte ≤ high then inRange ranges rest + 1 else 0
  | _, _ => 0

def character (lead : UInt8) (trail : Bytes) : Char :=
  let bits := if trail = [] then lead.toNat else lead.toNat % 2 ^ (6 - trail.length)
  .ofNat (trail.foldl (fun number byte => number * 64 + byte.toNat % 64) bits)

/-- The characters of at most this many, with a replacement for each part that is none. -/
def characters : ℕ → Bytes → List Char
  | 0, _ => []
  | _, [] => []
  | count + 1, lead :: rest =>
      match following lead with
      | none => '\uFFFD' :: characters count rest
      | some ranges =>
          let long := inRange ranges rest
          if long = ranges.length then
            character lead (rest.take long) :: characters count (rest.drop long)
          else '\uFFFD' :: characters count (rest.drop long)

def toText (bytes : Bytes) : String :=
  (String.fromUTF8? ⟨bytes.toArray⟩).getD (String.ofList (characters bytes.length bytes))

@[simp] theorem toText_ofText (text : String) : toText (ofText text) = text := by
  have bytes : (⟨(ofText text).toArray⟩ : ByteArray) = text.toByteArray := rfl
  unfold toText
  rw [bytes, String.fromUTF8?, dif_pos text.isValidUTF8]
  rfl

/-- A stray byte in front of a letter of two. -/
example : toText [0x61, 0x80, 0xC3, 0xA9] = "a\uFFFDé" := by decide +kernel

end Utf8

end Bytes
