import Mathlib.Algebra.Field.Rat
import Mathlib.Tactic.Ring

/-!
# Decimal notation

A literal is a sign, the digits before and after the point, and an exponent.
`parse` reads every form that `write` produces, with the exact rational value,
so two literals with one text denote one number.
-/

namespace Numeral

def digitsValue (digits : List Char) : ℕ := Nat.ofDigitChars 10 digits 0

theorem digitsValue_append (first second : List Char) :
    digitsValue (first ++ second) = digitsValue first * 10 ^ second.length + digitsValue second := by
  unfold digitsValue
  rw [Nat.ofDigitChars_append, Nat.ofDigitChars_eq_ofDigitChars_zero]
  ring

@[simp] theorem digitsValue_toDigits (n : ℕ) : digitsValue (Nat.toDigits 10 n) = n :=
  Nat.ofDigitChars_ten_toDigits

@[simp] theorem digitsValue_zero : digitsValue ['0'] = 0 := rfl

@[simp] theorem digitsValue_zeros (count : ℕ) : digitsValue (List.replicate count '0') = 0 := by
  simp [digitsValue]

def AllDigits (text : List Char) : Prop := ∀ symbol ∈ text, symbol.isDigit = true

instance (text : List Char) : Decidable (AllDigits text) :=
  List.decidableBAll (fun symbol : Char => symbol.isDigit = true) text

theorem allDigits_toDigits (n : ℕ) : AllDigits (Nat.toDigits 10 n) := fun _ member =>
  Nat.isDigit_of_mem_toDigits (by decide) (by decide) member

theorem allDigits_zeros (count : ℕ) : AllDigits (List.replicate count '0') := by
  intro symbol member
  obtain rfl := List.eq_of_mem_replicate member
  decide

theorem AllDigits.append {first second : List Char} (hfirst : AllDigits first)
    (hsecond : AllDigits second) : AllDigits (first ++ second) := by
  intro symbol member
  rcases List.mem_append.mp member with left | right
  · exact hfirst symbol left
  · exact hsecond symbol right

theorem AllDigits.take {text : List Char} (all : AllDigits text) (count : ℕ) :
    AllDigits (text.take count) := fun symbol member => all symbol (List.mem_of_mem_take member)

theorem AllDigits.drop {text : List Char} (all : AllDigits text) (count : ℕ) :
    AllDigits (text.drop count) := fun symbol member => all symbol (List.mem_of_mem_drop member)

structure Literal where
  negative : Bool
  whole : List Char
  fraction : List Char
  exponent : ℤ

def Literal.value (literal : Literal) : ℚ :=
  (if literal.negative then -1 else 1) * digitsValue (literal.whole ++ literal.fraction) *
    10 ^ (literal.exponent - literal.fraction.length)

/-- The literals with a digit before the point and digits only. -/
structure Literal.Proper (literal : Literal) : Prop where
  some_whole : literal.whole ≠ []
  whole : AllDigits literal.whole
  fraction : AllDigits literal.fraction

section Reading

def readSign : List Char → Bool × List Char
  | '-' :: rest => (true, rest)
  | '+' :: rest => (false, rest)
  | rest => (false, rest)

def readExponent : List Char → Option ℤ
  | [] => some 0
  | mark :: rest =>
      let (negative, digits) := readSign rest
      if (mark = 'e' ∨ mark = 'E') ∧ digits ≠ [] ∧ AllDigits digits then
        some (if negative then -(digitsValue digits : ℤ) else digitsValue digits)
      else none

/-- The digits after the point, and what follows them. -/
def readFraction : List Char → List Char × List Char
  | '.' :: rest => (rest.takeWhile Char.isDigit, rest.dropWhile Char.isDigit)
  | rest => ([], rest)

/-- An optionally signed decimal literal, as in `-12.5`, `.5` or `1e+21`. -/
def readLiteral (text : List Char) : Option Literal :=
  let (negative, unsigned) := readSign text
  let whole := unsigned.takeWhile Char.isDigit
  let (fraction, rest) := readFraction (unsigned.dropWhile Char.isDigit)
  if whole = [] ∧ fraction = [] then none
  else (readExponent rest).map fun exponent => ⟨negative, whole, fraction, exponent⟩

def parse (text : String) : Option ℚ := (readLiteral text.toList).map Literal.value

end Reading

section Writing

def writeSign (negative : Bool) : List Char := if negative then ['-'] else []

def writeFraction (fraction : List Char) : List Char :=
  if fraction = [] then [] else '.' :: fraction

def writeExponent (exponent : ℤ) : List Char :=
  if exponent = 0 then []
  else 'e' :: (if exponent < 0 then '-' else '+') :: Nat.toDigits 10 exponent.natAbs

def Literal.write (literal : Literal) : List Char :=
  writeSign literal.negative ++ (literal.whole ++
    (writeFraction literal.fraction ++ writeExponent literal.exponent))

end Writing

theorem not_isDigit_writeExponent (exponent : ℤ) :
    (writeExponent exponent).takeWhile Char.isDigit = [] ∧
      (writeExponent exponent).dropWhile Char.isDigit = writeExponent exponent := by
  unfold writeExponent
  split <;> simp

theorem readSign_of_isDigit {head : Char} (digit : head.isDigit = true) (rest : List Char) :
    readSign (head :: rest) = (false, head :: rest) := by
  have minus : head ≠ '-' := by rintro rfl; simp at digit
  have plus : head ≠ '+' := by rintro rfl; simp at digit
  simp [readSign, minus, plus]

theorem readSign_digits {digits : List Char} (all : AllDigits digits) (rest : List Char)
    (some_digit : digits ≠ []) : readSign (digits ++ rest) = (false, digits ++ rest) := by
  cases digits with
  | nil => exact absurd rfl some_digit
  | cons head tail => exact readSign_of_isDigit (all head List.mem_cons_self) (tail ++ rest)

theorem readSign_write (negative : Bool) {digits : List Char} (all : AllDigits digits)
    (rest : List Char) (some_digit : digits ≠ []) :
    readSign (writeSign negative ++ (digits ++ rest)) = (negative, digits ++ rest) := by
  cases negative with
  | true => rfl
  | false => exact readSign_digits all rest some_digit

theorem readExponent_write (exponent : ℤ) : readExponent (writeExponent exponent) = some exponent := by
  unfold writeExponent
  split
  · next zero => simp [readExponent, zero]
  · have digits : AllDigits (Nat.toDigits 10 exponent.natAbs) := allDigits_toDigits _
    have nonempty : Nat.toDigits 10 exponent.natAbs ≠ [] := Nat.toDigits_ne_nil
    by_cases negative : exponent < 0
    · simp only [readExponent, negative, if_true, readSign, Char.isValue, Char.reduceEq, or_false,
        nonempty, ne_eq, not_false_eq_true, digits, and_self, digitsValue_toDigits]
      rw [Option.some.injEq]
      omega
    · simp only [readExponent, negative, if_false, readSign, Char.isValue, Char.reduceEq, or_false,
        nonempty, ne_eq, not_false_eq_true, digits, and_self, if_true, Bool.false_eq_true,
        digitsValue_toDigits]
      rw [Option.some.injEq]
      omega

theorem readFraction_write {fraction : List Char} (all : AllDigits fraction) (exponent : ℤ) :
    readFraction (writeFraction fraction ++ writeExponent exponent) =
      (fraction, writeExponent exponent) := by
  obtain ⟨no_digit, unchanged⟩ := not_isDigit_writeExponent exponent
  unfold writeFraction
  split
  · next empty =>
      subst empty
      unfold writeExponent
      split <;> simp [readFraction]
  · simp only [List.cons_append, readFraction]
    rw [List.takeWhile_append_of_pos all, List.dropWhile_append_of_pos all, no_digit, unchanged]
    simp

theorem not_isDigit_writeFraction (fraction : List Char) (exponent : ℤ) :
    (writeFraction fraction ++ writeExponent exponent).takeWhile Char.isDigit = [] ∧
      (writeFraction fraction ++ writeExponent exponent).dropWhile Char.isDigit =
        writeFraction fraction ++ writeExponent exponent := by
  unfold writeFraction
  split
  · simpa using not_isDigit_writeExponent exponent
  · simp

theorem readLiteral_write {literal : Literal} (proper : literal.Proper) :
    readLiteral literal.write = some literal := by
  obtain ⟨no_digit, unchanged⟩ := not_isDigit_writeFraction literal.fraction literal.exponent
  unfold readLiteral Literal.write
  rw [readSign_write literal.negative proper.whole _ proper.some_whole]
  simp only [List.takeWhile_append_of_pos proper.whole, List.dropWhile_append_of_pos proper.whole,
    no_digit, unchanged, readFraction_write proper.fraction, readExponent_write]
  simp [proper.some_whole]

theorem parse_write {literal : Literal} (proper : literal.Proper) :
    parse (String.ofList literal.write) = some literal.value := by
  simp [parse, readLiteral_write proper]

end Numeral
