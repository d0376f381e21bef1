import SportsBetting.Numeral.Notation
import Mathlib.Data.List.Infix
import Mathlib.Data.Rat.Defs
import Mathlib.Algebra.Order.Ring.Rat

/-!
# Texts of a JavaScript runtime

String operations on lists of characters. What depends on the Unicode tables
or on the clock format is supplied by a `Runtime`, with the one law of letter
case that is used: a space separates the contexts of the letters around it.
-/

namespace Text

def includes (text part : String) : Bool := decide (part.toList <:+: text.toList)

theorem includes_iff {text part : String} :
    includes text part = true ↔ part.toList <:+: text.toList := decide_eq_true_iff

def startsWith (text start : String) : Bool := start.toList.isPrefixOf text.toList

/-- The white space and line terminators that `trim` removes. -/
def isSpace (symbol : Char) : Bool :=
  let code := symbol.toNat
  (0x9 ≤ code && code ≤ 0xD) || code == 0x20 || code == 0xA0 || code == 0x1680 ||
    (0x2000 ≤ code && code ≤ 0x200A) || code == 0x2028 || code == 0x2029 || code == 0x202F ||
    code == 0x205F || code == 0x3000 || code == 0xFEFF

def trimStart (text : List Char) : List Char := text.dropWhile isSpace

def trim (text : String) : String :=
  String.ofList (trimStart (trimStart text.toList).reverse).reverse

/-- `Number(text)` where it is finite. The empty text is zero. -/
def toNumber (text : String) : Option ℚ :=
  if trim text = "" then some 0
  else (Numeral.parse (trim text)).filter fun number => |number| < 2 ^ 1024 - 2 ^ 970

theorem not_isSpace_of_isDigit {symbol : Char} (digit : symbol.isDigit = true) :
    isSpace symbol = false := by
  have range : 48 ≤ symbol.toNat ∧ symbol.toNat ≤ 57 := by
    simpa [Char.isDigit, UInt32.le_iff_toNat_le] using digit
  simp only [isSpace, Bool.or_eq_false_iff, Bool.and_eq_false_iff, decide_eq_false_iff_not,
    beq_eq_false_iff_ne]
  omega

theorem trim_eq_self {text : String} (solid : ∀ symbol ∈ text.toList, isSpace symbol = false) :
    trim text = text := by
  have kept : ∀ symbols : List Char, (∀ symbol ∈ symbols, isSpace symbol = false) →
      trimStart symbols = symbols := by
    intro symbols each
    cases symbols with
    | nil => rfl
    | cons first rest => simp [trimStart, each first]
  have backwards : ∀ symbol ∈ text.toList.reverse, isSpace symbol = false := by
    simpa using solid
  rw [trim, kept _ solid, kept _ backwards, List.reverse_reverse, String.ofList_toList]

/-- A written literal has no white space. -/
theorem not_isSpace_of_mem_write {literal : Numeral.Literal} (proper : literal.Proper)
    {symbol : Char} (member : symbol ∈ literal.write) : isSpace symbol = false := by
  have digits : ∀ {text : List Char}, Numeral.AllDigits text → symbol ∈ text →
      isSpace symbol = false := fun all inside => not_isSpace_of_isDigit (all symbol inside)
  simp only [Numeral.Literal.write, List.mem_append] at member
  rcases member with sign | whole | fraction | exponent
  · cases negative : literal.negative <;> simp_all [Numeral.writeSign, isSpace]
  · exact digits proper.whole whole
  · unfold Numeral.writeFraction at fraction
    split at fraction
    · cases fraction
    · rcases List.mem_cons.mp fraction with rfl | inside
      · decide
      · exact digits proper.fraction inside
  · unfold Numeral.writeExponent at exponent
    split at exponent
    · cases exponent
    · simp only [List.mem_cons] at exponent
      rcases exponent with rfl | rfl | inside
      · decide
      · split <;> decide
      · exact digits (Numeral.allDigits_toDigits _) inside

/-- `Number` reads a written literal that is in range. -/
theorem toNumber_write {literal : Numeral.Literal} (proper : literal.Proper)
    (finite : |literal.value| < 2 ^ 1024 - 2 ^ 970) :
    toNumber (String.ofList literal.write) = some literal.value := by
  have solid : trim (String.ofList literal.write) = String.ofList literal.write :=
    trim_eq_self fun symbol member => not_isSpace_of_mem_write proper (by simpa using member)
  have read := Numeral.parse_write proper
  have nonempty : String.ofList literal.write ≠ "" := by
    intro empty
    rw [empty] at read
    cases read
  simp only [toNumber, solid, nonempty, read]
  simp [Option.filter, finite]

/-- `Number(null)` is zero too. -/
def nullableToNumber : Option String → Option ℚ
  | none => some 0
  | some text => toNumber text

/-- `Number.parseInt(text, 10)`: the longest run of digits after white space and a sign. -/
def parseInt (text : String) : Option ℤ :=
  let (negative, unsigned) := Numeral.readSign (trimStart text.toList)
  let digits := unsigned.takeWhile Char.isDigit
  if digits = [] then none
  else some (if negative then -(Numeral.digitsValue digits : ℤ) else Numeral.digitsValue digits)

/-- The text before the first occurrence of a separator. -/
def before (separator : Char) (text : String) : String :=
  String.ofList (text.toList.takeWhile (· ≠ separator))

theorem before_append {separator : Char} {head : String} (plain : separator ∉ head.toList)
    (tail : String) : before separator (head ++ String.singleton separator ++ tail) = head := by
  have other : ∀ symbol ∈ head.toList, decide (symbol ≠ separator) = true := by
    intro symbol member
    have differs : symbol ≠ separator := fun same => plain (same ▸ member)
    simpa using differs
  rw [before, String.toList_append, String.toList_append, List.append_assoc,
    List.takeWhile_append_of_pos other]
  simp

/-- ASCII letters in lower case, all other characters as they are. -/
def asciiLower (text : String) : String := String.ofList (text.toList.map Char.toLower)

structure Runtime where
  toLowerCase : String → String
  normalizeNFKD : String → String
  /-- Milliseconds since the epoch, where the text is a date. -/
  dateParse : String → Option ℤ
  toLowerCase_space : ∀ first second : String,
    toLowerCase (first ++ " " ++ second) = toLowerCase first ++ " " ++ toLowerCase second

/-- The runtime on ASCII texts and plain numbers of milliseconds. -/
def asciiRuntime : Runtime where
  toLowerCase := asciiLower
  normalizeNFKD := id
  dateParse := parseInt
  toLowerCase_space first second := by
    simp [asciiLower, ← String.toList_inj]

/-- ASCII texts are put into lower case letter by letter. -/
def Runtime.LowersAscii (runtime : Runtime) : Prop :=
  ∀ text : String, (∀ symbol ∈ text.toList, symbol.toNat < 128) →
    runtime.toLowerCase text = asciiLower text

theorem asciiRuntime_lowersAscii : asciiRuntime.LowersAscii := fun _ _ => rfl

/-- ASCII texts are their own compatibility decomposition. -/
def Runtime.KeepsAscii (runtime : Runtime) : Prop :=
  ∀ text : String, (∀ symbol ∈ text.toList, symbol.toNat < 128) →
    runtime.normalizeNFKD text = text

theorem asciiRuntime_keepsAscii : asciiRuntime.KeepsAscii := fun _ _ => rfl

/-- The part before a space is found in lower case. -/
theorem includes_toLowerCase (runtime : Runtime) (first second : String) :
    includes (runtime.toLowerCase (first ++ " " ++ second)) (runtime.toLowerCase first) = true := by
  rw [includes_iff, runtime.toLowerCase_space]
  simp only [String.toList_append, List.append_assoc]
  exact (List.prefix_append _ _).isInfix

end Text
