/-! # Decimal numerals
Natural numbers written in base ten: the canonical numeral, a numeral padded to a width, and reading. Reading
admits leading zeros; what the canonical numeral excludes is up to the format that uses it. -/
namespace Preflight.Text

def numeral (n : Nat) : List Char := Nat.toDigits 10 n

def padded (width n : Nat) : List Char :=
  List.replicate (width - (numeral n).length) '0' ++ numeral n

def numeralValue (s : List Char) : Nat := Nat.ofDigitChars 10 s 0

/-- Reads a non-empty run of ASCII digits. -/
def readNumeral? (s : List Char) : Option Nat :=
  if s ≠ [] ∧ s.all Char.isDigit then some (numeralValue s) else none

/-- Reads a non-empty run of ASCII digits whose value is below `bound`. -/
def readBelow? (bound : Nat) (s : List Char) : Option Nat := do
  let n ← readNumeral? s
  if n < bound then some n else none

/-- A numeral that is not written with needless zeros in front. -/
def isCanonical (s : List Char) : Bool := s.all Char.isDigit && (s = ['0'] || !s.isEmpty && s.head? != some '0')

theorem numeral_ne_nil (n : Nat) : numeral n ≠ [] := Nat.toDigits_ne_nil

theorem numeral_all_isDigit (n : Nat) : (numeral n).all Char.isDigit = true := by
  simp only [List.all_eq_true]
  exact fun c hc => Nat.isDigit_of_mem_toDigits (by decide) (by decide) hc

theorem numeralValue_numeral (n : Nat) : numeralValue (numeral n) = n :=
  Nat.ofDigitChars_toDigits (by decide) (by decide)

/-- Zeros in front do not count. -/
theorem numeralValue_zeros_append (zeros n : Nat) : numeralValue (List.replicate zeros '0' ++ numeral n) = n := by
  rw [numeralValue, Nat.ofDigitChars_append, Nat.ofDigitChars_replicate_zero, Nat.mul_zero]
  exact numeralValue_numeral n

theorem isDigit_of_mem_zeros_append {zeros n : Nat} {c : Char} (h : c ∈ List.replicate zeros '0' ++ numeral n) :
    c.isDigit = true := by
  rcases List.mem_append.1 h with hzero | hdigit
  · rw [List.eq_of_mem_replicate hzero]
    rfl
  · exact List.all_eq_true.1 (numeral_all_isDigit n) c hdigit

@[simp] theorem readNumeral?_numeral (n : Nat) : readNumeral? (numeral n) = some n := by
  simp [readNumeral?, numeral_ne_nil, numeral_all_isDigit, numeralValue_numeral]

end Preflight.Text
