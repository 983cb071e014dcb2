/-!
# Decimal numerals of a bounded range

Whole numbers are read from left to right: at each character it is first asked whether it is a digit
and then whether the number still fits, so the leftmost trouble decides which fault is reported. A sign
stands before the digits; a lone sign is no numeral.
-/

set_option autoImplicit false

namespace SessionLayer.Text

/-- Why a text is not a numeral of the expected range. -/
inductive NumeralFault where
  | empty
  | invalidDigit
  | tooLarge
  | tooSmall
  | zero
  deriving DecidableEq, Repr

def NumeralFault.message : NumeralFault → String
  | empty => "cannot parse integer from empty string"
  | invalidDigit => "invalid digit found in string"
  | tooLarge => "number too large to fit in target type"
  | tooSmall => "number too small to fit in target type"
  | zero => "number would be zero for non-zero type"

def digitValue? (c : Char) : Option Nat :=
  if '0' ≤ c ∧ c ≤ '9' then some (c.toNat - '0'.toNat) else none

/-- Appends digits to a number, with the fault `beyond` as soon as it exceeds `limit`. -/
def readDigits (limit : Nat) (beyond : NumeralFault) : List Char → Nat → Except NumeralFault Nat
  | [], n => .ok n
  | c :: rest, n =>
    match digitValue? c with
    | none => .error .invalidDigit
    | some d =>
      if limit < 10 * n + d then .error beyond else readDigits limit beyond rest (10 * n + d)

/-- Reads a number from 0 to `limit`, with an optional plus sign. -/
def readUnsigned (limit : Nat) : List Char → Except NumeralFault Nat
  | [] => .error .empty
  | ['+'] => .error .invalidDigit
  | '+' :: digits => readDigits limit .tooLarge digits 0
  | digits => readDigits limit .tooLarge digits 0

/-- Reads a number from `-limit - 1` to `limit`, with an optional sign. -/
def readSigned (limit : Nat) : List Char → Except NumeralFault Int
  | [] => .error .empty
  | ['+'] | ['-'] => .error .invalidDigit
  | '+' :: digits => (readDigits limit .tooLarge digits 0).map Int.ofNat
  | '-' :: digits => (readDigits (limit + 1) .tooSmall digits 0).map fun n => -(n : Int)
  | digits => (readDigits limit .tooLarge digits 0).map Int.ofNat

/-- Reads a number from 1 to `limit`, with an optional plus sign. -/
def readPositive (limit : Nat) (text : List Char) : Except NumeralFault Nat :=
  match readUnsigned limit text with
  | .ok 0 => .error .zero
  | outcome => outcome

/-- The greatest number of 31 bits, the bound of signed numbers. -/
def maxSigned32 : Nat := 0x7fffffff

/-- The greatest number of 32 bits. -/
def maxUnsigned32 : Nat := 0xffffffff

/-- The greatest number of 64 bits. -/
def maxUnsigned64 : Nat := 0xffffffffffffffff

end SessionLayer.Text
