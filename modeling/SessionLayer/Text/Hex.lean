/-!
# Hexadecimal digits

Digits in base sixteen: the digits of a number in either case, the value of a digit, and the digits at
the start of a text.
-/

set_option autoImplicit false

namespace SessionLayer.Text

/-- The digits of `n` in base sixteen, in lower case. -/
def hexDigits (n : Nat) : List Char :=
  Nat.toDigits 16 n

/-- The hexadecimal digit in upper case of a number below sixteen. -/
def upperHexDigit (n : Nat) : Char :=
  if n < 10 then Char.ofNat ('0'.toNat + n) else Char.ofNat ('A'.toNat + (n - 10))

/-- The value of a hexadecimal digit in either case. -/
def hexValue? (c : Char) : Option Nat :=
  if '0' ≤ c ∧ c ≤ '9' then some (c.toNat - '0'.toNat)
  else if 'a' ≤ c ∧ c ≤ 'f' then some (c.toNat - 'a'.toNat + 10)
  else if 'A' ≤ c ∧ c ≤ 'F' then some (c.toNat - 'A'.toNat + 10)
  else none

/-- The digits at the start of a text, at most `limit` of them, and what follows them. -/
def hexRun : (limit : Nat) → List Char → List Nat × List Char
  | 0, text => ([], text)
  | _ + 1, [] => ([], [])
  | limit + 1, c :: rest =>
    match hexValue? c with
    | none => ([], c :: rest)
    | some d => (d :: (hexRun limit rest).1, (hexRun limit rest).2)

/-- The number that digits in base sixteen stand for. -/
def hexNumber (digits : List Nat) : Nat :=
  digits.foldl (fun n d => 16 * n + d) 0

end SessionLayer.Text
