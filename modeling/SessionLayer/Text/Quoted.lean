import SessionLayer.Text.Hex
import SessionLayer.Text.Unprintable
import SessionLayer.Text.Extending

/-!
# Quoted text for diagnostics

A text is shown between double quotes on one line of visible characters: quotes and backslashes are
escaped, the common control characters have letters, and every other character that would not be seen
as such is written by its code point.
-/

set_option autoImplicit false

namespace SessionLayer.Text

/-- The quote at both ends. -/
def quoteMark : Char := '\x22'

/-- The character that starts an escape. -/
def escapeMark : Char := '\x5c'

/-- The letter that stands for a character after the escape mark, where there is one. -/
def escapeLetter? (c : Char) : Option Char :=
  match c.toNat with
  | 0x00 => some '0'
  | 0x09 => some 't'
  | 0x0A => some 'n'
  | 0x0D => some 'r'
  | 0x22 => some quoteMark
  | 0x5C => some escapeMark
  | _ => none

/-- A character as it is written inside of a quoted text. -/
def quoteChar (c : Char) : List Char :=
  match escapeLetter? c with
  | some letter => [escapeMark, letter]
  | none =>
    if isUnprintable c || isExtending c then
      [escapeMark, 'u', '\x7b'] ++ hexDigits c.toNat ++ ['\x7d']
    else [c]

/-- The quoted form of a text. -/
def quoted (text : String) : String :=
  String.ofList (quoteMark :: (text.toList.flatMap quoteChar ++ [quoteMark]))

end SessionLayer.Text
