import SessionLayer.Text.Hex
import SessionLayer.Text.Split
import SessionLayer.Toml.Moment
import SessionLayer.Toml.Value

/-!
# Numbers, truth values and moments

Values without quotes and brackets are cut out as a whole and then recognised by how they start. That a
value is an integer is decided before its digits are read as a number: an integer with characters that
are no digits keeps its place in the document but stands for no number. Floating-point numbers and
moments are checked for their form only.
-/

set_option autoImplicit false

namespace SessionLayer.Toml

/-- Whether `c` is a digit of a base of at most sixteen. -/
def isDigitOf (base : Nat) (c : Char) : Bool :=
  (Text.hexValue? c).any (· < base)

/-- A text without its underscores. -/
def dropUnderscores (text : List Char) : List Char :=
  text.filter (· != '_')

/-- Whether every underscore stands between two digits. -/
def underscoresFit (isDigit : Char → Bool) (text : List Char) : Bool :=
  match Text.splitAt '_' text with
  | [_] => true
  | pieces =>
    (pieces.all fun piece => piece.head?.any isDigit)
      && pieces.dropLast.all fun piece => piece.getLast?.any isDigit

/-- The number that digits of a base stand for. -/
def digitsIn? (base : Nat) (digits : List Char) : Option Nat :=
  digits.foldlM (fun n c =>
    match Text.hexValue? c with
    | some d => if d < base then some (base * n + d) else none
    | none => none) 0

/-- The number of an integer in a base, `none` where it has no digits or other characters as well. -/
def numberIn? (base : Nat) (text : List Char) : Option Nat :=
  match dropUnderscores text with
  | [] => none
  | digits => digitsIn? base digits

/-- A text after an optional sign, and whether the sign is a minus. -/
def cutSign : List Char → Bool × List Char
  | '+' :: rest => (false, rest)
  | '-' :: rest => (true, rest)
  | text => (false, text)

/-- Whether decimal digits start with a zero that is not their only one. -/
def hasLeadingZero : List Char → Bool
  | '0' :: _ :: _ => true
  | _ => false

/-- The base that a letter after a zero announces. -/
def base? : Char → Option Nat
  | 'x' => some 16
  | 'o' => some 8
  | 'b' => some 2
  | _ => none

/-- An integer in a base that was announced, where digits may be missing. -/
def radixInteger? (base : Nat) (digits : List Char) : Option Value :=
  if (dropUnderscores digits).all (isDigitOf base) ∧ underscoresFit (isDigitOf 16) digits then
    some (.integer ((numberIn? base digits).map Int.ofNat))
  else none

def decimalInteger? (negative : Bool) (digits : List Char) : Option Value :=
  if digits.isEmpty ∨ hasLeadingZero digits ∨ ¬ underscoresFit (isDigitOf 16) digits then none
  else some (.integer ((numberIn? 10 digits).map fun n => if negative then -(n : Int) else n))

/-- What follows at least one decimal digit. -/
def skipDigits (text : List Char) : Option (List Char) :=
  if text.head?.any Char.isDigit then some (text.dropWhile Char.isDigit) else none

/-- What follows the decimal fraction that may stand at the start of a text. -/
def skipDecimals : List Char → Option (List Char)
  | '.' :: rest => skipDigits rest
  | text => some text

/-- What follows the exponent that may stand at the start of a text. -/
def skipExponent : List Char → Option (List Char)
  | 'e' :: rest | 'E' :: rest => skipDigits (cutSign rest).2
  | text => some text

/-- Whether a text is a floating-point number after its sign. -/
def isFloat (text : List Char) : Bool :=
  let plain := dropUnderscores text
  underscoresFit Char.isDigit text && !hasLeadingZero (plain.takeWhile Char.isDigit)
    && (((skipDigits plain).bind skipDecimals).bind skipExponent) == some []

/-- The value of a text that is no word and announces no base. -/
def numberOrMoment? (text : List Char) : Option Value :=
  let (negative, body) := cutSign text
  match body.dropWhile Char.isDigit with
  | [] => decimalInteger? negative body
  | mark :: rest =>
    if mark = '-' ∨ mark = ':' then if isMoment text then some .moment else none
    else if (mark :: rest).any fun c => c == '.' || c == 'e' || c == 'E' then
      if isFloat body then some .float else none
    else if mark = '_' then decimalInteger? negative body
    else none

/-- The value that is written without quotes and brackets. -/
def scalarValue? (text : List Char) : Option Value :=
  if text = "true".toList then some (.boolean true)
  else if text = "false".toList then some (.boolean false)
  else if ["inf".toList, "nan".toList].contains (cutSign text).2 then some .float
  else
    match text with
    | '0' :: letter :: digits =>
      match base? letter with
      | some base => radixInteger? base digits
      | none => numberOrMoment? text
    | _ => numberOrMoment? text

/-- The characters that end a value without quotes and brackets. -/
def scalarEnds : List Char :=
  ['=', ',', '[', ']', '\x7b', '\x7d', ' ', '\t', '#', '\r', '\n']

/-- Whether `c` may be part of a value without quotes and brackets. -/
def isScalarChar (c : Char) : Bool :=
  !scalarEnds.contains c

/-- The characters of such a value, and what follows it; a blank may stand between a date and a time. -/
def cutScalar (text : List Char) : List Char × List Char :=
  let first := text.takeWhile isScalarChar
  match text.dropWhile isScalarChar with
  | ' ' :: c :: rest =>
    if isDate first && c.isDigit then
      (first ++ ' ' :: (c :: rest).takeWhile isScalarChar, (c :: rest).dropWhile isScalarChar)
    else (first, ' ' :: c :: rest)
  | rest => (first, rest)

/-- Reads a value without quotes and brackets. -/
def readScalar (text : List Char) : Option (Value × List Char) :=
  let (token, rest) := cutScalar text
  (scalarValue? token).map (·, rest)

end SessionLayer.Toml
