import SessionLayer.Regex

/-!
# Patterns for field values

The value of a field in a log filter is a truth value, a number, or a regular expression. Here it is
only decided whether a text is one of these; a truth value is an expression as well.
-/

set_option autoImplicit false

namespace SessionLayer.LogFilter

/-- Whether a text is a number with an optional fraction and an optional exponent. -/
def isDecimal (text : List Char) : Bool :=
  let body := match text with
    | '+' :: rest | '-' :: rest => rest
    | _ => text
  if ["inf", "infinity", "nan"].contains (String.ofList (body.map Char.toLower)) then true
  else
    let whole := body.takeWhile Char.isDigit
    let (fraction, rest) := match body.dropWhile Char.isDigit with
      | '.' :: rest => (rest.takeWhile Char.isDigit, rest.dropWhile Char.isDigit)
      | rest => ([], rest)
    let exponentFits := match rest with
      | [] => true
      | mark :: exponent =>
        let digits := match exponent with
          | '+' :: rest | '-' :: rest => rest
          | _ => exponent
        (mark == 'e' || mark == 'E') && !digits.isEmpty && digits.all Char.isDigit
    !(whole.isEmpty && fraction.isEmpty) && exponentFits

def isFieldValue (text : List Char) : Bool :=
  isDecimal text || (Regex.parse? text).any Regex.isSupported

end SessionLayer.LogFilter
