import SessionLayer.Text.Quoted

/-!
# Quoted texts of TOML documents

A text stands between double quotes, where a backslash starts an escape, or between single quotes,
where every character stands for itself. Three quotes in a row open a text that may span lines; a line
break right after them does not count, and up to two more quotes may stand before the three that close.
-/

set_option autoImplicit false

namespace SessionLayer.Toml

/-- The quote of texts without escapes. -/
def plainQuote : Char := '\x27'

/-- Whether `c` may stand in a quoted text or a comment, apart from what quotes, escapes and line breaks
mean there. -/
def isTextChar (c : Char) : Bool :=
  c == '\t' || (0x20 ≤ c.toNat && c.toNat != 0x7F)

/-- Whether `c` is a blank within a line. -/
def isSpace (c : Char) : Bool :=
  c == ' ' || c == '\t'

/-- What follows a line break at the start of a text. -/
def skipBreak : List Char → Option (List Char)
  | '\n' :: rest | '\r' :: '\n' :: rest => some rest
  | _ => none

/-- What follows the blanks at the start of a text. -/
def skipSpaces (text : List Char) : List Char :=
  text.dropWhile isSpace

/-- What follows blanks and line breaks at the start of a text. -/
def skipBlankLines : List Char → List Char
  | '\r' :: '\n' :: rest => skipBlankLines rest
  | c :: rest => if isSpace c || c == '\n' then skipBlankLines rest else c :: rest
  | [] => []

/-- The character of a code point, if there is one. -/
def scalar? (n : Nat) : Option Char :=
  if h : n.isValidChar then some (Char.ofNatAux n h) else none

/-- The character whose code point the first `count` digits give, and what follows them. -/
def readCodePoint (count : Nat) (text : List Char) : Option (Char × List Char) :=
  let (digits, rest) := Text.hexRun count text
  if digits.length = count then (scalar? (Text.hexNumber digits)).map (·, rest) else none

/-- The character that an escape stands for, and what follows it. -/
def readEscape : List Char → Option (Char × List Char)
  | [] => none
  | c :: rest =>
    match c with
    | 'b' => some ('\x08', rest)
    | 't' => some ('\t', rest)
    | 'n' => some ('\n', rest)
    | 'f' => some ('\x0c', rest)
    | 'r' => some ('\r', rest)
    | 'e' => some ('\x1b', rest)
    | 'x' => readCodePoint 2 rest
    | 'u' => readCodePoint 4 rest
    | 'U' => readCodePoint 8 rest
    | _ => if c = Text.quoteMark ∨ c = Text.escapeMark then some (c, rest) else none

structure QuotedForm where
  quote : Char
  hasEscapes : Bool
  spansLines : Bool

/-- What follows a backslash at the end of a line, up to the next character that is not blank. -/
def skipContinuation (text : List Char) : Option (List Char) :=
  (skipBreak (skipSpaces text)).map skipBlankLines

/-- How many quotes stand in a row at the start of a text. -/
def quoteRun (quote : Char) (text : List Char) : Nat :=
  (text.takeWhile (· == quote)).length

/-- Reads the rest of a quoted text, of which `done` was read, and what follows its end. The number
bounds the characters that are left. -/
def readQuotedRest (form : QuotedForm) :
    Nat → (done : List Char) → List Char → Option (String × List Char)
  | 0, _, _ => none
  | _ + 1, _, [] => none
  | n + 1, done, c :: rest =>
    if c = form.quote then
      if form.spansLines then
        let run := quoteRun form.quote (c :: rest)
        if run < 3 then readQuotedRest form n (done ++ [c]) rest
        else if 5 < run then none
        else
          some (String.ofList (done ++ List.replicate (run - 3) form.quote), (c :: rest).drop run)
      else some (String.ofList done, rest)
    else if form.hasEscapes ∧ c = Text.escapeMark then
      match readEscape rest with
      | some (d, rest) => readQuotedRest form n (done ++ [d]) rest
      | none =>
        if form.spansLines then
          match skipContinuation rest with
          | some rest => readQuotedRest form n done rest
          | none => none
        else none
    else if isTextChar c then readQuotedRest form n (done ++ [c]) rest
    else
      match form.spansLines, skipBreak (c :: rest) with
      | true, some after =>
        readQuotedRest form n (done ++ (c :: rest).take (rest.length + 1 - after.length)) after
      | _, _ => none

/-- Reads a quoted text from its opening quote on. -/
def readQuoted (allowLines : Bool) (text : List Char) : Option (String × List Char) :=
  match text with
  | [] => none
  | q :: rest =>
    if q = Text.quoteMark ∨ q = plainQuote then
      let hasEscapes := q == Text.quoteMark
      match rest with
      | q1 :: q2 :: inner =>
        if q1 = q ∧ q2 = q then
          if allowLines then
            let inner := (skipBreak inner).getD inner
            readQuotedRest { quote := q, hasEscapes, spansLines := true } (inner.length + 1) [] inner
          else none
        else
          readQuotedRest { quote := q, hasEscapes, spansLines := false } (rest.length + 1) [] rest
      | _ => readQuotedRest { quote := q, hasEscapes, spansLines := false } (rest.length + 1) [] rest
    else none

end SessionLayer.Toml
