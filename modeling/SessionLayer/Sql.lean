/-!
# Statements with quoted parts

The statements that the library composes itself. A text that stands between quotes has each of those
quotes doubled inside of it; `readToken` is the reader's side of that rule.
-/

set_option autoImplicit false

namespace SessionLayer.Sql

/-- The quote around texts. -/
def singleQuote : Char := '\x27'

/-- The quote around names. -/
def doubleQuote : Char := '\x22'

/-- A text with every occurrence of the quote doubled. -/
def double (quote : Char) : List Char → List Char
  | [] => []
  | c :: rest => if c = quote then c :: c :: double quote rest else c :: double quote rest

/-- A text between quotes. -/
def enquote (quote : Char) (text : String) : String :=
  String.ofList (quote :: (double quote text.toList ++ [quote]))

/-- Reads a token from right after its opening quote: the text that it stands for and what follows the
closing quote, `none` if it is never closed. -/
def readToken (quote : Char) : List Char → Option (List Char × List Char)
  | [] => none
  | [c] => if c = quote then some ([], []) else none
  | c :: d :: rest =>
    if c = quote then
      if d = quote then (readToken quote rest).map fun (token, tail) => (quote :: token, tail)
      else some ([], d :: rest)
    else (readToken quote (d :: rest)).map fun (token, tail) => (c :: token, tail)

/-- A doubled text is read back, unless what follows it goes on with another quote. -/
theorem readToken_double {quote : Char} {rest : List Char} (h : rest.head? ≠ some quote)
    (text : List Char) :
    readToken quote (double quote text ++ quote :: rest) = some (text, rest) := by
  induction text with
  | nil =>
    cases rest with
    | nil => simp [double, readToken]
    | cons d rest =>
      have hd : d ≠ quote := by simpa using h
      simp [double, readToken, hd]
  | cons c text ih =>
    by_cases hc : c = quote
    · subst hc
      simp [double, readToken, ih]
    · have hne : ∃ d tail, double quote text ++ quote :: rest = d :: tail := by
        cases double quote text <;> simp
      obtain ⟨d, tail, hd⟩ := hne
      rw [hd] at ih
      simp [double, readToken, hc, hd, ih]

/-- Ends a transaction block and keeps its effects. -/
def commit : String := "COMMIT"

/-- Ends a transaction block and undoes its effects. -/
def rollback : String := "ROLLBACK"

/-- Asks the server to talk in another encoding. -/
def setClientEncoding (encoding : String) : String :=
  "SET client_encoding = " ++ enquote singleQuote encoding

def declareCursor (name query : String) : String :=
  "DECLARE " ++ enquote doubleQuote name ++ " CURSOR WITHOUT HOLD FOR " ++ query

/-- Creates a large object from a file of the server. -/
def importLargeObject (file : String) (newOid : Nat) : String :=
  "SELECT lo_import(" ++ enquote singleQuote file ++ ", " ++ toString newOid ++ ")"

def createLargeObject (newOid : Nat) : String :=
  "SELECT lo_create(" ++ toString newOid ++ ")"

def openLargeObject (oid : Nat) (flags : Int) : String :=
  "SELECT lo_open(" ++ toString oid ++ ", " ++ toString flags ++ ")"

end SessionLayer.Sql
