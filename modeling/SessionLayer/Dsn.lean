import SessionLayer.Uri

/-!
# Connection strings

A connection string is either a list of options, such as `host=db password=secret`, or a URI. What is
shown of it never holds the password: `redact` first masks what follows the first word `password`, up
to the next space, and then the password among the credentials of a URI.
-/

set_option autoImplicit false

namespace SessionLayer.Dsn

/-- What stands in for a character of a password. -/
def filler : Char := 'x'

/-- The name of the option that holds a password. -/
def passwordWord : List Char := "password".toList

/-- The text up to the end of the first occurrence of a word, and what follows it. -/
def cutAfter (word : List Char) : List Char → Option (List Char × List Char)
  | [] => none
  | c :: rest =>
    if word.isPrefixOf (c :: rest) then some (word, (c :: rest).drop word.length)
    else (cutAfter word rest).map fun (before, after) => (c :: before, after)

/-- A text whose characters before the first space are masked. -/
def maskUntilSpace (text : List Char) : List Char :=
  (text.takeWhile (· != ' ')).map (fun _ => filler) ++ text.dropWhile (· != ' ')

/-- Masks the value after the first word `password`; the character right after the word is kept. -/
def maskOption (text : List Char) : List Char :=
  match cutAfter passwordWord text with
  | none => text
  | some (before, []) => before
  | some (before, separator :: value) => before ++ separator :: maskUntilSpace value

def schemes : List String := ["postgres", "postgresql"]

/-- The scheme of a URI and what follows the two slashes. -/
def cutScheme (text : List Char) : Option (List Char × List Char) :=
  schemes.findSome? fun scheme =>
    let start := scheme.toList ++ [':', '/', '/']
    if start.isPrefixOf text then some (scheme.toList, text.drop start.length) else none

/-- A URI with a mask of the same length in place of its password. -/
def maskPassword (u : Uri) : Uri :=
  { u with password := u.password.map fun p => List.replicate p.length filler }

/-- Masks the password of a URI; anything else, and a URI without one, is left as it is. -/
def maskCredentials (text : List Char) : List Char :=
  match (cutScheme text).bind fun (scheme, rest) => Uri.parse? scheme rest with
  | some u => if u.password.isSome then (maskPassword u).render else text
  | none => text

/-- A connection string as it may be shown. -/
def redact (dsn : String) : String :=
  String.ofList (maskCredentials (maskOption dsn.toList))

end SessionLayer.Dsn
