/-!
# Names of client encodings

Encodings are compared by a normal form of their names, in which hyphens and underscores are left out
and ASCII letters are in upper case.
-/

set_option autoImplicit false

namespace SessionLayer.Encoding

/-- Whether a character of a name is left out of the normal form. -/
def isSeparator (c : Char) : Bool :=
  c == '-' || c == '_'

/-- The normal form of a name. -/
def normalize (name : String) : String :=
  String.ofList ((name.toList.filter fun c => !isSeparator c).map Char.toUpper)

/-- A name with its ASCII letters in upper case. -/
def upper (name : String) : String :=
  String.ofList (name.toList.map Char.toUpper)

end SessionLayer.Encoding
