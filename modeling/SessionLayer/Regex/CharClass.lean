import SessionLayer.Regex.Flags

/-!
# Classes of characters

A class in brackets is a union of characters, ranges and other classes, and unions can be intersected
or taken away from one another. Without tables of letters and of their cases, a class in which the case
does not count may hold nothing, and the classes of digits, blanks and word characters exist for bytes
alone. A class of bytes may hold ASCII only, since the rest would be no text.
-/

set_option autoImplicit false

namespace SessionLayer.Regex

/-- A character of an expression, and whether it was written as a byte. -/
structure Literal where
  char : Char
  isByte : Bool
  deriving DecidableEq, Repr

/-- A character that stands for itself. -/
def Literal.ofChar (c : Char) : Literal := { char := c, isByte := false }

def Literal.isAscii (l : Literal) : Bool :=
  l.char.toNat < 0x80

inductive CharClass where
  | empty
  | literal (l : Literal)
  | range (first last : Literal)
  /-- Digits, blanks or word characters, named by a letter after a backslash. -/
  | letter (negated : Bool)
  /-- A class of ASCII characters that is named between colons. -/
  | named (negated : Bool)
  | bracketed (negated : Bool) (inner : CharClass)
  | union (members : List CharClass)
  /-- An intersection or a difference. -/
  | combination (left right : CharClass)

namespace CharClass

/-- The union of any number of classes, which is none of its own unless there are two. -/
def ofMembers : List CharClass → CharClass
  | [] => empty
  | [member] => member
  | members => union members

/-- The combination of a class with what stands before it. -/
def combine : (left : Option CharClass) → CharClass → CharClass
  | none, right => right
  | some left, right => combination left right

mutual

/-- How deep brackets, unions and combinations nest. -/
def depth : CharClass → Nat
  | empty | literal _ | range _ _ | letter _ | named _ => 0
  | bracketed _ inner => depth inner + 1
  | union members => depthOfAll members + 1
  | combination left right => max (depth left) (depth right) + 1

/-- How deep the deepest of some classes nests. -/
def depthOfAll : List CharClass → Nat
  | [] => 0
  | member :: rest => max (depth member) (depthOfAll rest)

end

mutual

/-- Whether a class can be matched in a mode. -/
def isSupported (mode : Mode) : CharClass → Bool
  | empty => true
  | literal l => if mode.isUnicode then !mode.ignoresCase else l.isAscii
  | range first last =>
    if mode.isUnicode then !mode.ignoresCase else first.isAscii && last.isAscii
  | letter negated => !mode.isUnicode && !negated
  | named negated => if mode.isUnicode then !mode.ignoresCase else !negated
  | bracketed negated inner => isSupported mode inner && (mode.isUnicode || !negated)
  | union members => areSupported mode members
  | combination left right => isSupported mode left && isSupported mode right

/-- Whether all of some classes can be matched in a mode. -/
def areSupported (mode : Mode) : List CharClass → Bool
  | [] => true
  | member :: rest => isSupported mode member && areSupported mode rest

end

end CharClass

end SessionLayer.Regex
