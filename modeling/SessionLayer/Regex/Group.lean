import SessionLayer.Regex.Flags
import SessionLayer.Regex.Verbose
import SessionLayer.Text.Alphanumeric

/-!
# The start of a group

After its parenthesis a group may have a question mark with a name or with flags. Flags without a group
set the mode for all that follows in the group around them. There is no looking ahead or behind.
-/

set_option autoImplicit false

namespace SessionLayer.Regex

inductive Opening where
  /-- A group, which may have a name or flags of its own. -/
  | group (name : Option (List Char)) (change : FlagChange)
  /-- Flags without a group. -/
  | flags (change : FlagChange)
  deriving DecidableEq, Repr

/-- Whether a name of a group may start with `c`. -/
def isNameStart (c : Char) : Bool :=
  c == '_' || Text.isAlphabetic c

/-- Whether `c` may stand in a name of a group, but for its start. -/
def isNameChar (c : Char) : Bool :=
  ['_', '.', '[', ']'].contains c || Text.isAlphanumeric c

/-- Reads a name from right after its angle bracket. -/
def readName (text : List Char) : Option (Opening × List Char) :=
  match text.takeWhile (· != '>'), text.dropWhile (· != '>') with
  | first :: name, '>' :: rest =>
    if isNameStart first ∧ name.all isNameChar then some (.group (some (first :: name)) [], rest)
    else none
  | _, _ => none

/-- Reads flags from right after their question mark. -/
def readGroupFlags (text : List Char) : Option (Opening × List Char) :=
  match readFlags true false [] text with
  | some (change, ':' :: rest) => some (.group none change, rest)
  | some (change, ')' :: rest) => if change.isEmpty then none else some (.flags change, rest)
  | _ => none

/-- Reads the start of a group from right after its parenthesis. -/
def readOpening (verbose : Bool) (text : List Char) : Option (Opening × List Char) :=
  match skipFiller verbose text with
  | '?' :: '=' :: _ | '?' :: '!' :: _ | '?' :: '<' :: '=' :: _ | '?' :: '<' :: '!' :: _ => none
  | '?' :: 'P' :: '<' :: name | '?' :: '<' :: name => readName name
  | '?' :: rest => readGroupFlags rest
  | rest => some (.group none [], rest)

end SessionLayer.Regex
