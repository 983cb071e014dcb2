import SessionLayer.LogFilter.Pattern
import SessionLayer.Text.Alphanumeric
import SessionLayer.Text.Blank
import SessionLayer.Text.Numeral
import SessionLayer.Text.Split

/-!
# Log filters

A filter is a list of directives with commas between them. A directive names a target, a span, or both,
and may end with a level: `target[span{field=value}]=level`. Here it is only decided whether a text
is a filter. Blanks around a directive do not count when its marks are looked for, but the places of the
marks do count from the start of the text with its blanks, so that blanks in front move the level and
the fields that are cut out.
-/

set_option autoImplicit false

namespace SessionLayer.LogFilter

/-- The text after as many bytes as given, where a character is cut out as a whole. -/
def dropBytes : (count : Nat) → List Char → List Char
  | _, [] => []
  | 0, text => text
  | count, c :: rest => dropBytes (count - c.utf8Size) rest

/-- The text before as many bytes as given. -/
def takeBytes : (count : Nat) → List Char → List Char
  | _, [] => []
  | 0, _ => []
  | count, c :: rest => c :: takeBytes (count - c.utf8Size) rest

def levelNames : List String :=
  ["error", "warn", "info", "debug", "trace", "off"]

/-- Whether a text is a level: nothing, a name in whatever case, or a number up to five. -/
def isLevel (text : List Char) : Bool :=
  text.isEmpty || levelNames.contains (String.ofList (text.map Char.toLower))
    || (Text.readUnsigned Text.maxUnsigned64 text).toOption.any (· ≤ 5)

/-- Whether a text is a field with an optional value. -/
def isField (text : List Char) : Bool :=
  match Text.splitAt '=' text with
  | _ :: value :: _ => isFieldValue value
  | _ => !text.isEmpty

/-- Where a directive is being read; the numbers are places of the text, in bytes. -/
inductive Place where
  | start
  | levelOrTarget
  | span
  | field (first : Nat)
  | afterFields
  | afterSpan
  | level (first : Nat)
  deriving DecidableEq, Repr

/-- The place after a character that stands at `here`, `none` if it may not stand there. -/
def Place.next (directive : List Char) (here : Nat) (c : Char) : Place → Option Place
  | .start =>
    if c = '[' then some .span
    else if c = '-' ∨ c = ':' ∨ c = '_' ∨ Text.isAlphanumeric c then some .levelOrTarget
    else none
  | .levelOrTarget =>
    some (if c = '=' then .level (here + 1) else if c = '[' then .span else .levelOrTarget)
  | .span =>
    some (if c = ']' then .afterSpan else if c = '\x7b' then .field (here + 1) else .span)
  | .field first =>
    if c = '\x7d' then
      if isField (takeBytes (here - first) (dropBytes first directive)) then some .afterFields
      else none
    else some (.field first)
  | .afterFields => if c = ']' then some .afterSpan else none
  | .afterSpan => if c = '=' then some (.level (here + 1)) else none
  | .level first => some (.level first)

def Place.isEnd (directive : List Char) : Place → Bool
  | .levelOrTarget | .afterSpan => true
  | .level first => isLevel (dropBytes first directive)
  | _ => false

/-- Whether a directive may go on with the given characters. -/
def readsFrom (directive : List Char) : (here : Nat) → Place → List Char → Bool
  | _, place, [] => place.isEnd directive
  | here, place, c :: rest =>
    match place.next directive here c with
    | some place => readsFrom directive (here + c.utf8Size) place rest
    | none => false

def isDirective (directive : List Char) : Bool :=
  readsFrom directive 0 .start (Text.trimChars directive)

/-- Whether a text is a filter; empty directives do not count. -/
def isFilter (text : String) : Bool :=
  ((Text.splitAt ',' text.toList).filter fun d => !d.isEmpty).all isDirective

end SessionLayer.LogFilter
