/-!
# Flags of regular expressions

A group may turn flags on, and others off after a minus. Of the seven flags three decide what an
expression may hold and how it is read: whether the case of letters counts, whether characters or bytes
are matched, and whether blanks and comments are left out.
-/

set_option autoImplicit false

namespace SessionLayer.Regex

inductive Flag where
  | ignoreCase
  | multiLine
  | dotMatchesBreak
  | swapGreed
  | unicode
  | carriageReturn
  | verbose
  deriving DecidableEq, Repr

def Flag.ofLetter? : Char → Option Flag
  | 'i' => some ignoreCase
  | 'm' => some multiLine
  | 's' => some dotMatchesBreak
  | 'U' => some swapGreed
  | 'u' => some unicode
  | 'R' => some carriageReturn
  | 'x' => some verbose
  | _ => none

/-- The flags that a group sets, each with its new state. -/
abbrev FlagChange := List (Flag × Bool)

def FlagChange.state (change : FlagChange) (flag : Flag) (before : Bool) : Bool :=
  (List.lookup flag change).getD before

/-- Reads flags up to the colon or the parenthesis that ends them, which stays. No flag is set twice, and
a flag follows the minus. -/
def readFlags (turnOn afterMinus : Bool) (done : FlagChange) :
    List Char → Option (FlagChange × List Char)
  | [] => none
  | c :: rest =>
    if c = ':' ∨ c = ')' then if afterMinus then none else some (done, c :: rest)
    else if c = '-' then if turnOn then readFlags false true done rest else none
    else
      match Flag.ofLetter? c with
      | none => none
      | some flag =>
        if (List.lookup flag done).isSome then none
        else readFlags turnOn false (done ++ [(flag, turnOn)]) rest

/-- The flags that decide what an expression may hold. -/
structure Mode where
  ignoresCase : Bool
  isUnicode : Bool
  deriving DecidableEq, Repr

/-- The mode at the start of an expression. -/
def Mode.initial : Mode := { ignoresCase := false, isUnicode := true }

def Mode.change (mode : Mode) (flags : FlagChange) : Mode where
  ignoresCase := flags.state .ignoreCase mode.ignoresCase
  isUnicode := flags.state .unicode mode.isUnicode

end SessionLayer.Regex
