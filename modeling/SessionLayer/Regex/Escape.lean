import SessionLayer.Regex.CharClass
import SessionLayer.Regex.Verbose
import SessionLayer.Text.Hex

/-!
# Escapes in regular expressions

After a backslash stands a mark that is to be taken literally, a letter for a character, a code point in
hexadecimal digits, or a letter for a place or a class. There are no references to groups and no
properties of characters.
-/

set_option autoImplicit false

namespace SessionLayer.Regex

/-- A part of an expression without parts of its own. -/
inductive Atom where
  | literal (l : Literal)
  | anyChar
  /-- The start or the end of the text or of a line. -/
  | anchor
  /-- The start or the end of a word, or a place that is neither. -/
  | wordBoundary
  /-- Digits, blanks or word characters. -/
  | letter (negated : Bool)
  deriving DecidableEq, Repr

/-- Whether an atom can be matched in a mode. -/
def Atom.isSupported (mode : Mode) : Atom → Bool
  | literal l => if mode.isUnicode then !mode.ignoresCase else !l.isByte || l.isAscii
  | anyChar => mode.isUnicode
  | anchor => true
  | wordBoundary => !mode.isUnicode
  | letter negated => !mode.isUnicode && !negated

def Atom.toClass? : Atom → Option CharClass
  | literal l => some (.literal l)
  | letter negated => some (.letter negated)
  | _ => none

/-- What a letter or an angle bracket after a backslash stands for. -/
def escapedAtom? : Char → Option Atom
  | 'a' => some (.literal (.ofChar '\x07'))
  | 'f' => some (.literal (.ofChar '\x0c'))
  | 't' => some (.literal (.ofChar '\t'))
  | 'n' => some (.literal (.ofChar '\n'))
  | 'r' => some (.literal (.ofChar '\r'))
  | 'v' => some (.literal (.ofChar '\x0b'))
  | 'A' | 'z' => some .anchor
  | 'b' | 'B' | '<' | '>' => some .wordBoundary
  | 'd' | 's' | 'w' => some (.letter false)
  | 'D' | 'S' | 'W' => some (.letter true)
  | _ => none

/-- How many hexadecimal digits follow a letter. -/
def codePointWidth? : Char → Option Nat
  | 'x' => some 2
  | 'u' => some 4
  | 'U' => some 8
  | _ => none

/-- Appends hexadecimal digits to a number, and what follows them. -/
def readCodePoint (verbose : Bool) :
    (count : Nat) → (n : Nat) → List Char → Option (Nat × List Char)
  | 0, n, text => some (n, text)
  | count + 1, n, text =>
    match skipFiller verbose text with
    | [] => none
    | c :: rest =>
      match Text.hexValue? c with
      | some d => readCodePoint verbose count (16 * n + d) rest
      | none => none

def readEscape (verbose : Bool) : List Char → Option (Atom × List Char)
  | [] => none
  | c :: rest =>
    match codePointWidth? c with
    | some width =>
      match readCodePoint verbose width 0 rest with
      | some (n, rest) =>
        if h : n.isValidChar then
          some (.literal { char := Char.ofNatAux n h, isByte := c == 'x' }, rest)
        else none
      | none => none
    | none =>
      match escapedAtom? c with
      | some atom => some (atom, rest)
      | none =>
        if c.isAlphanum ∨ 0x80 ≤ c.toNat then none
        else some (.literal (.ofChar c), rest)

end SessionLayer.Regex
