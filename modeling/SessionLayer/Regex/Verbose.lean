import SessionLayer.Text.Blank

/-!
# Blanks and comments in regular expressions

Where the flag for verbose expressions is on, blanks do not count, and neither does a comment, which runs
from a number sign to the end of its line.
-/

set_option autoImplicit false

namespace SessionLayer.Regex

/-- What follows blanks and comments at the start of a text. -/
def dropFiller : (inComment : Bool) → List Char → List Char
  | _, [] => []
  | true, c :: rest => dropFiller (c != '\n') rest
  | false, c :: rest =>
    if Text.isBlank c then dropFiller false rest
    else if c = '#' then dropFiller true rest
    else c :: rest

/-- What follows whatever does not count at the start of a text. -/
def skipFiller (verbose : Bool) (text : List Char) : List Char :=
  if verbose then dropFiller false text else text

/-- The character that decides whether a hyphen makes a range. Blanks before it do not count, but of a
comment only the mark is left out. -/
def peekPastHyphen (verbose : Bool) (text : List Char) : Option Char :=
  if verbose then
    match text.dropWhile Text.isBlank with
    | '#' :: comment => (comment.dropWhile Text.isBlank).head?
    | rest => rest.head?
  else text.head?

end SessionLayer.Regex
